import StyleRules.Proofs.Configuration.Conforming
import StyleRules.Proofs.Outcomes
import StyleRules.Proofs.Value.Ranking
import StyleRules.Proofs.Value.Reading

/-!
# What checks decide

The constraints of a schema are meant to be of certain types: bounds are numbers, a pattern can be read, and the
choices are texts.  Then the check of a value gives a list of errors, which is empty exactly if the value meets the
constraints.  There is one exception: whether an integer is an integer is asked of the nearest double, and the
largest integers have none.
-/

namespace StyleRules

/-- The first number is less than the second one; NaN is not, and nothing is less than NaN. -/
def Number.Below (x y : Number) : Prop := x.compare? y = some .lt

instance (x y : Number) : Decidable (x.Below y) := inferInstanceAs (Decidable (_ = _))

theorem Schema.ofEntries_eq_map (entries : List (Value × Value)) :
    Schema.ofEntries entries = entries.map fun entry => (entry.1, Schema.ofValue entry.2) := by
  induction entries with
  | nil => rfl
  | cons entry rest ih => rw [Schema.ofEntries, ih, List.map_cons]

namespace Validation

variable {validators : List (Value × Validator)} {schema : Schema} {kind v : Value}
  {constraints : List (Value × Value)} {items : Option Schema}
  {properties : Option (List (Value × Schema))} {holds : Prop}

/-- The check of a value gives a list of errors, empty or not. -/
def Checked (validators : List (Value × Validator)) (schema : Schema) (v : Value) : Prop :=
  ∃ texts, check validators schema v = .ok (errors texts)

/-- A list of errors is found, and it is empty exactly if the property holds. -/
def Decides (found : Outcome (List String)) (holds : Prop) : Prop :=
  ∃ texts, found = .ok texts ∧ (texts = [] ↔ holds)

theorem Decides.checked {found : Outcome (List String)} (decides : Decides found holds)
    (isCheck : check validators schema v = found.map errors) : Checked validators schema v := by
  obtain ⟨texts, rfl, _⟩ := decides
  exact ⟨texts, isCheck⟩

theorem Decides.conforms_iff {found : Outcome (List String)} (decides : Decides found holds)
    (isCheck : check validators schema v = found.map errors) : Conforms validators schema v ↔ holds := by
  obtain ⟨texts, rfl, isEmpty⟩ := decides
  rw [← isEmpty, ← errors_falsy_iff, Conforms, isCheck]
  constructor
  · rintro ⟨found, isFound, falsy⟩
    cases isFound
    exact falsy
  · exact fun falsy => ⟨errors texts, rfl, falsy⟩

theorem exists_joinTexts (separator : String) (names : List String) :
    ∃ text, Value.joinTexts separator (names.map .str) = .ok text := by
  refine (Value.joinTexts_ok_iff separator _).mpr fun item member => ?_
  obtain ⟨name, _, rfl⟩ := List.mem_map.mp member
  exact Value.isText_str name

/-! ## Bounds -/

/-- A bound is a number, if it is there. -/
def IsBound (bound : Value) : Prop := bound = .null ∨ ∃ y, bound.number? = some y

/-- The number is not below the one bound and not above the other one. -/
structure Within (least most : Value) (x : Number) : Prop where
  notBelow : ∀ bound, least.number? = some bound → ¬x.Below bound
  notAbove : ∀ bound, most.number? = some bound → ¬bound.Below x

theorem exists_beyond {bound : Value} {outcome : Outcome Bool} {beyond : Number → Prop} [DecidablePred beyond]
    (isBound : IsBound bound) (tested : ∀ y, bound.number? = some y → outcome = .ok (decide (beyond y))) :
    ∃ exceeded, (if bound.isNull then .ok false else outcome) = .ok exceeded ∧
      (exceeded = false ↔ ∀ y, bound.number? = some y → ¬beyond y) := by
  rcases isBound with rfl | ⟨y, isNumber⟩
  · exact ⟨false, rfl, by simp [Value.number?]⟩
  · have given : bound.isNull = false := by cases bound <;> first | rfl | cases isNumber
    rw [given, tested y isNumber]
    exact ⟨_, rfl, by simp [isNumber]⟩

/-- Both bounds can be looked at, and tell whether the number is within them. -/
theorem exists_bounds {least most : Value} {x : Number} (isLeast : IsBound least) (isMost : IsBound most)
    (isNumber : v.number? = some x) :
    ∃ small large, (if least.isNull then .ok false else v.less least) = .ok small ∧
      (if most.isNull then .ok false else most.less v) = .ok large ∧
        (small = false ∧ large = false ↔ Within least most x) := by
  obtain ⟨small, isSmall, notSmall⟩ := exists_beyond isLeast fun y isY => Value.less_of_number isNumber isY
  obtain ⟨large, isLarge, notLarge⟩ := exists_beyond isMost fun y isY => Value.less_of_number isY isNumber
  refine ⟨small, large, isSmall, isLarge, ?_⟩
  rw [notSmall, notLarge]
  exact ⟨fun both => ⟨both.1, both.2⟩, fun within => ⟨within.notBelow, within.notAbove⟩⟩

/-- A bound of a length that counts as true; other ones are overlooked. -/
def lengthBound (constraints : List (Value × Value)) (name : String) : Value :=
  (constraint constraints name).orElse .null

theorem isBound_lengthBound {name : String} (isBound : IsBound (constraint constraints name)) :
    IsBound (lengthBound constraints name) := by
  rw [lengthBound, Value.orElse]
  split
  · exact isBound
  · exact .inl rfl

theorem exceeds_eq (bound : Value) (test : Value → Outcome Bool) :
    exceeds bound test = if (bound.orElse .null).isNull then .ok false else test (bound.orElse .null) := by
  rw [exceeds, Value.orElse]
  cases truthy : bound.truthy with
  | false => rfl
  | true =>
      have given : bound.isNull = false := by cases bound <;> first | rfl | cases truthy
      simp [given]

/-- The bounds of a length, which are overlooked when they count as false. -/
structure LengthBounds (constraints : List (Value × Value)) (least most : String) : Prop where
  least : IsBound (constraint constraints least)
  most : IsBound (constraint constraints most)

theorem LengthBounds.exists_exceeds {least most : String} (bounds : LengthBounds constraints least most) (n : Nat) :
    ∃ short long, exceeds (constraint constraints least) (fun bound => (Value.int n).less bound) = .ok short ∧
      exceeds (constraint constraints most) (fun bound => bound.less (.int n)) = .ok long ∧
        (short = false ∧ long = false ↔
          Within (lengthBound constraints least) (lengthBound constraints most) (.int n)) := by
  rw [exceeds_eq, exceeds_eq]
  exact exists_bounds (isBound_lengthBound bounds.least) (isBound_lengthBound bounds.most) rfl

/-! ## Texts -/

/-- Constraints of texts. -/
structure TextConstraints (constraints : List (Value × Value)) : Prop where
  length : LengthBounds constraints "minLength" "maxLength"
  pattern : (constraint constraints "pattern").truthy = false ∨
    ∃ source tree, constraint constraints "pattern" = .str source ∧ Pattern.compile {} source = .ok tree
  choices : (constraint constraints "enum").truthy = false ∨
    ∃ names : List String, constraint constraints "enum" = .list (names.map .str)

/-- The value is a text that meets the constraints. -/
inductive MeetsText (constraints : List (Value × Value)) : Value → Prop
  | text {s : String}
      (length : Within (lengthBound constraints "minLength") (lengthBound constraints "maxLength") (.int s.length))
      (pattern : ∀ source tree, constraint constraints "pattern" = .str source → source ≠ "" →
        Pattern.compile {} source = .ok tree → tree.occurs s = true)
      (choice : (constraint constraints "enum").listed ≠ [] → .str s ∈ (constraint constraints "enum").listed) :
      MeetsText constraints (.str s)

theorem exists_unlike {pattern : Value} (s : String) (isPattern : pattern.truthy = false ∨
      ∃ source tree, pattern = .str source ∧ Pattern.compile {} source = .ok tree) :
    ∃ unlike, exceeds pattern (fun source => return !(← patternOccurs source s)) = .ok unlike ∧
      (unlike = false ↔ ∀ source tree, pattern = .str source → source ≠ "" →
        Pattern.compile {} source = .ok tree → tree.occurs s = true) := by
  by_cases truthy : pattern.truthy = true
  · obtain falsy | ⟨source, tree, rfl, compiled⟩ := isPattern
    · rw [falsy] at truthy
      cases truthy
    · have nonempty : source ≠ "" := by simpa [Value.truthy] using truthy
      refine ⟨!tree.occurs s, ?_, ?_⟩
      · rw [exceeds, if_pos truthy, patternOccurs, compiled]
        rfl
      · rw [Bool.not_eq_false']
        constructor
        · rintro occurs _ other ⟨⟩ _ isOther
          cases compiled.symm.trans isOther
          exact occurs
        · exact fun occurs => occurs source tree rfl nonempty compiled
  · refine ⟨false, by rw [exceeds, if_neg truthy], ?_⟩
    simp only [true_iff]
    rintro source tree rfl nonempty
    simp [Value.truthy, nonempty] at truthy

theorem exists_unknown {choices : Value} (s : String) (isChoices : choices.truthy = false ∨
      ∃ names : List String, choices = .list (names.map .str)) :
    ∃ unknown, exceeds choices (fun all => return !(← all.contains (.str s))) = .ok unknown ∧
      (unknown = false ↔ (choices.listed ≠ [] → .str s ∈ choices.listed)) ∧
        (unknown = true → ∃ all text, choices.iterate = .ok all ∧ Value.joinTexts ", " all = .ok text) := by
  by_cases truthy : choices.truthy = true
  · obtain falsy | ⟨names, rfl⟩ := isChoices
    · rw [falsy] at truthy
      cases truthy
    · obtain ⟨text, isText⟩ := exists_joinTexts ", " names
      have nonempty : names ≠ [] := by simpa [Value.truthy] using truthy
      have isKnown : (Value.list (names.map .str)).contains (.str s) = .ok (decide (s ∈ names)) := by
        rw [Value.contains, List.any_map]
        congr 1
        rw [Bool.eq_iff_iff]
        simp
      refine ⟨!decide (s ∈ names), ?_, ?_, fun _ => ⟨_, text, rfl, isText⟩⟩
      · rw [exceeds, if_pos truthy, isKnown]
        rfl
      · simp [Value.listed, nonempty]
  · refine ⟨false, by rw [exceeds, if_neg truthy], ?_, by simp⟩
    simp [Value.listed_of_falsy (Bool.eq_false_iff.mpr truthy)]

theorem decides_text (typed : TextConstraints constraints) (v : Value) :
    Decides (checkText constraints v) (MeetsText constraints v) := by
  cases v with
  | str s =>
      obtain ⟨short, long, isShort, isLong, within⟩ := typed.length.exists_exceeds s.length
      obtain ⟨unlike, isUnlike, occurs⟩ := exists_unlike s typed.pattern
      obtain ⟨unknown, isUnknown, chosen, exists_names⟩ := exists_unknown s typed.choices
      have isEmpty (first second third fourth : String) :
          errorIf short first ++ errorIf long second ++ errorIf unlike third ++ errorIf unknown fourth = [] ↔
            MeetsText constraints (.str s) := by
        rw [List.append_eq_nil_iff, List.append_eq_nil_iff, List.append_eq_nil_iff, errorIf_eq_nil_iff,
          errorIf_eq_nil_iff, errorIf_eq_nil_iff, errorIf_eq_nil_iff, within, occurs, chosen]
        constructor
        · rintro ⟨⟨length, pattern⟩, choice⟩
          exact .text length pattern choice
        · rintro ⟨length, pattern, choice⟩
          exact ⟨⟨length, pattern⟩, choice⟩
      rw [checkText]
      dsimp only
      rw [isShort, Outcome.ok_bind, isLong, Outcome.ok_bind, isUnlike, Outcome.ok_bind, isUnknown, Outcome.ok_bind]
      cases unknown with
      | false => exact ⟨_, rfl, isEmpty _ _ _ _⟩
      | true =>
          obtain ⟨all, names, isAll, isNames⟩ := exists_names rfl
          rw [if_pos rfl, isAll, Outcome.ok_bind, isNames, Outcome.ok_bind]
          exact ⟨_, rfl, isEmpty _ _ _ _⟩
  | _ => exact ⟨_, rfl, iff_of_false (List.cons_ne_nil _ _) (by rintro ⟨⟩)⟩

/-! ## Numbers -/

structure NumberConstraints (constraints : List (Value × Value)) : Prop where
  least : IsBound (constraint constraints "min")
  most : IsBound (constraint constraints "max")

/-- The integer that the value is, if it is one, has a nearest double. -/
def Fits (v : Value) : Prop := ∀ n, v = .int n → Decimal.fitsFloat n = true

/-- The value is a number that meets the constraints. -/
inductive MeetsNumber (constraints : List (Value × Value)) : Value → Prop
  | int {n : Int} (within : Within (constraint constraints "min") (constraint constraints "max") (.int n)) :
      MeetsNumber constraints (.int n)
  | float {x : Float} (isNumber : x.isNaN = false)
      (within : Within (constraint constraints "min") (constraint constraints "max") (.float x))
      (whole : (constraint constraints "integer").truthy = true → Decimal.isInteger x = true) :
      MeetsNumber constraints (.float x)

theorem decides_number (typed : NumberConstraints constraints) (fits : Fits v) :
    Decides (checkNumber constraints v) (MeetsNumber constraints v) := by
  have decided {x : Number} {whole : Bool} (isNumber : isNumber v = true) (hasNumber : v.number? = some x)
      (isWhole : isInteger v = .ok whole) :
      Decides (checkNumber constraints v)
        (Within (constraint constraints "min") (constraint constraints "max") x ∧
          ((constraint constraints "integer").truthy = true → whole = true)) := by
    obtain ⟨small, large, isSmall, isLarge, within⟩ := exists_bounds typed.least typed.most hasNumber
    rw [checkNumber, if_pos isNumber]
    dsimp only
    rw [Outcome.bind_of_ite isSmall, Outcome.bind_of_ite isLarge, isWhole, ← within]
    cases (constraint constraints "integer").truthy with
    | false =>
        refine ⟨_, rfl, ?_⟩
        simp [errorIf_eq_nil_iff]
    | true =>
        refine ⟨_, rfl, ?_⟩
        simp [errorIf_eq_nil_iff, and_assoc]
  cases v with
  | int n =>
      obtain ⟨texts, isFound, isEmpty⟩ := decided rfl rfl (by rw [isInteger, if_pos (fits n rfl)])
      refine ⟨texts, isFound, isEmpty.trans ⟨fun meets => .int meets.1, ?_⟩⟩
      intro meets
      cases meets with
      | int within => exact ⟨within, fun _ => rfl⟩
  | float x =>
      cases isNaN : x.isNaN with
      | true =>
          have notNumber : isNumber (.float x) = false := congrArg (!·) isNaN
          rw [checkNumber, notNumber]
          refine ⟨_, rfl, iff_of_false (List.cons_ne_nil _ _) ?_⟩
          intro meets
          cases meets with
          | float isNumber _ _ => cases isNaN.symm.trans isNumber
      | false =>
          obtain ⟨texts, isFound, isEmpty⟩ := decided (congrArg (!·) isNaN) rfl rfl
          refine ⟨texts, isFound, isEmpty.trans ⟨fun meets => .float isNaN meets.1 meets.2, ?_⟩⟩
          intro meets
          cases meets with
          | float _ within whole => exact ⟨within, whole⟩
  | _ => exact ⟨_, rfl, iff_of_false (List.cons_ne_nil _ _) (by rintro ⟨⟩)⟩

theorem decides_truth (v : Value) : Decides (.ok (checkTruth v)) (∃ b, v = .bool b) := by
  cases v with
  | bool b => exact ⟨_, rfl, iff_of_true rfl ⟨b, rfl⟩⟩
  | _ => exact ⟨_, rfl, iff_of_false (List.cons_ne_nil _ _) (by simp)⟩

/-! ## Lists -/

theorem decides_nested (label : String) (texts : List String) :
    Decides (nested label (errors texts)) (texts = []) := by
  rw [nested]
  cases texts with
  | nil => exact ⟨[], rfl, iff_of_true rfl rfl⟩
  | cons text rest =>
      obtain ⟨joined, isJoined⟩ := exists_joinTexts ", " (text :: rest)
      rw [if_pos (by simp [errors, Value.truthy]), errors, Value.iterate, Outcome.ok_bind, isJoined]
      exact ⟨_, rfl, iff_of_false (List.cons_ne_nil _ _) (List.cons_ne_nil _ _)⟩

/-- The errors of a part decide whether the part conforms. -/
theorem Checked.decides_nested (checked : Checked validators schema v) (label : String) :
    Decides (do nested label (← check validators schema v)) (Conforms validators schema v) := by
  obtain ⟨texts, isChecked⟩ := checked
  obtain ⟨found, isFound, isEmpty⟩ := Validation.decides_nested label texts
  refine ⟨found, ?_, isEmpty.trans ?_⟩
  · rw [isChecked]
    exact isFound
  · rw [Conforms, isChecked, ← errors_falsy_iff]
    simp

theorem Decides.append {first second : Outcome (List String)} {further : Prop} (decides : Decides first holds)
    (decidesFurther : Decides second further) :
    Decides (do let found ← first; return found ++ (← second)) (holds ∧ further) := by
  obtain ⟨texts, rfl, isEmpty⟩ := decides
  obtain ⟨others, rfl, othersEmpty⟩ := decidesFurther
  exact ⟨texts ++ others, rfl, by rw [List.append_eq_nil_iff, isEmpty, othersEmpty]⟩

theorem decides_items {values : List Value} (position : Nat)
    (checked : ∀ item ∈ values, Checked validators schema item) :
    Decides (itemErrors (check validators schema) position values)
      (∀ item ∈ values, Conforms validators schema item) := by
  induction values generalizing position with
  | nil => exact ⟨[], rfl, iff_of_true rfl (List.forall_mem_nil _)⟩
  | cons item rest ih =>
      obtain ⟨first, others⟩ := List.forall_mem_cons.mp checked
      have decided := (first.decides_nested s!"Item {position}").append (ih (position + 1) others)
      rw [bind_assoc] at decided
      rw [List.forall_mem_cons, itemErrors]
      exact decided

theorem decides_list (bounds : LengthBounds constraints "minItems" "maxItems")
    (checked : ∀ schema, items = some schema → ∀ values, v = .list values →
      ∀ item ∈ values, Checked validators schema item) :
    Decides (checkList constraints (checkItem validators items) v)
      (∃ values, v = .list values ∧
        Within (lengthBound constraints "minItems") (lengthBound constraints "maxItems") (.int values.length) ∧
          ∀ schema, items = some schema → ∀ item ∈ values, Conforms validators schema item) := by
  cases v with
  | list values =>
      obtain ⟨short, long, isShort, isLong, within⟩ := bounds.exists_exceeds values.length
      rw [checkList]
      dsimp only
      rw [isShort, Outcome.ok_bind, isLong, Outcome.ok_bind]
      cases items with
      | none =>
          refine ⟨_, rfl, ?_⟩
          simp [errorIf_eq_nil_iff, within]
      | some schema =>
          obtain ⟨texts, isFound, isEmpty⟩ := decides_items 0 (checked schema rfl values rfl)
          rw [checkItem]
          dsimp only
          rw [isFound]
          refine ⟨_, rfl, ?_⟩
          simp [errorIf_eq_nil_iff, ← within, isEmpty, and_assoc]
  | _ => exact ⟨_, rfl, iff_of_false (List.cons_ne_nil _ _) (by simp)⟩

/-! ## Mappings -/

theorem decides_properties {table : List (Value × Schema)} {entries : List (Value × Value)}
    (checked : ∀ property ∈ table, ∀ value, Mapping.find? property.1 entries = some value →
      Checked validators property.2 value) :
    Decides (checkProperties validators table entries)
      (∀ property ∈ table, ∀ value, Mapping.find? property.1 entries = some value →
        Conforms validators property.2 value) := by
  induction table with
  | nil => exact ⟨[], by rw [checkProperties], iff_of_true rfl (List.forall_mem_nil _)⟩
  | cons property rest ih =>
      obtain ⟨key, schema⟩ := property
      obtain ⟨first, others⟩ := List.forall_mem_cons.mp checked
      have decided : Decides (propertyErrors validators key schema entries)
          (∀ value, Mapping.find? key entries = some value → Conforms validators schema value) := by
        rw [propertyErrors]
        cases found : Mapping.find? key entries with
        | none => exact ⟨[], rfl, iff_of_true rfl (by simp)⟩
        | some value =>
            obtain ⟨texts, isFound, isEmpty⟩ := (first value found).decides_nested s!"Property {key.text}"
            exact ⟨texts, isFound, by simpa using isEmpty⟩
      rw [checkProperties_cons, List.forall_mem_cons]
      exact decided.append (ih others)

theorem decides_missing {entries : List (Value × Value)} {names : List Value}
    (keys : ∀ name ∈ names, name.isKey = true) :
    Decides (missingKeys entries names) (∀ name ∈ names, Mapping.has name entries = true) := by
  induction names with
  | nil => exact ⟨[], rfl, iff_of_true rfl (List.forall_mem_nil _)⟩
  | cons name rest ih =>
      obtain ⟨isKey, others⟩ := List.forall_mem_cons.mp keys
      obtain ⟨texts, isFound, isEmpty⟩ := ih others
      rw [missingKeys, Value.contains, if_pos isKey, Outcome.ok_bind, isFound, Outcome.ok_bind]
      refine ⟨_, rfl, ?_⟩
      rw [List.append_eq_nil_iff, errorIf_eq_nil_iff, isEmpty, List.forall_mem_cons, Bool.not_eq_false']

theorem unexpectedKeys_eq_nil_iff {α : Type} {table : List (Value × α)} {entries : List (Value × Value)} :
    unexpectedKeys (table.map (·.1)) entries = [] ↔ ∀ key ∈ Mapping.keys entries, Mapping.has key table = true := by
  simp only [unexpectedKeys, List.map_eq_nil_iff, List.filter_eq_nil_iff, Mapping.keys, List.forall_mem_map,
    Bool.not_eq_true', Bool.not_eq_false, Mapping.has_eq_any]

/-- Constraints of mappings: the required keys are a list, if they are there. -/
def MappingConstraints (constraints : List (Value × Value)) : Prop :=
  (constraint constraints "required").truthy = false ∨
    ∃ names, constraint constraints "required" = .list names ∧ ∀ name ∈ names, name.isKey = true

/-- A mapping has the required keys, and where further keys are forbidden no others than those of a table. -/
structure MeetsKeys {α : Type} (constraints : List (Value × Value)) (table : List (Value × α))
    (entries : List (Value × Value)) : Prop where
  required : ∀ name ∈ (constraint constraints "required").listed, Mapping.has name entries = true
  closed : constraint constraints "additionalProperties" = .bool false →
    ∀ key ∈ Mapping.keys entries, Mapping.has key table = true

theorem closed_eq_nil_iff {additional : Value} {unexpected : List String} (isEmpty : unexpected = [] ↔ holds) :
    (if (match additional with | .bool false => true | _ => false) = true then unexpected else []) = [] ↔
      (additional = .bool false → holds) := by
  by_cases isClosed : additional = .bool false
  · subst isClosed
    simpa using isEmpty
  · simp [isClosed]

theorem decides_mapping {table : List (Value × Schema)} (typed : MappingConstraints constraints)
    (checked : ∀ entries, v = .map entries → ∀ property ∈ table, ∀ value,
      Mapping.find? property.1 entries = some value → Checked validators property.2 value) :
    Decides (checkMapping constraints (checkTable validators (some table)) v)
      (∃ entries, v = .map entries ∧ MeetsKeys constraints table entries ∧
        ∀ property ∈ table, ∀ value, Mapping.find? property.1 entries = some value →
          Conforms validators property.2 value) := by
  cases v with
  | map entries =>
      obtain ⟨found, isFound, conform⟩ := decides_properties (checked entries rfl)
      have isEmpty {missing unexpected : List String}
          (required : missing = [] ↔
            ∀ name ∈ (constraint constraints "required").listed, Mapping.has name entries = true)
          (closed : unexpected = [] ↔ (constraint constraints "additionalProperties" = .bool false →
            ∀ key ∈ Mapping.keys entries, Mapping.has key table = true)) :
          missing ++ found ++ unexpected = [] ↔ ∃ fields, Value.map entries = .map fields ∧
            MeetsKeys constraints table fields ∧ ∀ property ∈ table, ∀ value,
              Mapping.find? property.1 fields = some value → Conforms validators property.2 value := by
        rw [List.append_eq_nil_iff, List.append_eq_nil_iff, required, conform, closed]
        constructor
        · rintro ⟨⟨required, conform⟩, closed⟩
          exact ⟨entries, rfl, ⟨required, closed⟩, conform⟩
        · rintro ⟨_, ⟨⟩, ⟨required, closed⟩, conform⟩
          exact ⟨⟨required, conform⟩, closed⟩
      rw [checkTable, checkMapping]
      dsimp only
      cases given : (constraint constraints "required").truthy with
      | false =>
          rw [if_neg Bool.false_ne_true, Outcome.ok_bind, isFound]
          refine ⟨_, rfl, isEmpty ?_ (closed_eq_nil_iff unexpectedKeys_eq_nil_iff)⟩
          simp [Value.listed_of_falsy given]
      | true =>
          obtain ⟨names, isList, keys⟩ := typed.resolve_left (by simp [given])
          obtain ⟨missing, isMissing, noMissing⟩ := decides_missing keys
          rw [isList] at isEmpty ⊢
          rw [if_pos rfl, Value.iterate, Outcome.ok_bind, isMissing, Outcome.ok_bind, isFound]
          exact ⟨_, rfl, isEmpty noMissing (closed_eq_nil_iff unexpectedKeys_eq_nil_iff)⟩
  | _ => exact ⟨_, rfl, iff_of_false (List.cons_ne_nil _ _) (by simp)⟩

end Validation

end StyleRules
