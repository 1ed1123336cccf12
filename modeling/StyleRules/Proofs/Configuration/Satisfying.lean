import StyleRules.Proofs.Configuration.Deciding

/-!
# Values that meet a schema

What it means for a value to meet a written schema is said here without any check, along the schema and the value
at once.  Checking a value against a schema whose constraints are well typed gives a list of errors, and this list
is empty exactly if the value meets the schema: errors of parts are neither swallowed nor made up on the way.
-/

namespace StyleRules

namespace Validation

variable {validators : List (Value × Validator)} {schema v : Value} {constraints : List (Value × Value)}

/-! ## Written schemas -/

/-- The kind that a written schema names. -/
def kindOf : Value → Value
  | .map constraints => constraint constraints "type"
  | _ => .null

/-- The properties of a table of schemas; other values have none. -/
def tableOf : Value → List (Value × Value)
  | .map table => table
  | _ => []

theorem kindOf_of_falsy (falsy : schema.truthy = false) : (kindOf schema).truthy = false := by
  cases schema with
  | map entries =>
      obtain rfl : entries = [] := by simpa [Value.truthy] using falsy
      rfl
  | _ => rfl

/-- A value meets a written schema: one that names no kind, or one of the five kinds with its constraints.  No value
meets a schema of another kind. -/
inductive Meets : Value → Value → Prop
  | free {schema v : Value} (noKind : (kindOf schema).truthy = false) : Meets schema v
  | text {constraints : List (Value × Value)} {v : Value}
      (isKind : constraint constraints "type" = .str "string") (meets : MeetsText constraints v) :
      Meets (.map constraints) v
  | number {constraints : List (Value × Value)} {v : Value}
      (isKind : constraint constraints "type" = .str "number") (meets : MeetsNumber constraints v) :
      Meets (.map constraints) v
  | truth {constraints : List (Value × Value)}
      (isKind : constraint constraints "type" = .str "boolean") (b : Bool) : Meets (.map constraints) (.bool b)
  | list {constraints : List (Value × Value)} {items : List Value}
      (isKind : constraint constraints "type" = .str "array")
      (length : Within (lengthBound constraints "minItems") (lengthBound constraints "maxItems")
        (.int items.length))
      (each : ∀ item ∈ items, Meets (constraint constraints "itemSchema") item) :
      Meets (.map constraints) (.list items)
  | mapping {constraints entries : List (Value × Value)} (isKind : constraint constraints "type" = .str "object")
      (keys : MeetsKeys constraints (tableOf (constraint constraints "properties")) entries)
      (each : ∀ property ∈ tableOf (constraint constraints "properties"), ∀ value,
        Mapping.find? property.1 entries = some value → Meets property.2 value) :
      Meets (.map constraints) (.map entries)

/-- The constraints of a written schema are well typed, down to the schemas of items and properties. -/
inductive WellTyped (validators : List (Value × Validator)) : Value → Prop
  | free {schema : Value} (isSchema : schema.isMapping = true ∨ schema.truthy = false)
      (noKind : (kindOf schema).truthy = false) : WellTyped validators schema
  | text {constraints : List (Value × Value)} (isKind : constraint constraints "type" = .str "string")
      (typed : TextConstraints constraints) : WellTyped validators (.map constraints)
  | number {constraints : List (Value × Value)} (isKind : constraint constraints "type" = .str "number")
      (typed : NumberConstraints constraints) : WellTyped validators (.map constraints)
  | truth {constraints : List (Value × Value)} (isKind : constraint constraints "type" = .str "boolean") :
      WellTyped validators (.map constraints)
  | list {constraints : List (Value × Value)} (isKind : constraint constraints "type" = .str "array")
      (bounds : LengthBounds constraints "minItems" "maxItems")
      (items : WellTyped validators (constraint constraints "itemSchema")) : WellTyped validators (.map constraints)
  | mapping {constraints : List (Value × Value)} (isKind : constraint constraints "type" = .str "object")
      (typed : MappingConstraints constraints)
      (isTable : (constraint constraints "properties").isMapping = true ∨
        (constraint constraints "properties").truthy = false)
      (each : ∀ property ∈ tableOf (constraint constraints "properties"), WellTyped validators property.2) :
      WellTyped validators (.map constraints)
  | unknown {constraints : List (Value × Value)} (named : (constraint constraints "type").truthy = true)
      (isKey : (constraint constraints "type").isKey = true)
      (unknown : Mapping.find? (constraint constraints "type") validators = none) :
      WellTyped validators (.map constraints)

/-- Every integer in a value has a nearest double. -/
inductive InRange : Value → Prop
  | int {n : Int} (fits : Decimal.fitsFloat n = true) : InRange (.int n)
  | list {items : List Value} (each : ∀ item ∈ items, InRange item) : InRange (.list items)
  | map {entries : List (Value × Value)} (each : ∀ entry ∈ entries, InRange entry.2) : InRange (.map entries)
  | leaf {v : Value} (notInt : ∀ n, v ≠ .int n) (notList : ∀ items, v ≠ .list items)
      (notMap : ∀ entries, v ≠ .map entries) : InRange v

theorem InRange.fits (inRange : InRange v) : Fits v := by
  rintro n rfl
  cases inRange with
  | int fits => exact fits
  | leaf notInt _ _ => exact absurd rfl (notInt n)

theorem InRange.item {items : List Value} (inRange : InRange (.list items)) : ∀ item ∈ items, InRange item := by
  cases inRange with
  | list each => exact each
  | leaf _ notList _ => exact absurd rfl (notList items)

theorem InRange.value {entries : List (Value × Value)} {key : Value} (inRange : InRange (.map entries))
    (found : Mapping.find? key entries = some v) : InRange v := by
  obtain ⟨known, member⟩ := Mapping.mem_of_find? found
  cases inRange with
  | map each => exact each _ member
  | leaf _ _ notMap => exact absurd rfl (notMap entries)

/-! ## Reading schemas -/

theorem ofValue_free (isSchema : schema.isMapping = true ∨ schema.truthy = false)
    (noKind : (kindOf schema).truthy = false) : Schema.ofValue schema = .free := by
  cases schema with
  | map constraints =>
      rw [Schema.ofValue]
      exact if_neg (Bool.eq_false_iff.mp noKind)
  | _ =>
      rw [Schema.ofValue]
      · simp_all [Value.isMapping]
      · simp

theorem ofValue_typed (named : (constraint constraints "type").truthy = true) :
    Schema.ofValue (.map constraints) = .typed (constraint constraints "type") constraints
      (Schema.itemsOf constraints) (Schema.propertiesOf constraints) := by
  rw [Schema.ofValue]
  exact if_pos named

theorem constraint_cons (key value : Value) (rest : List (Value × Value)) (name : String) :
    constraint ((key, value) :: rest) name = if key.isText name then value else constraint rest name := by
  rw [constraint, Mapping.get?, Mapping.find?_cons_str]
  have same : key.eq (.str name) = key.isText name := by
    rw [Bool.eq_iff_iff, Value.eq_str_iff]
    cases key <;> simp [Value.isText]
  rw [same]
  cases key.isText name <;> rfl

theorem itemsOf_eq (constraints : List (Value × Value)) :
    Schema.itemsOf constraints =
      if (constraint constraints "itemSchema").truthy then
        some (Schema.ofValue (constraint constraints "itemSchema"))
      else none := by
  induction constraints with
  | nil => rfl
  | cons entry rest ih =>
      obtain ⟨key, value⟩ := entry
      rw [Schema.itemsOf, ih, constraint_cons]
      split <;> rfl

theorem propertiesOf_eq (constraints : List (Value × Value)) :
    Schema.propertiesOf constraints = Schema.propertyTable (constraint constraints "properties") := by
  induction constraints with
  | nil => rfl
  | cons entry rest ih =>
      obtain ⟨key, value⟩ := entry
      rw [Schema.propertiesOf, ih, constraint_cons]
      split <;> rfl

theorem propertyTable_eq {table : Value} (isTable : table.isMapping = true ∨ table.truthy = false) :
    Schema.propertyTable table = some ((tableOf table).map fun entry => (entry.1, Schema.ofValue entry.2)) := by
  cases table with
  | map entries => rw [Schema.propertyTable, Schema.ofEntries_eq_map, tableOf]
  | _ =>
      rw [Schema.propertyTable]
      · simp_all [Value.isMapping, tableOf]
      · simp

theorem meetsKeys_map {α β : Type} (change : α → β) (table : List (Value × α)) (entries : List (Value × Value)) :
    MeetsKeys constraints (table.map fun entry => (entry.1, change entry.2)) entries ↔
      MeetsKeys constraints table entries := by
  have sameKeys (key : Value) :
      Mapping.has key (table.map fun entry => (entry.1, change entry.2)) = Mapping.has key table := by
    simp only [Mapping.has_eq_any, Mapping.keys, List.map_map]
    rfl
  constructor <;> rintro ⟨required, closed⟩
  · exact ⟨required, fun isClosed key member => (sameKeys key).symm.trans (closed isClosed key member)⟩
  · exact ⟨required, fun isClosed key member => (sameKeys key).trans (closed isClosed key member)⟩

/-! ## Kinds -/

/-- The five basic kinds are known under their names. -/
structure HasBasics (validators : List (Value × Validator)) : Prop where
  text : validatorOf validators (.str "string") = .ok (some (.basic .text))
  number : validatorOf validators (.str "number") = .ok (some (.basic .number))
  truth : validatorOf validators (.str "boolean") = .ok (some (.basic .truth))
  list : validatorOf validators (.str "array") = .ok (some (.basic .list))
  mapping : validatorOf validators (.str "object") = .ok (some (.basic .mapping))

/-- Checking the value gives a list of errors, and it is empty exactly if the value meets the schema. -/
def Settles (validators : List (Value × Validator)) (schema v : Value) : Prop :=
  Checked validators (Schema.ofValue schema) v ∧ (Conforms validators (Schema.ofValue schema) v ↔ Meets schema v)

theorem settles_free (isSchema : schema.isMapping = true ∨ schema.truthy = false)
    (noKind : (kindOf schema).truthy = false) : Settles validators schema v := by
  rw [Settles, ofValue_free isSchema noKind]
  exact ⟨⟨[], rfl⟩, iff_of_true ⟨_, rfl, rfl⟩ (.free noKind)⟩

theorem settles_of_decides {name : String} {holds : Prop} {found : Outcome (List String)}
    (isKind : constraint constraints "type" = .str name) (given : name ≠ "")
    (isCheck : check validators (.typed (.str name) constraints (Schema.itemsOf constraints)
      (Schema.propertiesOf constraints)) v = found.map errors)
    (decides : Decides found holds) (meets : holds ↔ Meets (.map constraints) v) :
    Settles validators (.map constraints) v := by
  have named : (constraint constraints "type").truthy = true := by simp [isKind, Value.truthy, given]
  rw [Settles, ofValue_typed named, isKind]
  exact ⟨decides.checked isCheck, (decides.conforms_iff isCheck).trans meets⟩

theorem settles_text (basics : HasBasics validators) (isKind : constraint constraints "type" = .str "string")
    (typed : TextConstraints constraints) : Settles validators (.map constraints) v := by
  apply settles_of_decides isKind (by decide) (check_text basics.text) (decides_text typed v)
  constructor
  · exact .text isKind
  · intro meets
    cases meets <;> simp_all [kindOf, Value.truthy]

theorem settles_number (basics : HasBasics validators) (isKind : constraint constraints "type" = .str "number")
    (typed : NumberConstraints constraints) (fits : Fits v) : Settles validators (.map constraints) v := by
  apply settles_of_decides isKind (by decide) (check_number basics.number) (decides_number typed fits)
  constructor
  · exact .number isKind
  · intro meets
    cases meets <;> simp_all [kindOf, Value.truthy]

theorem settles_truth (basics : HasBasics validators) (isKind : constraint constraints "type" = .str "boolean") :
    Settles validators (.map constraints) v := by
  apply settles_of_decides isKind (by decide) (check_truth basics.truth) (decides_truth v)
  constructor
  · rintro ⟨b, rfl⟩
    exact .truth isKind b
  · intro meets
    cases meets <;> simp_all [kindOf, Value.truthy]

theorem settles_list (basics : HasBasics validators) (isKind : constraint constraints "type" = .str "array")
    (bounds : LengthBounds constraints "minItems" "maxItems")
    (each : ∀ items, v = .list items →
      ∀ item ∈ items, Settles validators (constraint constraints "itemSchema") item) :
    Settles validators (.map constraints) v := by
  have isItem {schema : Schema} (isSchema : Schema.itemsOf constraints = some schema) :
      schema = Schema.ofValue (constraint constraints "itemSchema") := by
    rw [itemsOf_eq] at isSchema
    split at isSchema
    · exact (Option.some.inj isSchema).symm
    · cases isSchema
  apply settles_of_decides isKind (by decide) (check_list basics.list)
  · apply decides_list bounds
    rintro schema isSchema items isItems item member
    rw [isItem isSchema]
    exact (each items isItems item member).1
  · constructor
    · rintro ⟨items, rfl, length, conform⟩
      refine .list isKind length fun item member => ?_
      rw [itemsOf_eq] at conform
      by_cases given : (constraint constraints "itemSchema").truthy = true
      · exact (each items rfl item member).2.mp (conform _ (if_pos given) item member)
      · exact .free (kindOf_of_falsy (Bool.eq_false_iff.mpr given))
    · intro meets
      cases meets with
      | list _ length meet =>
          refine ⟨_, rfl, length, fun schema isSchema item member => ?_⟩
          rw [isItem isSchema]
          exact (each _ rfl item member).2.mpr (meet item member)
      | _ => simp_all [kindOf, Value.truthy]

theorem settles_mapping (basics : HasBasics validators) (isKind : constraint constraints "type" = .str "object")
    (typed : MappingConstraints constraints)
    (isTable : (constraint constraints "properties").isMapping = true ∨
      (constraint constraints "properties").truthy = false)
    (each : ∀ entries, v = .map entries → ∀ property ∈ tableOf (constraint constraints "properties"),
      ∀ value, Mapping.find? property.1 entries = some value → Settles validators property.2 value) :
    Settles validators (.map constraints) v := by
  have isTable := (propertiesOf_eq constraints).trans (propertyTable_eq isTable)
  apply settles_of_decides isKind (by decide) (check_mapping basics.mapping)
  · rw [isTable]
    apply decides_mapping typed
    intro entries isMap property member value found
    obtain ⟨written, among, rfl⟩ := List.mem_map.mp member
    exact (each entries isMap written among value found).1
  · simp only [meetsKeys_map, List.forall_mem_map]
    constructor
    · rintro ⟨entries, rfl, keys, conform⟩
      refine .mapping isKind keys fun property member value found => ?_
      exact (each entries rfl property member value found).2.mp (conform property member value found)
    · intro meets
      cases meets with
      | mapping _ keys meet =>
          refine ⟨_, rfl, keys, fun property member value found => ?_⟩
          exact (each _ rfl property member value found).2.mpr (meet property member value found)
      | _ => simp_all [kindOf, Value.truthy]

theorem settles_unknown (basics : HasBasics validators) (named : (constraint constraints "type").truthy = true)
    (isKey : (constraint constraints "type").isKey = true)
    (unknown : Mapping.find? (constraint constraints "type") validators = none) :
    Settles validators (.map constraints) v := by
  have notFound : validatorOf validators (constraint constraints "type") = .ok none := by
    rw [validatorOf, Value.lookIn, if_pos isKey, unknown]
  obtain ⟨text, isCheck⟩ : ∃ text, check validators (Schema.ofValue (.map constraints)) v =
      .ok (errors [text]) := by
    rw [ofValue_typed named, check, notFound]
    exact ⟨_, rfl⟩
  refine ⟨⟨_, isCheck⟩, iff_of_false ?_ ?_⟩
  · rintro ⟨found, isFound, falsy⟩
    cases isCheck.symm.trans isFound
    cases falsy
  · intro meets
    have found : ∃ kind, validatorOf validators (constraint constraints "type") = .ok (some (.basic kind)) := by
      cases meets with
      | free noKind => simp_all [kindOf]
      | text isKind _ => exact ⟨_, isKind ▸ basics.text⟩
      | number isKind _ => exact ⟨_, isKind ▸ basics.number⟩
      | truth isKind _ => exact ⟨_, isKind ▸ basics.truth⟩
      | list isKind _ _ => exact ⟨_, isKind ▸ basics.list⟩
      | mapping isKind _ _ => exact ⟨_, isKind ▸ basics.mapping⟩
    obtain ⟨kind, isKind⟩ := found
    cases notFound.symm.trans isKind

/-- Along a schema whose constraints are well typed, checks settle whether a value meets it. -/
theorem settles_of_wellTyped (basics : HasBasics validators) (typed : WellTyped validators schema)
    (inRange : InRange v) : Settles validators schema v := by
  induction typed generalizing v with
  | free isSchema noKind => exact settles_free isSchema noKind
  | text isKind typed => exact settles_text basics isKind typed
  | number isKind typed => exact settles_number basics isKind typed inRange.fits
  | truth isKind => exact settles_truth basics isKind
  | list isKind bounds _ ih =>
      apply settles_list basics isKind bounds
      rintro items rfl item member
      exact ih (inRange.item item member)
  | mapping isKind typed isTable _ ih =>
      apply settles_mapping basics isKind typed isTable
      rintro entries rfl property member value found
      exact ih property member (inRange.value found)
  | unknown named isKey unknown => exact settles_unknown basics named isKey unknown

end Validation

namespace Configuration

open Validation

/-- Validation is sound and complete: for a schema whose constraints are well typed and a value whose integers are
within the range of doubles, a list of errors is given, and it is empty exactly if the value meets the schema. -/
theorem validateValue_nil_iff_meets {c : Configuration} (basics : HasBasics c.validators) {schema v : Value}
    (typed : WellTyped c.validators schema) (inRange : InRange v) :
    ∃ texts, c.validateValue v schema = .ok (errors texts) ∧ (texts = [] ↔ Meets schema v) := by
  obtain ⟨⟨texts, isChecked⟩, meets⟩ := settles_of_wellTyped basics typed inRange
  refine ⟨texts, isChecked, ?_⟩
  rw [← meets, ← errors_falsy_iff, Conforms, isChecked]
  constructor
  · exact fun falsy => ⟨_, rfl, falsy⟩
  · rintro ⟨_, ⟨⟩, falsy⟩
    exact falsy

def nameSchema : Value :=
  .ofFields [("type", .str "string"), ("minLength", .int 1), ("enum", .list [.str "cover", .str "index"])]

def sizesSchema : Value :=
  .ofFields [("type", .str "array"), ("maxItems", .int 2),
    ("itemSchema", .ofFields [("type", .str "number"), ("min", .int 0), ("max", .int 9)])]

def pageSchema : Value :=
  .ofFields [("type", .str "object"), ("required", .list [.str "name"]), ("additionalProperties", .bool false),
    ("properties", .ofFields [("name", nameSchema), ("sizes", sizesSchema)])]

def pageOfSize (size : Int) : Value := .ofFields [("name", .str "cover"), ("sizes", .list [.int 3, .int size])]

/-- The negative size of a page is found in the list in the mapping. -/
theorem validateValue_nil_iff_meets_pages :
    HasBasics (initial true .null).validators ∧ WellTyped (initial true .null).validators pageSchema ∧
      InRange (pageOfSize 4) ∧ InRange (pageOfSize (-1)) ∧
        Meets pageSchema (pageOfSize 4) ∧ ¬Meets pageSchema (pageOfSize (-1)) := by
  have basics : HasBasics (initial true .null).validators := ⟨rfl, rfl, rfl, rfl, rfl⟩
  have typedName : WellTyped (initial true .null).validators nameSchema :=
    .text rfl ⟨⟨.inr ⟨_, rfl⟩, .inl rfl⟩, .inl rfl, .inr ⟨["cover", "index"], rfl⟩⟩
  have typedSizes : WellTyped (initial true .null).validators sizesSchema :=
    .list rfl ⟨.inl rfl, .inr ⟨_, rfl⟩⟩ (.number rfl ⟨.inr ⟨_, rfl⟩, .inr ⟨_, rfl⟩⟩)
  have typed : WellTyped (initial true .null).validators pageSchema := by
    apply WellTyped.mapping rfl (.inr ⟨[.str "name"], rfl, by simp [Value.isKey]⟩) (.inl rfl)
    exact List.forall_mem_cons.mpr ⟨typedName, List.forall_mem_singleton.mpr typedSizes⟩
  have inRange {size : Int} (fits : Decimal.fitsFloat size = true) : InRange (pageOfSize size) := by
    have sizes : InRange (.list [.int 3, .int size]) :=
      .list (List.forall_mem_cons.mpr ⟨.int (by decide +kernel), List.forall_mem_singleton.mpr (.int fits)⟩)
    have name : InRange (.str "cover") := .leaf (by simp) (by simp) (by simp)
    exact .map (List.forall_mem_cons.mpr ⟨name, List.forall_mem_singleton.mpr sizes⟩)
  have positive : InRange (pageOfSize 4) := inRange (by decide +kernel)
  have negative : InRange (pageOfSize (-1)) := inRange (by decide +kernel)
  refine ⟨basics, typed, positive, negative, ?_, ?_⟩
  · obtain ⟨texts, isOk, meets⟩ := validateValue_nil_iff_meets basics typed positive
    have isEmpty : (initial true .null).validateValue (pageOfSize 4) pageSchema = .ok (errors []) := rfl
    apply meets.mp
    rw [← errors_falsy_iff, Except.ok.inj (isOk.symm.trans isEmpty)]
    rfl
  · obtain ⟨texts, isOk, meets⟩ := validateValue_nil_iff_meets basics typed negative
    intro holds
    obtain rfl := meets.mpr holds
    cases isOk

end Configuration

end StyleRules
