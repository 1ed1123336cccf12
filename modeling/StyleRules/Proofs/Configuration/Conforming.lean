import StyleRules.Proofs.Configuration.Loading
import StyleRules.Proofs.Configuration.Merging

/-!
# Configurations that conform to the default schema

Where a mapping conforms to a schema, its entries conform to the schemas of the properties.  So a configuration
that conforms to the default schema holds a truth value wherever the default is one: no value stands there
that is merely equal to the default.
-/

namespace StyleRules

namespace Validation

variable {validators : List (Value × Validator)} {schema : Schema} {v value : Value}

/-- The check of a value finds no errors. -/
def Conforms (validators : List (Value × Validator)) (schema : Schema) (v : Value) : Prop :=
  ∃ found, check validators schema v = .ok found ∧ found.truthy = false

theorem errors_falsy_iff {texts : List String} : (errors texts).truthy = false ↔ texts = [] := by
  simp [errors, Value.truthy]

theorem falsy_of_nested {label : String} {found : Value} (unfounded : nested label found = .ok []) :
    found.truthy = false := by
  unfold nested at unfounded
  split at unfounded
  · obtain ⟨items, _, listed⟩ := Outcome.bind_ok unfounded
    obtain ⟨texts, _, impossible⟩ := Outcome.bind_ok listed
    cases impossible
  · rename_i falsy
    simpa using falsy

/-! ## The kinds of schemas -/

section Kinds

variable {kind : Value} {constraints : List (Value × Value)} {items : Option Schema}
  {properties : Option (List (Value × Schema))}

theorem check_truth (isTruth : validatorOf validators kind = .ok (some (.basic .truth))) :
    check validators (.typed kind constraints items properties) v = .ok (errors (checkTruth v)) := by
  rw [check, isTruth]
  rfl

theorem check_text (isText : validatorOf validators kind = .ok (some (.basic .text))) :
    check validators (.typed kind constraints items properties) v = (checkText constraints v).map errors := by
  rw [check, isText]
  rfl

theorem check_number (isNumber : validatorOf validators kind = .ok (some (.basic .number))) :
    check validators (.typed kind constraints items properties) v = (checkNumber constraints v).map errors := by
  rw [check, isNumber]
  rfl

theorem check_list (isList : validatorOf validators kind = .ok (some (.basic .list))) :
    check validators (.typed kind constraints items properties) v =
      (checkList constraints (checkItem validators items) v).map errors := by
  rw [check, isList]
  rfl

theorem check_mapping (isMapping : validatorOf validators kind = .ok (some (.basic .mapping))) :
    check validators (.typed kind constraints items properties) v =
      (checkMapping constraints (checkTable validators properties) v).map errors := by
  rw [check, isMapping]
  rfl

theorem Conforms.of_errors {found : Outcome (List String)}
    (conforms : Conforms validators schema v)
    (isCheck : check validators schema v = found.map errors) : found = .ok [] := by
  obtain ⟨errorList, checked, falsy⟩ := conforms
  rw [isCheck] at checked
  cases found with
  | error reason => cases checked
  | ok texts =>
      cases checked
      rw [errors_falsy_iff.mp falsy]

/-! ## Truth values, texts and numbers -/

theorem Conforms.truth (conforms : Conforms validators (.typed kind constraints items properties) v)
    (isTruth : validatorOf validators kind = .ok (some (.basic .truth))) : ∃ b, v = .bool b := by
  obtain ⟨errorList, checked, falsy⟩ := conforms
  rw [check_truth isTruth] at checked
  cases checked
  have noTexts := errors_falsy_iff.mp falsy
  cases v with
  | bool b => exact ⟨b, rfl⟩
  | _ => cases noTexts

theorem Conforms.text (conforms : Conforms validators (.typed kind constraints items properties) v)
    (isText : validatorOf validators kind = .ok (some (.basic .text))) : ∃ s, v = .str s := by
  have unfounded := conforms.of_errors (check_text isText)
  cases v with
  | str s => exact ⟨s, rfl⟩
  | _ => cases unfounded

theorem errorIf_eq_nil_iff {condition : Bool} {text : String} :
    errorIf condition text = [] ↔ condition = false := by
  cases condition <;> simp [errorIf]

/-- A text that conforms is one of those to choose from. -/
theorem Conforms.choice {name : String} {names : List String}
    (conforms : Conforms validators (.typed kind constraints items properties) (.str name))
    (isText : validatorOf validators kind = .ok (some (.basic .text))) (given : names ≠ [])
    (isChoice : constraint constraints "enum" = .list (names.map .str)) : name ∈ names := by
  have unfounded := conforms.of_errors (check_text isText)
  rw [checkText, isChoice] at unfounded
  obtain ⟨short, _, unfounded⟩ := Outcome.bind_ok unfounded
  obtain ⟨long, _, unfounded⟩ := Outcome.bind_ok unfounded
  obtain ⟨unlike, _, unfounded⟩ := Outcome.bind_ok unfounded
  obtain ⟨unknown, isUnknown, unfounded⟩ := Outcome.bind_ok unfounded
  have known : unknown = false := by
    split at unfounded
    · obtain ⟨_, _, unfounded⟩ := Outcome.bind_ok unfounded
      obtain ⟨_, _, together⟩ := Outcome.bind_ok unfounded
      exact errorIf_eq_nil_iff.mp (List.append_eq_nil_iff.mp (Except.ok.inj together)).2
    · rename_i notUnknown
      simpa using notUnknown
  have listed : (Value.list (names.map .str)).truthy = true := by simpa [Value.truthy] using given
  rw [exceeds, if_pos listed, known] at isUnknown
  simpa [Value.contains] using isUnknown

/-- A number that conforms to a bound for integers is an integer and not below the bound. -/
theorem Conforms.integer {least : Int}
    (conforms : Conforms validators (.typed kind constraints items properties) v)
    (isNumber : validatorOf validators kind = .ok (some (.basic .number)))
    (isLeast : constraint constraints "min" = .int least) (noMost : constraint constraints "max" = .null)
    (isInteger : constraint constraints "integer" = .bool true) :
    Validation.isNumber v = true ∧ v.less (.int least) = .ok false ∧ Validation.isInteger v = .ok true := by
  have unfounded := conforms.of_errors (check_number isNumber)
  rw [checkNumber, isLeast, noMost, isInteger] at unfounded
  split at unfounded
  · rename_i number
    obtain ⟨small, isSmall, unfounded⟩ := Outcome.bind_ok unfounded
    obtain ⟨large, _, unfounded⟩ := Outcome.bind_ok unfounded
    obtain ⟨whole, isWhole, unfounded⟩ := Outcome.bind_ok unfounded
    obtain ⟨inBounds, broken⟩ := List.append_eq_nil_iff.mp (Except.ok.inj unfounded)
    have notSmall := errorIf_eq_nil_iff.mp (List.append_eq_nil_iff.mp inBounds).1
    have notBroken := errorIf_eq_nil_iff.mp broken
    rw [isSmall, notSmall, isWhole]
    exact ⟨number, rfl, by rw [Bool.not_eq_false'] at notBroken; rw [notBroken]⟩
  · cases unfounded

/-! ## Lists and mappings -/

theorem conforms_of_itemErrors {values : List Value} {position : Nat}
    (unfounded : itemErrors (check validators schema) position values = .ok []) :
    ∀ item ∈ values, Conforms validators schema item := by
  induction values generalizing position with
  | nil => exact nofun
  | cons item rest ih =>
      rw [itemErrors] at unfounded
      obtain ⟨found, isFound, unfounded⟩ := Outcome.bind_ok unfounded
      obtain ⟨first, isFirst, unfounded⟩ := Outcome.bind_ok unfounded
      obtain ⟨further, isRest, together⟩ := Outcome.bind_ok unfounded
      obtain ⟨rfl, rfl⟩ := List.append_eq_nil_iff.mp (Except.ok.inj together)
      exact List.forall_mem_cons.mpr ⟨⟨found, isFound, falsy_of_nested isFirst⟩, ih isRest⟩

/-- The items of a list that conforms conform to the schema of items. -/
theorem Conforms.list (conforms : Conforms validators (.typed kind constraints items properties) v)
    (isList : validatorOf validators kind = .ok (some (.basic .list))) :
    ∃ values, v = .list values ∧
      ∀ schema, items = some schema → ∀ item ∈ values, Conforms validators schema item := by
  have unfounded := conforms.of_errors (check_list isList)
  cases v with
  | list values =>
      refine ⟨values, rfl, fun schema isSchema => ?_⟩
      subst isSchema
      rw [checkList] at unfounded
      obtain ⟨short, _, unfounded⟩ := Outcome.bind_ok unfounded
      obtain ⟨long, _, unfounded⟩ := Outcome.bind_ok unfounded
      obtain ⟨found, isFound, together⟩ := Outcome.bind_ok unfounded
      obtain ⟨_, rfl⟩ := List.append_eq_nil_iff.mp (Except.ok.inj together)
      exact conforms_of_itemErrors isFound
  | _ => cases unfounded

theorem Conforms.mapping (conforms : Conforms validators (.typed kind constraints items properties) v)
    (isMapping : validatorOf validators kind = .ok (some (.basic .mapping))) :
    ∃ entries, v = .map entries := by
  have unfounded := conforms.of_errors (check_mapping isMapping)
  cases v with
  | map entries => exact ⟨entries, rfl⟩
  | _ => cases unfounded

/-- The errors of the property under a key, if there is one. -/
def propertyErrors (validators : List (Value × Validator)) (key : Value) (schema : Schema)
    (entries : List (Value × Value)) : Outcome (List String) :=
  match Mapping.find? key entries with
  | some value => do nested s!"Property {key.text}" (← check validators schema value)
  | none => .ok []

theorem checkProperties_cons (key : Value) (schema : Schema) (rest : List (Value × Schema))
    (entries : List (Value × Value)) :
    checkProperties validators ((key, schema) :: rest) entries = do
      let first ← propertyErrors validators key schema entries
      return first ++ (← checkProperties validators rest entries) := by
  rw [checkProperties, propertyErrors]
  cases Mapping.find? key entries with
  | none => rfl
  | some value => exact (bind_assoc _ _ _).symm

theorem conforms_of_checkProperties {table : List (Value × Schema)} {entries : List (Value × Value)}
    (unfounded : checkProperties validators table entries = .ok []) {key : Value}
    (member : (key, schema) ∈ table) (found : Mapping.find? key entries = some value) :
    Conforms validators schema value := by
  induction table with
  | nil => cases member
  | cons property rest ih =>
      obtain ⟨name, first⟩ := property
      rw [checkProperties_cons] at unfounded
      obtain ⟨errors, isFirst, others⟩ := Outcome.bind_ok unfounded
      obtain ⟨further, isRest, together⟩ := Outcome.bind_ok others
      obtain ⟨rfl, rfl⟩ := List.append_eq_nil_iff.mp (Except.ok.inj together)
      rcases List.mem_cons.mp member with isProperty | later
      · cases isProperty
        rw [propertyErrors, found] at isFirst
        obtain ⟨checked, isChecked, unfounded⟩ := Outcome.bind_ok isFirst
        exact ⟨checked, isChecked, falsy_of_nested unfounded⟩
      · exact ih isRest later

theorem unfounded_of_checkMapping {constraints entries : List (Value × Value)} {known : List Value}
    {check : List (Value × Value) → Outcome (List String)}
    (unfounded : checkMapping constraints (some (known, check)) (.map entries) = .ok []) :
    check entries = .ok [] := by
  have inside : ∀ missing unexpected : List String,
      (do return missing ++ (← check entries) ++ unexpected : Outcome (List String)) = .ok [] →
        check entries = .ok [] := by
    intro missing unexpected unfounded
    obtain ⟨found, isFound, together⟩ := Outcome.bind_ok unfounded
    obtain ⟨known, -⟩ := List.append_eq_nil_iff.mp (Except.ok.inj together)
    obtain ⟨-, rfl⟩ := List.append_eq_nil_iff.mp known
    exact isFound
  rw [checkMapping] at unfounded
  split at unfounded
  · obtain ⟨required, _, unfounded⟩ := Outcome.bind_ok unfounded
    obtain ⟨missing, _, unfounded⟩ := Outcome.bind_ok unfounded
    exact inside missing _ unfounded
  · exact inside [] _ unfounded

/-- The entries of a mapping that conforms conform to the schemas of the properties. -/
theorem Conforms.property {table : List (Value × Schema)} {entries : List (Value × Value)}
    (conforms : Conforms validators (.typed kind constraints items (some table)) (.map entries))
    (isMapping : validatorOf validators kind = .ok (some (.basic .mapping))) {key : Value}
    (member : (key, schema) ∈ table) (found : Mapping.find? key entries = some value) :
    Conforms validators schema value := by
  have unfounded := conforms.of_errors (check_mapping isMapping)
  rw [checkTable] at unfounded
  exact conforms_of_checkProperties (unfounded_of_checkMapping unfounded) member found

end Kinds

end Validation

namespace Configuration

open Validation

variable {c : Configuration} {path : List String} {entries : List (Value × Value)} {v default value : Value}

theorem lookup_cons_some {name : String} {rest : List String}
    (found : lookup (name :: rest) v = some value) :
    ∃ entries inner, v = .map entries ∧ Mapping.find? (.str name) entries = some inner ∧
      lookup rest inner = some value := by
  cases v with
  | map entries =>
      obtain ⟨inner, isInner, below⟩ := Option.bind_eq_some_iff.mp found
      exact ⟨entries, inner, rfl, isInner, below⟩
  | _ => cases found

/-! ## Schemas along a path -/

/-- The schema of the property at a path. -/
def schemaAt : List String → Schema → Option Schema
  | [], schema => some schema
  | name :: rest, .typed (.str "object") _ _ (some table) =>
    (Mapping.find? (.str name) table).bind (schemaAt rest)
  | _, _ => none

theorem conforms_at {schema inner : Schema} (conforms : Conforms basicValidators schema v)
    (isInner : schemaAt path schema = some inner) (found : lookup path v = some value) :
    Conforms basicValidators inner value := by
  induction path generalizing schema v with
  | nil =>
      cases isInner
      cases found
      exact conforms
  | cons name rest ih =>
      obtain ⟨entries, first, rfl, isFirst, below⟩ := lookup_cons_some found
      unfold schemaAt at isInner
      split at isInner
      · rename_i impossible
        cases impossible
      · rename_i samePath
        cases samePath
        obtain ⟨property, isProperty, further⟩ := Option.bind_eq_some_iff.mp isInner
        exact ih (conforms.property rfl (Mapping.mem_of_find?_str isProperty) isFirst) further below
      · cases isInner

/-- Where the default schema asks for a truth value. -/
def truthPaths : List (List String) :=
  [["transforms", "enabled"], ["transforms", "cache_enabled"], ["transforms", "common_templates"],
    ["error_handling", "strict_mode"]]

theorem schemaAt_truthPaths (isTruth : path ∈ truthPaths) :
    ∃ constraints items properties,
      schemaAt path (Schema.ofValue defaultSchema) =
        some (.typed (.str "boolean") constraints items properties) := by
  simp only [truthPaths, List.mem_cons, List.not_mem_nil, or_false] at isTruth
  rcases isTruth with rfl | rfl | rfl | rfl <;> exact ⟨_, _, _, rfl⟩

theorem exists_truth (conforms : Conforms basicValidators (Schema.ofValue defaultSchema) v)
    (isTruth : path ∈ truthPaths) (found : lookup path v = some value) : ∃ b, value = .bool b := by
  obtain ⟨constraints, items, properties, isInner⟩ := schemaAt_truthPaths isTruth
  exact (conforms_at conforms isInner found).truth rfl

/-! ## Values that equal a default -/

/-- No other value that JSON can hold is equal. -/
def Firm (v : Value) : Prop := ∀ value, IsJson value → value.eq v = true → value = v

theorem firm_str (s : String) : Firm (.str s) := fun _ _ equal => Value.eq_str_iff.mp equal

theorem firm_texts (names : List String) : Firm (.list (names.map .str)) :=
  fun _ _ equal => Value.eq_texts equal

theorem firm_int {n : Int} (noTruth : n ≠ 0 ∧ n ≠ 1) : Firm (.int n) := by
  intro value isJson equal
  cases isJson with
  | bool b => cases b <;> simp [Value.eq, Value.number?, Number.compare?] at equal <;> omega
  | int m => simpa [Value.eq, Value.number?, Number.compare?] using equal
  | _ => simp [Value.eq, Value.number?] at equal

theorem lookup_of_not_mapping (notMapping : v.isMapping = false) (found : lookup path v = some value) :
    path = [] ∧ value = v := by
  cases path with
  | nil => exact ⟨rfl, (Option.some.inj found).symm⟩
  | cons name rest =>
      obtain ⟨entries, _, rfl, _⟩ := lookup_cons_some found
      cases notMapping

/-- In a mapping without further mappings, paths of one name lead to its fields. -/
theorem exists_field {fields : List (String × Value)} (flat : ∀ field ∈ fields, field.2.isMapping = false)
    (found : lookup path (.ofFields fields) = some value) (notMapping : value.isMapping = false) :
    ∃ name, path = [name] ∧ (name, value) ∈ fields := by
  cases path with
  | nil =>
      cases found
      cases notMapping
  | cons name rest =>
      obtain ⟨entries, inner, isMap, isInner, below⟩ := lookup_cons_some found
      cases isMap
      obtain ⟨field, member, isField⟩ := List.mem_map.mp (Mapping.mem_of_find?_str isInner)
      cases isField
      obtain ⟨rfl, rfl⟩ := lookup_of_not_mapping (flat field member) below
      exact ⟨field.1, rfl, member⟩

theorem firm_or_truth (found : lookup path (.map defaults) = some default)
    (notMapping : default.isMapping = false) : Firm default ∨ path ∈ truthPaths ∧ ∃ b, default = .bool b := by
  cases path with
  | nil =>
      cases found
      cases notMapping
  | cons name rest =>
      obtain ⟨entries, inner, isMap, isInner, below⟩ := lookup_cons_some found
      cases isMap
      have member := Mapping.mem_of_find?_str isInner
      simp only [defaults, List.mem_cons, Prod.mk.injEq, Value.str.injEq, List.not_mem_nil, or_false] at member
      rcases member with ⟨rfl, rfl⟩ | ⟨rfl, rfl⟩ | ⟨rfl, rfl⟩ | ⟨rfl, rfl⟩ | ⟨rfl, rfl⟩ | ⟨rfl, rfl⟩
      · obtain ⟨_, _, impossible⟩ := exists_field (show ∀ field ∈ [], _ from nofun) below notMapping
        cases impossible
      · obtain ⟨_, _, impossible⟩ := exists_field (show ∀ field ∈ [], _ from nofun) below notMapping
        cases impossible
      · obtain ⟨rfl, rfl⟩ := lookup_of_not_mapping rfl below
        exact .inl (firm_texts [])
      · obtain ⟨field, rfl, member⟩ := exists_field (by decide) below notMapping
        simp only [List.mem_cons, Prod.mk.injEq, List.not_mem_nil, or_false] at member
        rcases member with
          ⟨rfl, rfl⟩ | ⟨rfl, rfl⟩ | ⟨rfl, rfl⟩ | ⟨rfl, rfl⟩ | ⟨rfl, rfl⟩ | ⟨rfl, rfl⟩ | ⟨rfl, rfl⟩
        · exact .inr ⟨by decide, true, rfl⟩
        · exact .inr ⟨by decide, true, rfl⟩
        · exact .inl (firm_int (by decide))
        · exact .inl (firm_texts _)
        · exact .inl (firm_str _)
        · exact .inl (firm_texts _)
        · exact .inr ⟨by decide, false, rfl⟩
      · obtain ⟨field, rfl, member⟩ := exists_field (by decide) below notMapping
        simp only [List.mem_cons, Prod.mk.injEq, List.not_mem_nil, or_false] at member
        rcases member with ⟨rfl, rfl⟩ | ⟨rfl, rfl⟩ | ⟨rfl, rfl⟩
        · exact .inl (firm_str _)
        · exact .inr ⟨by decide, false, rfl⟩
        · exact .inl (firm_int (by decide))
      · obtain ⟨field, rfl, member⟩ := exists_field (by decide) below notMapping
        simp only [List.mem_cons, Prod.mk.injEq, List.not_mem_nil, or_false] at member
        obtain ⟨rfl, rfl⟩ := member
        exact .inl (firm_str _)

theorem isJson_lookup (isJson : IsJson v) (found : lookup path v = some value) : IsJson value := by
  induction path generalizing v with
  | nil =>
      cases found
      exact isJson
  | cons name rest ih =>
      obtain ⟨entries, inner, rfl, isInner, below⟩ := lookup_cons_some found
      exact ih (hereditary_isJson.entry isJson _ (Mapping.mem_of_find?_str isInner)) below

/-- In a configuration that conforms to the default schema, what equals a default is this default. -/
theorem defaultsSame_of_conforms (isJson : IsJson v)
    (conforms : Conforms basicValidators (Schema.ofValue defaultSchema) v) :
    DefaultsSame (· = ·) (.map defaults) v := by
  intro path default value isDefault notMapping found equal
  rcases firm_or_truth isDefault notMapping with firm | ⟨isTruth, b, rfl⟩
  · exact firm value (isJson_lookup isJson found) equal
  · obtain ⟨other, rfl⟩ := exists_truth conforms isTruth found
    cases b <;> cases other <;> first | rfl | cases equal

theorem falsy_of_refuse {found : Value} {reason : List String → Failure}
    (accepted : refuse found reason = .ok ()) : found.truthy = false := by
  unfold refuse at accepted
  split at accepted
  · obtain ⟨_, _, impossible⟩ := Outcome.bind_ok accepted
    cases impossible
  · rename_i falsy
    simpa using falsy

/-- Validation finds no errors. -/
def IsValid (c : Configuration) : Prop :=
  ∃ found, c.validateConfiguration .null = .ok found ∧ found.truthy = false

theorem isValid_of_review (validates : c.validates = true) (accepted : c.review = .ok ()) : c.IsValid := by
  rw [review, if_pos validates] at accepted
  obtain ⟨found, isFound, accepted⟩ := Outcome.bind_ok accepted
  obtain ⟨_, refused, _⟩ := Outcome.bind_ok accepted
  exact ⟨found, isFound, falsy_of_refuse refused⟩

theorem IsValid.conforms (isValid : c.IsValid) (isDefault : c.schema = defaultSchema)
    (basic : c.validators = basicValidators) :
    Conforms basicValidators (Schema.ofValue defaultSchema) (.map c.entries) := by
  obtain ⟨found, isFound, falsy⟩ := isValid
  rw [validateConfiguration, isDefault] at isFound
  rw [← basic]
  exact ⟨found, isFound, falsy⟩

theorem conforms_of_review (validates : c.validates = true) (isDefault : c.schema = defaultSchema)
    (basic : c.validators = basicValidators) (accepted : c.review = .ok ()) :
    Conforms basicValidators (Schema.ofValue defaultSchema) (.map c.entries) :=
  (isValid_of_review validates accepted).conforms isDefault basic

end Configuration

end StyleRules
