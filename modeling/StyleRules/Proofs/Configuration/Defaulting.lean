import StyleRules.Proofs.Configuration.Satisfying
import StyleRules.Proofs.Value.Numbers

/-!
# Errors of configurations that were laid over defaults

A schema may ask nothing more of a mapping than that the properties that are there conform.  Then defaults that
conform neither hide nor cause errors: a configuration that was laid over them is checked with the same outcome as the
configuration alone.  The check goes along the schema, and merging along the mappings, so that they part where a
property is no mapping, or where the schema says nothing of it.
-/

namespace StyleRules

namespace Validation

open StyleRules.Configuration

variable {validators : List (Value × Validator)} {schema : Value} {constraints base changes : List (Value × Value)}

/-- The basic kinds of values that are no mappings. -/
def leafKinds : List String := ["string", "number", "boolean", "array"]

/-- A written schema of the basic kinds whose mappings, along the properties, neither have to have any properties nor
are forbidden to have others. -/
inductive Undemanding : Value → Prop
  | untyped {schema : Value} (noKind : (kindOf schema).truthy = false) : Undemanding schema
  | leaf {constraints : List (Value × Value)} {name : String}
      (isKind : constraint constraints "type" = .str name) (isLeaf : name ∈ leafKinds) :
      Undemanding (.map constraints)
  | mapping {constraints : List (Value × Value)} (isKind : constraint constraints "type" = .str "object")
      (noneRequired : (constraint constraints "required").truthy = false)
      (noneForbidden : constraint constraints "additionalProperties" ≠ .bool false)
      (keys : ∀ property ∈ tableOf (constraint constraints "properties"), property.1.isKey = true)
      (each : ∀ property ∈ tableOf (constraint constraints "properties"), Undemanding property.2) :
      Undemanding (.map constraints)

/-! ## Kinds -/

/-- Where no kind is named, the value does not matter. -/
theorem check_untyped (noKind : (kindOf schema).truthy = false) (v w : Value) :
    check validators (Schema.ofValue schema) v = check validators (Schema.ofValue schema) w := by
  cases schema with
  | map constraints => rw [ofValue_free (.inl rfl) noKind, check, check]
  | _ =>
      rw [Schema.ofValue]
      · split <;> rw [check, check]
      · simp

theorem not_conforms_leaf (basics : HasBasics validators) {name : String}
    (isKind : constraint constraints "type" = .str name) (isLeaf : name ∈ leafKinds) :
    ¬Conforms validators (Schema.ofValue (.map constraints)) (.map base) := by
  intro conforms
  simp only [leafKinds, List.mem_cons, List.not_mem_nil, or_false] at isLeaf
  rw [ofValue_typed (by rcases isLeaf with rfl | rfl | rfl | rfl <;> rw [isKind] <;> rfl), isKind] at conforms
  rcases isLeaf with rfl | rfl | rfl | rfl
  · cases (conforms.text basics.text).choose_spec
  · cases conforms.of_errors (check_number basics.number)
  · cases (conforms.truth basics.truth).choose_spec
  · cases (conforms.list basics.list).choose_spec.1

/-! ## Properties -/

/-- Where no property is required or forbidden, only those that are there are checked. -/
theorem checkMapping_undemanding (noneRequired : (constraint constraints "required").truthy = false)
    (noneForbidden : constraint constraints "additionalProperties" ≠ .bool false)
    (table : List (Value × Schema)) (entries : List (Value × Value)) :
    checkMapping constraints (checkTable validators (some table)) (.map entries) =
      checkProperties validators table entries := by
  rw [checkTable, checkMapping]
  dsimp only
  rw [if_neg (Bool.eq_false_iff.mp noneRequired), Outcome.ok_bind]
  split
  · exact absurd ‹_› noneForbidden
  · cases checkProperties validators table entries <;> simp [bind, Except.bind, pure, Except.pure]

theorem propertyErrors_of_conforms {key value : Value} {schema : Schema} {entries : List (Value × Value)}
    (found : Mapping.find? key entries = some value) (conforms : Conforms validators schema value) :
    propertyErrors validators key schema entries = .ok [] := by
  obtain ⟨errorList, isChecked, falsy⟩ := conforms
  rw [propertyErrors, found]
  dsimp only
  rw [isChecked, Outcome.ok_bind, nested, if_neg (Bool.eq_false_iff.mp falsy)]
  rfl

/-- Laying mappings over mappings that conform to a schema does not change what is checked. -/
def Unaffected (validators : List (Value × Validator)) (schema : Schema) : Prop :=
  ∀ base changes, Conforms validators schema (.map base) →
    check validators schema (.map (mergeEntries base changes)) = check validators schema (.map changes)

theorem Unaffected.check_mergeValue {schema : Schema} (unaffected : Unaffected validators schema) {value : Value}
    (conforms : Conforms validators schema value) (change : Value) :
    check validators schema (mergeValue value change) = check validators schema change := by
  cases value with
  | map base =>
      cases change with
      | map changes => exact unaffected base changes conforms
      | _ => rw [mergeValue_of_not_mapping (.inr rfl)]
  | _ => rw [mergeValue_of_not_mapping (.inl rfl)]

theorem propertyErrors_mergeEntries {key : Value} {schema : Schema} (isKey : key.isKey = true)
    (unaffected : Unaffected validators schema)
    (conforms : ∀ value, Mapping.find? key base = some value → Conforms validators schema value) :
    propertyErrors validators key schema (mergeEntries base changes) =
      propertyErrors validators key schema changes := by
  have merged := find?_mergeEntries_key (Value.interchangeable_of_isKey isKey) base changes
  cases isBase : Mapping.find? key base with
  | none =>
      simp only [isBase] at merged
      rw [propertyErrors, propertyErrors, merged]
  | some value =>
      have conforms := conforms value isBase
      cases isChange : Mapping.find? key changes with
      | none =>
          simp only [isBase, isChange, changed] at merged
          rw [propertyErrors_of_conforms merged conforms, propertyErrors, isChange]
      | some change =>
          simp only [isBase, isChange, changed] at merged
          rw [propertyErrors, propertyErrors, merged, isChange]
          dsimp only
          rw [unaffected.check_mergeValue conforms]

theorem checkProperties_mergeEntries {table : List (Value × Schema)}
    (keys : ∀ property ∈ table, property.1.isKey = true)
    (unaffected : ∀ property ∈ table, Unaffected validators property.2)
    (conforms : ∀ property ∈ table, ∀ value, Mapping.find? property.1 base = some value →
      Conforms validators property.2 value) :
    checkProperties validators table (mergeEntries base changes) = checkProperties validators table changes := by
  induction table with
  | nil => rw [checkProperties, checkProperties]
  | cons property rest ih =>
      obtain ⟨isKey, otherKeys⟩ := List.forall_mem_cons.mp keys
      obtain ⟨first, others⟩ := List.forall_mem_cons.mp unaffected
      obtain ⟨firstConforms, othersConform⟩ := List.forall_mem_cons.mp conforms
      rw [checkProperties_cons, checkProperties_cons, propertyErrors_mergeEntries isKey first firstConforms,
        ih otherKeys others othersConform]

theorem unaffected_mapping (basics : HasBasics validators) (isKind : constraint constraints "type" = .str "object")
    (noneRequired : (constraint constraints "required").truthy = false)
    (noneForbidden : constraint constraints "additionalProperties" ≠ .bool false)
    (keys : ∀ property ∈ tableOf (constraint constraints "properties"), property.1.isKey = true)
    (each : ∀ property ∈ tableOf (constraint constraints "properties"),
      Unaffected validators (Schema.ofValue property.2)) :
    Unaffected validators (Schema.ofValue (.map constraints)) := by
  intro base changes conforms
  have named : (constraint constraints "type").truthy = true := by rw [isKind]; rfl
  rw [ofValue_typed named, isKind, propertiesOf_eq] at conforms ⊢
  by_cases isTable : (constraint constraints "properties").isMapping = true ∨
      (constraint constraints "properties").truthy = false
  · rw [propertyTable_eq isTable] at conforms ⊢
    rw [check_mapping basics.mapping, check_mapping basics.mapping,
      checkMapping_undemanding noneRequired noneForbidden, checkMapping_undemanding noneRequired noneForbidden,
      checkProperties_mergeEntries]
    · exact List.forall_mem_map.mpr keys
    · exact List.forall_mem_map.mpr each
    · exact fun property member value found => conforms.property basics.mapping member found
  · -- properties that are not written as a mapping cannot be checked at all
    obtain ⟨notMapping, truthy⟩ := not_or.mp isTable
    have noTable : Schema.propertyTable (constraint constraints "properties") = none := by
      cases isProperties : constraint constraints "properties" with
      | map entries => simp [isProperties, Value.isMapping] at notMapping
      | _ => simp_all [Schema.propertyTable]
    have unfounded := conforms.of_errors (check_mapping basics.mapping)
    rw [noTable, checkTable, checkMapping] at unfounded
    dsimp only at unfounded
    rw [if_neg (Bool.eq_false_iff.mp noneRequired)] at unfounded
    cases unfounded

theorem unaffected_of_undemanding (basics : HasBasics validators) (undemanding : Undemanding schema) :
    Unaffected validators (Schema.ofValue schema) := by
  induction undemanding with
  | untyped noKind => exact fun _ _ _ => check_untyped noKind _ _
  | leaf isKind isLeaf => exact fun _ _ conforms => absurd conforms (not_conforms_leaf basics isKind isLeaf)
  | mapping isKind noneRequired noneForbidden keys _ ih =>
      exact unaffected_mapping basics isKind noneRequired noneForbidden keys ih

/-! ## The default schema -/

section DefaultSchema

variable {table : List (String × Value)}

theorem forall_fields {holds : Value × Value → Prop} {fields : List (String × Value)}
    (each : ∀ field ∈ fields, holds (.str field.1, field.2)) :
    ∀ property ∈ tableOf (.ofFields fields), holds property :=
  List.forall_mem_map.mpr each

theorem undemanding_fields (each : ∀ field ∈ table, Undemanding field.2) :
    Undemanding (schemaOf "object" [("properties", .ofFields table)]) :=
  .mapping rfl rfl nofun (forall_fields fun _ _ => rfl) (forall_fields each)

theorem undemanding_leaf {name : String} (isLeaf : name ∈ leafKinds) (constraints : List (String × Value)) :
    Undemanding (schemaOf name constraints) :=
  .leaf rfl isLeaf

theorem undemanding_defaultSchema : Undemanding defaultSchema := by
  have text := undemanding_leaf (by decide : "string" ∈ leafKinds)
  have number := undemanding_leaf (by decide : "number" ∈ leafKinds)
  have truth := undemanding_leaf (by decide : "boolean" ∈ leafKinds)
  have list := undemanding_leaf (by decide : "array" ∈ leafKinds)
  have emptyMapping : Undemanding (schemaOf "object" []) := .mapping rfl rfl nofun nofun nofun
  have transforms : Undemanding transformSchema :=
    undemanding_fields (by simp [text, number, truth, list, textListSchema])
  have errorHandling : Undemanding errorSchema := undemanding_fields (by simp [text, number, truth])
  exact undemanding_fields (by simp [list, emptyMapping, transforms, errorHandling])

theorem wellTyped_fields {validators : List (Value × Validator)}
    (each : ∀ field ∈ table, WellTyped validators field.2) :
    WellTyped validators (schemaOf "object" [("properties", .ofFields table)]) :=
  .mapping rfl (.inl rfl) (.inl rfl) (forall_fields each)

theorem wellTyped_defaultSchema (validators : List (Value × Validator)) : WellTyped validators defaultSchema := by
  have truth : WellTyped validators (schemaOf "boolean" []) := .truth rfl
  have emptyMapping : WellTyped validators (schemaOf "object" []) := .mapping rfl (.inl rfl) (.inr rfl) nofun
  have anyText : WellTyped validators (schemaOf "string" []) :=
    .text rfl ⟨⟨.inl rfl, .inl rfl⟩, .inl rfl, .inl rfl⟩
  have someText : WellTyped validators (schemaOf "string" [("minLength", .int 1)]) :=
    .text rfl ⟨⟨.inr ⟨_, rfl⟩, .inl rfl⟩, .inl rfl, .inl rfl⟩
  have choice (names : List String) : WellTyped validators (schemaOf "string" [("enum", textList names)]) :=
    .text rfl ⟨⟨.inl rfl, .inl rfl⟩, .inl rfl, .inr ⟨names, rfl⟩⟩
  have anyList : WellTyped validators (schemaOf "array" []) := .list rfl ⟨.inl rfl, .inl rfl⟩ (.free (.inr rfl) rfl)
  have texts : WellTyped validators textListSchema := .list rfl ⟨.inl rfl, .inl rfl⟩ anyText
  have count (least : Int) :
      WellTyped validators (schemaOf "number" [("min", .int least), ("integer", .bool true)]) :=
    .number rfl ⟨.inr ⟨_, rfl⟩, .inl rfl⟩
  have transforms : WellTyped validators transformSchema := wellTyped_fields (by simp [truth, count, texts, someText])
  have errorHandling : WellTyped validators errorSchema := wellTyped_fields (by simp [truth, count, choice])
  exact wellTyped_fields (by simp [emptyMapping, anyList, transforms, errorHandling])

end DefaultSchema

theorem inRange_defaults : InRange (.map defaults) := by
  have truth (b : Bool) : InRange (.bool b) := .leaf nofun nofun nofun
  have text (s : String) : InRange (.str s) := .leaf nofun nofun nofun
  have texts (names : List String) : InRange (textList names) := .list (List.forall_mem_map.mpr fun _ _ => text _)
  have hundred : InRange (.int 100) := .int (by decide +kernel)
  have fields {entries : List (String × Value)} (each : ∀ field ∈ entries, InRange field.2) :
      InRange (.ofFields entries) := .map (List.forall_mem_map.mpr each)
  have noEntries : InRange (.map []) := .map nofun
  have noItems : InRange (.list []) := .list nofun
  exact .map (by simp [defaults, fields, truth, text, texts, hundred, noEntries, noItems])

end Validation

namespace Configuration

open Validation

variable {c : Configuration}

theorem meets_defaults : Meets defaultSchema (.map defaults) := by
  have accepted : (check basicValidators (Schema.ofValue defaultSchema) (.map defaults)).toOption.map Value.truthy =
      some false := by
    decide +kernel
  have settled := settles_of_wellTyped ⟨rfl, rfl, rfl, rfl, rfl⟩ (wellTyped_defaultSchema basicValidators)
    inRange_defaults
  apply settled.2.mp
  cases isChecked : check basicValidators (Schema.ofValue defaultSchema) (.map defaults) with
  | error reason => simp [isChecked, Except.toOption] at accepted
  | ok found => exact ⟨found, isChecked, by simpa [isChecked, Except.toOption] using accepted⟩

/-- The defaults conform to their own schema, also when further kinds are known. -/
theorem conforms_defaults {validators : List (Value × Validator)} (basics : HasBasics validators) :
    Conforms validators (Schema.ofValue defaultSchema) (.map defaults) :=
  (settles_of_wellTyped basics (wellTyped_defaultSchema validators) inRange_defaults).2.mpr meets_defaults

/-- Checking a configuration that was laid over another one that conforms gives the same errors, in the same order, as
checking it alone, where the schema demands no properties and forbids none.  In particular this holds for the defaults
and their schema. -/
theorem validateValue_merge (basics : HasBasics c.validators) :
    (∀ schema base changes, Undemanding schema → c.validateValue (.map base) schema = .ok (errors []) →
      (do c.validateValue (← merge (.map base) (.map changes)) schema) = c.validateValue (.map changes) schema) ∧
    ∀ changes, (do c.validateValue (← merge (.map defaults) (.map changes)) defaultSchema) =
      c.validateValue (.map changes) defaultSchema := by
  constructor
  · intro schema base changes undemanding accepted
    exact unaffected_of_undemanding basics undemanding base changes ⟨_, accepted, rfl⟩
  · intro changes
    exact unaffected_of_undemanding basics undemanding_defaultSchema defaults changes (conforms_defaults basics)

def coverSchema : Value :=
  schemaOf "object" [("properties", .ofFields [
    ("cover", schemaOf "object" [("properties", .ofFields [("size", schemaOf "number" [("min", .int 1)])])])])]

def redCover : List (Value × Value) := [(.str "cover", .ofFields [("size", .int 3), ("color", .str "red")])]

def emptyCover : List (Value × Value) := [(.int 5, .null), (.str "cover", .ofFields [("size", .int 0)])]

theorem validateValue_merge_cover :
    HasBasics (initial true .null).validators ∧ Undemanding coverSchema ∧
      (initial true .null).validateValue (.map redCover) coverSchema = .ok (errors []) ∧
      (do (initial true .null).validateValue (← merge (.map redCover) (.map emptyCover)) coverSchema) =
        .ok (errors ["Property cover: Property size: Number must be at least 1"]) := by
  have basics : HasBasics (initial true .null).validators := ⟨rfl, rfl, rfl, rfl, rfl⟩
  have undemanding : Undemanding coverSchema :=
    undemanding_fields (List.forall_mem_singleton.mpr
      (undemanding_fields (List.forall_mem_singleton.mpr (undemanding_leaf (by decide) _))))
  have accepted : (initial true .null).validateValue (.map redCover) coverSchema = .ok (errors []) := rfl
  have unchanged := (validateValue_merge basics).1 coverSchema redCover emptyCover undemanding accepted
  exact ⟨basics, undemanding, accepted, unchanged.trans rfl⟩

end Configuration

end StyleRules
