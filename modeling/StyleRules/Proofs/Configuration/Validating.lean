import StyleRules.Proofs.Configuration.Deciding

/-!
# Checks that give a list of errors

The constraints of the default schema are well typed.  So a check against it finds errors in a value of any kind,
or none, and does not fail itself, unless an integer is too large to be checked.
-/

namespace StyleRules

namespace Validation

variable {validators : List (Value × Validator)} {schema : Schema} {kind v : Value}
  {constraints : List (Value × Value)} {items : Option Schema}
  {properties : Option (List (Value × Schema))}

theorem checked_truth (isTruth : validatorOf validators kind = .ok (some (.basic .truth))) :
    Checked validators (.typed kind constraints items properties) v :=
  ⟨checkTruth v, check_truth isTruth⟩

theorem checked_text (isText : validatorOf validators kind = .ok (some (.basic .text)))
    (typed : TextConstraints constraints) : Checked validators (.typed kind constraints items properties) v :=
  (decides_text typed v).checked (check_text isText)

theorem checked_number (isNumber : validatorOf validators kind = .ok (some (.basic .number)))
    (typed : NumberConstraints constraints) (fits : Fits v) :
    Checked validators (.typed kind constraints items properties) v :=
  (decides_number typed fits).checked (check_number isNumber)

theorem checked_list (isList : validatorOf validators kind = .ok (some (.basic .list)))
    (bounds : LengthBounds constraints "minItems" "maxItems")
    (checked : ∀ schema, items = some schema → ∀ values, v = .list values →
      ∀ item ∈ values, Checked validators schema item) :
    Checked validators (.typed kind constraints items properties) v :=
  (decides_list bounds checked).checked (check_list isList)

theorem checked_mapping {table : List (Value × Schema)}
    (isMapping : validatorOf validators kind = .ok (some (.basic .mapping)))
    (typed : MappingConstraints constraints)
    (checked : ∀ entries, v = .map entries → ∀ property ∈ table, ∀ value,
      Mapping.find? property.1 entries = some value → Checked validators property.2 value) :
    Checked validators (.typed kind constraints items (some table)) v :=
  (decides_mapping typed checked).checked (check_mapping isMapping)

end Validation

namespace Configuration

open Validation

variable {v : Value}

/-! ## The default schema -/

theorem checked_textList : Checked basicValidators (Schema.ofValue textListSchema) v := by
  refine checked_list rfl ⟨.inl rfl, .inl rfl⟩ fun schema isSchema values _ item _ => ?_
  cases isSchema
  exact checked_text rfl ⟨⟨.inl rfl, .inl rfl⟩, .inl rfl, .inl rfl⟩

theorem checked_integer {least : Int} (fits : Fits v) :
    Checked basicValidators (Schema.ofValue (schemaOf "number" [("min", .int least), ("integer", .bool true)])) v :=
  checked_number rfl ⟨.inr ⟨_, rfl⟩, .inl rfl⟩ fits

theorem checked_anyMapping : Checked basicValidators (Schema.ofValue (schemaOf "object" [])) v :=
  checked_mapping rfl (.inl rfl) fun _ _ => nofun

theorem checked_anyList : Checked basicValidators (Schema.ofValue (schemaOf "array" [])) v :=
  checked_list rfl ⟨.inl rfl, .inl rfl⟩ nofun

theorem checked_anyTruth : Checked basicValidators (Schema.ofValue (schemaOf "boolean" [])) v :=
  checked_truth rfl

/-- A mapping is checked field by field. -/
theorem checked_fields {fields : List (String × Value)}
    (checked : ∀ entries, v = .map entries → ∀ field ∈ fields, ∀ value,
      Mapping.find? (.str field.1) entries = some value → Checked basicValidators (Schema.ofValue field.2) value) :
    Checked basicValidators (Schema.ofValue (schemaOf "object" [("properties", .ofFields fields)])) v := by
  refine checked_mapping rfl (.inl rfl) fun entries isMap property member value found => ?_
  rw [Schema.ofEntries_eq_map, List.map_map] at member
  obtain ⟨field, among, rfl⟩ := List.mem_map.mp member
  exact checked entries isMap field among value found

/-- Where the default schema asks for an integer. -/
def integerPaths : List (List String) := [["transforms", "max_cache_size"], ["error_handling", "max_errors"]]

/-- No integer where the default schema asks for one is beyond the range of doubles. -/
def IntegersFit (v : Value) : Prop := ∀ path ∈ integerPaths, ∀ value, lookup path v = some value → Fits value

theorem checked_transforms (fits : ∀ value, lookup ["max_cache_size"] v = some value → Fits value) :
    Checked basicValidators (Schema.ofValue transformSchema) v := by
  refine checked_fields fun entries isMap field member value found => ?_
  subst isMap
  simp only [List.mem_cons, List.not_mem_nil, or_false] at member
  rcases member with rfl | rfl | rfl | rfl | rfl | rfl | rfl
  · exact checked_anyTruth
  · exact checked_anyTruth
  · exact checked_integer (fits value (Option.bind_eq_some_iff.mpr ⟨value, found, rfl⟩))
  · exact checked_textList
  · exact checked_text rfl ⟨⟨.inr ⟨_, rfl⟩, .inl rfl⟩, .inl rfl, .inl rfl⟩
  · exact checked_textList
  · exact checked_anyTruth

theorem checked_errorHandling (fits : ∀ value, lookup ["max_errors"] v = some value → Fits value) :
    Checked basicValidators (Schema.ofValue errorSchema) v := by
  refine checked_fields fun entries isMap field member value found => ?_
  subst isMap
  simp only [List.mem_cons, List.not_mem_nil, or_false] at member
  rcases member with rfl | rfl | rfl
  · exact checked_text rfl ⟨⟨.inl rfl, .inl rfl⟩, .inl rfl, .inr ⟨_, rfl⟩⟩
  · exact checked_anyTruth
  · exact checked_integer (fits value (Option.bind_eq_some_iff.mpr ⟨value, found, rfl⟩))

/-- The default schema finds errors, or none, in every value whose integers are within the range of doubles. -/
theorem checked_defaultSchema (fits : IntegersFit v) :
    Checked basicValidators (Schema.ofValue defaultSchema) v := by
  refine checked_fields fun entries isMap field member value found => ?_
  subst isMap
  have below {name : String} {rest : List String} (isPath : name :: rest ∈ integerPaths)
      (isField : field.1 = name) : ∀ inner, lookup rest value = some inner → Fits inner := by
    intro inner isInner
    subst isField
    exact fits _ isPath inner (Option.bind_eq_some_iff.mpr ⟨value, found, isInner⟩)
  simp only [List.mem_cons, List.not_mem_nil, or_false] at member
  rcases member with rfl | rfl | rfl | rfl | rfl | rfl
  · exact checked_anyMapping
  · exact checked_anyMapping
  · exact checked_anyList
  · exact checked_transforms (below (by decide) rfl)
  · exact checked_errorHandling (below (by decide) rfl)
  · exact checked_anyMapping

end Configuration

end StyleRules
