import StyleRules.Proofs.Json.Reordering

/-!
# Mappings of texts and integers

Where all values are texts and integers there is no order inside of a value.  Such mappings are the same JSON exactly
when they have the same entries in some order.
-/

namespace StyleRules.Json

variable {entries first second : List (Value × Value)}

/-- A text or an integer. -/
def IsPlainScalar (v : Value) : Prop := v.IsText ∨ ∃ n, v = .int n

/-- Different texts as keys, and texts and integers as values. -/
structure Flat (entries : List (Value × Value)) : Prop where
  texts : Mapping.TextKeys entries
  distinct : (Mapping.keys entries).Nodup
  values : ∀ entry ∈ entries, IsPlainScalar entry.2

theorem flat_fields {fields : List (String × Value)} (distinct : (fields.map (·.1)).Nodup)
    (values : ∀ field ∈ fields, IsPlainScalar field.2) : Flat (fields.map fun (name, value) => (.str name, value)) := by
  have keys : Mapping.keys (fields.map fun (name, value) => (Value.str name, value)) =
      (fields.map (·.1)).map .str := by
    rw [Mapping.keys, List.map_map, List.map_map]
    rfl
  refine ⟨?_, ?_, ?_⟩
  · intro key member
    rw [keys] at member
    obtain ⟨name, _, rfl⟩ := List.mem_map.mp member
    exact ⟨name, rfl⟩
  · rw [keys]
    exact distinct.map fun _ _ same => Value.str.inj same
  · intro entry member
    obtain ⟨field, isField, rfl⟩ := List.mem_map.mp member
    exact values field isField

theorem Flat.perm (flat : Flat first) (permuted : second.Perm first) : Flat second where
  texts := fun key member => flat.texts key ((permuted.map _).subset member)
  distinct := (permuted.map _).nodup_iff.mpr flat.distinct
  values := fun entry member => flat.values entry (permuted.subset member)

theorem Flat.isJson (flat : Flat entries) : IsJson (.map entries) := by
  refine .map flat.texts flat.distinct fun entry member => ?_
  rcases flat.values entry member with ⟨text, isText⟩ | ⟨n, isInteger⟩
  · rw [isText]
    exact .str text
  · rw [isInteger]
    exact .int n

theorem IsPlainScalar.eq_of_reordered {v w : Value} (isPlain : IsPlainScalar v) (reordered : Reordered v w) :
    v = w := by
  rcases isPlain with ⟨text, rfl⟩ | ⟨n, rfl⟩ <;> cases reordered <;> rfl

/-- Reordering a flat mapping moves its entries only. -/
theorem Flat.perm_of_reordered (flat : Flat first) (otherFlat : Flat second)
    (reordered : Reordered (.map first) (.map second)) : first.Perm second := by
  obtain ⟨names, values, distinct, rfl⟩ := Mapping.exists_ofNames flat.texts flat.distinct
  obtain ⟨others, otherValues, otherDistinct, rfl⟩ := Mapping.exists_ofNames otherFlat.texts otherFlat.distinct
  obtain ⟨permuted, each⟩ := (reordered_ofNames distinct otherDistinct).mp reordered
  have sameValue : ∀ name ∈ names, values name = otherValues name := fun name member =>
    (Mapping.forall_mem_ofNames.mp flat.values name member).eq_of_reordered (each name member)
  have sameEntries : Mapping.ofNames names values = Mapping.ofNames names otherValues :=
    List.map_congr_left fun name member => by rw [sameValue name member]
  rw [sameEntries]
  exact permuted.map _

end StyleRules.Json
