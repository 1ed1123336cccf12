import StyleRules.Proofs.Json.ReadBack
import StyleRules.Proofs.Lists

/-!
# Equality of values that JSON can hold

Such a value is equal to itself.  A text, and a list of texts, is equal to no other one; a truth value is, as
it counts as a number.
-/

namespace StyleRules

namespace Value

theorem eqEntries_iff {xs ys : List (Value × Value)} :
    eqEntries xs ys = true ↔
      ∀ entry ∈ xs, ∃ other ∈ ys, entry.1.eq other.1 = true ∧ entry.2.eq other.2 = true := by
  induction xs with
  | nil => simp [eqEntries]
  | cons entry rest ih =>
      obtain ⟨key, value⟩ := entry
      simp [eqEntries, ih, -Prod.exists]

theorem eqItems_refl {items : List Value} (each : ∀ item ∈ items, item.eq item = true) :
    eqItems items items = true := by
  induction items with
  | nil => rfl
  | cons item rest ih =>
      obtain ⟨first, others⟩ := List.forall_mem_cons.mp each
      simp [eqItems, first, ih others]

/-- Mappings are equal when their entries are, one after the other. -/
theorem eq_map_of_forall₂ {xs ys : List (Value × Value)} (texts : Mapping.TextKeys xs)
    (each : List.Forall₂ (fun x y => x.1 = y.1 ∧ x.2.eq y.2 = true) xs ys) :
    (Value.map xs).eq (.map ys) = true := by
  have entries : eqEntries xs ys = true := by
    refine eqEntries_iff.mpr fun entry member => ?_
    obtain ⟨other, among, sameKey, equal⟩ := exists_of_forall₂ each entry member
    have isText := texts entry.1 (List.mem_map_of_mem member)
    exact ⟨other, among, isText.eq_iff.mpr sameKey, equal⟩
  simp [eq, each.length_eq, entries]

theorem eq_refl {v : Value} (isJson : IsJson v) : v.eq v = true := by
  induction isJson with
  | null => simp [eq]
  | bool b => simp [eq, number?, Number.compare?]
  | int n => simp [eq, number?, Number.compare?]
  | str s => simp
  | list each ih => simpa [eq] using eqItems_refl ih
  | map texts distinct each ih =>
      exact eq_map_of_forall₂ texts (List.forall₂_same.mpr fun entry member => ⟨rfl, ih entry member⟩)

theorem eqItems_texts {items : List Value} {names : List String} :
    eqItems items (names.map .str) = true ↔ items = names.map .str := by
  induction items generalizing names with
  | nil => cases names <;> simp [eqItems]
  | cons item rest ih =>
      cases names with
      | nil => simp [eqItems]
      | cons name names => simp [eqItems, ih]

theorem eq_texts {v : Value} {names : List String} (equal : v.eq (.list (names.map .str)) = true) :
    v = .list (names.map .str) := by
  cases v with
  | list items =>
      rw [eq] at equal
      rw [eqItems_texts.mp equal]
  | _ => simp [eq, number?] at equal

end Value

end StyleRules
