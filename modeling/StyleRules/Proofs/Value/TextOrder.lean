import Mathlib.Data.List.Sort
import Mathlib.Data.String.Basic
import StyleRules.Value.Compare

/-!
# The order of texts

Texts are compared by the code points of their characters, which is the lexicographic order of texts.  Every
list of texts can be sorted, and sorting gives the same texts in ascending order.
-/

namespace StyleRules

namespace Text

theorem less_go_iff_lt (first second : List Char) : less.go first second = true ↔ first < second := by
  induction first generalizing second with
  | nil => cases second <;> simp [less.go]
  | cons a as ih =>
      cases second with
      | nil => simp [less.go]
      | cons b bs =>
          rw [less.go, List.cons_lt_cons_iff, ← ih bs]
          have byNumber : a.toNat < b.toNat ↔ a < b := Iff.rfl
          by_cases smaller : a < b
          · simp [byNumber, smaller]
          · by_cases same : a = b <;> simp [byNumber, smaller, same]

theorem less_iff_lt (first second : String) : less first second = true ↔ first < second := by
  rw [String.lt_iff_toList_lt]
  exact less_go_iff_lt first.toList second.toList

end Text

namespace Value

/-! ## Sorting -/

section Keys

variable {α β : Type} {key : α → Value}

theorem insertAscending_perm (item : α) (items : List α) :
    (insertAscending key item items).Perm (item :: items) := by
  induction items with
  | nil => exact List.Perm.refl [item]
  | cons first rest ih =>
      rw [insertAscending]
      split
      · exact List.Perm.refl _
      · exact (ih.cons first).trans (List.Perm.swap item first rest)

theorem insertDescending_perm (item : α) (items : List α) :
    (insertDescending key item items).Perm (item :: items) := by
  induction items with
  | nil => exact List.Perm.refl [item]
  | cons first rest ih =>
      rw [insertDescending]
      split
      · exact List.Perm.refl _
      · exact (ih.cons first).trans (List.Perm.swap item first rest)

theorem foldl_insert_perm {insert : α → List α → List α}
    (inserts : ∀ item items, (insert item items).Perm (item :: items)) (items sorted : List α) :
    (items.foldl (fun done item => insert item done) sorted).Perm (items ++ sorted) := by
  induction items generalizing sorted with
  | nil => exact List.Perm.refl sorted
  | cons item rest ih =>
      have inserted : (rest ++ insert item sorted).Perm (rest ++ item :: sorted) :=
        (inserts item sorted).append_left rest
      exact ((ih _).trans inserted).trans List.perm_middle

theorem sortAscending_perm {items sorted : List α} (isSorted : sortAscending key items = .ok sorted) :
    sorted.Perm items := by
  rw [sortAscending] at isSorted
  split at isSorted
  · cases isSorted
    simpa using foldl_insert_perm insertAscending_perm items []
  · cases isSorted

theorem sortDescending_perm {items sorted : List α} (isSorted : sortDescending key items = .ok sorted) :
    sorted.Perm items := by
  rw [sortDescending] at isSorted
  split at isSorted
  · cases isSorted
    simpa using foldl_insert_perm insertDescending_perm items []
  · cases isSorted

/-- Sorting looks at the keys only. -/
theorem insertAscending_map (f : β → α) (item : β) (items : List β) :
    insertAscending key (f item) (items.map f) = (insertAscending (key ∘ f) item items).map f := by
  induction items with
  | nil => rfl
  | cons first rest ih =>
      rw [List.map_cons, insertAscending, insertAscending, ih, apply_ite (List.map f)]
      rfl

theorem foldl_insertAscending_map (f : β → α) (items sorted : List β) :
    (items.map f).foldl (fun done item => insertAscending key item done) (sorted.map f) =
      (items.foldl (fun done item => insertAscending (key ∘ f) item done) sorted).map f := by
  induction items generalizing sorted with
  | nil => rfl
  | cons item rest ih => rw [List.map_cons, List.foldl_cons, insertAscending_map, ih, List.foldl_cons]

theorem sortAscending_map (f : β → α) (items : List β) :
    sortAscending key (items.map f) = (sortAscending (key ∘ f) items).map (List.map f) := by
  rw [sortAscending, sortAscending, List.map_map]
  split
  · exact congrArg Except.ok (foldl_insertAscending_map f items [])
  · rfl

end Keys

/-! ## Sorting texts -/

@[simp]
theorem isLess_str (first second : String) :
    isLess (.str first) (.str second) = decide (first < second) := by
  rw [Bool.eq_iff_iff, decide_eq_true_iff, ← Text.less_iff_lt]
  rfl

theorem allComparable_texts (names : List String) : allComparable (names.map .str) = true := by
  induction names with
  | nil => rfl
  | cons name rest ih =>
      simp only [List.map_cons, allComparable, ih, Bool.and_true, List.all_eq_true, List.mem_map]
      rintro _ ⟨other, _, rfl⟩
      rfl

theorem insertAscending_texts (name : String) (names : List String) :
    insertAscending id (.str name) (names.map .str) =
      (names.orderedInsert (· < ·) name).map .str := by
  induction names with
  | nil => rfl
  | cons first rest ih =>
      by_cases smaller : name < first <;>
        simp [insertAscending, List.orderedInsert, smaller, ih]

theorem pairwise_orderedInsert_texts {name : String} {names : List String}
    (sorted : names.Pairwise (· ≤ ·)) : (names.orderedInsert (· < ·) name).Pairwise (· ≤ ·) := by
  induction names with
  | nil => simp
  | cons first rest ih =>
      obtain ⟨least, restSorted⟩ := List.pairwise_cons.mp sorted
      rw [List.orderedInsert]
      split
      · rename_i smaller
        refine List.pairwise_cons.mpr ⟨?_, sorted⟩
        intro other member
        rcases List.mem_cons.mp member with rfl | further
        · exact le_of_lt smaller
        · exact le_trans (le_of_lt smaller) (least other further)
      · rename_i notSmaller
        refine List.pairwise_cons.mpr ⟨?_, ih restSorted⟩
        intro other member
        have known := (List.perm_orderedInsert (· < ·) name rest).mem_iff.mp member
        rcases List.mem_cons.mp known with rfl | further
        · exact not_lt.mp notSmaller
        · exact least other further

theorem foldl_insertAscending_texts (names sorted : List String)
    (ascending : sorted.Pairwise (· ≤ ·)) :
    ∃ result : List String,
      (names.map .str).foldl (fun done item => insertAscending id item done) (sorted.map .str) =
          result.map .str ∧
        result.Perm (names ++ sorted) ∧ result.Pairwise (· ≤ ·) := by
  induction names generalizing sorted with
  | nil => exact ⟨sorted, rfl, List.Perm.refl sorted, ascending⟩
  | cons name rest ih =>
      obtain ⟨result, folded, permuted, resultSorted⟩ :=
        ih (sorted.orderedInsert (· < ·) name) (pairwise_orderedInsert_texts ascending)
      refine ⟨result, ?_, ?_, resultSorted⟩
      · rw [List.map_cons, List.foldl_cons, insertAscending_texts, folded]
      · have inserted := (List.perm_orderedInsert (· < ·) name sorted).append_left rest
        exact (permuted.trans inserted).trans List.perm_middle

/-- Sorting texts gives the same texts in ascending order. -/
theorem sortAscending_texts (names : List String) :
    ∃ sorted : List String,
      sortAscending id (names.map .str) = .ok (sorted.map .str) ∧
        sorted.Perm names ∧ sorted.Pairwise (· ≤ ·) := by
  obtain ⟨sorted, folded, permuted, ascending⟩ :=
    foldl_insertAscending_texts names [] List.Pairwise.nil
  refine ⟨sorted, ?_, by simpa using permuted, ascending⟩
  rw [sortAscending, List.map_id, if_pos (allComparable_texts names)]
  exact congrArg Except.ok folded

/-- Different texts are sorted into strictly ascending order. -/
theorem sortAscending_distinct_texts {names : List String} (distinct : names.Nodup) :
    ∃ sorted : List String,
      sortAscending id (names.map .str) = .ok (sorted.map .str) ∧
        sorted.Perm names ∧ sorted.Pairwise (· < ·) := by
  obtain ⟨sorted, isSorted, permuted, ascending⟩ := sortAscending_texts names
  refine ⟨sorted, isSorted, permuted, ?_⟩
  have sortedDistinct : sorted.Pairwise (· ≠ ·) := permuted.nodup_iff.mpr distinct
  exact (ascending.and sortedDistinct).imp fun both => lt_of_le_of_ne both.1 both.2

/-! ## Sorting by names -/

theorem sortAscending_str (names : List String) :
    ∃ sorted, sortAscending .str names = .ok sorted ∧ sorted.Perm names ∧ sorted.Pairwise (· ≤ ·) := by
  obtain ⟨sorted, isSorted, permuted, ascending⟩ := sortAscending_texts names
  refine ⟨sorted, ?_, permuted, ascending⟩
  rw [sortAscending_map] at isSorted
  change (sortAscending .str names).map _ = _ at isSorted
  cases found : sortAscending .str names with
  | error reason =>
      rw [found] at isSorted
      cases isSorted
  | ok result =>
      rw [found] at isSorted
      exact congrArg Except.ok (List.map_injective_iff.mpr (fun _ _ => Value.str.inj) (Except.ok.inj isSorted))

/-- Sorting the same names gives the same list. -/
theorem sortAscending_str_perm {names others : List String} (permuted : names.Perm others) :
    sortAscending .str names = sortAscending .str others := by
  obtain ⟨sorted, isSorted, isPerm, ascending⟩ := sortAscending_str names
  obtain ⟨otherSorted, isOther, otherPerm, otherAscending⟩ := sortAscending_str others
  have same := (isPerm.trans permuted).trans otherPerm.symm
  rw [isSorted, isOther, same.eq_of_pairwise' ascending otherAscending]

end Value

end StyleRules
