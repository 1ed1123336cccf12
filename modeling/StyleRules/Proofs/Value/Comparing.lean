import StyleRules.Proofs.Value.TextOrder

/-!
# Which values can be compared

Numbers can be compared with numbers and with nothing else.  Where two keys cannot be compared, items are not sorted,
and neither are they with further ones.
-/

namespace StyleRules.Value

theorem less_of_number {a b : Value} {x y : Number} (first : a.number? = some x) (second : b.number? = some y) :
    less a b = .ok (decide (x.compare? y = some .lt)) := by
  cases a <;> cases first <;> cases b <;> cases second <;> rfl

theorem comparable_of_number {a b : Value} (first : a.number?.isSome = true) (second : b.number?.isSome = true) :
    comparable a b = true := by
  obtain ⟨x, isFirst⟩ := Option.isSome_iff_exists.mp first
  obtain ⟨y, isSecond⟩ := Option.isSome_iff_exists.mp second
  rw [comparable, less_of_number isFirst isSecond]

theorem allComparable_iff_pairwise {keys : List Value} :
    allComparable keys = true ↔ keys.Pairwise fun first second => comparable first second = true := by
  induction keys with
  | nil => exact iff_of_true rfl .nil
  | cons key rest ih => rw [allComparable, Bool.and_eq_true, ih, List.all_eq_true, List.pairwise_cons]

theorem allComparable_of_number {keys : List Value} (numbers : ∀ key ∈ keys, key.number?.isSome = true) :
    allComparable keys = true :=
  allComparable_iff_pairwise.mpr (List.pairwise_of_forall_mem_list fun first isFirst second isSecond =>
    comparable_of_number (numbers first isFirst) (numbers second isSecond))

/-- Keys among which there is an integer can only be compared if all of them are numbers. -/
theorem number_of_allComparable {keys : List Value} {n : Int} (comparable : allComparable keys = true)
    (member : .int n ∈ keys) : ∀ key ∈ keys, key.number?.isSome = true := by
  obtain ⟨before, after, rfl⟩ := List.append_of_mem member
  obtain ⟨_, isAfter, across⟩ := List.pairwise_append.mp (allComparable_iff_pairwise.mp comparable)
  intro key isKey
  rcases List.mem_append.mp isKey with isBefore | further
  · have compared := across key isBefore _ List.mem_cons_self
    cases key <;> first | rfl | cases compared
  · rcases List.mem_cons.mp further with rfl | beyond
    · rfl
    · have compared := (List.pairwise_cons.mp isAfter).1 key beyond
      cases key <;> first | rfl | cases compared

/-! ## Keys that clash -/

variable {α : Type} {key : α → Value} {item : α} {items changed : List α} {reason : Failure}

/-- Two of the keys cannot be compared. -/
def Clash (key : α → Value) (items : List α) : Prop := allComparable (items.map key) = false

theorem Clash.append (clash : Clash key items) (more : List α) : Clash key (items ++ more) := by
  rw [Clash, List.map_append, Bool.eq_false_iff]
  intro together
  have first := (List.pairwise_append.mp (allComparable_iff_pairwise.mp together)).1
  exact Bool.false_ne_true (clash.symm.trans (allComparable_iff_pairwise.mpr first))

theorem sortDescending_error_iff :
    sortDescending key items = .error reason ↔ Clash key items ∧ reason = .misuse .type := by
  rw [sortDescending, Clash]
  cases allComparable (items.map key) with
  | true =>
      constructor
      · rintro ⟨⟩
      · rintro ⟨⟨⟩, _⟩
  | false =>
      rw [if_neg Bool.false_ne_true, and_iff_right rfl, Outcome.wrongType, Except.error.injEq, eq_comm]

/-- Put an item behind the others and sort all of them.  When this fails, the item stays at the end. -/
def addSorted (key : α → Value) (item : α) (items : List α) : Outcome Unit × List α :=
  match sortDescending key (items ++ [item]) with
  | .ok sorted => (.ok (), sorted)
  | .error reason => (.error reason, items ++ [item])

/-- The item is added, whether sorting fails or not. -/
theorem addSorted_perm (key : α → Value) (item : α) (items : List α) :
    (addSorted key item items).2.Perm (items ++ [item]) := by
  rw [addSorted]
  split
  · rename_i sorted isSorted
    exact sortDescending_perm isSorted
  · exact List.Perm.refl _

theorem addSorted_error (failed : (addSorted key item items).1 = .error reason) :
    (addSorted key item items).2 = items ++ [item] ∧ Clash key (items ++ [item]) := by
  rw [addSorted] at failed ⊢
  split at failed
  · cases failed
  · rename_i notSorted
    exact ⟨rfl, (sortDescending_error_iff.mp notSorted).1⟩

/-- Nothing can be sorted into items that clash. -/
theorem Clash.addSorted (clash : Clash key items) (item : α) :
    addSorted key item items = (.error (.misuse .type), items ++ [item]) := by
  rw [Value.addSorted, sortDescending_error_iff.mpr ⟨clash.append [item], rfl⟩]

theorem addSorted_ok (comparable : allComparable ((items ++ [item]).map key) = true) :
    (addSorted key item items).1 = .ok () := by
  rw [addSorted, sortDescending, if_pos comparable]

end StyleRules.Value
