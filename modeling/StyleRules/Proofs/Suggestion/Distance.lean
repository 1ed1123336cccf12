import Mathlib.Order.Bounds.Basic
import Mathlib.Order.MinMax
import StyleRules.Suggestion.Distance

/-!
# The distance as a number of edits

An edit inserts, deletes or substitutes a single character.  The rows from which the distance of two texts is
computed hold the least numbers of edits between the beginnings of the texts, so the distance is the least number
of edits that turn one text into the other.
-/

namespace StyleRules.Text

variable {s t u : List Char} {n : Nat}

/-! ## Edits -/

/-- A single character is inserted, deleted or substituted. -/
inductive Edit : List Char → List Char → Prop where
  | insert (before after : List Char) (c : Char) : Edit (before ++ after) (before ++ c :: after)
  | delete (before after : List Char) (c : Char) : Edit (before ++ c :: after) (before ++ after)
  | substitute (before after : List Char) (a b : Char) : Edit (before ++ a :: after) (before ++ b :: after)

/-- A number of edits, one after the other. -/
inductive Edits : Nat → List Char → List Char → Prop where
  | none (s : List Char) : Edits 0 s s
  | step {n : Nat} {s t u : List Char} (first : Edit s t) (others : Edits n t u) : Edits (n + 1) s u

theorem Edit.symm (edit : Edit s t) : Edit t s := by
  cases edit with
  | insert before after c => exact .delete before after c
  | delete before after c => exact .insert before after c
  | substitute before after a b => exact .substitute before after b a

theorem Edit.cons (c : Char) (edit : Edit s t) : Edit (c :: s) (c :: t) := by
  cases edit with
  | insert before after a => exact .insert (c :: before) after a
  | delete before after a => exact .delete (c :: before) after a
  | substitute before after a b => exact .substitute (c :: before) after a b

theorem Edit.reverse (edit : Edit s t) : Edit s.reverse t.reverse := by
  cases edit with
  | insert before after c => simpa using Edit.insert after.reverse before.reverse c
  | delete before after c => simpa using Edit.delete after.reverse before.reverse c
  | substitute before after a b => simpa using Edit.substitute after.reverse before.reverse a b

theorem Edit.length_le (edit : Edit s t) : t.length ≤ s.length + 1 := by
  cases edit <;> simp only [List.length_append, List.length_cons] <;> omega

namespace Edits

theorem concat (edits : Edits n s t) (last : Edit t u) : Edits (n + 1) s u := by
  induction edits with
  | none s => exact .step last (.none u)
  | step first _ ih => exact .step first (ih last)

theorem symm (edits : Edits n s t) : Edits n t s := by
  induction edits with
  | none s => exact .none s
  | step first _ ih => exact ih.concat first.symm

theorem cons (c : Char) (edits : Edits n s t) : Edits n (c :: s) (c :: t) := by
  induction edits with
  | none s => exact .none (c :: s)
  | step first _ ih => exact .step (first.cons c) ih

theorem reverse (edits : Edits n s t) : Edits n s.reverse t.reverse := by
  induction edits with
  | none s => exact .none s.reverse
  | step first _ ih => exact .step first.reverse ih

theorem reverse_iff : Edits n s.reverse t.reverse ↔ Edits n s t :=
  ⟨fun edits => by simpa using edits.reverse, reverse⟩

/-- Each edit adds at most one character. -/
theorem length_le (edits : Edits n s t) : t.length ≤ s.length + n := by
  induction edits with
  | none s => exact le_refl _
  | step first _ ih =>
      have := first.length_le
      omega

end Edits

/-! ## The least number of edits -/

/-- The least number of edits, by the first characters: they are matched with each other, or one of them is
inserted or deleted. -/
def cost : List Char → List Char → Nat
  | [], t => t.length
  | s, [] => s.length
  | a :: s, b :: t =>
    min (cost s t + if a = b then 0 else 1) (min (cost (a :: s) t + 1) (cost s (b :: t) + 1))
termination_by s t => s.length + t.length

@[simp]
theorem cost_nil_left (t : List Char) : cost [] t = t.length := by rw [cost]

@[simp]
theorem cost_nil_right (s : List Char) : cost s [] = s.length := by
  cases s with
  | nil => rw [cost]
  | cons a s => rw [cost]; nofun

theorem cost_cons_cons (a b : Char) (s t : List Char) :
    cost (a :: s) (b :: t) =
      min (cost s t + if a = b then 0 else 1) (min (cost (a :: s) t + 1) (cost s (b :: t) + 1)) := by
  rw [cost]

theorem cost_self (s : List Char) : cost s s = 0 := by
  induction s with
  | nil => exact cost_nil_left []
  | cons a s ih => simp [cost_cons_cons, ih]

theorem cost_comm (s t : List Char) : cost s t = cost t s := by
  induction s, t using cost.induct with
  | case1 t => rw [cost_nil_left, cost_nil_right]
  | case2 s _ => rw [cost_nil_left, cost_nil_right]
  | case3 a s b t both right left =>
      rw [cost_cons_cons, cost_cons_cons, both, right, left, min_comm (cost t (a :: s) + 1)]
      simp only [eq_comm]

theorem cost_cons_left_le (c : Char) (s u : List Char) : cost (c :: s) u ≤ cost s u + 1 := by
  cases u with
  | nil => simp
  | cons b u =>
      rw [cost_cons_cons]
      omega

theorem cost_cons_right_le (c : Char) (s u : List Char) : cost s (c :: u) ≤ cost s u + 1 := by
  rw [cost_comm s, cost_comm s]
  exact cost_cons_left_le c u s

theorem cost_le_cons_left (c : Char) (s u : List Char) : cost s u ≤ cost (c :: s) u + 1 := by
  induction u with
  | nil =>
      rw [cost_nil_right, cost_nil_right, List.length_cons]
      omega
  | cons b u ih =>
      have inserted := cost_cons_right_le b s u
      rw [cost_cons_cons]
      omega

theorem cost_le_cons_right (c : Char) (s u : List Char) : cost s u ≤ cost s (c :: u) + 1 := by
  rw [cost_comm s, cost_comm s]
  exact cost_le_cons_left c u s

/-- Equal first characters may be matched outright: whoever deletes or inserts one of them does no better. -/
theorem cost_cons_same (a : Char) (s t : List Char) : cost (a :: s) (a :: t) = cost s t := by
  have left := cost_le_cons_left a s t
  have right := cost_le_cons_right a s t
  rw [cost_cons_cons, if_pos rfl]
  omega

theorem cost_substitute_le (a b : Char) (s u : List Char) : cost (a :: s) u ≤ cost (b :: s) u + 1 := by
  induction u with
  | nil =>
      rw [cost_nil_right, cost_nil_right, List.length_cons, List.length_cons]
      omega
  | cons c u ih =>
      have matched : cost (a :: s) (c :: u) ≤ cost s u + 1 := by
        rw [cost_cons_cons]
        split <;> omega
      have deleted := cost_cons_left_le a s (c :: u)
      have inserted := cost_cons_right_le c (a :: s) u
      rw [cost_cons_cons b]
      omega

/-- A difference of one between the costs of two texts remains behind a common first character. -/
theorem cost_cons_le_cons (c : Char) (near : ∀ u, cost s u ≤ cost t u + 1) (u : List Char) :
    cost (c :: s) u ≤ cost (c :: t) u + 1 := by
  induction u with
  | nil =>
      have := near []
      rw [cost_nil_right, cost_nil_right] at this
      rw [cost_nil_right, cost_nil_right, List.length_cons, List.length_cons]
      omega
  | cons b u ih =>
      have matched := near u
      have deleted := near (b :: u)
      rw [cost_cons_cons, cost_cons_cons]
      omega

theorem cost_append_le_append (before : List Char) (near : ∀ u, cost s u ≤ cost t u + 1) :
    ∀ u, cost (before ++ s) u ≤ cost (before ++ t) u + 1 := by
  induction before with
  | nil => exact near
  | cons c before ih => exact cost_cons_le_cons c ih

theorem Edit.cost_le (edit : Edit s t) (u : List Char) : cost s u ≤ cost t u + 1 := by
  cases edit with
  | insert before after c => exact cost_append_le_append before (cost_le_cons_left c after) u
  | delete before after c => exact cost_append_le_append before (cost_cons_left_le c after) u
  | substitute before after a b => exact cost_append_le_append before (cost_substitute_le a b after) u

theorem Edits.cost_le (edits : Edits n s t) : cost s t ≤ n := by
  induction edits with
  | none s => exact (cost_self s).le
  | @step n s t u first _ ih =>
      have := first.cost_le u
      omega

theorem edits_insertAll (t : List Char) : Edits t.length [] t := by
  induction t with
  | nil => exact .none []
  | cons b t ih => exact .step (.insert [] [] b) (ih.cons b)

theorem edits_cost (s t : List Char) : Edits (cost s t) s t := by
  induction s, t using cost.induct with
  | case1 t =>
      rw [cost_nil_left]
      exact edits_insertAll t
  | case2 s _ =>
      rw [cost_nil_right]
      exact (edits_insertAll s).symm
  | case3 a s b t both right left =>
      have matched : Edits (cost s t + if a = b then 0 else 1) (a :: s) (b :: t) := by
        split
        · rename_i same
          exact same ▸ both.cons a
        · exact .step (.substitute [] s a b) (both.cons b)
      have inserted : Edits (cost (a :: s) t + 1) (a :: s) (b :: t) :=
        .step (.insert [] (a :: s) b) (right.cons b)
      have deleted : Edits (cost s (b :: t) + 1) (a :: s) (b :: t) := .step (.delete [] s a) left
      rw [cost_cons_cons]
      rcases min_choice (cost s t + if a = b then 0 else 1)
        (min (cost (a :: s) t + 1) (cost s (b :: t) + 1)) with isLeast | isLeast
      · rwa [isLeast]
      · rw [isLeast]
        rcases min_choice (cost (a :: s) t + 1) (cost s (b :: t) + 1) with isLess | isLess <;> rwa [isLess]

/-! ## The rows of the table -/

/-- The row of costs for the beginnings of a text, where `passed` holds the characters already passed and `other`
those read of the other text, nearest first. -/
def costRow (other passed : List Char) : List Char → List Nat
  | [] => [cost passed other]
  | a :: chars => cost passed other :: costRow other (a :: passed) chars

theorem costRow_eq_cons (other passed chars : List Char) :
    costRow other passed chars = cost passed other :: (costRow other passed chars).tail := by
  cases chars <;> rfl

/-- The last entry of a row belongs to the whole text. -/
theorem getLastD_costRow (other passed chars : List Char) (default : Nat) :
    (costRow other passed chars).getLastD default = cost (chars.reverse ++ passed) other := by
  induction chars generalizing passed default with
  | nil => rfl
  | cons a chars ih => rw [costRow, List.getLastD_cons, ih, List.reverse_cons, List.append_cons]

theorem costRow_nil (passed chars : List Char) :
    costRow [] passed chars = List.range' passed.length (chars.length + 1) := by
  induction chars generalizing passed with
  | nil => simp [costRow]
  | cons a chars ih =>
      rw [costRow, ih, cost_nil_right]
      exact List.range'_succ.symm

theorem continueRow_costRow (c : Char) (other passed chars : List Char) :
    continueRow c chars (cost passed other) (cost passed (c :: other)) (costRow other passed chars).tail =
      (costRow (c :: other) passed chars).tail := by
  induction chars generalizing passed with
  | nil => rfl
  | cons a chars ih =>
      have here : (if a = c then cost passed other
          else 1 + min (cost passed other) (min (cost passed (c :: other)) (cost (a :: passed) other))) =
          cost (a :: passed) (c :: other) := by
        split
        · rename_i same
          rw [same, cost_cons_same]
        · rename_i different
          rw [cost_cons_cons, if_neg different]
          omega
      rw [costRow, costRow, List.tail_cons, List.tail_cons, costRow_eq_cons, costRow_eq_cons (c :: other),
        continueRow, here, ih]

theorem nextRow_costRow (c : Char) (other chars : List Char) :
    nextRow chars c (costRow other [] chars) = costRow (c :: other) [] chars := by
  have continued := continueRow_costRow c other [] chars
  rw [cost_nil_left, cost_nil_left, List.length_cons] at continued
  rw [costRow_eq_cons, costRow_eq_cons (c :: other), nextRow, cost_nil_left, cost_nil_left, List.length_cons,
    continued]

/-- The characters of the other text are read one by one; the last one read is the nearest. -/
theorem lastRow_eq_costRow (chars others : List Char) : lastRow chars others = costRow others.reverse [] chars := by
  have fromRow (read : List Char) :
      others.foldl (fun row c => nextRow chars c row) (costRow read [] chars) =
        costRow (others.reverse ++ read) [] chars := by
    induction others generalizing read with
    | nil => rfl
    | cons c others ih =>
        rw [List.foldl_cons, nextRow_costRow, ih, List.reverse_cons, ← List.append_cons]
  have isFirst : firstRow chars = costRow [] [] chars := by
    rw [costRow_nil, firstRow, List.range_eq_range', List.length_nil]
  rw [lastRow, isFirst, fromRow, List.append_nil]

/-! ## The distance -/

theorem distance_eq_cost (s t : String) : distance s t = cost s.toList.reverse t.toList.reverse := by
  rw [distance, lastRow_eq_costRow, getLastD_costRow, List.append_nil]

theorem edits_distance (s t : String) : Edits (distance s t) s.toList t.toList := by
  rw [distance_eq_cost]
  exact Edits.reverse_iff.mp (edits_cost _ _)

theorem Edits.distance_le {s t : String} (edits : Edits n s.toList t.toList) : distance s t ≤ n := by
  rw [distance_eq_cost]
  exact edits.reverse.cost_le

/-- The distance is the least number of insertions, deletions and substitutions of single characters that turn one
text into the other. -/
theorem distance_isLeast (s t : String) : IsLeast {n | Edits n s.toList t.toList} (distance s t) :=
  ⟨edits_distance s t, fun _ edits => edits.distance_le⟩

example : distance "kitten" "sitting" = 3 := by decide

theorem distance_comm (s t : String) : distance s t = distance t s :=
  le_antisymm (edits_distance t s).symm.distance_le (edits_distance s t).symm.distance_le

end StyleRules.Text
