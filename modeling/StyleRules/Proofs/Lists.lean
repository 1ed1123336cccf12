import Mathlib.Data.List.Forall2
import Mathlib.Data.List.Nodup
import StyleRules.Failure

/-!
# Lists

A list is read item by item, by an operation that may refuse items; the results stand in the order of the items.
Lists are related item by item, looked up, and cut at a mark.
-/

namespace StyleRules

section Reading

variable {α β : Type} {f : α → Outcome β} {reason : Failure}

theorem mapM_error_eq {items : List α} {other : Failure}
    (oneReason : ∀ item other, f item = .error other → other = reason)
    (failed : items.mapM f = .error other) : other = reason := by
  induction items with
  | nil => cases failed
  | cons item rest ih =>
      rw [List.mapM_cons] at failed
      cases read : f item with
      | error failure =>
          rw [read] at failed
          cases failed
          exact oneReason item other read
      | ok result =>
          rw [read] at failed
          cases readRest : rest.mapM f with
          | error failure =>
              rw [readRest] at failed
              cases failed
              exact ih readRest
          | ok results =>
              rw [readRest] at failed
              cases failed

/-- Permuted items are read into permuted results, or are refused for the one reason there is. -/
theorem mapM_perm {first second : List α}
    (oneReason : ∀ item other, f item = .error other → other = reason)
    (permuted : first.Perm second) :
    (∃ results others, first.mapM f = .ok results ∧ second.mapM f = .ok others ∧
        results.Perm others) ∨
      first.mapM f = .error reason ∧ second.mapM f = .error reason := by
  induction permuted with
  | nil => exact Or.inl ⟨[], [], rfl, rfl, List.Perm.refl []⟩
  | cons item _ ih =>
      rw [List.mapM_cons, List.mapM_cons]
      cases read : f item with
      | error other =>
          rw [oneReason item other read]
          exact Or.inr ⟨rfl, rfl⟩
      | ok result =>
          rcases ih with ⟨results, others, firstRead, secondRead, same⟩ | ⟨firstFails, secondFails⟩
          · rw [firstRead, secondRead]
            exact Or.inl ⟨result :: results, result :: others, rfl, rfl, same.cons result⟩
          · rw [firstFails, secondFails]
            exact Or.inr ⟨rfl, rfl⟩
  | swap item other rest =>
      simp only [List.mapM_cons]
      cases readItem : f item with
      | error failure =>
          cases readOther : f other with
          | error failure' =>
              rw [oneReason item failure readItem, oneReason other failure' readOther]
              exact Or.inr ⟨rfl, rfl⟩
          | ok result =>
              rw [oneReason item failure readItem]
              exact Or.inr ⟨rfl, rfl⟩
      | ok result =>
          cases readOther : f other with
          | error failure =>
              rw [oneReason other failure readOther]
              exact Or.inr ⟨rfl, rfl⟩
          | ok otherResult =>
              cases readRest : rest.mapM f with
              | error failure =>
                  rw [mapM_error_eq oneReason readRest]
                  exact Or.inr ⟨rfl, rfl⟩
              | ok results =>
                  exact Or.inl ⟨otherResult :: result :: results, result :: otherResult :: results, rfl, rfl,
                    List.Perm.swap _ _ _⟩
  | trans _ _ firstIh secondIh =>
      rcases firstIh with ⟨results, others, firstRead, middleRead, same⟩ | ⟨firstFails, middleFails⟩
      · rcases secondIh with ⟨middles, lasts, middleAgain, lastRead, sameAgain⟩ | ⟨middleFails, _⟩
        · rw [middleRead] at middleAgain
          cases middleAgain
          exact Or.inl ⟨results, lasts, firstRead, lastRead, same.trans sameAgain⟩
        · rw [middleRead] at middleFails
          cases middleFails
      · rcases secondIh with ⟨middles, lasts, middleAgain, _, _⟩ | ⟨_, lastFails⟩
        · rw [middleFails] at middleAgain
          cases middleAgain
        · exact Or.inr ⟨firstFails, lastFails⟩

theorem mapM_ok_map {γ : Type} {key : α → γ} {shown : β → γ} {items : List α} {results : List β}
    (keeps : ∀ item result, f item = .ok result → shown result = key item)
    (read : items.mapM f = .ok results) : results.map shown = items.map key := by
  induction items generalizing results with
  | nil =>
      cases read
      rfl
  | cons item rest ih =>
      rw [List.mapM_cons] at read
      obtain ⟨result, first, read⟩ := Outcome.bind_ok read
      obtain ⟨others, restRead, read⟩ := Outcome.bind_ok read
      cases read
      rw [List.map_cons, List.map_cons, keeps item result first, ih restRead]

theorem mem_of_lookup {α β : Type} [BEq α] [LawfulBEq α] {key : α} {value : β} {table : List (α × β)}
    (found : table.lookup key = some value) : (key, value) ∈ table := by
  obtain ⟨before, after, isSplit, _⟩ := List.lookup_eq_some_iff.mp found
  rw [isSplit]
  exact List.mem_append_right before List.mem_cons_self

theorem lookup_perm {entries others : List (String × String)} (name : String)
    (distinct : (entries.map Prod.fst).Nodup) (permuted : entries.Perm others) :
    entries.lookup name = others.lookup name := by
  induction permuted with
  | nil => rfl
  | cons entry _ ih =>
      rw [List.map_cons, List.nodup_cons] at distinct
      rw [List.lookup_cons, List.lookup_cons, ih distinct.2]
  | swap entry other rest =>
      simp only [List.map_cons, List.nodup_cons, List.mem_cons, not_or] at distinct
      obtain ⟨⟨different, _⟩, _⟩ := distinct
      rw [List.lookup_cons, List.lookup_cons, List.lookup_cons, List.lookup_cons]
      by_cases isEntry : name = entry.1
      · have notOther : (name == other.1) = false := by
          rw [isEntry]
          exact beq_eq_false_iff_ne.mpr (Ne.symm different)
        rw [notOther]
      · have notEntry : (name == entry.1) = false := beq_eq_false_iff_ne.mpr isEntry
        rw [notEntry]
  | trans firstPermuted _ firstIh secondIh =>
      exact (firstIh distinct).trans (secondIh ((firstPermuted.map Prod.fst).nodup_iff.mp distinct))

theorem mapM_ok_iff (f : α → Outcome β) (items : List α) :
    (∃ results, items.mapM f = .ok results) ↔ ∀ item ∈ items, ∃ result, f item = .ok result := by
  induction items with
  | nil => simp [pure, Except.pure]
  | cons item rest ih =>
      rw [List.mapM_cons, List.forall_mem_cons, ← ih]
      cases first : f item with
      | error reason => simp [bind, Except.bind]
      | ok result => cases others : rest.mapM f <;> simp [bind, Except.bind, pure, Except.pure]

end Reading

theorem mapM_eq_pure_map {m : Type → Type} [Monad m] [LawfulMonad m] {α β : Type} {f : α → m β} {g : α → β}
    {items : List α} (each : ∀ item ∈ items, f item = pure (g item)) :
    items.mapM f = pure (items.map g) := by
  induction items with
  | nil => exact List.mapM_nil
  | cons item others ih =>
      obtain ⟨first, further⟩ := List.forall_mem_cons.mp each
      rw [List.mapM_cons, first, ih further, List.map_cons]
      simp only [pure_bind]

theorem exists_of_forall₂ {α β : Type} {related : α → β → Prop} {xs : List α} {ys : List β}
    (each : List.Forall₂ related xs ys) : ∀ x ∈ xs, ∃ y ∈ ys, related x y := by
  induction each with
  | nil => nofun
  | @cons x y xs ys first _ ih =>
      refine List.forall_mem_cons.mpr ⟨⟨y, List.mem_cons_self, first⟩, fun other member => ?_⟩
      obtain ⟨partner, among, isRelated⟩ := ih other member
      exact ⟨partner, List.mem_cons_of_mem _ among, isRelated⟩

theorem mapM_eq_some_iff {α β : Type} {f : α → Option β} {items : List α} {results : List β} :
    items.mapM f = some results ↔ List.Forall₂ (fun item result => f item = some result) items results := by
  induction items generalizing results with
  | nil => simp [eq_comm]
  | cons item rest ih =>
      rw [List.mapM_cons, List.forall₂_cons_left_iff]
      cases first : f item with
      | none => simp
      | some result =>
          cases others : rest.mapM f with
          | none => simp [← ih, others]
          | some found => simp [← ih, others, eq_comm]

theorem nodup_eraseDups {α : Type} [BEq α] [LawfulBEq α] (items : List α) : items.eraseDups.Nodup := by
  -- behind its first item, the list without duplicates is that of a filtered list, so the induction is on the length
  induction length : items.length using Nat.strongRecOn generalizing items with
  | ind n ih =>
      cases items with
      | nil => exact List.nodup_nil
      | cons first rest =>
          rw [List.eraseDups_cons, List.nodup_cons]
          refine ⟨fun again => ?_, ih _ ?_ _ rfl⟩
          · simpa using List.mem_eraseDups.mp again
          · rw [← length, List.length_cons]
            exact Nat.lt_succ_of_le (List.length_filter_le _ rest)

theorem forall_ne_of_notMem {α : Type} [DecidableEq α] {mark : α} {items : List α} (notIn : mark ∉ items) :
    ∀ item ∈ items, decide (item ≠ mark) = true := by
  intro item member
  rw [decide_eq_true_eq]
  rintro rfl
  exact notIn member

theorem takeWhile_stop {α : Type} {p : α → Bool} {mark : α} (stops : p mark = false) (front rest : List α) :
    (front ++ mark :: rest).takeWhile p = front.takeWhile p ∧
      (front ++ mark :: rest).dropWhile p = front.dropWhile p ++ mark :: rest := by
  induction front with
  | nil => simp [stops]
  | cons item others ih => cases keeps : p item <;> simp [keeps, ih]

/-- Where two lists are cut at two places, one of the places is not behind the other one. -/
theorem append_eq_append_cases {α : Type} {front back taken rest : List α} (same : front ++ back = taken ++ rest) :
    (∃ more, front = taken ++ more ∧ rest = more ++ back) ∨
      ∃ reached, reached ≠ [] ∧ taken = front ++ reached ∧ back = reached ++ rest := by
  rcases List.append_eq_append_iff.mp same with ⟨reached, isTaken, isBack⟩ | ⟨more, isFront, isRest⟩
  · by_cases nothing : reached = []
    · exact .inl ⟨[], by simp [isTaken, nothing], by simp [isBack, nothing]⟩
    · exact .inr ⟨reached, nothing, isTaken, isBack⟩
  · exact .inl ⟨more, isFront, isRest⟩

theorem append_singleton_cases {α : Type} {front taken rest : List α} {last : α}
    (same : front ++ [last] = taken ++ rest) :
    (∃ more, front = taken ++ more ∧ rest = more ++ [last]) ∨ taken = front ++ [last] ∧ rest = [] := by
  rcases append_eq_append_cases same with further | ⟨reached, nonempty, rfl, isLast⟩
  · exact .inl further
  · obtain ⟨first, others, rfl⟩ := List.exists_cons_of_ne_nil nonempty
    obtain ⟨rfl, nothing⟩ := List.cons.inj isLast
    obtain ⟨rfl, rfl⟩ := List.append_eq_nil_iff.mp nothing.symm
    exact .inr ⟨rfl, rfl⟩

/-- Lists are cut at a mark in one way only, if neither of the ends is found behind the mark in the other. -/
theorem append_separated {α : Type} {first second rest others : List α} {mark : α}
    (notWithin : ∀ more, rest ≠ more ++ mark :: others) (notAround : ∀ more, others ≠ more ++ mark :: rest)
    (same : first ++ mark :: rest = second ++ mark :: others) : first = second ∧ rest = others := by
  rcases List.append_eq_append_iff.mp same with ⟨between, isSecond, isRest⟩ | ⟨between, isFirst, isRest⟩
  · cases between with
    | nil => exact ⟨by simpa using isSecond.symm, by simpa using isRest⟩
    | cons c more => exact absurd (List.cons.inj isRest).2 (notWithin more)
  · cases between with
    | nil => exact ⟨by simpa using isFirst, by simpa using isRest.symm⟩
    | cons c more => exact absurd (List.cons.inj isRest).2 (notAround more)

end StyleRules
