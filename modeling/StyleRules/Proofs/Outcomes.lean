import StyleRules.Failure

/-!
# Failures and results of operations

An operation either fails or gives a result.  Whether a composed operation fails, and what holds of everything
that it can give, is read off its parts.
-/

namespace StyleRules

theorem Failure.isExit_iff {reason : Failure} : reason.isExit = true ↔ ∃ text, reason = .exit text := by
  cases reason <;> simp [isExit]

namespace Outcome

variable {α β : Type}

/-- What follows a choice goes on with the value that was chosen. -/
theorem bind_of_ite {choice : Prop} [Decidable choice] {first second : Outcome α} {next : α → Outcome β} {value : α}
    (chosen : (if choice then first else second) = .ok value) :
    (if choice then first >>= next else second >>= next) = next value := by
  by_cases isFirst : choice
  · rw [if_pos isFirst] at chosen ⊢
    rw [chosen, ok_bind]
  · rw [if_neg isFirst] at chosen ⊢
    rw [chosen, ok_bind]

/-! ## Failing -/

def Fails (outcome : Outcome α) : Prop := ∃ reason, outcome = .error reason

theorem not_fails_ok (value : α) : ¬Fails (.ok value) := nofun

theorem fails_error (reason : Failure) : Fails (.error reason : Outcome α) := ⟨reason, rfl⟩

theorem fails_bind {first : Outcome α} {next : α → Outcome β} :
    (first >>= next).Fails ↔ first.Fails ∨ ∃ value, first = .ok value ∧ (next value).Fails := by
  cases first with
  | error reason => exact iff_of_true ⟨reason, rfl⟩ (.inl ⟨reason, rfl⟩)
  | ok value =>
      rw [ok_bind, or_iff_right (not_fails_ok value)]
      exact ⟨fun fails => ⟨value, rfl, fails⟩, fun ⟨_, same, fails⟩ => Except.ok.inj same ▸ fails⟩

theorem fails_return {first : Outcome α} {result : α → β} :
    (do return result (← first)).Fails ↔ first.Fails := by
  rw [fails_bind, or_iff_left]
  rintro ⟨value, _, fails⟩
  exact not_fails_ok _ fails

/-- Behind a check, the rest only matters if the check holds. -/
theorem fails_check {check rest : Outcome Bool} :
    (do if !(← check) then return false else rest).Fails ↔ check.Fails ∨ check = .ok true ∧ rest.Fails := by
  rw [fails_bind]
  refine or_congr_right ⟨?_, fun ⟨holds, fails⟩ => ⟨true, holds, fails⟩⟩
  rintro ⟨value, checked, fails⟩
  cases value with
  | false => exact absurd fails (not_fails_ok false)
  | true => exact ⟨checked, fails⟩

/-! ## Holding -/

theorem guard_holds_iff {holds : Bool} {rest : Outcome Bool} :
    (if (!holds) = true then pure false else rest) = .ok true ↔ holds = true ∧ rest = .ok true := by
  cases holds
  · exact iff_of_false nofun nofun
  · exact (and_iff_right rfl).symm

theorem check_holds_iff {check rest : Outcome Bool} :
    (do if !(← check) then return false else rest) = .ok true ↔ check = .ok true ∧ rest = .ok true := by
  match check with
  | .error reason => exact iff_of_false nofun nofun
  | .ok false => exact iff_of_false nofun nofun
  | .ok true => exact (and_iff_right rfl).symm

/-! ## What holds of results -/

variable {holds : β → Prop}

/-- Whatever the operation gives has a property. -/
def Ensures (holds : α → Prop) (outcome : Outcome α) : Prop := ∀ value, outcome = .ok value → holds value

theorem Ensures.pure {value : β} (isTrue : holds value) : Ensures holds (pure value) := by
  rintro _ ⟨⟩
  exact isTrue

theorem Ensures.bind {first : Outcome α} {next : α → Outcome β}
    (ensures : ∀ value, first = .ok value → (next value).Ensures holds) : (first >>= next).Ensures holds := by
  intro result succeeded
  obtain ⟨value, isFirst, isNext⟩ := bind_ok succeeded
  exact ensures value isFirst result isNext

theorem ensures_wrongType : Ensures holds wrongType := nofun

/-! ## Ends of the process -/

/-- Whether it fails or not, the operation does not ask for the end of the process. -/
def IsOrdinary (outcome : Outcome α) : Prop := ∀ reason, outcome = .error reason → reason.isExit = false

theorem isOrdinary_error {reason : Failure} (isError : reason.isExit = false) :
    IsOrdinary (.error reason : Outcome α) := by
  rintro _ ⟨⟩
  exact isError

theorem IsOrdinary.bind {first : Outcome α} {next : α → Outcome β} (isOrdinary : first.IsOrdinary)
    (ordinaryNext : ∀ value, first = .ok value → (next value).IsOrdinary) : (first >>= next).IsOrdinary := by
  cases first with
  | error reason => exact isOrdinary_error (isOrdinary reason rfl)
  | ok value => exact ordinaryNext value rfl

end Outcome

end StyleRules
