import Mathlib.Data.List.Basic
import StyleRules.Proofs.Matcher.Fitting

/-!
# Chains of conditional matchers

A conditional matcher leaves the decision to its fallback when its condition does not hold and when its condition
fails, and the fallback may be a conditional matcher again.  However failures and answers are mixed along such a
chain, it decides as a disjunction: it matches exactly the elements for which some condition holds, or which the
matcher at the end matches, and it does not fail.
-/

namespace StyleRules

theorem Outcome.accepted_iff {outcome : Outcome Value} :
    outcome.accepted = true ↔ ∃ v, outcome = .ok v ∧ v.truthy = true := by
  cases outcome <;> simp [Outcome.accepted]

namespace Matcher

/-! ## Links -/

/-- A conditional matcher without its fallback.  Its condition is there. -/
structure Link where
  ofBreaks : Bool
  condition : Value
  given : condition.isNull = false

/-- What is asked when a condition does not decide.  Null stands for no fallback. -/
def fallbackAnswer (fallback element : Value) : Option (Outcome Value) :=
  if fallback.isNull then none else some (fallback.matches element)

/-- The decision of a fallback: none does not match, and neither does one that fails. -/
def guarded : Option (Outcome Value) → Outcome Value
  | some (.ok v) => .ok (.bool v.truthy)
  | some (.error _) => .ok (.bool false)
  | none => .ok (.bool false)

/-- What a link answers, with functions that answer in any way, when its fallback gives an answer. -/
def Link.answer (answers : Answers) (element : Value) (link : Link) (fallback : Option (Outcome Value)) :
    Outcome Value :=
  match answers link.condition [element] with
  | .error _ => guarded fallback
  | .ok v => if v.truthy then .ok (.bool true) else guarded fallback

theorem guarded_eq (fallback : Option (Outcome Value)) :
    guarded fallback = .ok (.bool (fallback.any Outcome.accepted)) := by
  match fallback with
  | none => rfl
  | some (.error _) => rfl
  | some (.ok _) => rfl

/-- A link matches when its condition holds or its fallback matches. -/
theorem Link.answer_eq (answers : Answers) (element : Value) (link : Link) (fallback : Option (Outcome Value)) :
    link.answer answers element fallback =
      .ok (.bool ((answers link.condition [element]).accepted || fallback.any Outcome.accepted)) := by
  rw [Link.answer, guarded_eq]
  cases answers link.condition [element] with
  | error reason => rfl
  | ok v => cases holds : v.truthy <;> simp [Outcome.accepted, holds]

/-- A conditional matcher with a condition answers as its link. -/
theorem matches_conditional (link : Link) (fallback element : Value) :
    (Matcher.conditional link.ofBreaks link.condition fallback).matches element =
      link.answer Value.call element (fallbackAnswer fallback element) := by
  have decided : (fallbackAnswer fallback element).any Outcome.accepted = (fallback.matches element).accepted := by
    rw [fallbackAnswer]
    cases fallback <;> rfl
  rw [Link.answer_eq, decided, Matcher.matches, link.given, Bool.not_false, Bool.true_and]

/-! ## Chains -/

/-- Conditional matchers, each with the next one as its fallback.  The last of them falls back to the given value. -/
def chain (last : Value) : List Link → Value
  | [] => last
  | link :: rest => .matcher (.conditional link.ofBreaks link.condition (chain last rest))

/-- What a chain answers, with functions that answer in any way, when its end gives an answer. -/
def chainAnswer (answers : Answers) (element : Value) (ending : Option (Outcome Value)) :
    List Link → Option (Outcome Value)
  | [] => ending
  | link :: rest => some (link.answer answers element (chainAnswer answers element ending rest))

theorem fallbackAnswer_chain (last element : Value) (links : List Link) :
    fallbackAnswer (chain last links) element =
      chainAnswer Value.call element (fallbackAnswer last element) links := by
  induction links with
  | nil => rfl
  | cons link rest ih =>
      rw [chainAnswer, ← ih, ← matches_conditional]
      rfl

/-- Some condition holds, or the end of the chain accepts. -/
def SomeAccepts (answers : Answers) (element : Value) (ending : Option (Outcome Value)) (links : List Link) : Prop :=
  (∃ link ∈ links, ∃ v, answers link.condition [element] = .ok v ∧ v.truthy = true) ∨
    ∃ v, ending = some (.ok v) ∧ v.truthy = true

theorem chainAnswer_accepted_iff (answers : Answers) (element : Value) (ending : Option (Outcome Value))
    (links : List Link) : (chainAnswer answers element ending links).any Outcome.accepted = true ↔
      SomeAccepts answers element ending links := by
  induction links with
  | nil => cases ending <;> simp [chainAnswer, SomeAccepts, Outcome.accepted_iff]
  | cons link rest ih =>
      rw [chainAnswer, Option.any_some, Link.answer_eq]
      change ((answers link.condition [element]).accepted ||
        (chainAnswer answers element ending rest).any Outcome.accepted) = true ↔ _
      rw [Bool.or_eq_true, ih, Outcome.accepted_iff, SomeAccepts, SomeAccepts, List.exists_mem_cons_iff, or_assoc]

theorem chainAnswer_decides (answers : Answers) (element : Value) (ending : Option (Outcome Value))
    (first : Link) (rest : List Link) :
    ∃ verdict, chainAnswer answers element ending (first :: rest) = some (.ok (.bool verdict)) ∧
      (verdict = true ↔ SomeAccepts answers element ending (first :: rest)) := by
  refine ⟨_, congrArg some (Link.answer_eq answers element first _), ?_⟩
  rw [← chainAnswer_accepted_iff, chainAnswer, Option.any_some, Link.answer_eq]
  rfl

/-- A chain of conditional matchers does not fail, and it matches exactly the elements for which some condition holds
or which the value at its end matches; this is so for functions and an end that answer in any way. -/
theorem chain_decides (first : Link) (rest : List Link) (last element : Value) :
    (∃ verdict, (chain last (first :: rest)).matches element = .ok (.bool verdict) ∧
      (verdict = true ↔
        (∃ link ∈ first :: rest, ∃ v, link.condition.call [element] = .ok v ∧ v.truthy = true) ∨
          ∃ v, last.matches element = .ok v ∧ v.truthy = true)) ∧
    ∀ (answers : Answers) (ending : Option (Outcome Value)),
      ∃ verdict, chainAnswer answers element ending (first :: rest) = some (.ok (.bool verdict)) ∧
        (verdict = true ↔ SomeAccepts answers element ending (first :: rest)) := by
  refine ⟨?_, fun answers ending => chainAnswer_decides answers element ending first rest⟩
  obtain ⟨verdict, answered, decides⟩ :=
    chainAnswer_decides Value.call element (fallbackAnswer last element) first rest
  rw [← fallbackAnswer_chain] at answered
  refine ⟨verdict, Option.some.inj answered, decides.trans (or_congr_right ?_)⟩
  rw [fallbackAnswer]
  cases last <;> simp [Value.isNull, Value.matches, Outcome.noAttribute]

example (reason : Failure) (element : Value) :
    (chain .null [⟨false, .callable (.failing reason), rfl⟩, ⟨true, .callable (.constant (.int 1)), rfl⟩]).matches
      element = .ok (.bool true) := rfl

end Matcher

end StyleRules
