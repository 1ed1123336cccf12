import StyleRules.Handler
import StyleRules.Proofs.Outcomes
import StyleRules.Proofs.Value.Reading

/-!
# Which events are answered

Every error beneath the handler ends in its answer, with one exception: the rules of an event are counted before
the part that is guarded.  Rules that cannot be counted would fail the run beneath as well, so the guard would have
turned them into an answer.  Only code of others, which configurations refer to, may end the process instead.
-/

namespace StyleRules.Handler

open Orchestrator (Event)

variable {host : Host} {now : String} {entries : List (Value × Value)}

/-- What an event has under `rules`, null when there is nothing. -/
def rulesField (entries : List (Value × Value)) : Value := (Mapping.get? "rules" entries).getD .null

/-- The answer shows the outcome of a run with the status 200, or the text and the class name of the failure
with the status 500. -/
def Answer.Shows (answered : Answer) : Outcome RunOutcome → Prop
  | .ok outcome =>
      answered.toValue = outcome.toValue ∧ outcome.toValue.option "statusCode" = .ok (.int 200)
  | .error reason =>
      answered.toValue =
        .ofFields [("statusCode", .int 500), ("error", .str reason.message),
          ("error_type", .str reason.kind)]

theorem count_rulesField (entries : List (Value × Value)) :
    ((rulesField entries).orElse (.list [])).length = Outcome.wrongType ↔
      (rulesField entries).truthy = true ∧ (rulesField entries).isSequence = false := by
  rw [Value.orElse]
  split
  · rename_i given
    rw [Value.length_wrongType_iff, and_iff_right given]
  · rename_i missing
    simp [Value.length, Outcome.wrongType, missing]

/-- Reading an event counts its rules, so a run fails for rules that cannot be counted. -/
theorem ofValue_uncounted {reason : Failure}
    (uncounted : ((rulesField entries).orElse (.list [])).length = .error reason) :
    ∃ failed, Event.ofValue (.map entries) = .error failed := by
  cases read : Event.ofValue (.map entries) with
  | error failed => exact ⟨failed, rfl⟩
  | ok event =>
      rw [Event.ofValue] at read
      obtain ⟨rules, isRules, read⟩ := Outcome.bind_ok read
      obtain ⟨_, _, read⟩ := Outcome.bind_ok read
      obtain ⟨_, _, read⟩ := Outcome.bind_ok read
      obtain ⟨counted, isCounted, _⟩ := Outcome.bind_ok read
      cases isRules
      rw [rulesField] at uncounted
      rw [uncounted] at isCounted
      cases isCounted

theorem runEvent_uncounted {reason : Failure}
    (uncounted : ((rulesField entries).orElse (.list [])).length = .error reason) :
    ∃ failed, runEvent host now (.map entries) = .error failed := by
  cases ran : runEvent host now (.map entries) with
  | error failed => exact ⟨failed, rfl⟩
  | ok outcome =>
      rw [runEvent] at ran
      obtain ⟨_, _, ran⟩ := Outcome.bind_ok ran
      obtain ⟨_, _, ran⟩ := Outcome.bind_ok ran
      obtain ⟨_, _, ran⟩ := Outcome.bind_ok ran
      obtain ⟨_, _, ran⟩ := Outcome.bind_ok ran
      obtain ⟨_, _, ran⟩ := Outcome.bind_ok ran
      rw [Orchestrator.run] at ran
      obtain ⟨event, isEvent, _⟩ := Outcome.bind_ok ran
      obtain ⟨failed, isFailed⟩ := ofValue_uncounted uncounted
      rw [isFailed] at isEvent
      cases isEvent

/-- The answer that the end of a run makes; when the process is to end, there is none. -/
def Answer.ofRun : Outcome RunOutcome → Outcome Answer
  | .ok outcome => .ok (.completed outcome)
  | .error reason => if reason.isExit then .error reason else .ok (.failed reason)

theorem Answer.ofRun_error_iff {ran : Outcome RunOutcome} {reason : Failure} :
    Answer.ofRun ran = .error reason ↔ ran = .error reason ∧ reason.isExit = true := by
  cases ran with
  | ok outcome => exact ⟨nofun, fun ended => nomatch ended.1⟩
  | error found =>
      rw [ofRun, Except.error.injEq]
      split
      · rename_i isExit
        rw [Except.error.injEq, iff_self_and]
        rintro rfl
        exact isExit
      · rename_i isError
        refine ⟨nofun, ?_⟩
        rintro ⟨rfl, isExit⟩
        exact absurd isExit isError

theorem Answer.shows_ofRun {ran : Outcome RunOutcome} {answered : Answer} (shown : Answer.ofRun ran = .ok answered) :
    answered.Shows ran := by
  cases ran with
  | ok outcome =>
      cases shown
      exact ⟨rfl, rfl⟩
  | error reason =>
      rw [ofRun] at shown
      split at shown
      · cases shown
      · cases shown
        rfl

/-- Counting the rules is all that can fail by itself. -/
theorem answer_eq (host : Host) (now : String) (entries : List (Value × Value)) :
    answer host now (.map entries) =
      ((rulesField entries).orElse (.list [])).length >>= fun _ => Answer.ofRun (runEvent host now (.map entries)) := by
  rw [answer, Value.option, Outcome.ok_bind, rulesField]
  cases (((Mapping.get? "rules" entries).getD .null).orElse (.list [])).length with
  | error reason => rfl
  | ok count => cases runEvent host now (.map entries) <;> rfl

/-- An event is refused when it gives rules that are no sequence, which is a misuse of a type, and the run of such
an event fails by itself; and when the run asks for the end of the process.  Every other event has an answer, which
shows how its run ended. -/
theorem answer_refused_iff (host : Host) (now : String) (entries : List (Value × Value)) :
    ((∃ reason, answer host now (.map entries) = .error reason) ↔
        ((rulesField entries).truthy = true ∧ (rulesField entries).isSequence = false) ∨
          ∃ text, runEvent host now (.map entries) = .error (.exit text)) ∧
      (∀ reason, answer host now (.map entries) = .error reason → reason.isExit = false →
        reason = .misuse .type ∧ ∃ beneath, runEvent host now (.map entries) = .error beneath) ∧
      ∀ answered, answer host now (.map entries) = .ok answered →
        answered.Shows (runEvent host now (.map entries)) := by
  have refused := count_rulesField entries
  rw [answer_eq]
  cases counts : ((rulesField entries).orElse (.list [])).length with
  | ok count =>
      rw [counts] at refused
      have counted : ¬((rulesField entries).truthy = true ∧ (rulesField entries).isSequence = false) :=
        fun given => nomatch refused.mpr given
      simp only [Outcome.ok_bind, Answer.ofRun_error_iff, or_iff_right counted]
      refine ⟨?_, ?_, fun _ => Answer.shows_ofRun⟩
      · constructor
        · rintro ⟨reason, ended, isExit⟩
          obtain ⟨text, rfl⟩ := Failure.isExit_iff.mp isExit
          exact ⟨text, ended⟩
        · rintro ⟨text, ended⟩
          exact ⟨_, ended, rfl⟩
      · rintro reason ⟨_, isExit⟩ isError
        exact absurd isExit (Bool.not_eq_true _ ▸ isError)
  | error reason =>
      obtain rfl : reason = .misuse .type := Value.length_error counts
      refine ⟨⟨fun _ => .inl (refused.mp counts), fun _ => ⟨_, rfl⟩⟩, ?_, nofun⟩
      rintro _ ⟨⟩ _
      exact ⟨rfl, runEvent_uncounted counts⟩

/-- An event whose rules are a number has no answer, although the failure of its run could be shown. -/
theorem answer_number_refused :
    answer .bare "now" (.ofFields [("rules", .int 5)]) = .error (.misuse .type) ∧
      ∃ beneath, runEvent .bare "now" (.ofFields [("rules", .int 5)]) = .error beneath :=
  ⟨rfl, runEvent_uncounted rfl⟩

end StyleRules.Handler
