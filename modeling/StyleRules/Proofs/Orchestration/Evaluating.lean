import StyleRules.Proofs.Diagnostics.Reports
import StyleRules.Proofs.Orchestration.Compiling
import StyleRules.Proofs.Transform.Asking

/-!
# Evaluating rules one after the other

Rules ask their matchers about the elements of a document, one rule after the other.  As long as the keys of the
calls tell different work apart, every matcher of a registry answers as it would if nothing were remembered.
-/

namespace StyleRules

namespace Registry

open Engine (Calls Steady Covers Admissible)

variable {base r : Registry} {calls : Calls} {matcher element : Value}

/-- What a matcher answers when nothing is remembered. -/
def freshAnswer (r : Registry) (matcher element : Value) : Outcome Value :=
  match r.engine with
  | none => matcher.matches element
  | some e => e.freshAnswer matcher element

/-- The second registry came from the first one by asking matchers. -/
def Answering (base : Registry) (calls : Calls) (r : Registry) : Prop :=
  base.engine = none ∧ r = base ∨
    ∃ before e, base.engine = some before ∧ r = { base with engine := some e } ∧
      Steady before calls e

theorem Answering.refl (noEntries : ∀ e, base.engine = some e → e.cache.entries = [])
    (calls : Calls) : Answering base calls base := by
  cases engine : base.engine with
  | none => exact Or.inl ⟨engine, rfl⟩
  | some e =>
      refine Or.inr ⟨e, e, engine, ?_, Steady.refl (noEntries e engine) calls⟩
      rw [← engine]

theorem Answering.ask (answering : Answering base calls r)
    (admissible : ∀ e, base.engine = some e → Admissible e calls)
    (covers : Covers calls matcher element) :
    ∃ changed,
      (Registry.ask matcher element).perform r = (base.freshAnswer matcher element, changed) ∧
        Answering base calls changed := by
  rw [freshAnswer]
  rcases answering with ⟨noEngine, rfl⟩ | ⟨before, e, engine, rfl, steady⟩
  · refine ⟨r, ?_, Or.inl ⟨noEngine, rfl⟩⟩
    rw [Registry.ask, withEngine, Action.perform_bind_ok (Action.perform_get r), noEngine]
    rfl
  · obtain ⟨changed, performed, still⟩ := steady.ask (admissible before engine) covers
    refine ⟨{ base with engine := some changed }, ?_, Or.inr ⟨before, changed, engine, rfl, still⟩⟩
    rw [Registry.ask, withEngine_perform _ _ rfl, performed, engine]

end Registry

namespace Orchestrator

open Engine (Calls Covers Admissible)
open Registry (Answering)

variable {base r : Registry} {calls : Calls} {elements : List (List Nat × Value)}

variable {o : Orchestrator} {host : Host} {now : String} {event elements context : Value}
  {rules : List Value} {outcome : RunOutcome}

/-- A run that returns has set up its registry, compiled its rules, and evaluated them.  It shows the messages
of these three steps in this order. -/
theorem run_steps (isEvent : Event.ofValue event = .ok ⟨rules, elements, context⟩)
    (ran : o.run host now event = .ok outcome) :
    ∃ start compiled last trees found ended,
      o.buildRegistry host = .ok start ∧
        (compileFrom host 0 rules).perform start = (.ok compiled, last) ∧
          Tree.forest elements = .ok trees ∧
            (evaluateAll (Tree.walk trees) compiled).perform last = (.ok found, ended) ∧
              outcome.rules = found.map (·.1) ∧
                outcome.messages = ended.setupMessages ++ compiled.flatMap (·.result.messages) ++
                  found.flatMap (·.2) := by
  rw [run, isEvent] at ran
  obtain ⟨_, isRead, ran⟩ := Outcome.bind_ok ran
  cases isRead
  obtain ⟨start, built, ran⟩ := Outcome.bind_ok ran
  have performed : (o.runRules host now ⟨rules, elements, context⟩).perform start =
      (.ok outcome, ((o.runRules host now ⟨rules, elements, context⟩).perform start).2) :=
    Prod.ext ran rfl
  rw [runRules] at performed
  obtain ⟨compiled, last, compiledRules, performed⟩ := Action.bind_ok performed
  obtain ⟨_, _, checked, performed⟩ := Action.bind_ok performed
  rw [Action.perform_ofOutcome] at checked
  obtain ⟨_, rfl⟩ := Prod.mk.inj checked
  obtain ⟨trees, _, grown, performed⟩ := Action.bind_ok performed
  rw [Action.perform_ofOutcome] at grown
  obtain ⟨isForest, rfl⟩ := Prod.mk.inj grown
  obtain ⟨found, ended, evaluated, performed⟩ := Action.bind_ok performed
  obtain ⟨_, _, read, performed⟩ := Action.bind_ok performed
  cases read
  obtain ⟨_, _, _, performed⟩ := Action.bind_ok performed
  obtain ⟨_, _, _, performed⟩ := Action.bind_ok performed
  obtain ⟨_, _, _, performed⟩ := Action.bind_ok performed
  cases performed
  exact ⟨start, compiled, last, trees, found, ended, built, compiledRules, isForest, evaluated, rfl, rfl⟩

/-- Evaluating rules does not fail, whatever their matchers do. -/
theorem evaluateAll_succeeds (walked : List (List Nat × Value)) (compiled : List CompiledRule)
    (r : Registry) : ∃ found changed, (evaluateAll walked compiled).perform r = (.ok found, changed) := by
  have asked (matcher : Value) (tally : Tally) (r : Registry) :
      ∃ counted changed, (askAll matcher tally walked).perform r = (.ok counted, changed) := by
    induction walked generalizing tally r with
    | nil => exact ⟨tally, r, rfl⟩
    | cons entry rest ih =>
        rw [askAll, Action.perform_bind_ok (Action.perform_attempt _ r)]
        exact ih _ _
  induction compiled generalizing r with
  | nil => exact ⟨[], r, rfl⟩
  | cons rule rest ih =>
      obtain ⟨first, evaluated, performed⟩ :
          ∃ first changed, (evaluateRule walked rule).perform r = (.ok first, changed) := by
        rw [evaluateRule]
        split
        · obtain ⟨counted, changed, performed⟩ := asked rule.result.value {} r
          rw [Action.perform_bind_ok performed]
          exact ⟨_, changed, rfl⟩
        · exact ⟨_, r, rfl⟩
      obtain ⟨others, changed, restPerformed⟩ := ih evaluated
      rw [evaluateAll, Action.perform_bind_ok performed, Action.perform_bind_ok restPerformed]
      exact ⟨_, changed, rfl⟩

/-- Once its rules are compiled and evaluated, a run can only fail at the limit of its report. -/
theorem run_eq {start last ended : Registry} {compiled : List CompiledRule} {trees : List Tree}
    {found : List (RuleOutcome × List Message)} {limit : Value}
    (now : String) (isEvent : Event.ofValue event = .ok ⟨rules, elements, context⟩)
    (built : o.buildRegistry host = .ok start)
    (compiledRules : (compileFrom host 0 rules).perform start = (.ok compiled, last))
    (checked : o.checkStrict host compiled = .ok ()) (isForest : Tree.forest elements = .ok trees)
    (evaluated : (evaluateAll (Tree.walk trees) compiled).perform last = (.ok found, ended))
    (isLimit : o.configuration.get host "error_handling.max_errors" (.int 100) = .ok limit) :
    o.run host now event =
      (limited limit (ended.setupMessages ++ compiled.flatMap (·.result.messages) ++ found.flatMap (·.2))).map
        fun shown => ⟨found.map (·.1),
          ended.setupMessages ++ compiled.flatMap (·.result.messages) ++ found.flatMap (·.2),
          Report.ofMessages now shown context⟩ := by
  have returned : o.run host now event =
      ((o.runRules host now ⟨rules, elements, context⟩).perform start).1 := by
    rw [run, isEvent]
    simp only [bind, Except.bind, built]
  rw [returned, runRules, Action.perform_bind_ok compiledRules, checked,
    Action.perform_bind_ok (Action.perform_ofOutcome _ last), isForest,
    Action.perform_bind_ok (Action.perform_ofOutcome _ last), Action.perform_bind_ok evaluated,
    Action.perform_bind_ok (Action.perform_get ended), isLimit,
    Action.perform_bind_ok (Action.perform_ofOutcome _ ended)]
  cases limited limit _ with
  | error reason => rfl
  | ok shown =>
      rw [Action.perform_bind_ok (Action.perform_ofOutcome _ ended), Report.ofRecords_messages]
      rfl

/-- A run returns once its rules are compiled and its elements are trees. -/
theorem run_returns {start last : Registry} {compiled : List CompiledRule} {trees : List Tree} {limit : Int}
    (now : String) (isEvent : Event.ofValue event = .ok ⟨rules, elements, context⟩)
    (built : o.buildRegistry host = .ok start)
    (compiledRules : (compileFrom host 0 rules).perform start = (.ok compiled, last))
    (checked : o.checkStrict host compiled = .ok ()) (isForest : Tree.forest elements = .ok trees)
    (isLimit : o.configuration.get host "error_handling.max_errors" (.int 100) = .ok (.int limit)) :
    ∃ outcome, o.run host now event = .ok outcome := by
  obtain ⟨found, ended, evaluated⟩ := evaluateAll_succeeds (Tree.walk trees) compiled last
  exact ⟨_, run_eq now isEvent built compiledRules checked isForest evaluated isLimit⟩

end Orchestrator

end StyleRules
