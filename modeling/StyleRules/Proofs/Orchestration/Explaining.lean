import StyleRules.Proofs.Orchestration.Matching

/-!
# Rules that are not compiled

A result without a value has a message on every route but one: a registered function may be asked for a
matcher and have none, and says nothing then.  A run shows the messages of all results, so a rule that is not
compiled is explained there unless its type is registered with such a function.
-/

namespace StyleRules

/-- Neither a value nor a message. -/
def Result.Silent (result : Result Value) : Prop := result.value = .null ∧ result.messages = []

theorem Value.detach_eq_null_iff (v : Value) : v.detach = .null ↔ v = .null := by
  cases v <;> simp [Value.detach]

theorem Result.not_silent_of_isSuccess {result : Result Value} (success : result.isSuccess = true) :
    ¬result.Silent := by
  rintro ⟨noValue, _⟩
  rw [Result.isSuccess, noValue] at success
  cases success

theorem Result.isSuccess_eq_false_iff {result : Result Value} :
    result.isSuccess = false ↔ result.value = .null := by
  rw [Result.isSuccess]
  cases result.value <;> simp [Value.isNull]

namespace Registry

variable {host : Host} {r : Registry} {type options : Value} {result : Result Value}

/-! ## Results without a value -/

/-- The options are accepted, and the function that is asked for a matcher has none. -/
structure ComesBackEmpty (registered : RegisteredMatcher) (type options : Value) : Prop where
  accepted : registered.validation.isNull = true ∨
    ∃ verdict, registered.validation.call [type, options] = .ok verdict ∧ verdict.truthy = true
  given : registered.factory.call [options] = .ok .null

theorem build_silent_iff (registered : RegisteredMatcher) (type options : Value) :
    (build registered type options).Silent ↔ ComesBackEmpty registered type options := by
  have asked : (if registered.validation.isNull then .ok true
        else (registered.validation.call [type, options]).map Value.truthy : Outcome Bool) = .ok true ↔
      registered.validation.isNull = true ∨
        ∃ verdict, registered.validation.call [type, options] = .ok verdict ∧ verdict.truthy = true := by
    split
    · rename_i noValidation
      simp [noValidation]
    · rename_i validated
      cases registered.validation.call [type, options] <;> simp [Except.map, validated]
  rw [build]
  split
  · rename_i refused
    refine iff_of_false (by simp [Result.Silent, Result.failed]) fun empty => ?_
    rw [asked.mpr empty.accepted] at refused
    cases refused
  · rename_i refused
    refine iff_of_false (by simp [Result.Silent, Result.refused]) fun empty => ?_
    rw [asked.mpr empty.accepted] at refused
    cases refused
  · rename_i accepted
    cases given : registered.factory.call [options] with
    | error reason =>
        refine iff_of_false (by simp [Result.Silent, Result.failed]) fun empty => ?_
        rw [empty.given] at given
        cases given
    | ok matcher =>
        constructor
        · rintro ⟨noValue, _⟩
          exact ⟨asked.mp accepted, given.trans (congrArg _ ((Value.detach_eq_null_iff matcher).mp noValue))⟩
        · intro empty
          rw [empty.given] at given
          cases given
          exact ⟨rfl, rfl⟩

theorem failed_not_silent {d : Diagnostics} {fault : Fault} {text : String}
    (worded : d.failed fault text = .ok result) : ¬result.Silent := by
  obtain ⟨shown, rfl⟩ := failed_ok worded
  simp [Result.Silent]

theorem engine_not_silent {e : Engine} (made : e.createMatcher type options = .ok result) :
    ¬result.Silent := by
  rw [Engine.createMatcher] at made
  obtain ⟨template, _, made⟩ := Outcome.bind_ok made
  cases template with
  | none =>
      cases made
      simp [Result.Silent, Result.failed]
  | some template =>
      obtain ⟨matcher, _, made⟩ := Outcome.bind_ok made
      cases made
      simp [Result.Silent, Result.success]

theorem buildTransform_not_silent {registered : RegisteredTransform}
    (made : ((buildTransform host registered type options).perform r).1 = .ok result) :
    ¬result.Silent := by
  cases engine : r.engine with
  | none =>
      rw [buildTransform_unbound host registered type options engine] at made
      cases made
      simp [Result.Silent, Result.success]
  | some e =>
      rw [buildTransform_bound host registered type options engine] at made
      dsimp only at made
      split at made
      · exact failed_not_silent made
      · obtain ⟨settings, _, made⟩ := Outcome.bind_ok made
        exact engine_not_silent made

theorem askStrategies_not_silent {kept : List Message} {strategies : List Strategy}
    (asked : r.askStrategies type options kept strategies = .ok result) : ¬result.Silent := by
  induction strategies generalizing kept with
  | nil =>
      rw [askStrategies] at asked
      obtain ⟨warning, _, asked⟩ := Outcome.bind_ok asked
      cases asked
      simp [Result.Silent]
  | cons strategy rest ih =>
      rcases r.strategy_cases type options strategy with passed | unreadable | ⟨given, decides⟩
      · obtain ⟨more, same⟩ := @askStrategies_passed r type options strategy rest kept passed
        rw [same] at asked
        exact ih asked
      · obtain ⟨reason, failed⟩ := @askStrategies_unreadable r type options strategy rest kept unreadable
        rw [failed] at asked
        cases asked
      · rw [askStrategies_decided kept decides] at asked
        cases asked
        obtain ⟨_, _, _, _, success⟩ := decides
        exact Result.not_silent_of_isSuccess success

/-- The type is registered with a function that is asked and has no matcher. -/
def FindsNothing (r : Registry) (type options : Value) : Prop :=
  ∃ registered, type.lookIn r.matchers = .ok (some registered) ∧
    ComesBackEmpty registered type (options.orElse (.map []))

theorem createMatcher_silent_iff
    (returned : ((createMatcher host type options).perform r).1 = .ok result) :
    result.Silent ↔ FindsNothing r type options := by
  rw [FindsNothing]
  rw [createMatcher, Action.perform_bind_ok (Action.perform_get r)] at returned
  dsimp only at returned
  cases direct : type.lookIn r.matchers with
  | error reason =>
      rw [direct] at returned
      cases returned
  | ok found =>
      rw [direct, Action.perform_bind_ok (Action.perform_ofOutcome _ r)] at returned
      cases found with
      | some registered =>
          cases returned
          simp [build_silent_iff]
      | none =>
          -- Neither of the other routes gives a result without a value and without a message.
          refine iff_of_false ?_ (by simp)
          dsimp only at returned
          cases others : type.lookIn r.transforms with
          | error reason =>
              rw [others] at returned
              cases returned
          | ok found =>
              rw [others, Action.perform_bind_ok (Action.perform_ofOutcome _ r)] at returned
              cases found with
              | some registered => exact buildTransform_not_silent returned
              | none => exact askStrategies_not_silent returned

end Registry

namespace Orchestrator

open Registry

variable {o : Orchestrator} {host : Host} {r last : Registry}

/-! ## Rules of a run -/

/-- The rule was compiled to this, in the given registry with some engine. -/
def CompiledIn (host : Host) (r : Registry) (rule : Value) (compiled : CompiledRule) : Prop :=
  ∃ options engine, rule.option "type" = .ok compiled.type ∧ rule.option "options" = .ok options ∧
    ((createMatcher host compiled.type options).perform { r with engine }).1 = .ok compiled.result

theorem compileFrom_compiledIn {rules : List Value} {compiled : List CompiledRule} (index : Nat)
    (performed : (compileFrom host index rules).perform r = (.ok compiled, last)) :
    List.Forall₂ (CompiledIn host r) rules compiled := by
  induction rules generalizing index r compiled with
  | nil =>
      cases performed
      exact List.Forall₂.nil
  | cons rule rest ih =>
      rw [compileFrom] at performed
      obtain ⟨type, isType, performed⟩ := Action.ofOutcome_bind_ok performed
      obtain ⟨options, isOptions, performed⟩ := Action.ofOutcome_bind_ok performed
      obtain ⟨result, reached, made, performed⟩ := Action.bind_ok performed
      obtain ⟨others, _, restPerformed, performed⟩ := Action.bind_ok performed
      cases performed
      refine List.Forall₂.cons ⟨options, r.engine, isType, isOptions, congrArg Prod.fst made⟩ ?_
      obtain ⟨engine, kept⟩ := createMatcher_keeps host type options r
      rw [made] at kept
      -- The rules behind it find the same registry with another engine.
      refine (ih (index + 1) restPerformed).imp fun later compiled inReached => ?_
      obtain ⟨options, engine, isType, isOptions, made⟩ := inReached
      rw [show reached = _ from kept] at made
      exact ⟨options, engine, isType, isOptions, made⟩

theorem infix_flatMap {α β : Type} {items : List α} {item : α} (f : α → List β) (member : item ∈ items) :
    f item <:+: items.flatMap f := by
  obtain ⟨before, after, rfl⟩ := List.append_of_mem member
  rw [List.flatMap_append, List.flatMap_cons, ← List.append_assoc]
  exact List.infix_append _ _ _

/-- A result has neither a value nor a message exactly if its type is registered with a function that is asked
and has no matcher.  A run shows the messages of the results of all its rules, so a rule that is not compiled is
explained there, unless its type is registered with such a function. -/
theorem uncompiled_rules_explained (host : Host) :
    (∀ (r : Registry) (type options : Value) (result : Result Value),
      ((createMatcher host type options).perform r).1 = .ok result →
        (result.value = .null ∧ result.messages = [] ↔ FindsNothing r type options)) ∧
    ∀ (o : Orchestrator) (now : String) (event : Value) (outcome : RunOutcome),
      o.run host now event = .ok outcome →
        ∃ read start, Event.ofValue event = .ok read ∧ o.buildRegistry host = .ok start ∧
          List.Forall₂ (fun rule found => ∃ options engine result,
              rule.option "type" = .ok found.type ∧ rule.option "options" = .ok options ∧
              ((createMatcher host found.type options).perform { start with engine }).1 = .ok result ∧
              found.compiled = result.isSuccess ∧ result.messages <:+: outcome.messages ∧
              (found.compiled = false →
                (result.messages = [] ↔ FindsNothing start found.type options)))
            read.rules outcome.rules := by
  refine ⟨fun r type options result returned => createMatcher_silent_iff returned, ?_⟩
  intro o now event outcome ran
  obtain ⟨⟨rules, elements, context⟩, isEvent, _⟩ := Outcome.bind_ok ran
  obtain ⟨start, compiled, last, trees, found, ended, built, compiledRules, _, evaluated, isOutcome,
    isMessages⟩ := run_steps isEvent ran
  refine ⟨_, start, isEvent, built, ?_⟩
  obtain ⟨changed, performed, _⟩ := evaluateAll_perform (Tree.walk trees) compiled last
  rw [evaluated] at performed
  cases performed
  have eachCompiled := compileFrom_compiledIn 0 compiledRules
  rw [← inquiries_rules (Tree.walk trees) last compiled, List.forall₂_map_right_iff] at eachCompiled
  rw [isOutcome, List.map_map, List.forall₂_map_right_iff]
  refine List.forall₂_iff_zip.mpr ⟨eachCompiled.length_eq, fun {rule inquiry} member => ?_⟩
  obtain ⟨options, engine, isType, isOptions, made⟩ := (List.forall₂_iff_zip.mp eachCompiled).2 member
  refine ⟨options, engine, inquiry.rule.result, isType, isOptions, made, rfl, ?_, fun notCompiled => ?_⟩
  · have isRule : inquiry.rule ∈ compiled := by
      rw [← inquiries_rules (Tree.walk trees) last compiled]
      exact List.mem_map_of_mem (List.of_mem_zip member).2
    rw [isMessages]
    exact (infix_flatMap (·.result.messages) isRule).trans (List.infix_append _ _ _)
  · have noValue := Result.isSuccess_eq_false_iff.mp notCompiled
    have silent := createMatcher_silent_iff made
    exact Iff.trans ⟨fun none => ⟨noValue, none⟩, And.right⟩ silent

/-! ## Titles without a matcher -/

def brokenTitle : Value := .callable (.failing (.raised "RuntimeError" "no title"))

def absentTitle : Value := .callable (.constant .null)

theorem checkStrict_lenient
    (lenient : o.configuration.get host "error_handling.strict_mode" (.bool false) = .ok (.bool false))
    (rules : List CompiledRule) : o.checkStrict host rules = .ok () := by
  rw [checkStrict, lenient]
  split <;> rfl

/-- A run over a title whose type is registered with a function that makes no matcher. -/
theorem run_unmade_title {factory : Value} {result : Result Value} (noValue : result.value = .null)
    (made : build ⟨factory, .int 0, .str "default", .null, .str "Custom matcher for title"⟩ (.str "title")
      (.map []) = result) :
    ∃ outcome, (registeringTitle factory).run flagHost "now" titleEvent = .ok outcome ∧
      outcome.rules = [⟨0, .str "title", false, []⟩] ∧ outcome.messages = result.messages := by
  have failure := Result.isSuccess_eq_false_iff.mpr noValue
  have compiledRules : (compileFrom flagHost 0 [titleRule]).perform (titledRegistry factory) =
      (.ok [⟨0, .str "title", result⟩], titledRegistry factory) := by
    rw [← made]
    rfl
  have lenient : (registeringTitle factory).configuration.get flagHost "error_handling.strict_mode"
      (.bool false) = .ok (.bool false) :=
    @get_flag "error_handling.strict_mode" ["error_handling", "strict_mode"] _ rfl
  obtain ⟨outcome, ran⟩ :=
    @run_returns _ flagHost titleEvent _ _ _ _ _ _ _ _ "now" rfl (buildRegistry_titled factory) compiledRules
      (checkStrict_lenient lenient _) rfl limit_flag
  refine ⟨outcome, ran, ?_⟩
  obtain ⟨start, compiled, last, trees, found, ended, built, compiledTo, _, evaluated, isOutcome,
    isMessages⟩ := @run_steps _ flagHost "now" titleEvent _ _ _ _ rfl ran
  rw [buildRegistry_titled] at built
  cases built
  rw [compiledRules] at compiledTo
  cases compiledTo
  have notAsked : (evaluateAll (Tree.walk trees) [⟨0, .str "title", result⟩]).perform
      (titledRegistry factory) = (.ok [(⟨0, .str "title", false, []⟩, [])], titledRegistry factory) := by
    simp [evaluateAll, evaluateRule, failure, failureMessage]
  rw [notAsked] at evaluated
  cases evaluated
  have noneBefore : (titledRegistry factory).setupMessages = [] := rfl
  rw [isOutcome, isMessages, noneBefore]
  exact ⟨rfl, by simp⟩

/-- A function that raises an exception leaves a message, and the rule is explained. -/
theorem run_broken_title_explained :
    ∃ outcome found, (registeringTitle brokenTitle).run flagHost "now" titleEvent = .ok outcome ∧
      outcome.rules = [found] ∧ found.compiled = false ∧ outcome.messages ≠ [] := by
  obtain ⟨outcome, ran, isOutcome, _⟩ := @run_unmade_title brokenTitle _ rfl rfl
  obtain ⟨_, start, isRead, built, explained⟩ := (uncompiled_rules_explained flagHost).2 _ _ _ _ ran
  cases isRead
  rw [buildRegistry_titled] at built
  cases built
  rw [isOutcome] at explained
  obtain ⟨options, _, result, _, _, _, _, shown, unexplained⟩ := (List.forall₂_cons.mp explained).1
  refine ⟨outcome, _, ran, isOutcome, rfl, fun none => ?_⟩
  rw [none] at shown
  obtain ⟨registered, found, empty⟩ := (unexplained rfl).mp (List.infix_nil.mp shown)
  have isBroken : (Value.str "title").lookIn (titledRegistry brokenTitle).matchers = .ok (some
      ⟨brokenTitle, .int 0, .str "default", .null, .str "Custom matcher for title"⟩) := rfl
  rw [isBroken] at found
  cases found
  cases empty.given

/-- A function that has no matcher leaves no message, and nothing in the answer explains the rule. -/
theorem run_absent_title_unexplained :
    ((createMatcher flagHost (.str "title") .null).perform (titledRegistry absentTitle)).1 =
        .ok ⟨.null, []⟩ ∧
      ∃ outcome, (registeringTitle absentTitle).run flagHost "now" titleEvent = .ok outcome ∧
        outcome.rules = [⟨0, .str "title", false, []⟩] ∧ outcome.messages = [] :=
  ⟨rfl, @run_unmade_title absentTitle ⟨.null, []⟩ rfl rfl⟩

end Orchestrator

end StyleRules
