import StyleRules.Proofs.Registry.SetupMessages
import StyleRules.Proofs.Registry.Strategies

/-!
# Answers away from the engine

A registry that is set up by its fallback mode and by configurations has the strategies of the mode, and the objects
that plugins add.  Whatever they answer, the value of their results cannot reach the engine of the registry: objects
are held away from it, and the other strategies give matchers that match nothing.
-/

namespace StyleRules

/-- The value of the result is held away from the engine at hand. -/
def Result.Detached (result : Result Value) : Prop := ∃ given : Value, result.value = given.detach

theorem Value.lookup_detach (name : String) (fields : List (String × Value)) :
    (fields.map fun (known, value) => (known, value.detach)).lookup name = (fields.lookup name).map Value.detach := by
  induction fields with
  | nil => rfl
  | cons field rest ih =>
      rw [List.map_cons, List.lookup_cons, List.lookup_cons, ih]
      split <;> rfl

theorem Value.attribute?_record_value (tag : Nat) (fields : List (String × Value)) :
    (Value.record tag fields).attribute? "value" = fields.lookup "value" := by
  have isStored : (Value.record tag fields).dataAttributes = fields := rfl
  have noMethod : ((Value.record tag fields).ownMethods.contains "value" || commonMethods.contains "value") = false :=
    rfl
  rw [attribute?, isStored, noMethod]
  cases fields.lookup "value" <;> rfl

/-- What is read from an answer of a caller's strategy is held away from the engine. -/
theorem Value.toResult_detachAnswer {answer : Value} {result : Result Value}
    (read : answer.detachAnswer.toResult = .ok result) : result.Detached := by
  have ofLike {value : Value} (isLike : value.likeResult = .ok result)
      (known : ∀ found, value.attribute? "value" = some found → ∃ given : Value, found = given.detach) :
      result.Detached := by
    rw [Value.likeResult, attributeOf] at isLike
    cases isFound : value.attribute? "value" with
    | none =>
        rw [isFound] at isLike
        cases isLike
    | some found =>
        rw [isFound, Outcome.ok_bind] at isLike
        split at isLike
        · obtain ⟨_, _, isLike⟩ := Outcome.bind_ok isLike
          obtain ⟨_, _, isLike⟩ := Outcome.bind_ok isLike
          cases isLike
          exact ⟨.null, rfl⟩
        · cases isLike
          exact known found isFound
  -- Of all other values, only objects have an attribute for the value.
  cases answer with
  | result r =>
      cases read
      exact ⟨r.value, rfl⟩
  | record tag fields =>
      refine ofLike read fun found isFound => ?_
      rw [detachAnswer, attribute?_record_value, lookup_detach] at isFound
      obtain ⟨given, _, detached⟩ := Option.map_eq_some_iff.mp isFound
      exact ⟨given, detached.symm⟩
  | _ =>
      refine ofLike read fun found isFound => ?_
      cases (isFound : none = some found)

/-- A strategy that gives nothing that reaches the engine at hand. -/
inductive Strategy.Detached : Strategy → Prop where
  | ignoreUnknown : Detached .ignoreUnknown
  | suggestAlternatives : Detached .suggestAlternatives
  | diagnoseUnknown : Detached (.diagnoseUnknown .standard)
  | object (subject : Value) : Detached (.object subject)

/-- A handler of unknown types recovers with a matcher that matches nothing. -/
theorem Diagnostics.wordUnknownType_ok {d : Diagnostics} {fault : Fault} {context handled : Value}
    (worded : d.wordUnknownType fault context = .ok handled) :
    ∃ text found, handled = Callable.handledFault text fault.category.code fault.category.severity (.bool true)
      (.callable (.constant (.matcher (.noop (.str ("unknown type " ++ fault.unknownType.text))))))
      (.list found) (.list []) := by
  rw [wordUnknownType] at worded
  obtain ⟨types, _, worded⟩ := Outcome.bind_ok worded
  dsimp only at worded
  split at worded
  all_goals
    obtain ⟨_, _, worded⟩ := Outcome.bind_ok worded
    obtain ⟨found, _, worded⟩ := Outcome.bind_ok worded
    obtain ⟨_, _, worded⟩ := Outcome.bind_ok worded
    obtain ⟨_, _, worded⟩ := Outcome.bind_ok worded
    cases worded
    exact ⟨_, found, rfl⟩

/-- The standard handler recovers from an unknown type with a matcher that matches nothing. -/
theorem Diagnostics.unknownType_standard {name context : Value} {result : Result Value}
    (answered : Diagnostics.standard.unknownType name context = .ok result) : result.Detached := by
  have claimed : handlerFor FaultCategory.unknownType.code standard.handlers =
      .ok (some ⟨.list [.str FaultCategory.unknownType.code], .unknownType⟩) := rfl
  rw [unknownType] at answered
  dsimp only at answered
  rw [claimed, Outcome.ok_bind] at answered
  obtain ⟨handled, worded, answered⟩ := Outcome.bind_ok answered
  obtain ⟨text, found, rfl⟩ := wordUnknownType_ok worded
  cases answered
  exact ⟨.matcher (.noop _), rfl⟩

namespace Registry

variable {r ended : Registry} {host : Host} {type options mode : Value}

theorem detached_handle {strategy : Strategy} {answer : Value} {result : Result Value} (detached : strategy.Detached)
    (answered : strategy.handle r type options = .ok answer) (read : answer.toResult = .ok result) :
    result.Detached := by
  cases detached with
  | ignoreUnknown =>
      cases answered
      cases read
      exact ⟨.matcher (.noop _), rfl⟩
  | suggestAlternatives =>
      obtain ⟨_, _, answered⟩ := Outcome.bind_ok answered
      obtain ⟨_, _, answered⟩ := Outcome.bind_ok answered
      cases answered
      cases read
      exact ⟨.null, rfl⟩
  | diagnoseUnknown =>
      obtain ⟨_, _, answered⟩ := Outcome.bind_ok answered
      obtain ⟨result, diagnosed, answered⟩ := Outcome.bind_ok answered
      cases answered
      cases read
      exact Diagnostics.unknownType_standard diagnosed
  | object subject =>
      obtain ⟨_, _, answered⟩ := Outcome.bind_ok answered
      obtain ⟨given, _, answered⟩ := Outcome.bind_ok answered
      cases answered
      exact Value.toResult_detachAnswer read

/-- A chain of such strategies gives no matcher of the engine. -/
theorem detached_askStrategies {strategies : List Strategy} {kept : List Message} {result : Result Value}
    (detached : ∀ strategy ∈ strategies, strategy.Detached)
    (asked : r.askStrategies type options kept strategies = .ok result) : result.Detached := by
  induction strategies generalizing kept with
  | nil =>
      rw [askStrategies] at asked
      obtain ⟨warning, _, asked⟩ := Outcome.bind_ok asked
      cases asked
      exact ⟨.null, rfl⟩
  | cons strategy rest ih =>
      obtain ⟨first, others⟩ := List.forall_mem_cons.mp detached
      rcases r.strategy_cases type options strategy with passed | unreadable | ⟨given, decides⟩
      · obtain ⟨more, same⟩ := @askStrategies_passed r type options strategy rest kept passed
        rw [same] at asked
        exact ih others asked
      · obtain ⟨reason, failed⟩ := @askStrategies_unreadable r type options strategy rest kept unreadable
        rw [failed] at asked
        cases asked
      · rw [askStrategies_decided kept decides] at asked
        cases asked
        obtain ⟨answer, answered, _, reads, _⟩ := decides
        exact detached_handle first answered reads

/-! ## Setting up -/

/-- The diagnostics are the standard ones, and all strategies are held away from the engine. -/
def HasDetachedChain (r : Registry) : Prop :=
  r.diagnostics = .standard ∧ ∀ strategy ∈ r.strategies, strategy.Detached

/-- A configuration adds no strategies but objects. -/
theorem HasDetachedChain.loadConfiguration {config : Value} (chained : r.HasDetachedChain)
    (loaded : (loadConfiguration host config).perform r = (.ok (), ended)) : ended.HasDetachedChain := by
  obtain ⟨print, plain, rfl⟩ := loadConfiguration_plain chained.1 loaded
  refine ⟨chained.1, List.forall_mem_append.mpr ⟨chained.2, fun strategy member => ?_⟩⟩
  obtain ⟨subject, rfl⟩ := plain.objects strategy member
  exact .object subject

end Registry

end StyleRules
