import StyleRules.Registry.Resolve

/-!
# How a rule is resolved

A rule is resolved on one of three routes: by the function registered for its type, by the stylesheet of its
type, or by the chain of strategies.  Each route is given here as one equation, with everything that it does
to the registry.  Only the stylesheet route changes something, namely the templates of the engine.
-/

namespace StyleRules

@[simp]
theorem Value.lookIn_str {α : Type} (name : String) (table : List (Value × α)) :
    (Value.str name).lookIn table = .ok (Mapping.find? (.str name) table) :=
  rfl

namespace Registry

variable {r : Registry} {name : String}

/-! ## The three routes -/

theorem createMatcher_direct {registered : RegisteredMatcher} (host : Host) (options : Value)
    (found : Mapping.find? (.str name) r.matchers = some registered) :
    (createMatcher host (.str name) options).perform r =
      (.ok (build registered (.str name) (options.orElse (.map []))), r) := by
  rw [createMatcher, Action.perform_bind_ok (Action.perform_get r)]
  dsimp only
  rw [Value.lookIn_str, found, Action.perform_bind_ok (Action.perform_ofOutcome _ r)]
  rfl

theorem createMatcher_transform {registered : RegisteredTransform} (host : Host) (options : Value)
    (notDirect : Mapping.find? (.str name) r.matchers = none)
    (found : Mapping.find? (.str name) r.transforms = some registered) :
    (createMatcher host (.str name) options).perform r =
      (buildTransform host registered (.str name) (options.orElse (.map []))).perform r := by
  rw [createMatcher, Action.perform_bind_ok (Action.perform_get r)]
  dsimp only
  rw [Value.lookIn_str, notDirect, Action.perform_bind_ok (Action.perform_ofOutcome _ r)]
  dsimp only
  rw [Value.lookIn_str, found, Action.perform_bind_ok (Action.perform_ofOutcome _ r)]

theorem createMatcher_fallback (host : Host) (options : Value)
    (notDirect : Mapping.find? (.str name) r.matchers = none)
    (notTransform : Mapping.find? (.str name) r.transforms = none) :
    (createMatcher host (.str name) options).perform r =
      (r.askStrategies (.str name) (options.orElse (.map [])) [] r.strategies, r) := by
  rw [createMatcher, Action.perform_bind_ok (Action.perform_get r)]
  dsimp only
  rw [Value.lookIn_str, notDirect, Action.perform_bind_ok (Action.perform_ofOutcome _ r)]
  dsimp only
  rw [Value.lookIn_str, notTransform, Action.perform_bind_ok (Action.perform_ofOutcome _ r)]
  rfl

/-! ## The stylesheet route -/

/-- The settings that a type hands to its matcher: the parameters of the rule, and whether it caches. -/
def transformSettings (registered : RegisteredTransform) (options : Value) : Outcome Value := do
  let parameters ← options.option "parameters"
  return .ofFields
    [("parameters", parameters.orElse (.map [])), ("use_cache", .bool registered.caching)]

theorem buildTransform_unbound (host : Host) (registered : RegisteredTransform)
    (type options : Value) (noEngine : r.engine = none) :
    (buildTransform host registered type options).perform r =
      (.ok (.success (.matcher (.unbound type registered.path))), r) := by
  rw [buildTransform, Action.perform_bind_ok (Action.perform_get r)]
  simp [noEngine]

theorem withEngine_perform {α : Type} {e : Engine} (fallback : Action Registry α)
    (action : Action Engine α) (bound : r.engine = some e) :
    (withEngine fallback action).perform r =
      ((action.perform e).1, { r with engine := some (action.perform e).2 }) := by
  rw [withEngine, Action.perform_bind_ok (Action.perform_get r), bound]
  rfl

/-- With an engine the template is loaded unless it is there.  A failure to load it is worded by the
diagnostics; otherwise the engine makes the matcher. -/
theorem buildTransform_bound {e : Engine} (host : Host) (registered : RegisteredTransform)
    (type options : Value) (bound : r.engine = some e) :
    (buildTransform host registered type options).perform r =
      (match ((ensureTemplate host type registered.path).perform e).1 with
        | .error reason => r.diagnostics.transformFailed registered.path (.failure reason)
        | .ok () => do
          ((ensureTemplate host type registered.path).perform e).2.createMatcher type
            (← transformSettings registered options),
        { r with engine := some ((ensureTemplate host type registered.path).perform e).2 }) := by
  rw [buildTransform, Action.perform_bind_ok (Action.perform_get r)]
  simp only [bound, Option.isNone_some, Bool.false_eq_true, if_false]
  rw [Action.perform_bind_ok (Action.perform_attempt _ r), withEngine_perform _ _ bound]
  cases loaded : ((ensureTemplate host type registered.path).perform e).1 with
  | error reason => rfl
  | ok value =>
      dsimp only
      cases parameters : options.option "parameters" with
      | error reason =>
          rw [Action.perform_bind_error (Action.perform_ofOutcome _ _), transformSettings, parameters]
          rfl
      | ok given =>
          rw [Action.perform_bind_ok (Action.perform_ofOutcome _ _), transformSettings, parameters]
          rfl

/-! ## What resolving keeps -/

theorem buildTransform_keeps (host : Host) (registered : RegisteredTransform)
    (type options : Value) (r : Registry) :
    ∃ engine,
      ((buildTransform host registered type options).perform r).2 = { r with engine := engine } := by
  cases bound : r.engine with
  | none => exact ⟨none, by rw [buildTransform_unbound host registered type options bound, ← bound]⟩
  | some e => exact ⟨_, by rw [buildTransform_bound host registered type options bound]⟩

/-- Resolving a rule changes nothing but the engine. -/
theorem createMatcher_keeps (host : Host) (type options : Value) (r : Registry) :
    ∃ engine,
      ((createMatcher host type options).perform r).2 = { r with engine := engine } := by
  rw [createMatcher, Action.perform_bind_ok (Action.perform_get r)]
  dsimp only
  cases direct : type.lookIn r.matchers with
  | error reason => exact ⟨r.engine, rfl⟩
  | ok registered =>
      rw [Action.perform_bind_ok (Action.perform_ofOutcome _ r)]
      cases registered with
      | some registered => exact ⟨r.engine, rfl⟩
      | none =>
          dsimp only
          cases others : type.lookIn r.transforms with
          | error reason => exact ⟨r.engine, rfl⟩
          | ok registered =>
              rw [Action.perform_bind_ok (Action.perform_ofOutcome _ r)]
              cases registered with
              | some registered => exact buildTransform_keeps host registered type _ r
              | none => exact ⟨r.engine, rfl⟩

end Registry

end StyleRules
