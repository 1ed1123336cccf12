import StyleRules.Proofs.Registry.Footprints

/-!
# What setting up writes

The calls that set a registry up do not look at its tables.  Performed on any two registries with the same
diagnostics, such a call has the same outcome and writes the same entries, in the same order, behind those
that are there.  This also holds of a plugin or a configuration that fails half way.
-/

namespace StyleRules.Registry

variable {α β : Type} {d : Diagnostics}

/-- Performed on any registry with the diagnostics `d`, the action has the given outcome and writes the given
entries; engine and diagnostics stay. -/
def Writes (d : Diagnostics) (action : Action Registry α) (outcome : Outcome α)
    (direct : List (Value × RegisteredMatcher)) (transforms : List (Value × RegisteredTransform)) :
    Prop :=
  ∀ r : Registry, r.diagnostics = d →
    (action.perform r).1 = outcome ∧
      (action.perform r).2.diagnostics = d ∧
        (action.perform r).2.engine = r.engine ∧
          (action.perform r).2.matchers = Mapping.insertAll direct r.matchers ∧
            (action.perform r).2.transforms = Mapping.insertAll transforms r.transforms

/-- The action writes the same entries into every registry with the diagnostics `d`. -/
def IsSetUp (d : Diagnostics) (action : Action Registry α) : Prop :=
  ∃ outcome direct transforms, Writes d action outcome direct transforms

/-! ## Composed actions -/

theorem isSetUp_ofOutcome (outcome : Outcome α) : IsSetUp d (Action.ofOutcome outcome) :=
  ⟨outcome, [], [], fun _ same => ⟨rfl, same, rfl, rfl, rfl⟩⟩

theorem isSetUp_pure (value : α) : IsSetUp d (pure value) :=
  ⟨.ok value, [], [], fun _ same => ⟨rfl, same, rfl, rfl, rfl⟩⟩

theorem isSetUp_throw (reason : Failure) : IsSetUp d (throw reason : Action Registry α) :=
  ⟨.error reason, [], [], fun _ same => ⟨rfl, same, rfl, rfl, rfl⟩⟩

theorem isSetUp_modify {change : Registry → Registry}
    (keeps : ∀ r, (change r).diagnostics = r.diagnostics ∧ (change r).engine = r.engine ∧
      (change r).matchers = r.matchers ∧ (change r).transforms = r.transforms) :
    IsSetUp d (modify change) := by
  refine ⟨.ok (), [], [], ?_⟩
  intro r same
  obtain ⟨diagnostics, engine, matchers, transforms⟩ := keeps r
  exact ⟨rfl, diagnostics.trans same, engine, matchers, transforms⟩

theorem IsSetUp.bind {first : Action Registry α} {next : α → Action Registry β}
    (firstSetUp : IsSetUp d first) (nextSetUp : ∀ value, IsSetUp d (next value)) :
    IsSetUp d (first >>= next) := by
  obtain ⟨outcome, direct, transforms, firstWrites⟩ := firstSetUp
  cases outcome with
  | error reason =>
      refine ⟨.error reason, direct, transforms, ?_⟩
      intro r same
      obtain ⟨failed, rest⟩ := firstWrites r same
      rw [Action.perform_bind_error (Prod.ext failed rfl)]
      exact ⟨rfl, rest⟩
  | ok value =>
      obtain ⟨finished, moreDirect, moreTransforms, nextWrites⟩ := nextSetUp value
      refine ⟨finished, direct ++ moreDirect, transforms ++ moreTransforms, ?_⟩
      intro r same
      obtain ⟨succeeded, diagnostics, engine, matchers, others⟩ := firstWrites r same
      obtain ⟨ended, endDiagnostics, endEngine, endMatchers, endOthers⟩ :=
        nextWrites (first.perform r).2 diagnostics
      rw [Action.perform_bind_ok (Prod.ext succeeded rfl)]
      refine ⟨ended, endDiagnostics, endEngine.trans engine, ?_, ?_⟩
      · rw [endMatchers, matchers, Mapping.insertAll_append]
      · rw [endOthers, others, Mapping.insertAll_append]

theorem IsSetUp.attempt {action : Action Registry α} (isSetUp : IsSetUp d action) :
    IsSetUp d action.attempt := by
  obtain ⟨outcome, direct, transforms, writes⟩ := isSetUp
  refine ⟨.ok outcome, direct, transforms, ?_⟩
  intro r same
  obtain ⟨ended, rest⟩ := writes r same
  exact ⟨congrArg Except.ok ended, rest⟩

/-- An action may look at the diagnostics of the registry. -/
theorem isSetUp_get {next : Registry → Action Registry β} (action : Action Registry β)
    (uniform : ∀ r, r.diagnostics = d → next r = action) (isSetUp : IsSetUp d action) :
    IsSetUp d (get >>= next) := by
  obtain ⟨outcome, direct, transforms, writes⟩ := isSetUp
  refine ⟨outcome, direct, transforms, ?_⟩
  intro r same
  rw [Action.perform_bind_ok (Action.perform_get r), uniform r same]
  exact writes r same

/-! ## Types and plugins -/

theorem Leaves.isSetUp {action : Action Registry Unit} {print : Footprint} (leaves : Leaves d action print) :
    IsSetUp d action := by
  refine ⟨print.outcome, print.matchers, print.transforms, fun r same => ?_⟩
  rw [leaves r same]
  exact ⟨rfl, same, rfl, rfl, rfl⟩

theorem isSetUp_register (name factory options : Value) : IsSetUp d (register name factory options) :=
  (leaves_register name factory options).isSetUp

theorem isSetUp_registerTransform (name path options : Value) : IsSetUp d (registerTransform name path options) :=
  (leaves_registerTransform name path options).isSetUp

theorem isSetUp_registerPlugin (plugin : Value) : IsSetUp d (registerPlugin plugin) :=
  (leaves_registerPlugin plugin).isSetUp

theorem isSetUp_list (strategies : List Strategy → List Strategy) (messages : List Message → List Message) :
    IsSetUp d (modify fun r => { r with
      strategies := strategies r.strategies
      setupMessages := messages r.setupMessages }) :=
  isSetUp_modify fun _ => ⟨rfl, rfl, rfl, rfl⟩

/-! ## Strategies -/

theorem isSetUp_registerStrategy (strategy : Strategy) : IsSetUp d (registerStrategy strategy) :=
  (leaves_registerStrategy strategy).isSetUp

theorem isSetUp_registerStrategies (strategies : List Strategy) :
    IsSetUp d (registerStrategies strategies) := by
  induction strategies with
  | nil => exact isSetUp_pure ()
  | cons strategy rest ih => exact (isSetUp_registerStrategy strategy).bind fun _ => ih

theorem isSetUp_setStrategies (strategies : List Strategy) :
    IsSetUp d (setStrategies strategies) :=
  (isSetUp_list (fun _ => []) id).bind fun _ => isSetUp_registerStrategies strategies

theorem isSetUp_setFallbackMode (mode : Value) : IsSetUp d (setFallbackMode mode) := by
  refine isSetUp_get (Action.ofOutcome ((empty none d).chainOf mode) >>= setStrategies) ?_ ?_
  · rintro r rfl
    rfl
  · exact (isSetUp_ofOutcome _).bind isSetUp_setStrategies

/-! ## Configurations -/

theorem isSetUp_report (result : Outcome (Result Value)) : IsSetUp d (report result) :=
  (isSetUp_ofOutcome result).bind fun found => isSetUp_list id (· ++ found.messages)

theorem isSetUp_loadMatcher (host : Host) (name entry : Value) : IsSetUp d (loadMatcher host name entry) := by
  refine (isSetUp_ofOutcome _).bind fun factory => ?_
  refine (isSetUp_ofOutcome _).bind fun template => ?_
  refine (isSetUp_ofOutcome _).bind fun options => ?_
  split
  · exact (isSetUp_ofOutcome _).bind fun found => isSetUp_register name found options
  · split
    · exact isSetUp_register name _ options
    · exact isSetUp_pure ()

theorem isSetUp_loadTransform (name entry : Value) : IsSetUp d (loadTransform name entry) := by
  unfold loadTransform
  split
  · refine (isSetUp_ofOutcome _).bind fun path => ?_
    split
    · exact (isSetUp_ofOutcome _).bind fun options => isSetUp_registerTransform name path options
    · exact isSetUp_throw _
  · exact isSetUp_throw _

/-- An entry that fails is reported or ends the setup, and what it wrote before stays. -/
theorem isSetUp_loadOrReport {load : Action Registry Unit} (loads : IsSetUp d load)
    (wording : Diagnostics → Failure → Outcome (Result Value)) :
    IsSetUp d (loadOrReport load wording) := by
  refine loads.attempt.bind fun outcome => ?_
  cases outcome with
  | ok value => exact isSetUp_pure ()
  | error reason =>
      by_cases isExit : reason.isExit = true
      · simp only [isExit, if_true]
        exact isSetUp_throw reason
      · simp only [isExit, Bool.false_eq_true, if_false]
        refine isSetUp_get (report (wording d reason)) ?_ (isSetUp_report _)
        rintro r rfl
        rfl

theorem isSetUp_loadMatchers (host : Host) (entries : List (Value × Value)) :
    IsSetUp d (loadMatchers host entries) := by
  induction entries with
  | nil => exact isSetUp_pure ()
  | cons entry rest ih =>
      exact (isSetUp_loadOrReport (isSetUp_loadMatcher host entry.1 entry.2) _).bind fun _ => ih

theorem isSetUp_loadTransforms (entries : List (Value × Value)) :
    IsSetUp d (loadTransforms entries) := by
  induction entries with
  | nil => exact isSetUp_pure ()
  | cons entry rest ih =>
      exact (isSetUp_loadOrReport (isSetUp_loadTransform entry.1 entry.2) _).bind fun _ => ih

theorem isSetUp_loadPlugin (host : Host) (reference : Value) : IsSetUp d (loadPlugin host reference) :=
  (isSetUp_ofOutcome (pluginOf host reference)).bind isSetUp_registerPlugin

theorem isSetUp_loadPlugins (host : Host) (references : List Value) : IsSetUp d (loadPlugins host references) := by
  induction references with
  | nil => exact isSetUp_pure ()
  | cons reference rest ih =>
      exact (isSetUp_loadOrReport (isSetUp_loadPlugin host reference) _).bind fun _ => ih

theorem isSetUp_loadConfiguration (host : Host) (config : Value) : IsSetUp d (loadConfiguration host config) := by
  refine (isSetUp_ofOutcome _).bind fun matchers => ?_
  refine (isSetUp_ofOutcome _).bind fun entries => ?_
  refine (isSetUp_loadMatchers host entries).bind fun _ => ?_
  refine (isSetUp_ofOutcome _).bind fun transforms => ?_
  refine (isSetUp_ofOutcome _).bind fun entries => ?_
  refine (isSetUp_loadTransforms entries).bind fun _ => ?_
  refine (isSetUp_ofOutcome _).bind fun plugins => ?_
  exact (isSetUp_ofOutcome _).bind (isSetUp_loadPlugins host)

end StyleRules.Registry
