import StyleRules.Proofs.Value.Reading
import StyleRules.Proofs.Value.TextKeys
import StyleRules.Registry.Setup

/-!
# Footprints

The calls of a plugin do not look at the registry.  So what a plugin leaves behind can be told from the plugin alone:
how its registration ends, and what is added to the tables and lists of any registry, also when it ends in a failure.
This is its footprint, computed here along the scripts of the plugin and of those that it registers itself.
-/

namespace StyleRules.Registry

/-! ## Registering one type -/

/-- What a registration writes under its name; what cannot be a key cannot be registered. -/
def registrationOf (name factory options : Value) : Outcome RegisteredMatcher :=
  if name.isKey then matcherOf name factory options else Outcome.wrongType

theorem perform_register (name factory options : Value) (r : Registry) :
    (register name factory options).perform r =
      match registrationOf name factory options with
      | .ok registered => (.ok (), { r with matchers := Mapping.insert name registered r.matchers })
      | .error reason => (.error reason, r) := by
  unfold registrationOf
  by_cases isKey : name.isKey = true
  · cases read : matcherOf name factory options <;>
      simp [register, isKey, read, Action.perform_bind]
  · simp [register, isKey, Outcome.wrongType]

/-- What a registration writes into the table of transforms under its name. -/
def transformationOf (name path options : Value) : Outcome RegisteredTransform := do
  let registered ← transformOf path options
  if name.isKey then return registered else Outcome.wrongType

theorem perform_registerTransform (name path options : Value) (r : Registry) :
    (registerTransform name path options).perform r =
      match transformationOf name path options with
      | .ok registered => (.ok (), { r with transforms := Mapping.insert name registered r.transforms })
      | .error reason => (.error reason, r) := by
  unfold transformationOf
  cases read : transformOf path options with
  | error reason =>
      rw [registerTransform, read, Action.perform_bind]
      rfl
  | ok registered =>
      by_cases isKey : name.isKey = true <;>
        simp [registerTransform, isKey, read, Action.perform_bind, Outcome.wrongType, Outcome.ok_bind]

/-! ## Footprints -/

/-- How an action ends, and what it adds to any registry. -/
structure Footprint where
  outcome : Outcome Unit
  plugins : List Value := []
  matchers : List (Value × RegisteredMatcher) := []
  transforms : List (Value × RegisteredTransform) := []
  strategies : List Strategy := []
  messages : List Message := []

namespace Footprint

/-- The registry with what is added to it. -/
def onto (print : Footprint) (r : Registry) : Registry :=
  { r with
    plugins := r.plugins ++ print.plugins
    matchers := Mapping.insertAll print.matchers r.matchers
    transforms := Mapping.insertAll print.transforms r.transforms
    strategies := r.strategies ++ print.strategies
    setupMessages := r.setupMessages ++ print.messages }

/-- The footprint of two actions, of which the second one is only performed when the first one succeeds. -/
def andThen (first second : Footprint) : Footprint :=
  match first.outcome with
  | .error _ => first
  | .ok () =>
    { outcome := second.outcome
      plugins := first.plugins ++ second.plugins
      matchers := first.matchers ++ second.matchers
      transforms := first.transforms ++ second.transforms
      strategies := first.strategies ++ second.strategies
      messages := first.messages ++ second.messages }

/-- The footprint of a registration. -/
def ofRegister (name factory options : Value) : Footprint :=
  match registrationOf name factory options with
  | .ok registered => { outcome := .ok (), matchers := [(name, registered)] }
  | .error reason => { outcome := .error reason }

/-- The footprint of a registration as a transform. -/
def ofRegisterTransform (name path options : Value) : Footprint :=
  match transformationOf name path options with
  | .ok registered => { outcome := .ok (), transforms := [(name, registered)] }
  | .error reason => { outcome := .error reason }

/-- The footprint of a strategy. -/
def ofStrategy (strategy : Strategy) : Footprint :=
  match strategy.check with
  | .ok () => { outcome := .ok (), strategies := [strategy] }
  | .error reason => { outcome := .error reason }

/-- The footprint of actions one after the other. -/
def all : List Footprint → Footprint
  | [] => { outcome := .ok () }
  | print :: rest => print.andThen (all rest)

/-- The footprint of entries that are registered one after the other. -/
def ofEntries (entries : List PluginEntry) : Footprint :=
  all (entries.map fun entry => ofRegister entry.name entry.factory entry.options)

end Footprint

/-- The object has a function `register`, so it can be registered as a plugin. -/
def isPlugin (plugin : Value) : Bool := (plugin.attributeOrNull "register").isCallable

/-- The footprint of listing a plugin. -/
def listing (plugin : Value) : Footprint :=
  if isPlugin plugin then { outcome := .ok (), plugins := [plugin] }
  else { outcome := .error .pluginWithoutRegister }

/-- The footprint of a step of an object of another class. -/
def foreignFootprint (step : PluginStep) (plugin : Value) : Footprint :=
  let function := plugin.attributeOrNull (if step = .register then "register" else "initialize")
  { outcome := if function.isCallable then (function.call [asValue]).map fun _ => () else .ok () }

mutual

/-- The footprint of both steps of a plugin. -/
def stepsFootprint : Value → Footprint
  | .plugin ⟨body, _, _, _, _⟩ => (stepFootprint .register body).andThen (stepFootprint .startUp body)
  | other => (foreignFootprint .register other).andThen (foreignFootprint .startUp other)
termination_by structural plugin => plugin

/-- The footprint of a step of a plugin. -/
def stepFootprint (step : PluginStep) : PluginBody Value → Footprint
  | .builtin plugin => if step = .register then .ofEntries plugin.entries else { outcome := .ok () }
  | .written _ atRegister atStart =>
    match step with
    | .register => scriptFootprint atRegister
    | .startUp => scriptFootprint atStart
termination_by structural body => body

def scriptFootprint : PluginScript Value → Footprint
  | .done => { outcome := .ok () }
  | .failing reason => { outcome := .error reason }
  | .register name factory options rest => (Footprint.ofRegister name factory options).andThen (scriptFootprint rest)
  | .registerTransform name path options rest =>
    (Footprint.ofRegisterTransform name path options).andThen (scriptFootprint rest)
  | .registerPlugin plugin rest => ((listing plugin).andThen (stepsFootprint plugin)).andThen (scriptFootprint rest)
  | .registerStrategy subject rest => (Footprint.ofStrategy (.object subject)).andThen (scriptFootprint rest)
  | .report isWarning text rest =>
    Footprint.andThen { outcome := .ok (), messages := [if isWarning then .warning text else .errorText text] }
      (scriptFootprint rest)
termination_by structural script => script

end

/-- The footprint of a plugin. -/
def footprint (plugin : Value) : Footprint := (listing plugin).andThen (stepsFootprint plugin)

/-! ## What actions leave behind -/

/-- The action has the footprint, on every registry with the diagnostics `d`. -/
def Leaves (d : Diagnostics) (action : Action Registry Unit) (print : Footprint) : Prop :=
  ∀ r, r.diagnostics = d → action.perform r = (print.outcome, print.onto r)

variable {d : Diagnostics} {first next : Action Registry Unit} {print second : Footprint}

theorem Footprint.onto_idle (outcome : Outcome Unit) (r : Registry) : ({ outcome } : Footprint).onto r = r := by
  simp [onto, Mapping.insertAll_nil]

theorem leaves_ofOutcome (outcome : Outcome Unit) : Leaves d (Action.ofOutcome outcome) { outcome } :=
  fun r _ => Prod.ext rfl (Footprint.onto_idle outcome r).symm

theorem Leaves.bind (firstLeaves : Leaves d first print) (nextLeaves : Leaves d next second) :
    Leaves d (first >>= fun _ => next) (print.andThen second) := by
  intro r same
  rw [Action.perform_bind, firstLeaves r same, Footprint.andThen]
  cases ended : print.outcome with
  | error reason => exact Prod.ext ended.symm rfl
  | ok value =>
      refine (nextLeaves (print.onto r) same).trans (Prod.ext rfl ?_)
      simp [Footprint.onto, Mapping.insertAll_append]

theorem leaves_register (name factory options : Value) :
    Leaves d (register name factory options) (.ofRegister name factory options) := by
  intro r _
  rw [perform_register, Footprint.ofRegister]
  cases registrationOf name factory options with
  | error reason => rw [Footprint.onto_idle]
  | ok registered => simp [Footprint.onto, Mapping.insertAll_cons, Mapping.insertAll_nil]

theorem leaves_registerTransform (name path options : Value) :
    Leaves d (registerTransform name path options) (.ofRegisterTransform name path options) := by
  intro r _
  rw [perform_registerTransform, Footprint.ofRegisterTransform]
  cases transformationOf name path options with
  | error reason => rw [Footprint.onto_idle]
  | ok registered => simp [Footprint.onto, Mapping.insertAll_cons, Mapping.insertAll_nil]

theorem leaves_registerStrategy (strategy : Strategy) : Leaves d (registerStrategy strategy) (.ofStrategy strategy) := by
  intro r _
  rw [registerStrategy, Action.perform_bind, Action.perform_ofOutcome, Footprint.ofStrategy]
  cases strategy.check with
  | error reason => rw [Footprint.onto_idle]
  | ok checked => simp [Footprint.onto, Mapping.insertAll_nil]

theorem leaves_registerEntries (entries : List PluginEntry) : Leaves d (registerEntries entries) (.ofEntries entries) := by
  induction entries with
  | nil => exact leaves_ofOutcome (.ok ())
  | cons entry rest ih => exact (leaves_register entry.name entry.factory entry.options).bind ih

theorem functionAt_register (plugin : Value) :
    plugin.functionAt "register" .pluginWithoutRegister =
      if isPlugin plugin then .ok (plugin.attributeOrNull "register") else .error .pluginWithoutRegister :=
  plugin.functionAt_eq "register" _

theorem leaves_listPlugin (plugin : Value) : Leaves d (listPlugin plugin) (listing plugin) := by
  intro r _
  rw [listPlugin, functionAt_register, listing]
  by_cases registers : isPlugin plugin = true
  · rw [if_pos registers, if_pos registers, Action.perform_bind_ok (Action.perform_ofOutcome _ r)]
    simp [Footprint.onto, Mapping.insertAll_nil]
  · rw [if_neg registers, if_neg registers, Footprint.onto_idle]
    rfl

theorem leaves_performForeign (step : PluginStep) (plugin : Value) :
    Leaves d (performForeign step plugin) (foreignFootprint step plugin) := by
  intro r _
  rw [performForeign, foreignFootprint, Footprint.onto_idle]
  dsimp only
  generalize plugin.attributeOrNull (if step = .register then "register" else "initialize") = function
  by_cases callable : function.isCallable = true
  · rw [if_pos callable, if_pos callable, Action.perform_bind, Action.perform_ofOutcome]
    cases function.call [asValue] <;> rfl
  · rw [if_neg callable, if_neg callable]
    rfl

mutual

/-- A plugin leaves its footprint on every registry. -/
theorem leaves_registerPlugin (plugin : Value) : Leaves d (registerPlugin plugin) (footprint plugin) := by
  cases plugin with
  | plugin p =>
      obtain ⟨body, name, version, dependencies, enabled⟩ := p
      exact (leaves_listPlugin _).bind ((leaves_performStep .register body).bind (leaves_performStep .startUp body))
  | _ =>
      exact (leaves_listPlugin _).bind ((leaves_performForeign .register _).bind (leaves_performForeign .startUp _))

theorem leaves_performStep (step : PluginStep) : ∀ body : PluginBody Value,
    Leaves d (performStep step body) (stepFootprint step body)
  | .builtin plugin => by
      cases step with
      | register => exact leaves_registerEntries plugin.entries
      | startUp => exact leaves_ofOutcome (.ok ())
  | .written className atRegister atStart => by
      cases step with
      | register => exact leaves_performScript atRegister
      | startUp => exact leaves_performScript atStart

theorem leaves_performScript : ∀ script : PluginScript Value, Leaves d (performScript script) (scriptFootprint script)
  | .done => leaves_ofOutcome (.ok ())
  | .failing reason => leaves_ofOutcome (.error reason)
  | .register name factory options rest => (leaves_register name factory options).bind (leaves_performScript rest)
  | .registerTransform name path options rest =>
      (leaves_registerTransform name path options).bind (leaves_performScript rest)
  | .registerPlugin plugin rest => (leaves_registerPlugin plugin).bind (leaves_performScript rest)
  | .registerStrategy subject rest => (leaves_registerStrategy (.object subject)).bind (leaves_performScript rest)
  | .report isWarning text rest => by
      have reported : Leaves d (modify fun r => { r with
          setupMessages := r.setupMessages ++ [if isWarning then .warning text else .errorText text] })
          { outcome := .ok (), messages := [if isWarning then .warning text else .errorText text] } := by
        intro r _
        simp [Footprint.onto, Mapping.insertAll_nil]
      exact reported.bind (leaves_performScript rest)

end

end StyleRules.Registry
