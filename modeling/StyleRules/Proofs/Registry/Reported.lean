import StyleRules.Proofs.Outcomes
import StyleRules.Proofs.Registry.Batch

/-!
# Failures that are reported

With the standard diagnostics every failure of an entry can be worded.  So a configuration has a footprint as well:
that of its entries one after the other, where a message stands in for the failure of an entry.  Only an entry that
asks for the end of the process ends the loading.
-/

namespace StyleRules.Registry

variable {α : Type} {host : Host} {r ended : Registry} {load : Action Registry Unit}

/-! ## Messages about failures -/

/-- The message about a matcher entry that cannot be loaded. -/
def matcherMessage (entry : Value × Value) (reason : Failure) : Message :=
  .error (.rejectedOptions s!"Validation failed for matcher '{entry.1.text}': {reason.message}")

def transformMessage (entry : Value × Value) (reason : Failure) : Message :=
  let details := (Value.failure reason).causeText "XSLT transformation failed"
  ⟨Message.errorKind, s!"XSLT transform '{entry.1.text}' error: {details}", some (.failure reason)⟩

def pluginMessage (reference : Value) (reason : Failure) : Message :=
  let details := (Value.failure reason).causeText "Unknown plugin error"
  ⟨Message.errorKind, s!"Plugin '{(pluginName reference).text}' error: {details}", some (.failure reason)⟩

/-! ## Footprints of entries -/

/-- The footprint with a message in place of the failure; what asks for the end of the process still fails. -/
def Footprint.reported (message : Failure → Message) (print : Footprint) : Footprint :=
  match print.outcome with
  | .ok () => print
  | .error reason =>
    if reason.isExit then print
    else { print with outcome := .ok (), messages := print.messages ++ [message reason] }

theorem loadOrReport_ok (performed : load.perform r = (.ok (), ended))
    (wording : Diagnostics → Failure → Outcome (Result Value)) :
    (loadOrReport load wording).perform r = (.ok (), ended) := by
  have attempted : load.attempt.perform r = (.ok (.ok ()), ended) := by
    rw [Action.perform_attempt, performed]
  rw [loadOrReport, Action.perform_bind_ok attempted]
  rfl

theorem leaves_loadOrReport {print : Footprint} {wording : Diagnostics → Failure → Outcome (Result Value)}
    {message : Failure → Message} (loads : Leaves .standard load print)
    (worded : ∀ reason, wording .standard reason = .ok ⟨.null, [message reason]⟩) :
    Leaves .standard (loadOrReport load wording) (print.reported message) := by
  intro r standard
  have performed := loads r standard
  rw [Footprint.reported]
  cases outcome : print.outcome with
  | ok value =>
      rw [outcome] at performed
      exact (loadOrReport_ok performed wording).trans (Prod.ext outcome.symm rfl)
  | error reason =>
      rw [outcome] at performed
      have stillStandard : (print.onto r).diagnostics = .standard := standard
      rw [loadOrReport_failed performed, stillStandard, worded]
      dsimp only
      split
      · exact Prod.ext outcome.symm rfl
      · simp [Footprint.onto, withMessages]

def matcherFootprint (host : Host) (entry : Value × Value) : Footprint :=
  match describedMatcher host entry.2 with
  | .error reason => { outcome := .error reason }
  | .ok none => { outcome := .ok () }
  | .ok (some (factory, options)) => .ofRegister entry.1 factory options

def transformFootprint (entry : Value × Value) : Footprint :=
  match describedTransform entry.2 with
  | .error reason => { outcome := .error reason }
  | .ok (path, options) => .ofRegisterTransform entry.1 path options

def pluginFootprint (host : Host) (reference : Value) : Footprint :=
  match pluginOf host reference with
  | .error reason => { outcome := .error reason }
  | .ok plugin => footprint plugin

def loadMatcherEntry (host : Host) (entry : Value × Value) : Action Registry Unit :=
  loadMatcher host entry.1 entry.2

def loadTransformEntry (entry : Value × Value) : Action Registry Unit := loadTransform entry.1 entry.2

theorem leaves_loadMatcher (entry : Value × Value) :
    Leaves .standard (loadMatcherEntry host entry) (matcherFootprint host entry) := by
  intro r standard
  rw [loadMatcherEntry, loadMatcher_perform, matcherFootprint]
  cases describedMatcher host entry.2 with
  | error reason => rw [Footprint.onto_idle]
  | ok described =>
      cases described with
      | none => rw [Footprint.onto_idle]
      | some description => exact leaves_register entry.1 description.1 description.2 r standard

theorem leaves_loadTransform (entry : Value × Value) :
    Leaves .standard (loadTransformEntry entry) (transformFootprint entry) := by
  intro r standard
  rw [loadTransformEntry, loadTransform_perform, transformFootprint]
  cases describedTransform entry.2 with
  | error reason => rw [Footprint.onto_idle]
  | ok description => exact leaves_registerTransform entry.1 description.1 description.2 r standard

theorem leaves_loadPlugin (reference : Value) :
    Leaves .standard (loadPlugin host reference) (pluginFootprint host reference) := by
  intro r standard
  rw [loadPlugin, pluginFootprint]
  cases pluginOf host reference with
  | error reason => rw [Footprint.onto_idle, Action.perform_bind, Action.perform_ofOutcome]
  | ok plugin =>
      rw [Action.perform_bind_ok (Action.perform_ofOutcome _ r)]
      exact leaves_registerPlugin plugin r standard

/-! ## Footprints of configurations -/

/-- The footprint of a section: each item leaves what it registers, or the message about its failure. -/
def sectionFootprint (print : α → Footprint) (message : α → Failure → Message) (items : List α) : Footprint :=
  .all (items.map fun item => (print item).reported (message item))

theorem leaves_loadMatchers (entries : List (Value × Value)) :
    Leaves .standard (loadMatchers host entries) (sectionFootprint (matcherFootprint host) matcherMessage entries) := by
  induction entries with
  | nil => exact leaves_ofOutcome (.ok ())
  | cons entry rest ih => exact (leaves_loadOrReport (leaves_loadMatcher entry) fun _ => rfl).bind ih

theorem leaves_loadTransforms (entries : List (Value × Value)) :
    Leaves .standard (loadTransforms entries) (sectionFootprint transformFootprint transformMessage entries) := by
  induction entries with
  | nil => exact leaves_ofOutcome (.ok ())
  | cons entry rest ih => exact (leaves_loadOrReport (leaves_loadTransform entry) fun _ => rfl).bind ih

theorem leaves_loadPlugins (references : List Value) :
    Leaves .standard (loadPlugins host references)
      (sectionFootprint (pluginFootprint host) pluginMessage references) := by
  induction references with
  | nil => exact leaves_ofOutcome (.ok ())
  | cons reference rest ih => exact (leaves_loadOrReport (leaves_loadPlugin reference) fun _ => rfl).bind ih

def configurationFootprint (host : Host) (matchers transforms : List (Value × Value)) (references : List Value) :
    Footprint :=
  (sectionFootprint (matcherFootprint host) matcherMessage matchers).andThen
    ((sectionFootprint transformFootprint transformMessage transforms).andThen
      (sectionFootprint (pluginFootprint host) pluginMessage references))

variable {config : Value} {matchers transforms : List (Value × Value)} {references : List Value}

/-- With the standard diagnostics, what loading a configuration leaves is told from the configuration alone. -/
theorem leaves_loadConfiguration (sections : Sections config matchers transforms references) :
    Leaves .standard (loadConfiguration host config) (configurationFootprint host matchers transforms references) := by
  intro r standard
  rw [loadConfiguration_sections sections]
  exact (leaves_loadMatchers matchers).bind ((leaves_loadTransforms transforms).bind (leaves_loadPlugins references))
    r standard

/-! ## How loading ends -/

/-- None of the modules and classes that a configuration names asks for the end of the process. -/
structure Ordinary (host : Host) (matchers : List (Value × Value)) (references : List Value) : Prop where
  factories : ∀ entry ∈ matchers, ∀ reference, entry.2.option "factory" = .ok (.str reference) →
    (host.importObject reference).IsOrdinary
  plugins : ∀ reference ∈ references, (pluginFootprint host reference).outcome.IsOrdinary

end StyleRules.Registry
