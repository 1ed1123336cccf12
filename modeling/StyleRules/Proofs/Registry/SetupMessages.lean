import StyleRules.Proofs.Registry.Escaping
import StyleRules.Proofs.Registry.Reported

/-!
# What is said while setting up

Messages of a setup are about entries and plugins that fail and about dependencies that are missing, and plugins may
add messages of their own.  However they are worded, all of them are errors or warnings.
-/

namespace StyleRules

/-- The message is an error or a warning. -/
def Message.Counted (message : Message) : Prop := message.isError = true ∨ message.isWarning = true

namespace Registry

variable {d : Diagnostics} {host : Host} {r ended : Registry}

/-! ## What footprints add -/

/-- The messages are errors or warnings, and the strategies are objects. -/
structure Footprint.Plain (print : Footprint) : Prop where
  counted : ∀ message ∈ print.messages, message.Counted
  objects : ∀ strategy ∈ print.strategies, ∃ subject, strategy = .object subject

theorem plain_silent {print : Footprint} (noMessages : print.messages = []) (noStrategies : print.strategies = []) :
    print.Plain := by
  refine ⟨?_, ?_⟩
  · rw [noMessages]
    exact nofun
  · rw [noStrategies]
    exact nofun

theorem Footprint.Plain.andThen {first second : Footprint} (firstPlain : first.Plain) (secondPlain : second.Plain) :
    (first.andThen second).Plain := by
  rw [Footprint.andThen]
  split
  · exact firstPlain
  · exact ⟨List.forall_mem_append.mpr ⟨firstPlain.counted, secondPlain.counted⟩,
      List.forall_mem_append.mpr ⟨firstPlain.objects, secondPlain.objects⟩⟩

theorem plain_all {prints : List Footprint} (plain : ∀ print ∈ prints, print.Plain) : (Footprint.all prints).Plain := by
  induction prints with
  | nil => exact plain_silent rfl rfl
  | cons print rest ih =>
      obtain ⟨first, others⟩ := List.forall_mem_cons.mp plain
      exact first.andThen (ih others)

theorem plain_ofRegister (name factory options : Value) : (Footprint.ofRegister name factory options).Plain := by
  rw [Footprint.ofRegister]
  split <;> exact plain_silent rfl rfl

theorem plain_ofRegisterTransform (name path options : Value) :
    (Footprint.ofRegisterTransform name path options).Plain := by
  rw [Footprint.ofRegisterTransform]
  split <;> exact plain_silent rfl rfl

theorem plain_ofStrategy (subject : Value) : (Footprint.ofStrategy (.object subject)).Plain := by
  rw [Footprint.ofStrategy]
  split
  · exact ⟨List.forall_mem_nil _, List.forall_mem_singleton.mpr ⟨subject, rfl⟩⟩
  · exact plain_silent rfl rfl

theorem plain_said (isWarning : Bool) (text : String) :
    Footprint.Plain { outcome := .ok (), messages := [if isWarning then .warning text else .errorText text] } := by
  refine ⟨List.forall_mem_singleton.mpr ?_, nofun⟩
  cases isWarning with
  | true => exact .inr rfl
  | false => exact .inl rfl

theorem plain_listing (plugin : Value) : (listing plugin).Plain := by
  rw [listing]
  split <;> exact plain_silent rfl rfl

theorem plain_foreignFootprint (step : PluginStep) (plugin : Value) : (foreignFootprint step plugin).Plain :=
  plain_silent rfl rfl

mutual

/-- Plugins add errors, warnings and objects, and so do the plugins that they register themselves. -/
theorem plain_stepsFootprint (plugin : Value) : (stepsFootprint plugin).Plain := by
  cases plugin with
  | plugin p =>
      obtain ⟨body, name, version, dependencies, enabled⟩ := p
      exact (plain_stepFootprint .register body).andThen (plain_stepFootprint .startUp body)
  | _ =>
      unfold stepsFootprint
      exact (plain_foreignFootprint .register _).andThen (plain_foreignFootprint .startUp _)

theorem plain_stepFootprint (step : PluginStep) : ∀ body : PluginBody Value, (stepFootprint step body).Plain
  | .builtin plugin => by
      cases step with
      | register =>
          refine plain_all fun print member => ?_
          obtain ⟨entry, _, rfl⟩ := List.mem_map.mp member
          exact plain_ofRegister _ _ _
      | startUp => exact plain_silent rfl rfl
  | .written className atRegister atStart => by
      cases step with
      | register => exact plain_scriptFootprint atRegister
      | startUp => exact plain_scriptFootprint atStart

theorem plain_scriptFootprint : ∀ script : PluginScript Value, (scriptFootprint script).Plain
  | .done => plain_silent rfl rfl
  | .failing _ => plain_silent rfl rfl
  | .register name factory options rest => (plain_ofRegister name factory options).andThen (plain_scriptFootprint rest)
  | .registerTransform name path options rest =>
      (plain_ofRegisterTransform name path options).andThen (plain_scriptFootprint rest)
  | .registerPlugin plugin rest =>
      ((plain_listing plugin).andThen (plain_stepsFootprint plugin)).andThen (plain_scriptFootprint rest)
  | .registerStrategy subject rest => (plain_ofStrategy subject).andThen (plain_scriptFootprint rest)
  | .report isWarning text rest => (plain_said isWarning text).andThen (plain_scriptFootprint rest)

end

theorem plain_footprint (plugin : Value) : (footprint plugin).Plain :=
  (plain_listing plugin).andThen (plain_stepsFootprint plugin)

theorem Footprint.Plain.reported {print : Footprint} {message : Failure → Message} (plain : print.Plain)
    (isError : ∀ reason, (message reason).isError = true) : (print.reported message).Plain := by
  rw [Footprint.reported]
  split
  · exact plain
  · split
    · exact plain
    · exact ⟨List.forall_mem_append.mpr ⟨plain.counted, List.forall_mem_singleton.mpr (.inl (isError _))⟩,
        plain.objects⟩

theorem plain_matcherFootprint (entry : Value × Value) : (matcherFootprint host entry).Plain := by
  rw [matcherFootprint]
  split
  · exact plain_silent rfl rfl
  · exact plain_silent rfl rfl
  · exact plain_ofRegister _ _ _

theorem plain_transformFootprint (entry : Value × Value) : (transformFootprint entry).Plain := by
  rw [transformFootprint]
  split
  · exact plain_silent rfl rfl
  · exact plain_ofRegisterTransform _ _ _

theorem plain_pluginFootprint (reference : Value) : (pluginFootprint host reference).Plain := by
  rw [pluginFootprint]
  split
  · exact plain_silent rfl rfl
  · exact plain_footprint _

theorem plain_sectionFootprint {α : Type} {print : α → Footprint} {message : α → Failure → Message} (items : List α)
    (plain : ∀ item, (print item).Plain) (isError : ∀ item reason, (message item reason).isError = true) :
    (sectionFootprint print message items).Plain := by
  refine plain_all fun reported member => ?_
  obtain ⟨item, _, rfl⟩ := List.mem_map.mp member
  exact (plain item).reported (isError item)

/-- A configuration that is loaded with the standard diagnostics adds errors, warnings and objects. -/
theorem loadConfiguration_plain {config : Value} (standard : r.diagnostics = .standard)
    (loaded : (loadConfiguration host config).perform r = (.ok (), ended)) :
    ∃ print : Footprint, print.Plain ∧ ended = print.onto r := by
  obtain ⟨matchers, transforms, references, sections⟩ := exists_sections loaded
  rw [leaves_loadConfiguration sections r standard] at loaded
  refine ⟨configurationFootprint host matchers transforms references, ?_, (Prod.mk.inj loaded).2.symm⟩
  refine (plain_sectionFootprint _ plain_matcherFootprint fun _ _ => rfl).andThen ?_
  refine (plain_sectionFootprint _ plain_transformFootprint fun _ _ => rfl).andThen ?_
  exact plain_sectionFootprint _ plain_pluginFootprint fun _ _ => rfl

/-! ## The messages of a registry -/

/-- All setup messages are errors or warnings. -/
def OnlyCounted (r : Registry) : Prop := ∀ message ∈ r.setupMessages, message.Counted

theorem onlyCounted_create (engine : Option Engine) (d : Diagnostics) (installFallbacks : Bool) :
    OnlyCounted (create engine d installFallbacks) := by
  have none : (create engine d installFallbacks).setupMessages = [] := by
    cases installFallbacks <;> rfl
  rw [OnlyCounted, none]
  exact nofun

theorem OnlyCounted.onto {print : Footprint} (counted : OnlyCounted r) (plain : print.Plain) :
    OnlyCounted (print.onto r) :=
  List.forall_mem_append.mpr ⟨counted, plain.counted⟩

theorem keepsCounted_registerPlugin (plugin : Value) : (registerPlugin plugin).Keeps OnlyCounted := by
  intro r counted
  rw [leaves_registerPlugin plugin r rfl]
  exact counted.onto (plain_footprint plugin)

theorem keepsCounted_register (name factory options : Value) : (register name factory options).Keeps OnlyCounted := by
  intro r counted
  rw [leaves_register name factory options r rfl]
  exact counted.onto (plain_ofRegister name factory options)

/-- The report about dependencies that are missing is an error. -/
theorem keepsCounted_dependenciesMissing (name missing : Value) :
    (report (d.dependenciesMissing name missing)).Keeps OnlyCounted := by
  intro r counted
  cases worded : d.dependenciesMissing name missing with
  | error reason => exact counted
  | ok result =>
      obtain ⟨_, _, failed⟩ := Outcome.bind_ok worded
      obtain ⟨_, _, failed⟩ := Outcome.bind_ok failed
      obtain ⟨shown, rfl⟩ := failed_ok failed
      exact List.forall_mem_append.mpr ⟨counted, List.forall_mem_singleton.mpr (.inl rfl)⟩

end Registry

end StyleRules
