import StyleRules.Orchestration
import StyleRules.Proofs.Registry.History
import StyleRules.Proofs.Transform.Enabling
import StyleRules.Proofs.Transform.Remembering

/-!
# The registry of a run

The engine of a run starts with an empty cache, with no processors but the shipped ones, and with templates
that have no parameters of their own.  Setting up the registry around it leaves it as it is.
-/

namespace StyleRules

namespace Engine

/-- An engine before its first transform: the cache is empty, all processors are shipped ones, and no
template has parameters of its own. -/
structure Plain (e : Engine) : Prop where
  noEntries : e.cache.entries = []
  stylesheets : ∀ entry ∈ e.processors, entry.2.processor = .processor Processor.stylesheets
  noDefaults : ∀ entry ∈ e.templates, entry.2.parameters = []

theorem keepsPlain_registerTemplate (name body : Value) : (registerTemplate name body {}).Keeps Plain := by
  intro e plain
  by_cases isKey : name.isKey = true
  · rw [perform_registerTemplate isKey]
    refine ⟨plain.noEntries, plain.stylesheets, ?_⟩
    intro entry member
    rcases Mapping.mem_insert member with old | isNew
    · exact plain.noDefaults entry old
    · rw [isNew]
  · have refused : (registerTemplate name body {}).perform e = (.error (.misuse .type), e) := by
      simp [registerTemplate, Action.perform_bind, isKey, Value.orElse, Value.truthy, Value.toEntries]
    rw [refused]
    exact plain

theorem keepsPlain_registerSheets (sheets : List Stylesheet) : (registerSheets sheets).Keeps Plain := by
  induction sheets with
  | nil => exact Action.Keeps.pure ()
  | cons sheet rest ih => exact (keepsPlain_registerTemplate _ _).bind fun _ => ih

theorem plain_insert {e : Engine} (plain : Plain e) (name : Value) : Plain { e with
    processors := Mapping.insert name ⟨.processor Processor.stylesheets, 0⟩ e.processors } := by
  refine ⟨plain.noEntries, ?_, plain.noDefaults⟩
  intro entry member
  rcases Mapping.mem_insert member with old | isNew
  · exact plain.stylesheets entry old
  · rw [isNew]

theorem keepsPlain_enableBackends (names : List Value) : (enableBackends names).Keeps Plain := by
  apply keeps_enableBackends
  intro known processor member e plain
  obtain ⟨rfl, rfl⟩ := Prod.mk.inj (List.mem_singleton.mp member)
  exact plain_insert plain _

theorem plain_create {options : EngineOptions} {e : Engine} (noProcessors : options.processors = .null)
    (created : create options = .ok e) : Plain e := by
  rw [create, noProcessors] at created
  obtain ⟨capacity, _, created⟩ := Outcome.bind_ok created
  obtain ⟨paths, _, created⟩ := Outcome.bind_ok created
  obtain ⟨places, _, created⟩ := Outcome.bind_ok created
  cases created
  exact ⟨rfl, fun entry member => (List.not_mem_nil member).elim,
    fun entry member => (List.not_mem_nil member).elim⟩

theorem plain_buildEngine {o : Orchestrator} {host : Host} {e : Engine}
    (built : o.buildEngine host = .ok (some e)) : Plain e := by
  rw [Orchestrator.buildEngine] at built
  dsimp only at built
  obtain ⟨enabled, _, built⟩ := Outcome.bind_ok built
  split at built
  · cases built
  obtain ⟨caching, _, built⟩ := Outcome.bind_ok built
  obtain ⟨size, _, built⟩ := Outcome.bind_ok built
  obtain ⟨processor, _, built⟩ := Outcome.bind_ok built
  obtain ⟨paths, _, built⟩ := Outcome.bind_ok built
  obtain ⟨new, created, built⟩ := Outcome.bind_ok built
  obtain ⟨listed, _, built⟩ := Outcome.bind_ok built
  obtain ⟨names, _, built⟩ := Outcome.bind_ok built
  obtain ⟨_, _, built⟩ := Outcome.bind_ok built
  obtain ⟨common, _, built⟩ := Outcome.bind_ok built
  have ready := keepsPlain_enableBackends names new (plain_create rfl created)
  split at built
  · obtain ⟨_, _, built⟩ := Outcome.bind_ok built
    cases built
    exact keepsPlain_registerSheets _ _ ready
  · cases built
    exact ready

end Engine

namespace Orchestrator

open Registry

variable {o : Orchestrator} {host : Host} {take : PluginStep → Value → Action Registry Unit}

/-! ## The stages of a setup -/

/-- The registries that a setup goes through: with the fallback mode, with the plugins, with the configuration, and
at last with the further registrations. -/
structure Stages (take : PluginStep → Value → Action Registry Unit) (o : Orchestrator) (host : Host) (mode part : Value)
    (start withMode withPlugins configured ended : Registry) : Prop where
  isMode : o.configuration.get host "error_handling.fallback_strategy" (.str "ignore") = .ok mode
  modeSet : (setFallbackMode mode).perform start = (.ok (), withMode)
  pluginsRegistered : (registerPlugins take o.plugins).perform withMode = (.ok (), withPlugins)
  isPart : o.configuration.registryPart host = .ok part
  loaded : (loadConfiguration host part).perform withPlugins = (.ok (), configured)
  registered : (registerAll o.registrations).perform configured = (.ok (), ended)

variable {mode part : Value} {start withMode withPlugins configured ended : Registry}

/-- Behind the stages the types are listed, which may fail. -/
theorem Stages.setUpBy_perform (stages : Stages take o host mode part start withMode withPlugins configured ended) :
    (o.setUpBy take host).perform start = (ended.availableTypes.map fun _ => (), ended) := by
  rw [setUpBy, stages.isMode, Action.perform_bind_ok (Action.perform_ofOutcome _ _),
    Action.perform_bind_ok stages.modeSet, Action.perform_bind_ok stages.pluginsRegistered, stages.isPart,
    Action.perform_bind_ok (Action.perform_ofOutcome _ _), Action.perform_bind_ok stages.loaded,
    Action.perform_bind_ok stages.registered, Action.perform_bind_ok (Action.perform_get _)]
  cases ended.availableTypes <;> rfl

theorem exists_stages (setUp : (o.setUpBy take host).perform start = (.ok (), ended)) :
    ∃ mode part withMode withPlugins configured,
      Stages take o host mode part start withMode withPlugins configured ended := by
  rw [setUpBy] at setUp
  obtain ⟨mode, isMode, setUp⟩ := Action.ofOutcome_bind_ok setUp
  obtain ⟨_, withMode, modeSet, setUp⟩ := Action.bind_ok setUp
  obtain ⟨_, withPlugins, pluginsRegistered, setUp⟩ := Action.bind_ok setUp
  obtain ⟨part, isPart, setUp⟩ := Action.ofOutcome_bind_ok setUp
  obtain ⟨_, configured, loaded, setUp⟩ := Action.bind_ok setUp
  obtain ⟨_, complete, registered, setUp⟩ := Action.bind_ok setUp
  -- Nothing but the listing of the types is left, which changes nothing.
  rw [Action.perform_bind_ok (Action.perform_get complete)] at setUp
  obtain ⟨_, _, setUp⟩ := Action.ofOutcome_bind_ok setUp
  cases setUp
  exact ⟨mode, part, withMode, withPlugins, configured, isMode, modeSet, pluginsRegistered, isPart, loaded,
    registered⟩

theorem buildBy_of_setUp {engine : Option Engine} {r : Registry} {outcome : Outcome Unit}
    (engineBuilt : o.buildEngine host = .ok engine)
    (setUp : (o.setUpBy take host).perform (Registry.create engine Diagnostics.standard true) = (outcome, r)) :
    o.buildBy take host = outcome.map fun _ => r := by
  rw [buildBy, engineBuilt, Outcome.ok_bind]
  dsimp only
  rw [setUp]

theorem buildBy_ok {r : Registry} (built : o.buildBy take host = .ok r) :
    ∃ engine, o.buildEngine host = .ok engine ∧
      (o.setUpBy take host).perform (Registry.create engine Diagnostics.standard true) = (.ok (), r) := by
  rw [buildBy] at built
  obtain ⟨engine, engineBuilt, built⟩ := Outcome.bind_ok built
  refine ⟨engine, engineBuilt, ?_⟩
  dsimp only at built
  cases ended : (o.setUpBy take host).perform (Registry.create engine Diagnostics.standard true) with
  | mk outcome ready =>
      rw [ended] at built
      cases outcome with
      | error reason => cases built
      | ok value =>
          cases built
          rfl

theorem exists_buildStages {r : Registry} (built : o.buildRegistry host = .ok r) :
    ∃ engine mode part withMode withPlugins configured, o.buildEngine host = .ok engine ∧
      Stages takeStep o host mode part (Registry.create engine Diagnostics.standard true) withMode withPlugins
        configured r := by
  obtain ⟨engine, engineBuilt, setUp⟩ := buildBy_ok built
  obtain ⟨mode, part, withMode, withPlugins, configured, stages⟩ := exists_stages setUp
  exact ⟨engine, mode, part, withMode, withPlugins, configured, engineBuilt, stages⟩

/-- Further registrations are added to the registry that is set up without them. -/
theorem buildRegistry_registering {r ended : Registry} {registrations : List Registration} {types : List Value}
    (noRegistrations : o.registrations = []) (built : o.buildRegistry host = .ok r)
    (registered : (registerAll registrations).perform r = (.ok (), ended))
    (sorted : ended.availableTypes = .ok types) :
    ({ o with registrations } : Orchestrator).buildRegistry host = .ok ended := by
  obtain ⟨engine, mode, part, withMode, withPlugins, configured, engineBuilt, stages⟩ := exists_buildStages built
  have none := stages.registered
  rw [noRegistrations] at none
  cases none
  have further : Stages takeStep { o with registrations } host mode part
      (Registry.create engine Diagnostics.standard true) withMode withPlugins r ended :=
    { stages with registered }
  rw [buildRegistry, buildBy_of_setUp (o := { o with registrations }) engineBuilt further.setUpBy_perform, sorted]
  rfl

/-! ## The engine of a run -/

theorem keepsEngine_of_isSetUp {α : Type} {engine : Option Engine} {action : Action Registry α}
    (isSetUp : ∀ d, IsSetUp d action) : action.Keeps (·.engine = engine) := by
  intro r same
  obtain ⟨outcome, direct, transforms, writes⟩ := isSetUp r.diagnostics
  exact (writes r rfl).2.2.1.trans same

/-- A run starts from a registry without an engine or with a plain one. -/
theorem plain_buildRegistry {r : Registry} (noPlugins : o.plugins = []) (noRegistrations : o.registrations = [])
    (built : o.buildRegistry host = .ok r) {e : Engine} (bound : r.engine = some e) : Engine.Plain e := by
  obtain ⟨engine, mode, part, withMode, withPlugins, configured, engineBuilt, stages⟩ := exists_buildStages built
  have modeKept := keepsEngine_of_isSetUp (fun d => isSetUp_setFallbackMode mode) _
    (create_tables engine Diagnostics.standard true).1
  have pluginsKept := stages.pluginsRegistered
  rw [noPlugins] at pluginsKept
  cases pluginsKept
  rw [stages.modeSet] at modeKept
  have loadKept := keepsEngine_of_isSetUp (fun d => isSetUp_loadConfiguration host part) _ modeKept
  rw [stages.loaded] at loadKept
  have registeredKept := stages.registered
  rw [noRegistrations] at registeredKept
  cases registeredKept
  rw [← loadKept, bound] at engineBuilt
  exact Engine.plain_buildEngine engineBuilt

end Orchestrator

end StyleRules
