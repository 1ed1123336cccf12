import StyleRules.Proofs.Orchestration.Advice

/-!
# Dependencies of plugins

With the default configuration, plugins are registered in order, whether they lack something or not, and what is said
in the setup is the advice about them.  A plugin that registers further plugins brings the advice out of order, and
one that names a type by a number is registered for nothing, since the types are listed at last.
-/

namespace StyleRules.Orchestrator

open StyleRules.Configuration Registry

open DependentPlugin (toValue)

variable {host : Host} {start : Registry}

/-! ## Setting up with the defaults -/

theorem accepted_initial (noOverrides : NoOverrides host) : Accepted host (initial true .null) := by
  have fits : IntegersFit (.map []) := by
    intro path isPath value found
    simp only [integerPaths, List.mem_cons, List.not_mem_nil, or_false] at isPath
    rcases isPath with rfl | rfl <;> cases found
  have created := create_ofMapping host []
  rw [ofMapping_nil, review_initial] at created
  rcases create_refuses_or_accepts noOverrides isJson_map_nil.isData fits with ⟨errors, refused⟩ | ⟨_, accepted⟩
  · rw [created] at refused
    cases refused
  · rwa [ofMapping_nil] at accepted

/-- An orchestrator of nothing but plugins. -/
def pluginsOnly (plugins : List Value) : Orchestrator := ⟨initial true .null, plugins, []⟩

/-- With the defaults, the engine is set up with the shipped processor. -/
theorem exists_defaultEngine (noOverrides : NoOverrides host) (plugins : List Value) :
    ∃ engine, (pluginsOnly plugins).buildEngine host = .ok engine := by
  have accepted : Accepted host (pluginsOnly plugins).configuration := accepted_initial noOverrides
  obtain ⟨enabled, names, _, isNames, built⟩ := buildEngine_accepted accepted
  have isListed : lookup ["transforms", "processors"] (.map (pluginsOnly plugins).configuration.entries) =
    some (textList ["lxml"]) := rfl
  obtain rfl := processors_eq noOverrides isListed isNames
  have noneUnknown : (["lxml"].find? fun name => !Engine.isBackend name) = none := rfl
  rwa [noneUnknown, ite_self] at built

theorem registryPart_initial (noOverrides : NoOverrides host) :
    (initial true .null).registryPart host = .ok (partOf [] [] []) :=
  registryPart_of_noOverrides noOverrides

/-- A registry of the built-in types, before the first plugin. -/
structure Fresh (start : Registry) : Prop where
  standard : start.diagnostics = Diagnostics.standard
  noPlugins : start.plugins = []
  noMessages : start.setupMessages = []
  builtin : start.matchers = builtinMatchers
  noTransforms : start.transforms = []

theorem Fresh.texts (fresh : Fresh start) : start.TypesAreTexts := by
  obtain ⟨_, _, matchers, _⟩ := create_tables none Diagnostics.standard true
  have texts := (tidy_create none Diagnostics.standard true).matcherTexts
  rw [matchers] at texts
  rw [TypesAreTexts, fresh.builtin, fresh.noTransforms]
  exact ⟨texts, Mapping.textKeys_nil⟩

/-- With the defaults, the mode is set. -/
theorem exists_defaultMode (noOverrides : NoOverrides host) (plugins : List Value) (engine : Option Engine) :
    ∃ mode start,
      (pluginsOnly plugins).configuration.get host "error_handling.fallback_strategy" (.str "ignore") = .ok mode ∧
        (setFallbackMode mode).perform (Registry.create engine Diagnostics.standard true) = (.ok (), start) ∧
          Fresh start := by
  have accepted : Accepted host (pluginsOnly plugins).configuration := accepted_initial noOverrides
  obtain ⟨mode, isMode, known⟩ := exists_mode accepted
  obtain ⟨_, standard, matchers, transforms⟩ := create_tables engine Diagnostics.standard true
  have noPlugins : (Registry.create engine Diagnostics.standard true).plugins = [] := rfl
  have noMessages : (Registry.create engine Diagnostics.standard true).setupMessages = [] := rfl
  obtain ⟨strategies, modeSet⟩ := setFallbackMode_known known (Registry.create engine Diagnostics.standard true)
  exact ⟨.str mode, _, isMode, modeSet, standard, noPlugins, noMessages, matchers, transforms⟩

theorem loadConfiguration_nothing (r : Registry) :
    (loadConfiguration host (partOf [] [] [])).perform r = (.ok (), r) :=
  (loadConfiguration_sections (sections_partOf [] [] []) r).trans rfl

/-- With the defaults, the setup sets the mode and registers the plugins, and that is all. -/
theorem exists_defaultStart (noOverrides : NoOverrides host) (take : PluginStep → Value → Action Registry Unit)
    (plugins : List Value) :
    ∃ start, Fresh start ∧
      (∀ ended, (registerPlugins take plugins).perform start = (.ok (), ended) →
        (pluginsOnly plugins).buildBy take host = ended.availableTypes.map fun _ => ended) ∧
      ∀ r, (pluginsOnly plugins).buildBy take host = .ok r →
        (registerPlugins take plugins).perform start = (.ok (), r) := by
  obtain ⟨engine, engineBuilt⟩ := exists_defaultEngine noOverrides plugins
  obtain ⟨mode, start, isMode, modeSet, fresh⟩ := exists_defaultMode noOverrides plugins engine
  refine ⟨start, fresh, fun ended registered => ?_, fun r built => ?_⟩
  · have stages : Stages take (pluginsOnly plugins) host mode (partOf [] [] []) _ start ended ended ended :=
      ⟨isMode, modeSet, registered, registryPart_initial noOverrides, loadConfiguration_nothing ended, rfl⟩
    rw [buildBy_of_setUp engineBuilt stages.setUpBy_perform]
    cases ended.availableTypes <;> rfl
  · obtain ⟨builtEngine, sameEngine, setUp⟩ := buildBy_ok built
    cases engineBuilt.symm.trans sameEngine
    obtain ⟨setMode, part, withMode, withPlugins, configured, stages⟩ := exists_stages setUp
    cases isMode.symm.trans stages.isMode
    cases modeSet.symm.trans stages.modeSet
    cases stages.isPart.symm.trans (registryPart_initial noOverrides)
    cases stages.loaded.symm.trans (loadConfiguration_nothing withPlugins)
    have registered : (Except.ok (), withPlugins) = (.ok (), r) := stages.registered
    cases registered
    exact stages.pluginsRegistered

/-- With the default configuration, plugins whose steps leave the plugins, the setup messages and the diagnostics
alone are registered in order, and the messages of the setup are those about what each of them lacks.  So there are
no messages exactly when all dependencies are named by earlier plugins.  If the steps succeed and name types by texts,
the registry is built. -/
theorem plugins_advised (noOverrides : NoOverrides host) (take : PluginStep → Value → Action Registry Unit)
    (plugins : List DependentPlugin) (modest : ∀ p ∈ plugins, Modest take p.toValue) :
    ∃ c o, Configuration.create host { assignmentFile := .null } = .ok (host, c) ∧
      create c (.list (plugins.map toValue)) = .ok o ∧
      ((∀ p ∈ plugins, Succeeds take p.toValue) → ∃ r, o.buildBy take host = .ok r) ∧
      ∀ r, o.buildBy take host = .ok r →
        r.plugins = plugins.map toValue ∧ r.setupMessages = adviceOn plugins ∧
        (r.setupMessages = [] ↔ ∀ (position : Nat) (p : DependentPlugin), plugins[position]? = some p →
          ∀ text ∈ p.needs, ∃ (before : Nat) (other : DependentPlugin),
            before < position ∧ plugins[before]? = some other ∧ other.plugin.name = .str text) := by
  have created : create (initial true .null) (.list (plugins.map toValue)) =
      .ok (pluginsOnly (plugins.map toValue)) := by
    cases plugins <;> rfl
  have isDefault : Configuration.create host { assignmentFile := .null } = .ok (host, initial true .null) := rfl
  obtain ⟨start, fresh, builds, registers⟩ := exists_defaultStart noOverrides take (plugins.map toValue)
  refine ⟨_, _, isDefault, created, fun succeed => ?_, fun r isBuilt => ?_⟩
  · obtain ⟨ended, registered, texts⟩ :=
      @registerPlugins_succeeds start [] take plugins modest succeed fresh.standard fresh.noPlugins fresh.texts
    obtain ⟨types, listed⟩ := availableTypes_texts texts
    refine ⟨ended, ?_⟩
    rw [builds ended registered, listed]
    rfl
  · obtain ⟨isListed, messages⟩ :=
      @registerPlugins_modest start r [] take plugins plugins rfl modest fresh.standard fresh.noPlugins
        (registers r isBuilt)
    have isAdvice : r.setupMessages = adviceOn plugins := by
      rw [messages, fresh.noMessages]
      rfl
    exact ⟨isListed, isAdvice, by rw [isAdvice, adviceOn_eq_nil_iff]⟩

/-! ## Plugins in a tangle -/

/-- A plugin with one type, which is called like the plugin. -/
def plainPlugin (name : String) (needs : List String) : DependentPlugin where
  plugin := ⟨.scripted [(.str name, .callable (.constant (.bool true)), .null)] none "", .str name, .str "1.0.0",
    textList needs, true⟩
  needs := needs
  declared := rfl

theorem modest_plainPlugin (name : String) (needs : List String) :
    Modest takeStep (plainPlugin name needs).toValue := by
  intro step r ended performed
  cases step <;> cases performed <;> exact ⟨rfl, rfl, rfl⟩

theorem succeeds_plainPlugin (name : String) (needs : List String) :
    Succeeds takeStep (plainPlugin name needs).toValue := by
  refine ⟨fun step r => ?_, fun step r texts => ?_⟩
  · cases step <;> exact ⟨_, rfl⟩
  · cases step with
    | register => exact ⟨Mapping.textKeys_insert.mpr ⟨⟨name, rfl⟩, texts.1⟩, texts.2⟩
    | startUp => exact texts

/-- Plugins that need each other and themselves. -/
def tangledPlugins : List DependentPlugin :=
  [plainPlugin "notes" ["tables", "media"], plainPlugin "tables" ["notes", "tables"],
    plainPlugin "media" ["tables", "notes"]]

theorem plugins_advised_tangled :
    ∃ c o r, Configuration.create bareHost { assignmentFile := .null } = .ok (bareHost, c) ∧
      create c (.list (tangledPlugins.map toValue)) = .ok o ∧ o.buildRegistry bareHost = .ok r ∧
      r.plugins = tangledPlugins.map toValue ∧
      r.setupMessages.map (·.text) =
        ["Plugin 'notes' has unmet dependencies: tables, media", "Plugin 'tables' has unmet dependencies: tables"] := by
  have isPlain : ∀ p ∈ tangledPlugins, ∃ name needs, p = plainPlugin name needs := by
    simp only [tangledPlugins, List.forall_mem_cons, List.not_mem_nil, false_implies, implies_true, and_true]
    exact ⟨⟨_, _, rfl⟩, ⟨_, _, rfl⟩, ⟨_, _, rfl⟩⟩
  have modest : ∀ p ∈ tangledPlugins, Modest takeStep p.toValue := by
    intro p member
    obtain ⟨name, needs, rfl⟩ := isPlain p member
    exact modest_plainPlugin name needs
  have succeed : ∀ p ∈ tangledPlugins, Succeeds takeStep p.toValue := by
    intro p member
    obtain ⟨name, needs, rfl⟩ := isPlain p member
    exact succeeds_plainPlugin name needs
  obtain ⟨c, o, isDefault, isCreated, builds, advised⟩ :=
    plugins_advised noOverrides_bareHost takeStep tangledPlugins modest
  obtain ⟨r, built⟩ := builds succeed
  obtain ⟨isListed, isAdvice, _⟩ := advised r built
  exact ⟨c, o, r, isDefault, isCreated, built, isListed, by rw [isAdvice]; rfl⟩

/-! ## Plugins that are not modest -/

/-- A plugin that does nothing. -/
def idlePlugin (name : String) (needs : List String) : Plugin Value :=
  ⟨.written "ScriptPlugin" .done .done, .str name, .str "1.0.0", textList needs, true⟩

/-- A plugin that registers another one. -/
def registeringPlugin (name other : String) : Plugin Value :=
  ⟨.written "ScriptPlugin" (.registerPlugin (.plugin (idlePlugin other [])) .done) .done, .str name, .str "1.0.0",
    textList [], true⟩

/-- A plugin that registers a type under a number. -/
def numberingPlugin (name : String) : Plugin Value :=
  ⟨.scripted [(.int 5, .callable (.constant (.bool true)), .null)] none "", .str name, .str "1.0.0", textList [], true⟩

def unadvisedPlugins : List Value := [.plugin (registeringPlugin "A" "B"), .plugin (idlePlugin "C" ["B"])]

def threePlugins : List Value :=
  [.plugin (registeringPlugin "A" "B"), .plugin (idlePlugin "B" []), .plugin (idlePlugin "C" ["B"])]

/-- What that plugin registers. -/
def numberedMatcher : RegisteredMatcher :=
  ⟨.callable (.constant (.bool true)), .int 0, .str "default", .null, .str "Custom matcher for 5"⟩

/-- The built-in types and a number, which have no order. -/
def mixedTypes : List Value := (BuiltinTypes.all.map fun type => Value.str type.1) ++ [Value.int 5]

/-- A plugin that registers another one brings that one in between, and a plugin that needs it is not advised about.
A plugin that registers a type under a number is registered, and then the types cannot be listed. -/
theorem immodest_plugins :
    (∃ r, (pluginsOnly unadvisedPlugins).buildRegistry bareHost = .ok r ∧ r.plugins = threePlugins ∧
      r.setupMessages = []) ∧
    ∃ reason, (pluginsOnly [.plugin (numberingPlugin "A")]).buildRegistry bareHost = .error reason := by
  refine ⟨?_, ?_⟩
  · obtain ⟨start, fresh, builds, _⟩ := exists_defaultStart noOverrides_bareHost takeStep unadvisedPlugins
    obtain ⟨types, listed⟩ := availableTypes_texts fresh.texts
    obtain ⟨_, _, _, _, _, _, _⟩ := start
    obtain ⟨rfl, rfl, rfl, _, _⟩ := fresh
    exact ⟨_, (builds _ rfl).trans (congrArg (Except.map _) listed), rfl, rfl⟩
  · obtain ⟨start, fresh, builds, _⟩ := exists_defaultStart noOverrides_bareHost takeStep
      [.plugin (numberingPlugin "A")]
    obtain ⟨ended, registered, written, others⟩ : ∃ ended : Registry,
        (registerPlugins takeStep [.plugin (numberingPlugin "A")]).perform start = (.ok (), ended) ∧
          ended.matchers = Mapping.insert (.int 5) numberedMatcher start.matchers ∧
            ended.transforms = start.transforms :=
      ⟨_, rfl, rfl, rfl⟩
    have isListed : ended.listedTypes = mixedTypes := by
      rw [listedTypes, written, others, fresh.builtin, fresh.noTransforms, Mapping.keys_insert]
      rfl
    have built := builds ended registered
    rw [availableTypes_eq, isListed] at built
    cases sorted : Value.sortAscending id mixedTypes with
    | ok types =>
        have unsorted : (Value.sortAscending id mixedTypes).isOk = false := by decide +kernel
        rw [sorted] at unsorted
        cases unsorted
    | error reason =>
        rw [sorted] at built
        exact ⟨reason, built⟩

end StyleRules.Orchestrator
