import StyleRules.Proofs.Configuration.Loading
import StyleRules.Proofs.Orchestration.Setup
import StyleRules.Proofs.Registry.Batch

/-!
# The order of setting up

Every layer of a setup writes entries over those of the layers before it: the built-in types, the plugins of
the orchestrator, the matchers of the configuration, the plugins of the configuration, and the further
registrations.  So a type is decided by the last layer that registers it, and a matcher entry of the
configuration is below the plugins that the same configuration names.
-/

namespace StyleRules.Orchestrator

open Registry

variable {o : Orchestrator} {host : Host} {r ended : Registry}

/-! ## The layers of an orchestrator -/

theorem registerPlugins_leaves {plugins : List Value}
    (registered : (registerPlugins takeStep plugins).perform r = (.ok (), ended)) :
    ended.matchers = Mapping.insertAll (plugins.flatMap writtenBy) r.matchers := by
  induction plugins generalizing r with
  | nil =>
      cases registered
      rfl
  | cons plugin rest ih =>
      -- A report on missing dependencies only adds messages, so both branches go on from the same table.
      have step {before : Registry} (same : before.matchers = r.matchers)
          (performed : Action.perform (do registerBy takeStep plugin; registerPlugins takeStep rest) before =
            (.ok (), ended)) :
          ended.matchers = Mapping.insertAll ((plugin :: rest).flatMap writtenBy) r.matchers := by
        obtain ⟨_, reached, first, others⟩ := Action.bind_ok performed
        rw [registerBy_takeStep] at first
        rw [ih others, registerPlugin_ok first, List.flatMap_cons, Mapping.insertAll_append, ← same]
        rfl
      rw [registerPlugins, Action.perform_bind_ok (Action.perform_get r)] at registered
      obtain ⟨missing, _, registered⟩ := Action.ofOutcome_bind_ok registered
      dsimp only at registered
      split at registered
      · obtain ⟨name, _, registered⟩ := Action.ofOutcome_bind_ok registered
        rw [Action.perform_bind_ok (Action.perform_get r)] at registered
        obtain ⟨_, reported, isReported, registered⟩ := Action.bind_ok registered
        refine step ?_ registered
        have kept := keepsMatchers_report (r.diagnostics.dependenciesMissing name missing) r rfl
        rwa [isReported] at kept
      · exact step rfl registered

/-- What further registrations write. -/
def registeredEntries (registrations : List Registration) : List (Value × RegisteredMatcher) :=
  registrations.filterMap fun registration =>
    (registrationOf registration.name registration.factory (.map registration.options)).toOption.map
      (registration.name, ·)

theorem registerAll_leaves {registrations : List Registration}
    (registered : (registerAll registrations).perform r = (.ok (), ended)) :
    ended.matchers = Mapping.insertAll (registeredEntries registrations) r.matchers := by
  induction registrations generalizing r with
  | nil =>
      cases registered
      rfl
  | cons registration rest ih =>
      rw [registerAll] at registered
      obtain ⟨_, reached, first, others⟩ := Action.bind_ok registered
      rw [perform_register] at first
      cases written : registrationOf registration.name registration.factory (.map registration.options) with
      | error reason =>
          rw [written] at first
          cases first
      | ok entry =>
          rw [written] at first
          cases first
          have entries : registeredEntries (registration :: rest) =
              (registration.name, entry) :: registeredEntries rest := by
            rw [registeredEntries, List.filterMap_cons, written]
            rfl
          rw [ih others, entries]
          rfl

/-- The table of a registry that is set up, layer by layer. -/
theorem buildRegistry_layers (built : o.buildRegistry host = .ok r) :
    ∃ config entries references, o.configuration.registryPart host = .ok config ∧
      matcherSection config = .ok entries ∧ pluginSection config = .ok references ∧
      r.matchers = Mapping.insertAll
        (o.plugins.flatMap writtenBy ++ (loadedEntries host entries ++
          ((references.filterMap (pluginIn host)).flatMap writtenBy ++ registeredEntries o.registrations)))
        builtinMatchers := by
  obtain ⟨engine, mode, config, withMode, withPlugins, configured, _, stages⟩ := exists_buildStages built
  obtain ⟨entries, transforms, references, sections, written, _⟩ := loadConfiguration_leaves stages.loaded
  have builtin : withMode.matchers = builtinMatchers := by
    have kept := keepsMatchers_setFallbackMode mode
      (Registry.create engine Diagnostics.standard true)
      (create_tables engine Diagnostics.standard true).2.2.1
    rwa [stages.modeSet] at kept
  refine ⟨config, entries, references, stages.isPart, sections.isMatchers, sections.isPlugins, ?_⟩
  rw [registerAll_leaves stages.registered, written, registerPlugins_leaves stages.pluginsRegistered, builtin]
  simp only [Mapping.insertAll_append]

theorem find?_buildRegistry (built : o.buildRegistry host = .ok r) :
    ∃ config entries references, o.configuration.registryPart host = .ok config ∧
      matcherSection config = .ok entries ∧ pluginSection config = .ok references ∧
      ∀ name, Mapping.find? (.str name) r.matchers =
        (Mapping.last? name (registeredEntries o.registrations)).or
          ((Mapping.last? name ((references.filterMap (pluginIn host)).flatMap writtenBy)).or
            ((Mapping.last? name (loadedEntries host entries)).or
              ((Mapping.last? name (o.plugins.flatMap writtenBy)).or
                (Mapping.get? name builtinMatchers)))) := by
  obtain ⟨config, entries, references, isConfig, isEntries, isReferences, layers⟩ :=
    buildRegistry_layers built
  refine ⟨config, entries, references, isConfig, isEntries, isReferences, ?_⟩
  intro name
  rw [layers, Mapping.find?_insertAll_last]
  simp only [Mapping.last?_append, Option.or_assoc]
  rfl

/-- All rules of a type are resolved by one registration, which changes nothing. -/
def Decides (r : Registry) (name : String) (registered : RegisteredMatcher) : Prop :=
  ∀ later options, (createMatcher later (.str name) options).perform r =
    (.ok (build registered (.str name) (options.orElse (.map []))), r)

theorem decides_of_find? {name : String} {registered : RegisteredMatcher}
    (found : Mapping.find? (.str name) r.matchers = some registered) : Decides r name registered :=
  fun later options => createMatcher_direct later options found

/-- A type with a matcher entry that loads is decided by its last further registration, or else by the last
plugin of the configuration that registers it, and only without one by the entry, whatever plugins the
orchestrator was made with. -/
theorem setup_order (built : o.buildRegistry host = .ok r) :
    ∃ config entries references, o.configuration.registryPart host = .ok config ∧
      matcherSection config = .ok entries ∧ pluginSection config = .ok references ∧
      ∀ name loaded, Mapping.last? name (loadedEntries host entries) = some loaded →
        (∀ last, Mapping.last? name (registeredEntries o.registrations) = some last →
          Decides r name last) ∧
        (Mapping.last? name (registeredEntries o.registrations) = none →
          (∀ other, Mapping.last? name ((references.filterMap (pluginIn host)).flatMap writtenBy) = some other →
            Decides r name other) ∧
          (Mapping.last? name ((references.filterMap (pluginIn host)).flatMap writtenBy) = none →
            Decides r name loaded)) := by
  obtain ⟨config, entries, references, isConfig, isEntries, isReferences, finds⟩ :=
    find?_buildRegistry built
  refine ⟨config, entries, references, isConfig, isEntries, isReferences, ?_⟩
  intro name loaded isLoaded
  refine ⟨?_, fun notLast => ⟨?_, ?_⟩⟩
  · intro last isLast
    apply decides_of_find?
    rw [finds, isLast, Option.some_or]
  · intro other isOther
    apply decides_of_find?
    rw [finds, notLast, isOther, Option.none_or, Option.some_or]
  · intro notOther
    apply decides_of_find?
    rw [finds, notLast, notOther, isLoaded, Option.none_or, Option.none_or, Option.some_or]

/-! ## Section breaks, by a template and by a plugin -/

def breakTemplate : Value := .ofFields [("template", .ofFields [("elementType", .str "sectionBreak")])]

/-- A configuration whose type of section breaks has a template, and which may name plugins. -/
def breakSections (references : List Value) : List (Value × Value) :=
  [(.str "transforms", .ofFields [("enabled", .bool false)]),
    (.str "matchers", .ofFields [("section", breakTemplate)]), (.str "plugins", .list references)]

def breakConfiguration (references : List Value) : Configuration :=
  { Configuration.initial true .null with
    entries := Configuration.mergeEntries Configuration.defaults (breakSections references) }

def breakOrchestrator (plugins references : List Value) : Orchestrator :=
  ⟨breakConfiguration references, plugins, []⟩

/-- The plugin that registers section breaks, among other kinds of breaks. -/
def breakPlugin : Value := .plugin (Plugin.ofBuiltin .extendedBreaks)

section

open StyleRules.Configuration

variable (plugins references : List Value)

theorem get_breaks {path : String} {names : List String} (default : Value)
    (isPath : pathNames path = names) :
    (breakOrchestrator plugins references).configuration.get bareHost path default =
      .ok ((lookup names (.map (breakConfiguration references).entries)).getD default) :=
  get_unset default rfl isPath

theorem buildEngine_breaks : (breakOrchestrator plugins references).buildEngine bareHost = .ok none := by
  unfold buildEngine
  simp only [@get_breaks plugins references "transforms.enabled" ["transforms", "enabled"] _ rfl]
  rfl

theorem registryPart_breaks :
    (breakOrchestrator plugins references).configuration.registryPart bareHost =
      .ok (.ofFields [("matchers", .ofFields [("section", breakTemplate)]), ("xslt_transforms", .map []),
        ("plugins", .list references)]) := by
  unfold registryPart
  simp only [@get_breaks plugins references "matchers" ["matchers"] _ rfl,
    @get_breaks plugins references "xslt_transforms" ["xslt_transforms"] _ rfl,
    @get_breaks plugins references "plugins" ["plugins"] _ rfl]
  rfl

end

set_option maxRecDepth 10000 in
theorem buildRegistry_breaks {plugins references : List Value}
    (isSample : (plugins, references) = ([breakPlugin], []) ∨
      (plugins, references) = ([], [.str "extended-breaks"])) :
    ∃ r, (breakOrchestrator plugins references).buildRegistry Configuration.bareHost = .ok r := by
  rw [buildRegistry, buildBy, buildEngine_breaks]
  unfold setUpBy
  simp only [registryPart_breaks, @get_breaks plugins references "error_handling.fallback_strategy"
    ["error_handling", "fallback_strategy"] _ rfl]
  rcases isSample with sample | sample <;> cases sample <;> exact ⟨_, rfl⟩

/-- The template decides section breaks, though the orchestrator was made with the plugin. -/
theorem breakTemplate_decides :
    ∃ r entry, (breakOrchestrator [breakPlugin] []).buildRegistry Configuration.bareHost = .ok r ∧
      loadedEntry Configuration.bareHost (.str "section") breakTemplate = some entry ∧ Decides r "section" entry := by
  obtain ⟨r, built⟩ := buildRegistry_breaks (.inl rfl)
  obtain ⟨config, entries, references, isConfig, isEntries, isReferences, decides⟩ := setup_order built
  rw [registryPart_breaks] at isConfig
  cases isConfig
  cases isEntries
  cases isReferences
  exact ⟨r, _, built, rfl, ((decides "section" _ rfl).2 rfl).2 rfl⟩

theorem load_breaks : (Configuration.load Configuration.bareHost
      (.map (breakSections [.str "extended-breaks"])) .null).perform (Configuration.initial true .null) =
    (.ok (), breakConfiguration [.str "extended-breaks"]) := by
  have prepared : (Configuration.initial true .null).prepare Configuration.bareHost
      (.map (breakSections [.str "extended-breaks"])) .null =
    .ok (breakConfiguration [.str "extended-breaks"]).entries := rfl
  have reviewed : (breakConfiguration [.str "extended-breaks"]).review = .ok () := by decide +kernel
  rw [Configuration.load_prepared prepared]
  exact Prod.ext reviewed rfl

/-- The plugin decides section breaks, and not the template, once the configuration names it. -/
theorem named_plugin_decides :
    ∃ configuration r entry,
      (Configuration.load Configuration.bareHost (.map (breakSections [.str "extended-breaks"]))
        .null).perform (Configuration.initial true .null) = (.ok (), configuration) ∧
      Orchestrator.buildRegistry ⟨configuration, [], []⟩ Configuration.bareHost = .ok r ∧
      loadedEntry Configuration.bareHost (.str "section") breakTemplate = some entry ∧ ¬Decides r "section" entry ∧
      ((createMatcher Configuration.bareHost (.str "section") .null).perform r).1 =
        .ok (.success (.matcher (.sectionBreak (.str "nextPage") (.bool false)))) := by
  obtain ⟨r, built⟩ := buildRegistry_breaks (.inr rfl)
  obtain ⟨config, entries, references, isConfig, isEntries, isReferences, finds⟩ :=
    find?_buildRegistry built
  rw [registryPart_breaks] at isConfig
  cases isConfig
  cases isEntries
  cases isReferences
  have plugin : Decides r "section" _ := decides_of_find? (finds "section")
  have made : ((createMatcher Configuration.bareHost (.str "section") .null).perform r).1 =
      .ok (.success (.matcher (.sectionBreak (.str "nextPage") (.bool false)))) :=
    congrArg Prod.fst (plugin Configuration.bareHost .null)
  refine ⟨_, r, _, load_breaks, built, rfl, fun template => ?_, made⟩
  have other : ∃ style options,
      ((createMatcher Configuration.bareHost (.str "section") .null).perform r).1 =
        .ok (.success (.matcher (.styleTemplate style options))) :=
    ⟨_, _, congrArg Prod.fst (template Configuration.bareHost .null)⟩
  obtain ⟨style, options, templateMade⟩ := other
  rw [made] at templateMade
  cases templateMade

end StyleRules.Orchestrator
