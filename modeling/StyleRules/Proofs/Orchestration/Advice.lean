import StyleRules.Proofs.Orchestration.Readiness

/-!
# Advice about plugins

Before a plugin is registered, the dependencies that no plugin in front of it is named by are reported: one message for
each plugin that lacks something, whatever cycles and repeated names there are.  A plugin may do anything with the
registry while it is registered, as long as it leaves the plugins and what is said alone.
-/

namespace StyleRules.Orchestrator

open StyleRules.Configuration Registry

/-! ## What plugins lack -/

/-- A plugin with the names of the plugins that it depends on. -/
structure DependentPlugin where
  plugin : Plugin Value
  needs : List String
  declared : plugin.dependencies = textList needs

/-- The message that names the dependencies of a plugin that are missing. -/
def unmetMessage (name : Value) (missing : List String) : Message :=
  let listed := Text.join ", " missing
  ⟨Message.errorKind, s!"Plugin '{name.text}' has unmet dependencies: {listed}", none⟩

namespace DependentPlugin

def toValue (p : DependentPlugin) : Value := .plugin p.plugin

/-- The dependencies that none of the earlier plugins is named by, in the order of their declaration. -/
def lacking (earlier : List DependentPlugin) (p : DependentPlugin) : List String :=
  p.needs.filter fun text => !earlier.any fun other => other.plugin.name.isText text

/-- The message about what a plugin lacks, if there is something. -/
def advice (earlier : List DependentPlugin) (p : DependentPlugin) : Option Message :=
  match p.lacking earlier with
  | [] => none
  | first :: others => some (unmetMessage p.plugin.name (first :: others))

theorem lacking_eq_nil_iff {earlier : List DependentPlugin} {p : DependentPlugin} :
    p.lacking earlier = [] ↔ ∀ text ∈ p.needs, ∃ other ∈ earlier, other.plugin.name = .str text := by
  have isNamed (name : Value) (text : String) : name.isText text = true ↔ name = .str text := by
    cases name <;> simp [Value.isText]
  simp only [lacking, List.filter_eq_nil_iff, Bool.not_eq_true, Bool.not_eq_false', List.any_eq_true, isNamed]

theorem advice_eq_none_iff {earlier : List DependentPlugin} {p : DependentPlugin} :
    p.advice earlier = none ↔ p.lacking earlier = [] := by
  rw [advice]
  split <;> simp [*]

end DependentPlugin

open DependentPlugin (toValue)

variable {r ended : Registry} {earlier : List DependentPlugin} {p : DependentPlugin}

/-- What is said about plugins: each is held against those in front of it. -/
def adviceOn (plugins : List DependentPlugin) : List Message :=
  plugins.zipIdx.filterMap fun (p, position) => p.advice (plugins.take position)

theorem mem_take_iff {plugins : List DependentPlugin} {position : Nat} :
    p ∈ plugins.take position ↔ ∃ before, before < position ∧ plugins[before]? = some p := by
  simp only [List.mem_iff_getElem?, List.getElem?_take]
  refine exists_congr fun before => ?_
  split <;> simp [*]

theorem adviceOn_eq_nil_iff {plugins : List DependentPlugin} :
    adviceOn plugins = [] ↔ ∀ (position : Nat) (p : DependentPlugin), plugins[position]? = some p →
      ∀ text ∈ p.needs, ∃ (before : Nat) (other : DependentPlugin),
        before < position ∧ plugins[before]? = some other ∧ other.plugin.name = .str text := by
  have named (position : Nat) (text : String) :
      (∃ other ∈ plugins.take position, other.plugin.name = .str text) ↔ ∃ (before : Nat) (other : DependentPlugin),
        before < position ∧ plugins[before]? = some other ∧ other.plugin.name = .str text := by
    simp only [mem_take_iff]
    constructor
    · rintro ⟨other, ⟨before, isEarlier, isOther⟩, isNamed⟩
      exact ⟨before, other, isEarlier, isOther, isNamed⟩
    · rintro ⟨before, other, isEarlier, isOther, isNamed⟩
      exact ⟨other, ⟨before, isEarlier, isOther⟩, isNamed⟩
  simp only [adviceOn, List.filterMap_eq_nil_iff, Prod.forall, List.mem_zipIdx_iff_getElem?,
    DependentPlugin.advice_eq_none_iff, DependentPlugin.lacking_eq_nil_iff, named]
  exact forall_comm

/-! ## Registering -/

theorem missingDependencies_eq (p : DependentPlugin) (earlier : List DependentPlugin) :
    missingDependencies p.toValue (earlier.map (·.plugin.name)) = .ok (textList (p.lacking earlier)) := by
  have sameName (text : String) (name : Value) : name.eq (.str text) = name.isText text := by
    rw [Bool.eq_iff_iff, Value.eq_str_iff]
    cases name <;> simp [Value.isText]
  have found : missingDependencies p.toValue (earlier.map (·.plugin.name)) =
      (do return .list (← p.plugin.missingDependencies (.list (earlier.map (·.plugin.name))))) := rfl
  have missing : p.plugin.missingDependencies (.list (earlier.map (·.plugin.name))) =
      .ok ((p.needs.map .str).filter fun name => !(earlier.map (·.plugin.name)).any (·.eq name)) := by
    rw [Plugin.missingDependencies, p.declared]
    rfl
  rw [found, missing, Outcome.ok_bind, List.filter_map]
  simp only [Function.comp_def, List.any_map, sameName]
  rfl

theorem dependenciesMissing_standard (name : Value) (missing : List String) :
    Diagnostics.standard.dependenciesMissing name (textList missing) = .ok ⟨.null, [unmetMessage name missing]⟩ := by
  rw [Diagnostics.dependenciesMissing, textList, Value.iterate, Outcome.ok_bind, Value.joinTexts_texts]
  rfl

/-! ## Steps of plugins -/

section

variable {take : PluginStep → Value → Action Registry Unit} {plugin : Value}

/-- Whatever the steps of a plugin do to a registry, they leave its plugins, its setup messages and its diagnostics
alone. -/
def Modest (take : PluginStep → Value → Action Registry Unit) (plugin : Value) : Prop :=
  ∀ step r ended, (take step plugin).perform r = (.ok (), ended) →
    ended.plugins = r.plugins ∧ ended.setupMessages = r.setupMessages ∧ ended.diagnostics = r.diagnostics

/-- The steps of a plugin succeed, and name all types by texts. -/
structure Succeeds (take : PluginStep → Value → Action Registry Unit) (plugin : Value) : Prop where
  succeeds : ∀ step r, ∃ ended, (take step plugin).perform r = (.ok (), ended)
  keepsTexts : ∀ step, (take step plugin).Keeps TypesAreTexts

theorem listPlugin_perform (p : DependentPlugin) (r : Registry) :
    (listPlugin p.toValue).perform r = (.ok (), { r with plugins := r.plugins ++ [p.toValue] }) :=
  rfl

theorem registerBy_modest (modest : Modest take p.toValue)
    (registered : (registerBy take p.toValue).perform r = (.ok (), ended)) :
    ended.plugins = r.plugins ++ [p.toValue] ∧ ended.setupMessages = r.setupMessages ∧
      ended.diagnostics = r.diagnostics := by
  rw [registerBy, Action.perform_bind_ok (listPlugin_perform p r)] at registered
  obtain ⟨_, between, first, second⟩ := Action.bind_ok registered
  obtain ⟨samePlugins, sameMessages, sameDiagnostics⟩ := modest .register _ _ first
  obtain ⟨plugins, messages, diagnostics⟩ := modest .startUp _ _ second
  exact ⟨plugins.trans samePlugins, messages.trans sameMessages, diagnostics.trans sameDiagnostics⟩

theorem registerBy_succeeds (succeeds : Succeeds take p.toValue) (texts : r.TypesAreTexts) :
    ∃ ended, (registerBy take p.toValue).perform r = (.ok (), ended) ∧ ended.TypesAreTexts := by
  obtain ⟨between, first⟩ := succeeds.succeeds .register { r with plugins := r.plugins ++ [p.toValue] }
  obtain ⟨ended, second⟩ := succeeds.succeeds .startUp between
  have textsBetween := succeeds.keepsTexts .register { r with plugins := r.plugins ++ [p.toValue] } texts
  rw [first] at textsBetween
  have textsEnded := succeeds.keepsTexts .startUp between textsBetween
  rw [second] at textsEnded
  refine ⟨ended, ?_, textsEnded⟩
  rw [registerBy, Action.perform_bind_ok (listPlugin_perform p r), Action.perform_bind_ok first, second]

/-- The advice about a plugin is given, and then the plugin is registered. -/
theorem registerPlugins_cons (standard : r.diagnostics = Diagnostics.standard)
    (listed : r.plugins = earlier.map toValue) (rest : List Value) :
    (registerPlugins take (p.toValue :: rest)).perform r =
      Action.perform (do registerBy take p.toValue; registerPlugins take rest)
        (withMessages (p.advice earlier).toList r) := by
  have loaded : r.plugins.map (·.attributeOrNull "name") = earlier.map (·.plugin.name) := by
    rw [listed, List.map_map]
    rfl
  rw [registerPlugins, Action.perform_bind_ok (Action.perform_get r)]
  dsimp only
  rw [loaded, missingDependencies_eq, Action.perform_bind_ok (Action.perform_ofOutcome _ r), DependentPlugin.advice]
  cases p.lacking earlier with
  | nil =>
      have unchanged : withMessages (Option.toList none) r = r := by simp [withMessages]
      rw [unchanged]
      rfl
  | cons first others =>
      have hasName : p.toValue.attributeOf "name" = .ok p.plugin.name := rfl
      have lacks : (textList (first :: others)).truthy = true := rfl
      rw [if_pos lacks, hasName, Action.perform_bind_ok (Action.perform_ofOutcome _ r),
        Action.perform_bind_ok (Action.perform_get r), standard, dependenciesMissing_standard]
      rfl

/-- Plugins are registered in order, behind those that are registered before, and each is advised about. -/
theorem registerPlugins_modest {plugins rest : List DependentPlugin} (isSplit : plugins = earlier ++ rest)
    (modest : ∀ p ∈ rest, Modest take p.toValue) (standard : r.diagnostics = Diagnostics.standard)
    (listed : r.plugins = earlier.map toValue)
    (registered : (registerPlugins take (rest.map toValue)).perform r = (.ok (), ended)) :
    ended.plugins = plugins.map toValue ∧
      ended.setupMessages = r.setupMessages ++ (rest.zipIdx earlier.length).filterMap fun (p, position) =>
        p.advice (plugins.take position) := by
  -- On the plugins that are left: the registry holds the earlier ones, so these are what a plugin is held against.
  induction rest generalizing earlier r with
  | nil =>
      cases registered
      rw [isSplit, List.append_nil, List.zipIdx_nil, List.filterMap_nil, List.append_nil]
      exact ⟨listed, rfl⟩
  | cons p rest ih =>
      obtain ⟨first, others⟩ := List.forall_mem_cons.mp modest
      rw [List.map_cons, registerPlugins_cons standard listed] at registered
      obtain ⟨_, between, isRegistered, furtherRegistered⟩ := Action.bind_ok registered
      obtain ⟨nowListed, sameMessages, sameDiagnostics⟩ := registerBy_modest first isRegistered
      have inFront : plugins.take earlier.length = earlier := by rw [isSplit, List.take_left]
      have furtherSplit : plugins = (earlier ++ [p]) ++ rest := by
        rw [isSplit, List.append_assoc, List.singleton_append]
      have furtherListed : between.plugins = (earlier ++ [p]).map toValue := by
        rw [nowListed, withMessages, listed, List.map_append]
        rfl
      obtain ⟨allListed, messages⟩ := ih furtherSplit others (sameDiagnostics.trans standard) furtherListed
        furtherRegistered
      refine ⟨allListed, ?_⟩
      rw [messages, sameMessages, withMessages, List.zipIdx_cons, List.filterMap_cons, List.length_append,
        List.length_singleton]
      dsimp only
      rw [inFront]
      cases p.advice earlier with
      | none => rw [Option.toList_none, List.append_nil]
      | some message => rw [Option.toList_some, List.append_assoc, List.singleton_append]

theorem registerPlugins_succeeds {rest : List DependentPlugin} (modest : ∀ p ∈ rest, Modest take p.toValue)
    (succeed : ∀ p ∈ rest, Succeeds take p.toValue) (standard : r.diagnostics = Diagnostics.standard)
    (listed : r.plugins = earlier.map toValue) (texts : r.TypesAreTexts) :
    ∃ ended, (registerPlugins take (rest.map toValue)).perform r = (.ok (), ended) ∧ ended.TypesAreTexts := by
  induction rest generalizing earlier r with
  | nil => exact ⟨r, rfl, texts⟩
  | cons p rest ih =>
      obtain ⟨isModest, othersModest⟩ := List.forall_mem_cons.mp modest
      obtain ⟨succeeds, othersSucceed⟩ := List.forall_mem_cons.mp succeed
      obtain ⟨between, registered, textsBetween⟩ :=
        registerBy_succeeds (r := withMessages (p.advice earlier).toList r) succeeds texts
      obtain ⟨nowListed, _, sameDiagnostics⟩ := registerBy_modest isModest registered
      have furtherListed : between.plugins = (earlier ++ [p]).map toValue := by
        rw [nowListed, withMessages, listed, List.map_append]
        rfl
      obtain ⟨ended, furtherRegistered, textsEnded⟩ := ih othersModest othersSucceed
        (sameDiagnostics.trans standard) furtherListed textsBetween
      refine ⟨ended, ?_, textsEnded⟩
      rw [List.map_cons, registerPlugins_cons standard listed, Action.perform_bind_ok registered, furtherRegistered]

end

end StyleRules.Orchestrator
