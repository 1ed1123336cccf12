import StyleRules.Proofs.Registry.Resolution
import StyleRules.Proofs.Registry.Writing

/-!
# What plugins leave behind

A plugin is listed first, and then it makes its calls one after the other.  Nothing of this is taken back when the
plugin fails, so the registry after a failed plugin is the one that the plugin would have left if it had been content
with the calls that it came to make.
-/

namespace StyleRules.Registry

variable {r ended : Registry} {plugin : Value} {reason : Failure}

/-! ## Plugins -/

/-- The matcher types that a plugin comes to register, with those of the plugins that it registers itself. -/
def writtenBy (plugin : Value) : List (Value × RegisteredMatcher) := (footprint plugin).matchers

/-- The types that a plugin comes to register as transforms. -/
def transformsBy (plugin : Value) : List (Value × RegisteredTransform) := (footprint plugin).transforms

/-- The registry with what a plugin adds to it. -/
def leftBy (plugin : Value) (r : Registry) : Registry := (footprint plugin).onto r

/-- Registering a plugin leaves the same registry whether the plugin fails or not. -/
theorem registerPlugin_leaves (plugin : Value) (r : Registry) :
    ((registerPlugin plugin).perform r).2 = leftBy plugin r := by
  rw [leaves_registerPlugin plugin r rfl, leftBy]

theorem registerPlugin_ok (registered : (registerPlugin plugin).perform r = (.ok (), ended)) :
    ended = leftBy plugin r := by
  rw [← registerPlugin_leaves, registered]

/-- The footprint of an object that is no plugin is empty, and that of a plugin begins with itself. -/
theorem footprint_eq (plugin : Value) :
    footprint plugin =
      if isPlugin plugin then { stepsFootprint plugin with plugins := plugin :: (stepsFootprint plugin).plugins }
      else { outcome := .error .pluginWithoutRegister } := by
  rw [footprint, listing]
  by_cases registers : isPlugin plugin = true
  · rw [if_pos registers, if_pos registers]
    rfl
  · rw [if_neg registers, if_neg registers]
    rfl

theorem leftBy_refused (refused : isPlugin plugin = false) (r : Registry) : leftBy plugin r = r := by
  rw [leftBy, footprint_eq, refused]
  exact Footprint.onto_idle _ r

/-- A plugin is listed, whatever comes of it. -/
theorem plugins_leftBy (registers : isPlugin plugin = true) (r : Registry) :
    ∃ more, (leftBy plugin r).plugins = r.plugins ++ plugin :: more := by
  rw [leftBy, footprint_eq, if_pos registers]
  exact ⟨_, rfl⟩

theorem find?_leftBy (plugin : Value) (r : Registry) (name : String) :
    Mapping.find? (.str name) (leftBy plugin r).matchers =
      (Mapping.last? name (writtenBy plugin)).or (Mapping.find? (.str name) r.matchers) :=
  Mapping.find?_insertAll_last _ _ name

theorem find?_transforms_leftBy (plugin : Value) (r : Registry) (name : String) :
    Mapping.find? (.str name) (leftBy plugin r).transforms =
      (Mapping.last? name (transformsBy plugin)).or (Mapping.find? (.str name) r.transforms) :=
  Mapping.find?_insertAll_last _ _ name

/-! ## What callers see -/

/-- Two registries that callers cannot tell apart by the plugins, the types and their descriptions, and the
matchers of rules. -/
structure LooksLike (r other : Registry) : Prop where
  plugins : other.plugins = r.plugins
  types : other.availableTypes = r.availableTypes
  infos : ∀ type, other.matcherInfo type = r.matcherInfo type
  results : ∀ host type options,
    ((createMatcher host type options).perform other).1 = ((createMatcher host type options).perform r).1

def withMessages (messages : List Message) (r : Registry) : Registry :=
  { r with setupMessages := r.setupMessages ++ messages }

theorem askStrategies_withMessages (messages : List Message) (r : Registry) (type options : Value)
    (kept : List Message) (strategies : List Strategy) :
    (withMessages messages r).askStrategies type options kept strategies =
      r.askStrategies type options kept strategies := by
  induction strategies generalizing kept with
  | nil => rfl
  | cons strategy rest ih =>
      have handled : strategy.handle (withMessages messages r) type options =
          strategy.handle r type options := by
        cases strategy <;> rfl
      simp only [askStrategies, handled, ih]

theorem buildTransform_same {other : Registry} (host : Host) (registered : RegisteredTransform)
    (type options : Value) (sameEngine : other.engine = r.engine)
    (sameDiagnostics : other.diagnostics = r.diagnostics) :
    ((buildTransform host registered type options).perform other).1 =
      ((buildTransform host registered type options).perform r).1 := by
  cases bound : r.engine with
  | none =>
      rw [buildTransform_unbound host registered type options bound,
        buildTransform_unbound host registered type options (sameEngine.trans bound)]
  | some e =>
      rw [buildTransform_bound host registered type options bound,
        buildTransform_bound host registered type options (sameEngine.trans bound), sameDiagnostics]

/-- Setup messages play no part in resolving rules. -/
theorem looksLike_withMessages (messages : List Message) (r : Registry) :
    LooksLike r (withMessages messages r) := by
  refine ⟨rfl, rfl, fun _ => rfl, ?_⟩
  intro host type options
  have sameMatchers : (withMessages messages r).matchers = r.matchers := rfl
  have sameTransforms : (withMessages messages r).transforms = r.transforms := rfl
  -- The tables, the strategies, the engine and the diagnostics are read, and they are the same.
  rw [createMatcher, Action.perform_bind_ok (Action.perform_get r),
    Action.perform_bind_ok (Action.perform_get (withMessages messages r))]
  dsimp only
  rw [sameMatchers, sameTransforms]
  cases type.lookIn r.matchers with
  | error reason => rfl
  | ok direct =>
      rw [Action.perform_bind_ok (Action.perform_ofOutcome _ r),
        Action.perform_bind_ok (Action.perform_ofOutcome _ (withMessages messages r))]
      cases direct with
      | some registered => rfl
      | none =>
          dsimp only
          cases type.lookIn r.transforms with
          | error reason => rfl
          | ok transform =>
              rw [Action.perform_bind_ok (Action.perform_ofOutcome _ r),
                Action.perform_bind_ok (Action.perform_ofOutcome _ (withMessages messages r))]
              cases transform with
              | some registered => exact buildTransform_same host registered type _ rfl rfl
              | none => exact askStrategies_withMessages messages r type _ [] r.strategies

/-! ## Plugins of a configuration -/

/-- A failed entry of a configuration leaves its state, and the message about it if there is one; when the process is
to end, the failure goes on. -/
theorem loadOrReport_failed {load : Action Registry Unit} (failed : load.perform r = (.error reason, ended))
    (wording : Diagnostics → Failure → Outcome (Result Value)) :
    (loadOrReport load wording).perform r =
      if reason.isExit then (.error reason, ended)
      else
        match wording ended.diagnostics reason with
        | .ok result => (.ok (), withMessages result.messages ended)
        | .error other => (.error other, ended) := by
  have attempted : load.attempt.perform r = (.ok (.error reason), ended) := by
    rw [Action.perform_attempt, failed]
  rw [loadOrReport, Action.perform_bind_ok attempted]
  dsimp only
  split
  · rfl
  · rw [Action.perform_bind_ok (Action.perform_get ended), report]
    cases wording ended.diagnostics reason <;> rfl

/-- What an entry changes stays, whether it fails or not. -/
theorem loadOrReport_leaves {load : Action Registry Unit}
    {wording : Diagnostics → Failure → Outcome (Result Value)} {loaded : Registry}
    (reported : (loadOrReport load wording).perform r = (.ok (), loaded)) :
    ∃ messages, loaded = withMessages messages (load.perform r).2 := by
  cases performed : load.perform r with
  | mk outcome ended =>
      cases outcome with
      | ok value =>
          have attempted : load.attempt.perform r = (.ok (.ok ()), ended) := by
            rw [Action.perform_attempt, performed]
          rw [loadOrReport, Action.perform_bind_ok attempted] at reported
          cases reported
          exact ⟨[], by simp [withMessages]⟩
      | error reason =>
          rw [loadOrReport_failed performed] at reported
          split at reported
          · cases reported
          · split at reported
            · cases reported
              exact ⟨_, rfl⟩
            · cases reported

/-- The plugin that a reference of a configuration names. -/
def pluginIn (host : Host) (reference : Value) : Option Value :=
  (pluginOf host reference).toOption.filter isPlugin

theorem loadPlugin_leaves (host : Host) (reference : Value) (r : Registry) :
    ((loadPlugin host reference).perform r).2 = (pluginIn host reference).elim r (leftBy · r) := by
  rw [loadPlugin, pluginIn]
  cases pluginOf host reference with
  | error reason => rfl
  | ok plugin =>
      rw [Action.perform_bind_ok (Action.perform_ofOutcome _ r), registerPlugin_leaves]
      cases registers : isPlugin plugin with
      | true => simp [Except.toOption, Option.filter, registers]
      | false => simp [Except.toOption, Option.filter, registers, leftBy_refused registers]

/-- Loading a list of plugins leaves the types of all of them, those that fail like the others. -/
theorem loadPlugins_leaves {host : Host} {references : List Value}
    (loaded : (loadPlugins host references).perform r = (.ok (), ended)) :
    ended.matchers = Mapping.insertAll ((references.filterMap (pluginIn host)).flatMap writtenBy) r.matchers ∧
      ended.transforms =
        Mapping.insertAll ((references.filterMap (pluginIn host)).flatMap transformsBy) r.transforms := by
  induction references generalizing r with
  | nil =>
      cases loaded
      exact ⟨rfl, rfl⟩
  | cons reference rest ih =>
      rw [loadPlugins] at loaded
      obtain ⟨_, reached, first, others⟩ := Action.bind_ok loaded
      obtain ⟨messages, rfl⟩ := loadOrReport_leaves first
      obtain ⟨matchers, transforms⟩ := ih others
      rw [matchers, transforms, loadPlugin_leaves, List.filterMap_cons]
      cases pluginIn host reference with
      | none => exact ⟨rfl, rfl⟩
      | some plugin =>
          rw [List.flatMap_cons, List.flatMap_cons, Mapping.insertAll_append, Mapping.insertAll_append]
          exact ⟨rfl, rfl⟩

/-- The part of a configuration that names one plugin. -/
def onePlugin (reference : Value) : Value := .ofFields [("plugins", .list [reference])]

theorem loadConfiguration_onePlugin {host : Host}
    (failed : (registerPlugin plugin).perform r = (.error reason, ended)) {reference : Value}
    (isReference : pluginOf host reference = .ok plugin) :
    (loadConfiguration host (onePlugin reference)).perform r =
      if reason.isExit then (.error reason, ended)
      else
        match ended.diagnostics.pluginFailed (pluginName reference) (.failure reason) with
        | .ok result => (.ok (), withMessages result.messages ended)
        | .error other => (.error other, ended) := by
  have loading : (loadPlugin host reference).perform r = (.error reason, ended) := by
    rw [loadPlugin, isReference, Action.perform_bind_ok (Action.perform_ofOutcome _ r), failed]
  have onlyPlugins : (loadConfiguration host (onePlugin reference)).perform r =
      (loadPlugins host [reference]).perform r := rfl
  rw [onlyPlugins, loadPlugins, Action.perform_bind, loadOrReport_failed loading]
  by_cases isExit : reason.isExit = true
  · rw [if_pos isExit]
  · rw [if_neg isExit]
    cases ended.diagnostics.pluginFailed (pluginName reference) (.failure reason) <;> rfl

/-- A type that is known, and that a plugin does not register on the route that decides it, is resolved as before. -/
theorem createMatcher_leftBy {name : String} (notWritten : Mapping.last? name (writtenBy plugin) = none)
    (known : (Mapping.find? (.str name) r.matchers).isSome ∨
      Mapping.last? name (transformsBy plugin) = none ∧ (Mapping.find? (.str name) r.transforms).isSome)
    (host : Host) (options : Value) :
    ((createMatcher host (.str name) options).perform (leftBy plugin r)).1 =
      ((createMatcher host (.str name) options).perform r).1 := by
  have same : Mapping.find? (.str name) (leftBy plugin r).matchers = Mapping.find? (.str name) r.matchers := by
    rw [find?_leftBy, notWritten, Option.none_or]
  cases direct : Mapping.find? (.str name) r.matchers with
  | some registered =>
      rw [createMatcher_direct host options direct, createMatcher_direct host options (same.trans direct)]
  | none =>
      obtain ⟨noTransform, isTransform⟩ := known.resolve_left (by simp [direct])
      obtain ⟨registered, transform⟩ := Option.isSome_iff_exists.mp isTransform
      have sameTransform : Mapping.find? (.str name) (leftBy plugin r).transforms = some registered := by
        rw [find?_transforms_leftBy, noTransform, Option.none_or, transform]
      rw [createMatcher_transform host options direct transform,
        createMatcher_transform host options (same.trans direct) sameTransform]
      exact buildTransform_same host registered _ _ rfl rfl

theorem not_looksLike_leftBy (registers : isPlugin plugin = true) (messages : List Message) (r : Registry) :
    ¬LooksLike r (withMessages messages (leftBy plugin r)) := by
  intro looksLike
  obtain ⟨more, listed⟩ := plugins_leftBy registers r
  have same : (leftBy plugin r).plugins = r.plugins := looksLike.plugins
  rw [listed] at same
  simp at same

/-- A plugin that fails stays in the list, and all that it came to register is in force; only what cannot be
registered as a plugin leaves the registry as it was.  Types that the plugin did not come to register are
resolved as before.  A configuration that names the plugin adds the message about the failure, and takes back
nothing. -/
theorem failed_plugin_leaves (failed : (registerPlugin plugin).perform r = (.error reason, ended)) :
    (ended = if isPlugin plugin then leftBy plugin r else r) ∧
    (isPlugin plugin = true → ∃ more, ended.plugins = r.plugins ++ plugin :: more) ∧
    (LooksLike r ended ↔ isPlugin plugin = false) ∧
    (isPlugin plugin = true → ∀ name host options,
      (∀ registered, Mapping.last? name (writtenBy plugin) = some registered →
        (createMatcher host (.str name) options).perform ended =
          (.ok (build registered (.str name) (options.orElse (.map []))), ended)) ∧
      (Mapping.last? name (writtenBy plugin) = none →
        (Mapping.find? (.str name) r.matchers).isSome ∨
          Mapping.last? name (transformsBy plugin) = none ∧ (Mapping.find? (.str name) r.transforms).isSome →
          ((createMatcher host (.str name) options).perform ended).1 =
            ((createMatcher host (.str name) options).perform r).1)) ∧
    ∀ host reference, pluginOf host reference = .ok plugin →
      ((loadConfiguration host (onePlugin reference)).perform r =
        if reason.isExit then (.error reason, ended)
        else
          match r.diagnostics.pluginFailed (pluginName reference) (.failure reason) with
          | .ok result => (.ok (), withMessages result.messages ended)
          | .error other => (.error other, ended)) ∧
      (LooksLike r ((loadConfiguration host (onePlugin reference)).perform r).2 ↔ isPlugin plugin = false) := by
  have left : ended = leftBy plugin r := by
    rw [← registerPlugin_leaves, failed]
  have looksLike_iff (messages : List Message) :
      LooksLike r (withMessages messages ended) ↔ isPlugin plugin = false := by
    rw [left]
    cases registers : isPlugin plugin with
    | true => simp [not_looksLike_leftBy registers]
    | false => simp [leftBy_refused registers, looksLike_withMessages]
  have looksLike_ended : LooksLike r ended ↔ isPlugin plugin = false := by
    have same : withMessages [] ended = ended := by simp [withMessages]
    rw [← same]
    exact looksLike_iff []
  refine ⟨?_, fun registers => left ▸ plugins_leftBy registers r, looksLike_ended, ?_, ?_⟩
  · split
    · exact left
    · rename_i refused
      rw [left, leftBy_refused (by simpa using refused)]
  · intro registers name host options
    rw [left]
    refine ⟨?_, fun notWritten known => createMatcher_leftBy notWritten known host options⟩
    intro registered written
    apply createMatcher_direct
    rw [find?_leftBy, written, Option.some_or]
  · intro host reference isReference
    have sameDiagnostics : ended.diagnostics = r.diagnostics := by
      rw [left]
      rfl
    rw [loadConfiguration_onePlugin failed isReference, sameDiagnostics]
    refine ⟨rfl, ?_⟩
    split
    · exact looksLike_ended
    · split
      · exact looksLike_iff _
      · exact looksLike_ended

/-- A plugin that registers the built-in type of line breaks anew, and then fails. -/
def brokenPlugin : Value :=
  .plugin ⟨.scripted [(.str "line", .callable (.constant (.str "anew")), .null)] (some .register)
    "register broke", .str "broken", .str "1.0.0", .list [], true⟩

theorem registerPlugin_broken (r : Registry) :
    (registerPlugin brokenPlugin).perform r =
      (.error (.raised "RuntimeError" "register broke"), leftBy brokenPlugin r) :=
  leaves_registerPlugin brokenPlugin r rfl

theorem brokenPlugin_leaves_trace :
    (registerPlugin brokenPlugin).perform (create none .standard true) =
        (.error (.raised "RuntimeError" "register broke"), leftBy brokenPlugin (create none .standard true)) ∧
      ¬LooksLike (create none .standard true) (leftBy brokenPlugin (create none .standard true)) := by
  have failed := registerPlugin_broken (create none .standard true)
  refine ⟨failed, fun looksLike => ?_⟩
  have notPlugin : isPlugin brokenPlugin = false := (failed_plugin_leaves failed).2.2.1.mp looksLike
  cases notPlugin

/-- The failed plugin is listed, and its type is in force, also when a configuration names the plugin. -/
theorem brokenPlugin_remains :
    let r := create none .standard true
    let lines := createMatcher .bare (.str "line") .null
    r.plugins = [] ∧ (lines.perform r).1 = .ok (.success (.matcher (.plainBreak (.str "line")))) ∧
      (∃ ended, (registerPlugin brokenPlugin).perform r =
          (.error (.raised "RuntimeError" "register broke"), ended) ∧
        ended.plugins = [brokenPlugin] ∧ (lines.perform ended).1 = .ok (.success (.str "anew"))) ∧
      ∃ loaded, (loadConfiguration .bare (onePlugin brokenPlugin)).perform r = (.ok (), loaded) ∧
        loaded.setupMessages.length = 1 ∧
        loaded.plugins = [brokenPlugin] ∧ (lines.perform loaded).1 = .ok (.success (.str "anew")) :=
  ⟨rfl, rfl, ⟨_, rfl, rfl, rfl⟩, ⟨_, rfl, rfl, rfl, rfl⟩⟩

end StyleRules.Registry
