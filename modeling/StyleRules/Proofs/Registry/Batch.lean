import StyleRules.Proofs.Registry.Plugins

/-!
# What a configuration writes

A configuration is a batch: its matcher entries are loaded first, then its transforms, and its plugins last.
An entry that fails is skipped, and the table of matchers holds the entries that load, with the entries of the
plugins over them.
-/

namespace StyleRules.Registry

variable {host : Host} {r ended : Registry} {matchers : List (Value × RegisteredMatcher)}

/-! ## Matcher entries -/

/-- The function and the options that an entry of a configuration gives, if it describes a matcher at all. -/
def describedMatcher (host : Host) (entry : Value) : Outcome (Option (Value × Value)) := do
  let factory ← entry.option "factory"
  let template ← entry.option "template"
  let options ← entry.option "options"
  if !factory.isNull then return some (← factoryOf host factory, options)
  else if template.truthy then return some (.callable (.fromStyleTemplate template), options)
  else return none

theorem loadMatcher_perform (host : Host) (name entry : Value) (r : Registry) :
    (loadMatcher host name entry).perform r =
      match describedMatcher host entry with
      | .error reason => (.error reason, r)
      | .ok none => (.ok (), r)
      | .ok (some (factory, options)) => (register name factory options).perform r := by
  unfold loadMatcher describedMatcher
  cases entry.option "factory" with
  | error reason => rfl
  | ok factory =>
      cases entry.option "template" with
      | error reason => rfl
      | ok template =>
          cases entry.option "options" with
          | error reason => rfl
          | ok options =>
              rw [Action.perform_bind_ok (Action.perform_ofOutcome _ r),
                Action.perform_bind_ok (Action.perform_ofOutcome _ r),
                Action.perform_bind_ok (Action.perform_ofOutcome _ r)]
              simp only [bind, Except.bind]
              split
              · cases factoryOf host factory <;> rfl
              · split <;> rfl

/-- What an entry of a configuration registers, if it loads. -/
def loadedEntry (host : Host) (name entry : Value) : Option RegisteredMatcher :=
  match describedMatcher host entry with
  | .ok (some (factory, options)) => (registrationOf name factory options).toOption
  | _ => none

/-- The entries of a configuration that load, with what they register. -/
def loadedEntries (host : Host) (entries : List (Value × Value)) : List (Value × RegisteredMatcher) :=
  entries.filterMap fun entry => (loadedEntry host entry.1 entry.2).map (entry.1, ·)

theorem loadMatcher_leaves (host : Host) (name entry : Value) (r : Registry) :
    ((loadMatcher host name entry).perform r).2 =
      { r with matchers := Mapping.insertAll ((loadedEntry host name entry).map (name, ·)).toList r.matchers } := by
  rw [loadMatcher_perform, loadedEntry]
  cases describedMatcher host entry with
  | error reason => rfl
  | ok described =>
      cases described with
      | none => rfl
      | some description =>
          dsimp only
          rw [perform_register]
          cases registrationOf name description.1 description.2 <;> rfl

/-- Loading entries one after the other writes those that load, and leaves the table of transforms alone. -/
theorem loadMatchers_leaves {entries : List (Value × Value)}
    (loaded : (loadMatchers host entries).perform r = (.ok (), ended)) :
    ended.matchers = Mapping.insertAll (loadedEntries host entries) r.matchers ∧ ended.transforms = r.transforms := by
  induction entries generalizing r with
  | nil =>
      cases loaded
      exact ⟨rfl, rfl⟩
  | cons entry rest ih =>
      rw [loadMatchers] at loaded
      obtain ⟨_, reached, first, others⟩ := Action.bind_ok loaded
      obtain ⟨messages, rfl⟩ := loadOrReport_leaves first
      have written : loadedEntries host (entry :: rest) =
          ((loadedEntry host entry.1 entry.2).map (entry.1, ·)).toList ++ loadedEntries host rest := by
        rw [loadedEntries, List.filterMap_cons]
        cases loadedEntry host entry.1 entry.2 <;> rfl
      obtain ⟨matchers, transforms⟩ := ih others
      rw [matchers, transforms, loadMatcher_leaves, written, Mapping.insertAll_append]
      exact ⟨rfl, rfl⟩

/-! ## Transform entries -/

/-- The path and the options that an entry of a configuration gives for a transform. -/
def describedTransform (entry : Value) : Outcome (Value × Value) :=
  match entry with
  | .map _ => do
    let path ← entry.option "path"
    if path.truthy then return (path, ← entry.option "options") else .error .transformWithoutPath
  | _ => .error .transformWithoutPath

theorem loadTransform_perform (name entry : Value) (r : Registry) :
    (loadTransform name entry).perform r =
      match describedTransform entry with
      | .error reason => (.error reason, r)
      | .ok (path, options) => (registerTransform name path options).perform r := by
  cases entry with
  | map entries =>
      unfold loadTransform describedTransform
      cases (Value.map entries).option "path" with
      | error reason => rfl
      | ok path =>
          rw [Action.perform_bind_ok (Action.perform_ofOutcome _ r), Outcome.ok_bind]
          split
          · cases (Value.map entries).option "options" <;> rfl
          · rfl
  | _ => rfl

/-- What an entry of a configuration registers as a transform, if it loads. -/
def loadedTransform (name entry : Value) : Option RegisteredTransform :=
  match describedTransform entry with
  | .ok (path, options) => (transformationOf name path options).toOption
  | .error _ => none

def loadedTransforms (entries : List (Value × Value)) : List (Value × RegisteredTransform) :=
  entries.filterMap fun entry => (loadedTransform entry.1 entry.2).map (entry.1, ·)

theorem loadTransform_leaves (name entry : Value) (r : Registry) :
    ((loadTransform name entry).perform r).2 =
      { r with transforms := Mapping.insertAll ((loadedTransform name entry).map (name, ·)).toList r.transforms } := by
  rw [loadTransform_perform, loadedTransform]
  cases describedTransform entry with
  | error reason => rfl
  | ok description =>
      dsimp only
      rw [perform_registerTransform]
      cases transformationOf name description.1 description.2 <;> rfl

/-- Loading entries one after the other writes those that load, and leaves the table of matchers alone. -/
theorem loadTransforms_leaves {entries : List (Value × Value)}
    (loaded : (loadTransforms entries).perform r = (.ok (), ended)) :
    ended.matchers = r.matchers ∧ ended.transforms = Mapping.insertAll (loadedTransforms entries) r.transforms := by
  induction entries generalizing r with
  | nil =>
      cases loaded
      exact ⟨rfl, rfl⟩
  | cons entry rest ih =>
      rw [loadTransforms] at loaded
      obtain ⟨_, reached, first, others⟩ := Action.bind_ok loaded
      obtain ⟨messages, rfl⟩ := loadOrReport_leaves first
      have written : loadedTransforms (entry :: rest) =
          ((loadedTransform entry.1 entry.2).map (entry.1, ·)).toList ++ loadedTransforms rest := by
        rw [loadedTransforms, List.filterMap_cons]
        cases loadedTransform entry.1 entry.2 <;> rfl
      obtain ⟨matchers, transforms⟩ := ih others
      rw [matchers, transforms, loadTransform_leaves, written, Mapping.insertAll_append]
      exact ⟨rfl, rfl⟩

/-! ## Sections -/

section Reporting

variable {holds : Registry → Prop}

theorem keeps_report (blind : ∀ messages r, holds r → holds (withMessages messages r))
    (result : Outcome (Result Value)) : (report result).Keeps holds :=
  (Action.Keeps.ofOutcome result).bind fun found => Action.Keeps.modify (blind found.messages)

theorem keeps_registerStrategy (blind : ∀ strategies r, holds r → holds { r with strategies }) (strategy : Strategy) :
    (registerStrategy strategy).Keeps holds :=
  (Action.Keeps.ofOutcome _).bind fun _ => Action.Keeps.modify fun r => blind _ r

theorem keeps_setStrategies (blind : ∀ strategies r, holds r → holds { r with strategies })
    (strategies : List Strategy) : (setStrategies strategies).Keeps holds := by
  have registers : (registerStrategies strategies).Keeps holds := by
    induction strategies with
    | nil => exact Action.Keeps.pure ()
    | cons strategy rest ih => exact (keeps_registerStrategy blind strategy).bind fun _ => ih
  have clears : Action.Keeps holds (modify fun r : Registry => { r with strategies := [] }) :=
    Action.Keeps.modify (blind [])
  exact clears.bind fun _ => registers

theorem keeps_setFallbackMode (blind : ∀ strategies r, holds r → holds { r with strategies }) (mode : Value) :
    (setFallbackMode mode).Keeps holds :=
  Action.Keeps.get.bind fun _ => (Action.Keeps.ofOutcome _).bind (keeps_setStrategies blind)

end Reporting

theorem keepsMatchers_report (result : Outcome (Result Value)) :
    (report result).Keeps (·.matchers = matchers) :=
  keeps_report (fun _ _ same => same) result

def matcherSection (config : Value) : Outcome (List (Value × Value)) := do
  ((← (config.orElse (.map [])).option "matchers").orElse (.map [])).items

def transformSection (config : Value) : Outcome (List (Value × Value)) := do
  ((← (config.orElse (.map [])).option "xslt_transforms").orElse (.map [])).items

def pluginSection (config : Value) : Outcome (List Value) := do
  ((← (config.orElse (.map [])).option "plugins").orElse (.list [])).iterate

/-- The entries of a configuration. -/
structure Sections (config : Value) (matchers transforms : List (Value × Value)) (references : List Value) :
    Prop where
  isMatchers : matcherSection config = .ok matchers
  isTransforms : transformSection config = .ok transforms
  isPlugins : pluginSection config = .ok references

theorem loadConfiguration_sections {config : Value} {matchers transforms : List (Value × Value)}
    {references : List Value} (sections : Sections config matchers transforms references) (r : Registry) :
    (loadConfiguration host config).perform r = Action.perform (do
      loadMatchers host matchers
      loadTransforms transforms
      loadPlugins host references) r := by
  obtain ⟨isMatchers, isTransforms, isPlugins⟩ := sections
  obtain ⟨listed, isListed, isMatchers⟩ := Outcome.bind_ok isMatchers
  obtain ⟨others, isOthers, isTransforms⟩ := Outcome.bind_ok isTransforms
  obtain ⟨plugins, isNamed, isPlugins⟩ := Outcome.bind_ok isPlugins
  simp only [loadConfiguration, isListed, isMatchers, isOthers, isTransforms, isNamed, isPlugins,
    Action.perform_bind, Action.perform_ofOutcome]

/-- A configuration that can be loaded has its three sections. -/
theorem exists_sections {config : Value} (loaded : (loadConfiguration host config).perform r = (.ok (), ended)) :
    ∃ matchers transforms references, Sections config matchers transforms references := by
  rw [loadConfiguration] at loaded
  obtain ⟨listed, isListed, loaded⟩ := Action.ofOutcome_bind_ok loaded
  obtain ⟨matchers, isMatchers, loaded⟩ := Action.ofOutcome_bind_ok loaded
  obtain ⟨_, _, _, loaded⟩ := Action.bind_ok loaded
  obtain ⟨others, isOthers, loaded⟩ := Action.ofOutcome_bind_ok loaded
  obtain ⟨transforms, isTransforms, loaded⟩ := Action.ofOutcome_bind_ok loaded
  obtain ⟨_, _, _, loaded⟩ := Action.bind_ok loaded
  obtain ⟨plugins, isNamed, loaded⟩ := Action.ofOutcome_bind_ok loaded
  obtain ⟨references, isPlugins, _⟩ := Action.ofOutcome_bind_ok loaded
  refine ⟨matchers, transforms, references, ?_, ?_, ?_⟩
  · rw [matcherSection, isListed]
    exact isMatchers
  · rw [transformSection, isOthers]
    exact isTransforms
  · rw [pluginSection, isNamed]
    exact isPlugins

/-- A configuration writes the matchers and the transforms that load, and over them the types of its plugins. -/
theorem loadConfiguration_leaves {config : Value}
    (loaded : (loadConfiguration host config).perform r = (.ok (), ended)) :
    ∃ matchers transforms references, Sections config matchers transforms references ∧
      ended.matchers =
        Mapping.insertAll (loadedEntries host matchers ++ (references.filterMap (pluginIn host)).flatMap writtenBy)
          r.matchers ∧
      ended.transforms =
        Mapping.insertAll (loadedTransforms transforms ++ (references.filterMap (pluginIn host)).flatMap transformsBy)
          r.transforms := by
  obtain ⟨matchers, transforms, references, sections⟩ := exists_sections loaded
  refine ⟨matchers, transforms, references, sections, ?_⟩
  rw [loadConfiguration_sections sections] at loaded
  obtain ⟨_, withMatchers, matchersLoaded, loaded⟩ := Action.bind_ok loaded
  obtain ⟨_, withTransforms, transformsLoaded, loaded⟩ := Action.bind_ok loaded
  obtain ⟨ofMatchers, sameTransforms⟩ := loadMatchers_leaves matchersLoaded
  obtain ⟨sameMatchers, ofTransforms⟩ := loadTransforms_leaves transformsLoaded
  obtain ⟨matchersEnded, transformsEnded⟩ := loadPlugins_leaves loaded
  refine ⟨?_, ?_⟩
  · rw [matchersEnded, sameMatchers, ofMatchers, Mapping.insertAll_append]
  · rw [transformsEnded, ofTransforms, sameTransforms, Mapping.insertAll_append]

theorem keepsMatchers_setFallbackMode (mode : Value) :
    (setFallbackMode mode).Keeps (·.matchers = matchers) :=
  keeps_setFallbackMode (fun _ _ same => same) mode

end StyleRules.Registry
