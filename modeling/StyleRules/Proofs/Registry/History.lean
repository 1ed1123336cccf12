import StyleRules.Proofs.Registry.Batch

/-!
# Histories of a registry

A registry is used by a sequence of calls: calls that set it up, and calls that resolve rules in between.
What a call registers does not depend on the tables it meets, so the calls alone tell what a registry knows
after any history: of every type the registration that was written last.
-/

namespace StyleRules.Registry

/-- A call of a registry. -/
inductive Operation where
  | register (name factory options : Value)
  | registerTransform (name path options : Value)
  | registerPlugin (plugin : Value)
  | loadConfiguration (host : Host) (config : Value)
  | registerStrategy (strategy : Strategy)
  | setStrategies (strategies : List Strategy)
  | setFallbackMode (mode : Value)
  | createMatcher (host : Host) (name options : Value)

namespace Operation

def action : Operation → Action Registry Unit
  | .register name factory options => Registry.register name factory options
  | .registerTransform name path options => Registry.registerTransform name path options
  | .registerPlugin plugin => Registry.registerPlugin plugin
  | .loadConfiguration host config => Registry.loadConfiguration host config
  | .registerStrategy strategy => Registry.registerStrategy strategy
  | .setStrategies strategies => Registry.setStrategies strategies
  | .setFallbackMode mode => Registry.setFallbackMode mode
  | .createMatcher host name options => do
    let _ ← Registry.createMatcher host name options

/-- The registry after a call, whether the call failed or not. -/
def apply (operation : Operation) (r : Registry) : Registry := (operation.action.perform r).2

/-- The entry that a call writes into the table of matchers under a type. -/
def direct (d : Diagnostics) (operation : Operation) (name : String) : Option RegisteredMatcher :=
  Mapping.get? name (operation.apply (empty none d)).matchers

/-- The entry that a call writes into the table of transforms under a type. -/
def transform (d : Diagnostics) (operation : Operation) (name : String) :
    Option RegisteredTransform :=
  Mapping.get? name (operation.apply (empty none d)).transforms

/-- All types that a call registers are texts. -/
def NamesTexts (d : Diagnostics) (operation : Operation) : Prop :=
  Mapping.TextKeys (operation.apply (empty none d)).matchers ∧
    Mapping.TextKeys (operation.apply (empty none d)).transforms

end Operation

def after (history : List Operation) (r : Registry) : Registry :=
  history.foldl (fun reached operation => operation.apply reached) r

/-- The registry that a history makes of a new one. -/
def reached (engine : Option Engine) (d : Diagnostics) (installFallbacks : Bool)
    (history : List Operation) : Registry :=
  after history (create engine d installFallbacks)

def builtinMatchers : List (Value × RegisteredMatcher) :=
  BuiltinTypes.all.map fun (name, factory) =>
    (.str name, ⟨factory, .int 0, .str "default", .null, .str ("Built-in matcher for " ++ name)⟩)

/-- The most recent direct registration of a type; the built-in types are registered first of all. -/
def lastDirect (d : Diagnostics) (history : List Operation) (name : String) :
    Option RegisteredMatcher :=
  (history.reverse.findSome? fun operation => operation.direct d name).or
    (Mapping.get? name builtinMatchers)

/-- The most recent registration of a type as a transform. -/
def lastTransform (d : Diagnostics) (history : List Operation) (name : String) :
    Option RegisteredTransform :=
  history.reverse.findSome? fun operation => operation.transform d name

variable {d : Diagnostics} {r : Registry} {name : String}

/-! ## One call -/

/-- A call writes the same entries into every registry with the diagnostics `d`. -/
def Operation.Writes (d : Diagnostics) (operation : Operation)
    (direct : List (Value × RegisteredMatcher)) (transforms : List (Value × RegisteredTransform)) :
    Prop :=
  ∀ r : Registry, r.diagnostics = d →
    (operation.apply r).diagnostics = d ∧
      (operation.apply r).matchers = Mapping.insertAll direct r.matchers ∧
        (operation.apply r).transforms = Mapping.insertAll transforms r.transforms

theorem IsSetUp.writes {operation : Operation} (isSetUp : IsSetUp d operation.action) :
    ∃ direct transforms, operation.Writes d direct transforms := by
  obtain ⟨outcome, direct, transforms, writes⟩ := isSetUp
  refine ⟨direct, transforms, ?_⟩
  intro r same
  obtain ⟨_, diagnostics, _, matchers, others⟩ := writes r same
  exact ⟨diagnostics, matchers, others⟩

/-- Resolving a rule changes the engine at most. -/
theorem Operation.createMatcher_apply (host : Host) (type options : Value) (r : Registry) :
    ∃ engine, (Operation.createMatcher host type options).apply r = { r with engine } := by
  obtain ⟨engine, reached⟩ := createMatcher_keeps host type options r
  refine ⟨engine, ?_⟩
  rw [Operation.apply, Operation.action, Action.perform_bind, ← reached]
  split <;> rename_i performed <;> rw [performed]
  rfl

theorem Operation.exists_writes (d : Diagnostics) (operation : Operation) :
    ∃ direct transforms, operation.Writes d direct transforms := by
  cases operation with
  | register type factory options => exact (isSetUp_register type factory options).writes
  | registerTransform type path options => exact (isSetUp_registerTransform type path options).writes
  | registerPlugin plugin => exact (isSetUp_registerPlugin plugin).writes
  | loadConfiguration host config => exact (isSetUp_loadConfiguration host config).writes
  | registerStrategy strategy => exact (isSetUp_registerStrategy strategy).writes
  | setStrategies strategies => exact (isSetUp_setStrategies strategies).writes
  | setFallbackMode mode => exact (isSetUp_setFallbackMode mode).writes
  | createMatcher host type options =>
      refine ⟨[], [], ?_⟩
      intro r same
      obtain ⟨engine, applied⟩ := Operation.createMatcher_apply host type options r
      rw [applied]
      exact ⟨same, rfl, rfl⟩

theorem Operation.diagnostics_apply (operation : Operation) (same : r.diagnostics = d) :
    (operation.apply r).diagnostics = d := by
  obtain ⟨direct, transforms, writes⟩ := operation.exists_writes d
  exact (writes r same).1

theorem Operation.find?_matchers_apply (operation : Operation) (same : r.diagnostics = d) :
    Mapping.find? (.str name) (operation.apply r).matchers =
      (operation.direct d name).or (Mapping.find? (.str name) r.matchers) := by
  obtain ⟨direct, transforms, writes⟩ := operation.exists_writes d
  rw [Operation.direct, Mapping.get?, (writes r same).2.1, (writes (empty none d) rfl).2.1]
  exact Mapping.find?_insertAll direct r.matchers name

theorem Operation.find?_transforms_apply (operation : Operation) (same : r.diagnostics = d) :
    Mapping.find? (.str name) (operation.apply r).transforms =
      (operation.transform d name).or (Mapping.find? (.str name) r.transforms) := by
  obtain ⟨direct, transforms, writes⟩ := operation.exists_writes d
  rw [Operation.transform, Mapping.get?, (writes r same).2.2, (writes (empty none d) rfl).2.2]
  exact Mapping.find?_insertAll transforms r.transforms name

/-! ## What a call registers -/

/-- A registration under the name itself is the entry of the name; one under another name is none. -/
theorem Operation.direct_register (type factory options : Value) :
    (Operation.register type factory options).direct d name =
      if type.eq (.str name) then (matcherOf type factory options).toOption else none := by
  rw [direct, apply, action, perform_register]
  by_cases isName : type = .str name
  · subst isName
    have isKey : registrationOf (.str name) factory options = matcherOf (.str name) factory options := rfl
    rw [isKey]
    cases matcherOf (.str name) factory options <;>
      simp [Mapping.get?, Mapping.find?, Mapping.insert, empty, Except.toOption]
  · cases registrationOf type factory options <;>
      simp [Mapping.get?, Mapping.find?, Mapping.insert, empty, isName]

theorem Operation.transform_registerTransform (type path options : Value) :
    (Operation.registerTransform type path options).transform d name =
      if type.eq (.str name) then (transformOf path options).toOption else none := by
  rw [transform, apply, action, perform_registerTransform]
  by_cases isName : type = .str name
  · subst isName
    have isKey : transformationOf (.str name) path options = transformOf path options := bind_pure _
    rw [isKey]
    cases transformOf path options <;>
      simp [Mapping.get?, Mapping.find?, Mapping.insert, empty, Except.toOption]
  · cases transformationOf type path options <;>
      simp [Mapping.get?, Mapping.find?, Mapping.insert, empty, isName]

/-- What each kind of call registers, directly and as a transform.  A call under the name itself is an entry of the
name; plugins and configurations register their entries in order, of which the last one under the name counts. -/
structure Operation.Registers (d : Diagnostics) : Prop where
  register : ∀ type factory options name,
    (Operation.register type factory options).direct d name =
        (if type.eq (.str name) then (matcherOf type factory options).toOption else none) ∧
      (Operation.register type factory options).transform d name = none
  registerTransform : ∀ type path options name,
    (Operation.registerTransform type path options).direct d name = none ∧
      (Operation.registerTransform type path options).transform d name =
        if type.eq (.str name) then (transformOf path options).toOption else none
  /-- A plugin keeps what it registered when a later call or step of it fails. -/
  registerPlugin : ∀ plugin name,
    (Operation.registerPlugin plugin).direct d name = Mapping.last? name (writtenBy plugin) ∧
      (Operation.registerPlugin plugin).transform d name = Mapping.last? name (transformsBy plugin)
  /-- A configuration registers what loads, and its plugins are loaded last. -/
  loadConfiguration : ∀ host config matchers transforms references name,
    Sections config matchers transforms references →
    ((Registry.loadConfiguration host config).perform (empty none d)).1 = .ok () →
      (Operation.loadConfiguration host config).direct d name = Mapping.last? name
          (loadedEntries host matchers ++ (references.filterMap (pluginIn host)).flatMap writtenBy) ∧
        (Operation.loadConfiguration host config).transform d name = Mapping.last? name
          (loadedTransforms transforms ++ (references.filterMap (pluginIn host)).flatMap transformsBy)
  /-- Strategies register no types. -/
  strategies : ∀ strategy strategies mode name,
    ∀ operation ∈ [Operation.registerStrategy strategy, .setStrategies strategies, .setFallbackMode mode],
      operation.direct d name = none ∧ operation.transform d name = none
  createMatcher : ∀ host type options name,
    (Operation.createMatcher host type options).direct d name = none ∧
      (Operation.createMatcher host type options).transform d name = none

theorem get?_insertAll_nil {α : Type} (changes : List (Value × α)) (name : String) :
    Mapping.get? name (Mapping.insertAll changes []) = Mapping.last? name changes :=
  (Mapping.find?_insertAll_last changes [] name).trans Option.or_none

theorem Operation.registers (d : Diagnostics) : Operation.Registers d where
  register type factory options name := by
    refine ⟨direct_register type factory options, ?_⟩
    rw [transform, apply, action, perform_register]
    cases registrationOf type factory options <;> rfl
  registerTransform type path options name := by
    refine ⟨?_, transform_registerTransform type path options⟩
    rw [direct, apply, action, perform_registerTransform]
    cases transformationOf type path options <;> rfl
  registerPlugin plugin name := by
    rw [direct, transform, apply, action, registerPlugin_leaves]
    exact ⟨get?_insertAll_nil _ name, get?_insertAll_nil _ name⟩
  loadConfiguration host config matchers transforms references name sections succeeded := by
    obtain ⟨ended, loaded⟩ : ∃ ended, (Registry.loadConfiguration host config).perform (empty none d) = (.ok (), ended) :=
      ⟨_, Prod.ext succeeded rfl⟩
    obtain ⟨_, _, _, others, ofMatchers, ofTransforms⟩ := loadConfiguration_leaves loaded
    cases sections.isMatchers.symm.trans others.isMatchers
    cases sections.isTransforms.symm.trans others.isTransforms
    cases sections.isPlugins.symm.trans others.isPlugins
    rw [direct, transform, apply, action, loaded, ofMatchers, ofTransforms]
    exact ⟨get?_insertAll_nil _ name, get?_insertAll_nil _ name⟩
  strategies strategy strategies mode name := by
    have idle {operation : Operation}
        (keeps : operation.action.Keeps fun r => r.matchers = [] ∧ r.transforms = []) :
        operation.direct d name = none ∧ operation.transform d name = none := by
      obtain ⟨matchers, transforms⟩ := keeps (empty none d) ⟨rfl, rfl⟩
      rw [direct, transform, apply, matchers, transforms]
      exact ⟨rfl, rfl⟩
    intro operation member
    simp only [List.mem_cons, List.not_mem_nil, or_false] at member
    rcases member with rfl | rfl | rfl
    · exact idle (keeps_registerStrategy (fun _ _ same => same) strategy)
    · exact idle (keeps_setStrategies (fun _ _ same => same) strategies)
    · exact idle (keeps_setFallbackMode (fun _ _ same => same) mode)
  createMatcher host type options name := by
    obtain ⟨engine, applied⟩ := createMatcher_apply host type options (empty none d)
    rw [direct, transform, applied]
    exact ⟨rfl, rfl⟩

/-- Both tables name texts, and neither names a type twice. -/
structure Tidy (r : Registry) : Prop where
  matcherTexts : Mapping.TextKeys r.matchers
  transformTexts : Mapping.TextKeys r.transforms
  matchersDistinct : (Mapping.keys r.matchers).Nodup
  transformsDistinct : (Mapping.keys r.transforms).Nodup

theorem Tidy.apply {operation : Operation} (tidy : Tidy r) (same : r.diagnostics = d)
    (texts : operation.NamesTexts d) : Tidy (operation.apply r) := by
  obtain ⟨direct, transforms, writes⟩ := operation.exists_writes d
  obtain ⟨_, matchers, others⟩ := writes r same
  obtain ⟨_, written, otherWritten⟩ := writes (empty none d) rfl
  obtain ⟨directTexts, transformTexts⟩ := texts
  rw [written, Mapping.textKeys_insertAll] at directTexts
  rw [otherWritten, Mapping.textKeys_insertAll] at transformTexts
  refine ⟨?_, ?_, ?_, ?_⟩
  · rw [matchers]
    exact Mapping.textKeys_insertAll.mpr ⟨directTexts.1, tidy.matcherTexts⟩
  · rw [others]
    exact Mapping.textKeys_insertAll.mpr ⟨transformTexts.1, tidy.transformTexts⟩
  · rw [matchers]
    exact Mapping.nodup_keys_insertAll directTexts.1 tidy.matchersDistinct
  · rw [others]
    exact Mapping.nodup_keys_insertAll transformTexts.1 tidy.transformsDistinct

/-! ## Several calls -/

theorem after_cons (operation : Operation) (history : List Operation) (r : Registry) :
    after (operation :: history) r = after history (operation.apply r) :=
  rfl

theorem diagnostics_after (history : List Operation) (same : r.diagnostics = d) :
    (after history r).diagnostics = d := by
  induction history generalizing r with
  | nil => exact same
  | cons operation rest ih => exact ih (operation.diagnostics_apply same)

theorem find?_matchers_after (history : List Operation) (same : r.diagnostics = d) :
    Mapping.find? (.str name) (after history r).matchers =
      (history.reverse.findSome? fun operation => operation.direct d name).or
        (Mapping.find? (.str name) r.matchers) := by
  induction history generalizing r with
  | nil => rfl
  | cons operation rest ih =>
      rw [after_cons, ih (operation.diagnostics_apply same), operation.find?_matchers_apply same,
        List.reverse_cons, List.findSome?_append, Option.or_assoc]
      simp

theorem find?_transforms_after (history : List Operation) (same : r.diagnostics = d) :
    Mapping.find? (.str name) (after history r).transforms =
      (history.reverse.findSome? fun operation => operation.transform d name).or
        (Mapping.find? (.str name) r.transforms) := by
  induction history generalizing r with
  | nil => rfl
  | cons operation rest ih =>
      rw [after_cons, ih (operation.diagnostics_apply same), operation.find?_transforms_apply same,
        List.reverse_cons, List.findSome?_append, Option.or_assoc]
      simp

theorem Tidy.after {history : List Operation} (tidy : Tidy r) (same : r.diagnostics = d)
    (texts : ∀ operation ∈ history, operation.NamesTexts d) : Tidy (after history r) := by
  induction history generalizing r with
  | nil => exact tidy
  | cons operation rest ih =>
      have first := tidy.apply same (texts operation List.mem_cons_self)
      exact ih first (operation.diagnostics_apply same) fun later member =>
        texts later (List.mem_cons_of_mem operation member)

/-! ## A new registry -/

/-- A new registry knows the built-in types and nothing else. -/
theorem create_tables (engine : Option Engine) (d : Diagnostics) (installFallbacks : Bool) :
    (create engine d installFallbacks).engine = engine ∧
      (create engine d installFallbacks).diagnostics = d ∧
        (create engine d installFallbacks).matchers = builtinMatchers ∧
          (create engine d installFallbacks).transforms = [] := by
  cases installFallbacks <;> exact ⟨rfl, rfl, rfl, rfl⟩

theorem tidy_create (engine : Option Engine) (d : Diagnostics) (installFallbacks : Bool) :
    Tidy (create engine d installFallbacks) := by
  obtain ⟨_, _, matchers, transforms⟩ := create_tables engine d installFallbacks
  have keys : Mapping.keys builtinMatchers = (BuiltinTypes.all.map (·.1)).map Value.str := by
    rw [Mapping.keys, builtinMatchers, List.map_map, List.map_map]
    rfl
  have distinct : (BuiltinTypes.all.map (·.1)).Nodup := by decide
  refine ⟨?_, ?_, ?_, ?_⟩
  · rw [matchers, Mapping.TextKeys, keys]
    intro key member
    obtain ⟨text, _, rfl⟩ := List.mem_map.mp member
    exact Value.isText_str text
  · rw [transforms]
    exact Mapping.textKeys_nil
  · rw [matchers, keys]
    exact distinct.map fun first second same => Value.str.inj same
  · rw [transforms]
    exact List.nodup_nil

variable {engine : Option Engine} {installFallbacks : Bool}

/-- After any history a new registry knows of every type the last direct registration. -/
theorem find?_matchers_reached (history : List Operation) :
    Mapping.find? (.str name) (reached engine d installFallbacks history).matchers =
      lastDirect d history name := by
  obtain ⟨_, diagnostics, matchers, _⟩ := create_tables engine d installFallbacks
  rw [reached, find?_matchers_after history diagnostics, matchers]
  rfl

theorem find?_transforms_reached (history : List Operation) :
    Mapping.find? (.str name) (reached engine d installFallbacks history).transforms =
      lastTransform d history name := by
  obtain ⟨_, diagnostics, _, transforms⟩ := create_tables engine d installFallbacks
  rw [reached, find?_transforms_after history diagnostics, transforms]
  exact Option.or_none

theorem diagnostics_reached (history : List Operation) :
    (reached engine d installFallbacks history).diagnostics = d :=
  diagnostics_after history (create_tables engine d installFallbacks).2.1

theorem tidy_reached {history : List Operation}
    (texts : ∀ operation ∈ history, operation.NamesTexts d) :
    Tidy (reached engine d installFallbacks history) :=
  (tidy_create engine d installFallbacks).after (create_tables engine d installFallbacks).2.1 texts

end StyleRules.Registry
