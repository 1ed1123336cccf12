import StyleRules.Configuration.Basic

/-!
# Loads that fail

Loading a configuration reads a source, lays it over the defaults, and expands its texts; then the new entries
are put in place, and only after that they are reviewed.  So a load that fails while it reads leaves the
configuration as it was, and a load that fails in the review leaves the rejected entries behind.
-/

namespace StyleRules.Configuration

variable {c ended : Configuration} {host : Host} {source format : Value} {reason : Failure}

/-- No environment variable stands for the path, or an empty one. -/
def IsUnset (host : Host) (path : String) : Prop :=
  ∀ text, host.valueOf? (variableName path) = some text → text = ""

theorem get_of_isUnset {path : String} {names : List String} (unset : IsUnset host path)
    (isPath : pathNames path = names) (default : Value) :
    c.get host path default = .ok ((lookup names (.map c.entries)).getD default) := by
  rw [get, isPath]
  cases found : host.valueOf? (variableName path) with
  | none => rfl
  | some text =>
      obtain rfl := unset text found
      rfl

theorem get_unset {path : String} {names : List String} (default : Value)
    (noVariables : host.environment = []) (isPath : pathNames path = names) :
    c.get host path default = .ok ((lookup names (.map c.entries)).getD default) := by
  refine get_of_isUnset (fun text found => ?_) isPath default
  rw [Host.valueOf?, noVariables] at found
  cases found

/-- The entries that a source gives: read, laid over the defaults, and with all texts transformed. -/
def prepare (c : Configuration) (host : Host) (source format : Value) :
    Outcome (List (Value × Value)) := do
  c.layOverDefaults host (← sourceOf host source format)

/-- What is asked of the entries in place: they are valid, if that is checked, and the names of all sections
are texts. -/
def review (c : Configuration) : Outcome Unit := do
  if c.validates then refuse (← c.validateConfiguration .null) .invalidConfiguration
  let _ ← Value.joinTexts ", " (c.entries.map (·.1))

theorem prepare_entries (c : Configuration) (entries : List (Value × Value)) :
    ({ c with entries } : Configuration).prepare host source format = c.prepare host source format :=
  rfl

theorem perform_review (c : Configuration) :
    Action.perform (do
        if c.validates then
          let found ← Action.ofOutcome (c.validateConfiguration .null)
          Action.ofOutcome (refuse found .invalidConfiguration)
        let _ ← Action.ofOutcome (Value.joinTexts ", " (c.entries.map (·.1))) :
          Action Configuration Unit) c =
      (c.review, c) := by
  unfold review
  split <;> simp only [Action.ofOutcome_pure, Action.ofOutcome_bind, Action.perform_ofOutcome]

/-- Loading puts the prepared entries in place and reviews them there. -/
theorem load_perform (c : Configuration) (host : Host) (source format : Value) :
    (load host source format).perform c =
      match c.prepare host source format with
      | .error reason => (.error reason, c)
      | .ok entries => (({ c with entries } : Configuration).review, { c with entries }) := by
  rw [load, prepare]
  cases sourceOf host source format with
  | error reason => rfl
  | ok config =>
      have laidOver : (Except.ok config >>= fun config => c.layOverDefaults host config) =
        c.layOverDefaults host config := rfl
      rw [Action.perform_bind_ok (Action.perform_ofOutcome _ c),
        Action.perform_bind_ok (Action.perform_get c), laidOver]
      cases c.layOverDefaults host config with
      | error reason => rfl
      | ok entries => exact perform_review { c with entries }

theorem load_prepared {entries : List (Value × Value)}
    (prepared : c.prepare host source format = .ok entries) :
    (load host source format).perform c =
      (({ c with entries } : Configuration).review, { c with entries }) := by
  rw [load_perform, prepared]

/-- A load fails while it reads, where nothing has changed yet, or in the review of the new entries. -/
theorem load_error (failed : (load host source format).perform c = (.error reason, ended)) :
    (c.prepare host source format = .error reason ∧ ended = c) ∨
      ∃ entries, c.prepare host source format = .ok entries ∧
        ({ c with entries } : Configuration).review = .error reason ∧ ended = { c with entries } := by
  rw [load_perform] at failed
  cases prepared : c.prepare host source format with
  | error earlier =>
      rw [prepared] at failed
      cases failed
      exact .inl ⟨rfl, rfl⟩
  | ok entries =>
      rw [prepared] at failed
      obtain ⟨rejected, placed⟩ := Prod.mk.inj failed
      exact .inr ⟨entries, rfl, rejected, placed.symm⟩

/-- A load that succeeds leaves the entries that it prepared, and they passed the review. -/
theorem load_ok (succeeded : (load host source format).perform c = (.ok (), ended)) :
    ∃ entries, c.prepare host source format = .ok entries ∧ ended = { c with entries } ∧
      ended.review = .ok () := by
  rw [load_perform] at succeeded
  cases prepared : c.prepare host source format with
  | error reason =>
      rw [prepared] at succeeded
      cases succeeded
  | ok entries =>
      rw [prepared] at succeeded
      obtain ⟨accepted, rfl⟩ := Prod.mk.inj succeeded
      exact ⟨entries, rfl, rfl, accepted⟩

/-- A configuration is made from its sources by loading what they give together, if they give anything. -/
theorem create_of_load {before : Host} {sources : ConfigurationSources} {yamlSource jsonSource merged : Value}
    (assigned : loadAssignments before sources.assignmentFile = .ok host)
    (isYaml : readFile host sources.yamlFile readYaml = .ok yamlSource)
    (isJson : readFile host sources.jsonFile Json.read = .ok jsonSource)
    (given : [yamlSource, jsonSource, sources.config.orElse (.map [])].any Value.truthy = true)
    (isMerged : [yamlSource, jsonSource, sources.config.orElse (.map [])].foldlM merge (.map []) = .ok merged)
    (loaded : (load host merged .null).perform
      { initial sources.validates.truthy sources.schema with yamlSource, jsonSource } = (.ok (), ended)) :
    create before sources = .ok (host, ended) := by
  simp only [create, assigned, isYaml, isJson, given, isMerged, bind, Except.bind, if_true]
  rw [loaded]
  rfl

/-- What a failed load left behind plays no part in a later one that succeeds. -/
theorem load_after_failed {reached : Configuration} {next nextFormat : Value} {later : Host}
    (failed : (load host source format).perform c = (.error reason, ended))
    (succeeded : (load later next nextFormat).perform c = (.ok (), reached)) :
    (load later next nextFormat).perform ended = (.ok (), reached) := by
  rcases load_error failed with ⟨_, rfl⟩ | ⟨rejected, _, _, rfl⟩
  · exact succeeded
  · -- A source is laid over the defaults, so the rejected entries are never read.
    rw [load_perform, prepare_entries]
    rw [load_perform] at succeeded
    cases prepared : c.prepare later next nextFormat with
    | error earlier =>
        rw [prepared] at succeeded
        cases succeeded
    | ok entries =>
        rw [prepared] at succeeded
        exact succeeded

/-- A failed load leaves the entries that it prepared, if it came to prepare some.  It leaves the entries and
all look-ups as they were exactly if it prepared none, or if the rejected entries are the ones in place. -/
theorem failed_load_keeps_iff (failed : (load host source format).perform c = (.error reason, ended)) :
    (ended =
      match c.prepare host source format with
      | .error _ => c
      | .ok entries => { c with entries }) ∧
    ((ended.entries = c.entries ∧
        ∀ (later : Host) path default, ended.get later path default = c.get later path default) ↔
      ∀ entries, c.prepare host source format = .ok entries → entries = c.entries) := by
  rcases load_error failed with ⟨unprepared, rfl⟩ | ⟨placed, prepared, _, rfl⟩
  · rw [unprepared]
    exact ⟨rfl, fun _ => nofun, fun _ => ⟨rfl, fun _ _ _ => rfl⟩⟩
  · rw [prepared]
    refine ⟨rfl, ?_, ?_⟩
    · -- Equal look-ups alone would not do: one entry may stand where no path leads.
      rintro ⟨same, _⟩ entries isPlaced
      cases isPlaced
      exact same
    · intro same
      rw [same placed rfl]
      exact ⟨rfl, fun _ _ _ => rfl⟩

/-- A host without variables and files. -/
def bareHost : Host := Host.bare

def cacheOfNone : List (Value × Value) :=
  [(.str "transforms", .ofFields [("max_cache_size", .int 0)])]

def cacheOfNoneRefused : Failure :=
  .invalidConfiguration ["Property transforms: Property max_cache_size: Number must be at least 1"]

def cacheOfNoneLoaded : Configuration :=
  { initial true .null with entries := mergeEntries defaults cacheOfNone }

theorem load_cacheOfNone :
    (load bareHost (.map cacheOfNone) .null).perform (initial true .null) =
      (.error cacheOfNoneRefused, cacheOfNoneLoaded) := by
  have prepared : (initial true .null).prepare bareHost (.map cacheOfNone) .null =
    .ok (mergeEntries defaults cacheOfNone) := rfl
  have reviewed : cacheOfNoneLoaded.review = .error cacheOfNoneRefused := by decide +kernel
  rw [load_prepared prepared]
  exact Prod.ext reviewed rfl

theorem load_cacheOfNone_not_kept :
    (load bareHost (.map cacheOfNone) .null).perform (initial true .null) =
        (.error cacheOfNoneRefused, cacheOfNoneLoaded) ∧
      ¬(cacheOfNoneLoaded.entries = defaults ∧
        ∀ (later : Host) path default,
          cacheOfNoneLoaded.get later path default = (initial true .null).get later path default) := by
  refine ⟨load_cacheOfNone, fun kept => ?_⟩
  have same : mergeEntries defaults cacheOfNone = defaults :=
    (failed_load_keeps_iff load_cacheOfNone).2.mp kept _ rfl
  have size : lookup ["transforms", "max_cache_size"] (.map (mergeEntries defaults cacheOfNone)) =
    some (.int 0) := rfl
  rw [same] at size
  cases size

/-- The size that a failed load asked for is in force, in a configuration made without sources. -/
theorem rejected_size_remains :
    ∃ c ended, create bareHost { assignmentFile := .null } = .ok (bareHost, c) ∧
      (load bareHost (.map cacheOfNone) .null).perform c = (.error cacheOfNoneRefused, ended) ∧
      c.get bareHost "transforms.max_cache_size" .null = .ok (.int 100) ∧
      ended.get bareHost "transforms.max_cache_size" .null = .ok (.int 0) := by
  have isPath : pathNames "transforms.max_cache_size" = ["transforms", "max_cache_size"] := rfl
  refine ⟨initial true .null, cacheOfNoneLoaded, rfl, load_cacheOfNone, ?_, ?_⟩
  · rw [get_unset .null rfl isPath]
    rfl
  · rw [get_unset .null rfl isPath]
    rfl

end StyleRules.Configuration
