import StyleRules.Proofs.Configuration.Data
import StyleRules.Proofs.Configuration.Exporting
import StyleRules.Proofs.Configuration.Validating

/-!
# Configurations that are accepted

A configuration that is made of one mapping is refused with errors, or it is accepted and conforms to the default
schema.  Nothing else happens, as long as no integer of the mapping is too large to be checked.  What an accepted
configuration gives at a path is the default there, or a value that conforms.
-/

namespace StyleRules.Configuration

open Validation

variable {c : Configuration} {host : Host} {config : List (Value × Value)} {path : String}
  {names : List String}

/-! ## Making a configuration -/

/-- The configuration that a mapping makes of the defaults. -/
def ofMapping (host : Host) (config : List (Value × Value)) : Configuration :=
  { initial true .null with entries := expandedEntries host (mergeEntries defaults config) }

theorem ofMapping_nil (host : Host) : ofMapping host [] = initial true .null := by
  have same : expandedEntries host defaults = defaults := Value.map.inj (settled_defaults host)
  rw [ofMapping, mergeEntries_nil, same]
  rfl

/-- A mapping makes a configuration that is reviewed. -/
theorem create_ofMapping (host : Host) (config : List (Value × Value)) :
    create host { assignmentFile := .null, config := .map config } =
      (ofMapping host config).review.map fun _ => (host, ofMapping host config) := by
  cases config with
  | nil =>
      -- An empty mapping is not loaded; the defaults would pass the review.
      rw [ofMapping_nil, review_initial]
      rfl
  | cons entry rest =>
      have prepared : (initial true .null).prepare host (.map (entry :: rest)) .null =
          .ok (ofMapping host (entry :: rest)).entries :=
        layOverDefaults_map (expands_initial true .null) _
      have isMerged : [Value.map [], .map [], .map (entry :: rest)].foldlM merge (.map []) =
          .ok (.map (entry :: rest)) :=
        congrArg (fun entries => Except.ok (Value.map entries)) (nil_mergeEntries _)
      have isCreated : create host { assignmentFile := .null, config := .map (entry :: rest) } = (do
          let merged ← [Value.map [], .map [], .map (entry :: rest)].foldlM merge (.map [])
          let loaded := (load host merged .null).perform (initial true .null)
          loaded.1.map fun _ => (host, loaded.2)) := rfl
      rw [isCreated, isMerged, Outcome.ok_bind, load_prepared prepared]
      rfl

/-! ## Reviewing it -/

theorem errorTexts_errors (texts : List String) : errorTexts (errors texts) = .ok texts := by
  rw [errorTexts, errors, Value.iterate, Outcome.ok_bind]
  induction texts with
  | nil => rfl
  | cons text rest ih =>
      rw [List.map_cons, List.mapM_cons, ih]
      rfl

theorem refuse_errors (first : String) (others : List String) (reason : List String → Failure) :
    refuse (errors (first :: others)) reason = .error (reason (first :: others)) := by
  have any : (errors (first :: others)).truthy = true := rfl
  rw [refuse, if_pos any, errorTexts_errors]
  rfl

/-- A review gives errors, or none, if the names of all sections are texts and no integer is too large. -/
theorem review_checked (validates : c.validates = true) (isDefault : c.schema = defaultSchema)
    (basic : c.validators = basicValidators) (texts : Mapping.TextKeys c.entries)
    (fits : IntegersFit (.map c.entries)) :
    c.review = .ok () ∨ ∃ errors, c.review = .error (.invalidConfiguration errors) := by
  obtain ⟨found, checked⟩ := checked_defaultSchema fits
  obtain ⟨names, joined⟩ := (Value.joinTexts_ok_iff ", " (Mapping.keys c.entries)).mpr texts
  have isFound : c.validateConfiguration .null = .ok (errors found) := by
    rw [validateConfiguration, isDefault, validateValue, basic]
    exact checked
  rw [review, if_pos validates, isFound, Outcome.ok_bind, ← Mapping.keys, joined]
  cases found with
  | nil => exact .inl rfl
  | cons first others =>
      refine .inr ⟨first :: others, ?_⟩
      rw [refuse_errors]
      rfl

/-- The integers of the defaults are small, so those of the mapping decide. -/
theorem integersFit_ofMapping (fits : IntegersFit (.map config)) :
    IntegersFit (.map (ofMapping host config).entries) := by
  intro path isPath value found n isInt
  subst isInt
  have isExpanded : Value.map (ofMapping host config).entries =
      expanded host (changed (.map defaults) (some (.map config))) := by
    rw [changed, mergeValue, expanded, ofMapping, mergeEntries]
  rw [isExpanded, lookup_expanded] at found
  obtain ⟨before, isBefore, isInt⟩ := Option.map_eq_some_iff.mp found
  have same : before = .int n := by
    cases before <;> cases isInt
    rfl
  rw [same] at isBefore
  rcases lookup_changed isBefore rfl with isDefault | ⟨other, isConfig, isGiven⟩
  · simp only [integerPaths, List.mem_cons, List.not_mem_nil, or_false] at isPath
    rcases isPath with rfl | rfl <;> cases isDefault <;> decide +kernel
  · cases isConfig
    exact fits path isPath _ isGiven n rfl

theorem isData_ofMapping (isData : IsData (.map config)) : IsData (.map (ofMapping host config).entries) :=
  isData_expanded (isData_mergeEntries isJson_defaults.isData isData)

/-- No variable of the host stands for a path of a configuration. -/
def NoOverrides (host : Host) : Prop := ∀ rest, host.valueOf? ("STYLEMATCH_" ++ rest) = none

theorem get_of_noOverrides (noOverrides : NoOverrides host) (isPath : pathNames path = names) (default : Value) :
    c.get host path default = .ok ((lookup names (.map c.entries)).getD default) := by
  refine get_of_isUnset (fun text found => ?_) isPath default
  rw [variableName, noOverrides] at found
  cases found

theorem registryPart_of_noOverrides (noOverrides : NoOverrides host) :
    c.registryPart host = .ok (.ofFields [("matchers", (lookup ["matchers"] (.map c.entries)).getD (.map [])),
      ("xslt_transforms", (lookup ["xslt_transforms"] (.map c.entries)).getD (.map [])),
      ("plugins", (lookup ["plugins"] (.map c.entries)).getD (.list []))]) := by
  have matchersPath : pathNames "matchers" = ["matchers"] := rfl
  have transformsPath : pathNames "xslt_transforms" = ["xslt_transforms"] := rfl
  have pluginsPath : pathNames "plugins" = ["plugins"] := rfl
  rw [registryPart, get_of_noOverrides noOverrides matchersPath, get_of_noOverrides noOverrides transformsPath,
    get_of_noOverrides noOverrides pluginsPath]
  rfl

/-- The configuration is data that conforms to the default schema, and all that it gives stands in it. -/
structure Accepted (host : Host) (c : Configuration) : Prop where
  noOverrides : NoOverrides host
  isData : IsData (.map c.entries)
  conforms : Conforms basicValidators (Schema.ofValue defaultSchema) (.map c.entries)

/-- A mapping that is data is refused with errors, or the configuration that it makes is accepted. -/
theorem create_refuses_or_accepts (noOverrides : NoOverrides host) (isData : IsData (.map config))
    (fits : IntegersFit (.map config)) :
    (∃ errors, create host { assignmentFile := .null, config := .map config } =
        .error (.invalidConfiguration errors)) ∨
      create host { assignmentFile := .null, config := .map config } = .ok (host, ofMapping host config) ∧
        Accepted host (ofMapping host config) := by
  have whole : IsData (.map (ofMapping host config).entries) := isData_ofMapping isData
  rw [create_ofMapping]
  rcases review_checked rfl rfl rfl (isData_map.mp whole).1 (integersFit_ofMapping fits) with
    accepted | ⟨errors, refused⟩
  · exact .inr ⟨by rw [accepted]; rfl, noOverrides, whole, conforms_of_review rfl rfl rfl accepted⟩
  · exact .inl ⟨errors, by rw [refused]; rfl⟩

/-! ## Reading it -/

namespace Accepted

theorem get (accepted : Accepted host c) (isPath : pathNames path = names) (default : Value) :
    c.get host path default = .ok ((lookup names (.map c.entries)).getD default) :=
  get_of_noOverrides accepted.noOverrides isPath default

variable (accepted : Accepted host c) (isPath : pathNames path = names)

include accepted isPath

/-- A path gives the default, or a value that conforms to the schema there. -/
theorem exists_get {inner : Schema} (isInner : schemaAt names (Schema.ofValue defaultSchema) = some inner)
    (default : Value) :
    ∃ value, c.get host path default = .ok value ∧
      (value = default ∨ IsData value ∧ Conforms basicValidators inner value) := by
  rw [accepted.get isPath]
  cases found : lookup names (.map c.entries) with
  | none => exact ⟨default, rfl, .inl rfl⟩
  | some value =>
      exact ⟨value, rfl, .inr ⟨isData_lookup accepted.isData found, conforms_at accepted.conforms isInner found⟩⟩

theorem exists_truth
    (isInner : schemaAt names (Schema.ofValue defaultSchema) = some (Schema.ofValue (schemaOf "boolean" [])))
    (b : Bool) : ∃ given, c.get host path (.bool b) = .ok (.bool given) := by
  obtain ⟨value, isGiven, rfl | ⟨_, isTruth⟩⟩ := accepted.exists_get isPath isInner (.bool b)
  · exact ⟨b, isGiven⟩
  · obtain ⟨given, rfl⟩ := isTruth.truth rfl
    exact ⟨given, isGiven⟩

/-- A list of texts is given, or else what stands in for an empty one. -/
theorem exists_texts
    (isInner : schemaAt names (Schema.ofValue defaultSchema) = some (Schema.ofValue textListSchema))
    (others : List String) :
    ∃ given, c.get host path (textList []) = .ok (textList given) ∧
      ∃ value, c.get host path .null = .ok value ∧
        value.orElse (textList others) = textList (if given = [] then others else given) := by
  rw [accepted.get isPath, accepted.get isPath]
  cases found : lookup names (.map c.entries) with
  | none => exact ⟨[], rfl, .null, rfl, rfl⟩
  | some value =>
      obtain ⟨values, rfl, each⟩ := (conforms_at accepted.conforms isInner found).list rfl
      obtain ⟨given, rfl⟩ := Value.exists_names fun item member => (each _ rfl item member).text rfl
      refine ⟨given, rfl, _, rfl, ?_⟩
      cases given <;> rfl

end Accepted

end StyleRules.Configuration
