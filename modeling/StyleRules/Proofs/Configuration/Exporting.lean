import StyleRules.Proofs.Configuration.Conforming
import StyleRules.Proofs.Configuration.Expanding
import StyleRules.Proofs.Value.Reading

/-!
# Exported configurations

A configuration is exported without the entries that are as the defaults.  A fresh configuration that loads
the export has the entries of the exported one again, up to values that are equal to a default.  Loading fails
only in the review of these entries.
-/

namespace StyleRules.Configuration

variable {c : Configuration} {host : Host}

/-- Loading expands references to variables, and changes texts in no other way. -/
def Expands (c : Configuration) : Prop := c.transformerAtLoad = .variable

/-- A configuration as it is made from its sources, or as a load leaves it that succeeds; what was loaded, set
or defined before does not matter. -/
inductive Reached (host : Host) : Configuration → Prop
  | created {before : Host} {sources : ConfigurationSources} {c : Configuration}
      (isCreated : create before sources = .ok (host, c)) : Reached host c
  | loaded {earlier c : Configuration} {source format : Value} (expands : earlier.Expands)
      (succeeded : (load host source format).perform earlier = (.ok (), c)) : Reached host c

theorem expands_initial (validates : Bool) (schema : Value) : (initial validates schema).Expands := rfl

theorem exists_changes_of_merge {base : List (Value × Value)} {config merged : Value}
    (laidOver : merge (.map base) config = .ok merged) :
    ∃ changes, merged = .map (mergeEntries base changes) := by
  cases config with
  | map changes => exact ⟨changes, (Except.ok.inj laidOver).symm⟩
  | _ =>
      obtain ⟨_, _, impossible⟩ := Outcome.bind_ok laidOver
      cases impossible

theorem layOverDefaults_map (expands : c.Expands) (changes : List (Value × Value)) :
    c.layOverDefaults host (.map changes) = .ok (expandedEntries host (mergeEntries defaults changes)) := by
  rw [layOverDefaults, expands]
  exact transformEntries_variable host _

theorem create_cases {before : Host} {sources : ConfigurationSources}
    (isCreated : create before sources = .ok (host, c)) :
    ∃ start : Configuration, start.Expands ∧ start.validators = basicValidators ∧ start.entries = defaults ∧
      (c = start ∨ ∃ source, (load host source .null).perform start = (.ok (), c)) := by
  obtain ⟨later, _, isCreated⟩ := Outcome.bind_ok isCreated
  obtain ⟨yamlSource, _, isCreated⟩ := Outcome.bind_ok isCreated
  obtain ⟨jsonSource, _, isCreated⟩ := Outcome.bind_ok isCreated
  refine ⟨{ initial sources.validates.truthy sources.schema with yamlSource, jsonSource }, rfl, rfl, rfl, ?_⟩
  dsimp only at isCreated
  split at isCreated
  · obtain ⟨merged, _, isCreated⟩ := Outcome.bind_ok isCreated
    generalize isLoaded : (load later merged .null).perform _ = performed at isCreated
    obtain ⟨outcome, loaded⟩ := performed
    cases outcome with
    | error reason => cases isCreated
    | ok _ =>
        cases isCreated
        exact .inr ⟨merged, isLoaded⟩
  · cases isCreated
    exact .inl rfl

theorem settled_defaults (host : Host) : Settled host (.map defaults) := by
  have plain : ∀ s ∈ ["lxml", "./transforms", "ignore", "INFO"], Transformer.expandVariable host s = s := by
    intro s member
    refine expandVariable_plain ?_
    revert s
    decide
  simp only [List.forall_mem_cons] at plain
  simp [Settled, defaults, expanded, expandedEntries, expandedItems, Value.ofFields, textList, plain]

theorem review_congr {first second : Configuration} (validates : first.validates = second.validates)
    (schema : first.schema = second.schema) (validators : first.validators = second.validators)
    (entries : first.entries = second.entries) : first.review = second.review := by
  simp only [review, validateConfiguration, validateValue, validates, schema, validators, entries]

theorem review_initial (validates : Bool) : (initial validates .null).review = .ok () := by
  cases validates <;> decide +kernel

/-- The entries are changes over the defaults, expanded, and conform to the default schema if that is asked. -/
structure LaidOver (host : Host) (c : Configuration) : Prop where
  entries : ∃ changes, c.entries = expandedEntries host (mergeEntries defaults changes)
  accepted : c.schema = defaultSchema → c.review = .ok ()

theorem laidOver_load {earlier : Configuration} {source format : Value} (expands : earlier.Expands)
    (succeeded : (load host source format).perform earlier = (.ok (), c)) : LaidOver host c := by
  obtain ⟨entries, prepared, rfl, accepted⟩ := load_ok succeeded
  obtain ⟨config, _, laidOver⟩ := Outcome.bind_ok prepared
  obtain ⟨merged, isMerged, _⟩ := Outcome.bind_ok laidOver
  obtain ⟨changes, rfl⟩ := exists_changes_of_merge isMerged
  refine ⟨⟨changes, ?_⟩, fun _ => accepted⟩
  rw [layOverDefaults, isMerged, expands] at laidOver
  exact (Except.ok.inj ((transformEntries_variable host _).symm.trans laidOver)).symm

theorem Reached.laidOver (reached : Reached host c) : LaidOver host c := by
  cases reached with
  | loaded expands succeeded => exact laidOver_load expands succeeded
  | created isCreated =>
      obtain ⟨start, expands, basic, isStart, rfl | ⟨source, succeeded⟩⟩ := create_cases isCreated
      · -- Nothing was loaded, so that the defaults were never reviewed.
        refine ⟨⟨[], ?_⟩, fun isDefault => ?_⟩
        · rw [mergeEntries_nil, isStart]
          exact (Value.map.inj (settled_defaults host)).symm
        · have asInitial : c.review = (initial c.validates .null).review :=
            review_congr rfl isDefault basic isStart
          rw [asInitial, review_initial]
      · exact laidOver_load expands succeeded

/-! ## Loading an export -/

theorem isJson_defaults : IsJson (.map defaults) := by
  simp [defaults, Value.ofFields, textList, Mapping.keys]

/-- The entries that a load of the export puts in place. -/
def restoredEntries (c : Configuration) : List (Value × Value) :=
  mergeEntries defaults (withoutDefaults defaults c.entries)

theorem expandedEntries_mergeEntries_defaults (host : Host) (changes : List (Value × Value)) :
    expandedEntries host (mergeEntries defaults changes) =
      mergeEntries defaults (expandedEntries host changes) := by
  refine expandedEntries_mergeEntries (fun entry member => ?_) changes
  exact expanded_changed (hereditary_isJson.entry isJson_defaults entry member)
    (settled_map_iff.mp (settled_defaults host) entry member)

theorem LaidOver.exists_merged (laidOver : LaidOver host c) :
    ∃ changes, c.entries = mergeEntries defaults changes := by
  obtain ⟨changes, isExpanded⟩ := laidOver.entries
  exact ⟨expandedEntries host changes, isExpanded.trans (expandedEntries_mergeEntries_defaults host changes)⟩

theorem LaidOver.settled (laidOver : LaidOver host c) (plain : PlainVariables host) :
    Settled host (.map c.entries) := by
  obtain ⟨changes, isExpanded⟩ := laidOver.entries
  rw [isExpanded]
  exact settled_expanded plain (.map _)

theorem LaidOver.expanded_restored (laidOver : LaidOver host c) (plain : PlainVariables host)
    (isJson : IsJson (.map c.entries)) :
    expandedEntries host c.restoredEntries = c.restoredEntries := by
  have settled := hereditary_settled.withoutDefaults isJson (laidOver.settled plain) defaults
  rw [restoredEntries, expandedEntries_mergeEntries_defaults, Value.map.inj settled]

theorem LaidOver.same_restored {same : Value → Value → Prop} (laidOver : LaidOver host c)
    (comparison : Comparison same) (isJson : IsJson (.map c.entries))
    (defaultsSame : DefaultsSame same (.map defaults) (.map c.entries)) :
    List.Forall₂ (fun x y => x.1 = y.1 ∧ same x.2 y.2) c.entries c.restoredEntries := by
  obtain ⟨changes, isMerged⟩ := laidOver.exists_merged
  rw [restoredEntries]
  rw [isMerged] at isJson defaultsSame ⊢
  obtain ⟨texts, distinct, each⟩ := isJson_map.mp isJson_defaults
  exact restored_entries comparison texts distinct (fun entry member => restored comparison (each entry member))
    isJson defaultsSame

theorem isInline_of_brace {text : String} {more : List Char} (opens : text.toList = '\x7b' :: more) :
    isInline text = true := by
  have visible : Text.isBlank '\x7b' = false := by decide
  rw [isInline, opens, List.dropWhile_cons_of_neg (by simp [visible])]
  simp

def exportStyle : Json.Style := { indent := some "  ", lenient := true }

theorem exportAs_json (c : Configuration) :
    c.exportAs (.str "json") (.bool false) (.int 2) =
      Json.write exportStyle (.map (withoutDefaults defaults c.entries)) := rfl

theorem spaced_exportStyle : exportStyle.Spaced := by
  rintro unit ⟨rfl⟩
  simp [Json.IsSpaces, Json.isSpace]

theorem sourceOf_brace {text : String} {more : List Char} (opens : text.toList = '\x7b' :: more) :
    sourceOf host (.str text) .null = Json.read text := by
  rw [sourceOf, readSource, if_pos (isInline_of_brace opens)]
  rfl

theorem LaidOver.load_export (laidOver : LaidOver host c) (plain : PlainVariables host)
    (isJson : IsJson (.map c.entries)) {fresh : Configuration} (expands : fresh.Expands) :
    ∃ text, c.exportAs (.str "json") (.bool false) (.int 2) = .ok text ∧
      fresh.prepare host (.str text) .null = .ok c.restoredEntries := by
  have prunedJson := hereditary_isJson.withoutDefaults isJson isJson defaults
  obtain ⟨text, written, isRead⟩ := Json.read_write spaced_exportStyle rfl prunedJson
  obtain ⟨more, opens⟩ := Json.exists_brace written
  refine ⟨text, written, ?_⟩
  rw [prepare, sourceOf_brace opens, isRead]
  -- The load expands texts once more, which were expanded before they were exported.
  rw [← laidOver.expanded_restored plain isJson]
  exact layOverDefaults_map expands _

theorem keys_eq_of_forall₂ {xs ys : List (Value × Value)} (each : List.Forall₂ (fun x y => x.1 = y.1) xs ys) :
    Mapping.keys xs = Mapping.keys ys := by
  induction each with
  | nil => rfl
  | cons first _ ih => exact congrArg₂ List.cons first ih

theorem review_unchecked (unchecked : c.validates = false) (texts : Mapping.TextKeys c.entries) :
    c.review = .ok () := by
  obtain ⟨names, joined⟩ := (Value.joinTexts_ok_iff ", " (Mapping.keys c.entries)).mpr texts
  rw [Mapping.keys] at joined
  rw [review, unchecked, joined]
  rfl

/-- The review of the restored entries is sure to accept them: it is left out, or the schema is the default
one, or the entries themselves are accepted and hold no number where the default is an equal truth value. -/
def Acceptable (c : Configuration) : Prop :=
  c.validates = true → c.validators = basicValidators ∧
    (c.schema = defaultSchema ∨ c.schema.isNull = false ∧ c.review = .ok () ∧
      DefaultsSame (· = ·) (.map defaults) (.map c.entries))

theorem LaidOver.review_restored (laidOver : LaidOver host c) (isJson : IsJson (.map c.entries))
    (acceptable : c.Acceptable) :
    ({ initial c.validates c.schema with entries := c.restoredEntries } : Configuration).review = .ok () := by
  have texts := (isJson_map.mp isJson).1
  cases validates : c.validates with
  | false =>
      have same := laidOver.same_restored comparison_eq isJson fun _ _ _ _ _ _ equal => equal
      have sameKeys := keys_eq_of_forall₂ (same.imp fun _ _ pair => pair.1)
      have restoredTexts : Mapping.TextKeys c.restoredEntries := by
        rw [Mapping.TextKeys, ← sameKeys]
        exact texts
      exact review_unchecked rfl restoredTexts
  | true =>
      obtain ⟨basic, schemas⟩ := acceptable validates
      have valid : c.schema.isNull = false ∧ c.review = .ok () ∧
          DefaultsSame (· = ·) (.map defaults) (.map c.entries) := by
        rcases schemas with isDefault | valid
        · have accepted := laidOver.accepted isDefault
          have conforms := conforms_of_review validates isDefault basic accepted
          exact ⟨isDefault ▸ rfl, accepted, defaultsSame_of_conforms isJson conforms⟩
        · exact valid
      obtain ⟨notNull, accepted, defaultsSame⟩ := valid
      -- Errors may depend on anything in the entries, so they have to be the same ones.
      have same := laidOver.same_restored comparison_identical isJson defaultsSame
      have identical := Value.map.inj (comparison_identical.map texts same)
      have schema : (initial true c.schema).schema = c.schema := by simp [initial, notNull]
      rw [← accepted]
      exact review_congr validates.symm schema basic.symm identical.symm

/-- A configuration whose entries are values that JSON can hold is exported, and a fresh one with the same
schema loads the export: its entries are equal then, and are reviewed. -/
theorem export_then_load (reached : Reached host c) (isJson : IsJson (.map c.entries))
    (plain : PlainVariables host) :
    ∃ text fresh loaded,
      c.exportAs (.str "json") (.bool false) (.int 2) = .ok text ∧
      create host { assignmentFile := .null, validates := .bool c.validates, schema := c.schema } =
        .ok (host, fresh) ∧
      (load host (.str text) .null).perform fresh = (loaded.review, loaded) ∧
      (Value.map c.entries).eq (.map loaded.entries) = true ∧
      (c.Acceptable → loaded.review = .ok ()) := by
  have laidOver := reached.laidOver
  obtain ⟨text, exported, prepared⟩ :=
    laidOver.load_export plain isJson (expands_initial c.validates c.schema)
  have same := laidOver.same_restored comparison_eq isJson fun _ _ _ _ _ _ equal => equal
  refine ⟨text, initial c.validates c.schema,
    { initial c.validates c.schema with entries := c.restoredEntries }, exported, rfl, load_prepared prepared,
    ?_, laidOver.review_restored isJson⟩
  exact Value.eq_map_of_forall₂ (isJson_map.mp isJson).1 same

def debugHost : Host := { Host.bare with environment := [("LEVEL", "DEBUG")] }

def levelSource : List (Value × Value) :=
  [(.str "logging", .ofFields [("level", .str "$\x7bLEVEL\x7d")]),
    (.str "transforms", .ofFields [("enabled", .bool true), ("max_cache_size", .int 7)])]

def levelLoaded : Configuration :=
  { initial true .null with entries := expandedEntries debugHost (mergeEntries defaults levelSource) }

theorem export_then_load_level :
    Reached debugHost levelLoaded ∧ IsJson (.map levelLoaded.entries) ∧ PlainVariables debugHost ∧
      levelLoaded.Acceptable ∧
      ∃ text fresh loaded,
        levelLoaded.exportAs (.str "json") (.bool false) (.int 2) = .ok text ∧
        create debugHost { assignmentFile := .null, validates := .bool true, schema := defaultSchema } =
          .ok (debugHost, fresh) ∧
        (load debugHost (.str text) .null).perform fresh = (loaded.review, loaded) ∧
        (Value.map levelLoaded.entries).eq (.map loaded.entries) = true ∧ loaded.review = .ok () := by
  have reached : Reached debugHost levelLoaded := by
    have prepared : (initial true .null).prepare debugHost (.map levelSource) .null =
      .ok levelLoaded.entries := rfl
    have accepted : levelLoaded.review = .ok () := by decide +kernel
    exact .loaded (expands_initial true .null) ((load_prepared prepared).trans (Prod.ext accepted rfl))
  have isJson : IsJson (.map levelLoaded.entries) := by
    simp [levelLoaded, levelSource, mergeEntries, mergeBase, mergeValue, additions, defaults, expandedEntries,
      expanded, expandedItems, Value.ofFields, textList, Mapping.keys, Mapping.find?, Mapping.has]
  have plain : PlainVariables debugHost := by
    intro name value isValue
    simp only [Host.valueOf?, debugHost, List.lookup_cons, List.lookup_nil] at isValue
    split at isValue
    · cases isValue
      decide
    · cases isValue
  have acceptable : levelLoaded.Acceptable := fun _ => ⟨rfl, .inl rfl⟩
  obtain ⟨text, fresh, loaded, exported, isCreated, performed, equal, accepted⟩ :=
    export_then_load reached isJson plain
  exact ⟨reached, isJson, plain, acceptable, text, fresh, loaded, exported, isCreated, performed, equal,
    accepted acceptable⟩

theorem load_braces (validates : Bool) (schema : Value) :
    (load bareHost (.str "\x7b\x7d") .null).perform (initial validates schema) =
      ((initial validates schema).review, initial validates schema) :=
  load_prepared rfl

def namedSchema : Value := schemaOf "object" [("required", textList ["name"])]

/-- A configuration without sources is not reviewed.  Its export is, and the schema at hand may refuse it. -/
theorem export_of_defaults_refused :
    ∃ c fresh ended,
      create bareHost { assignmentFile := .null, schema := namedSchema } = .ok (bareHost, c) ∧
      IsJson (.map c.entries) ∧ PlainVariables bareHost ∧
      c.exportAs (.str "json") (.bool false) (.int 2) = .ok "\x7b\x7d" ∧
      create bareHost { assignmentFile := .null, validates := .bool c.validates, schema := c.schema } =
        .ok (bareHost, fresh) ∧
      (load bareHost (.str "\x7b\x7d") .null).perform fresh =
        (.error (.invalidConfiguration ["Missing required property: name"]), ended) := by
  have refused : (initial true namedSchema).review =
      .error (.invalidConfiguration ["Missing required property: name"]) := by decide +kernel
  have exported : (initial true namedSchema).exportAs (.str "json") (.bool false) (.int 2) =
      .ok "\x7b\x7d" := by
    have pruned : withoutDefaults defaults (initial true namedSchema).entries = [] :=
      withoutDefaults_self isJson_defaults
    rw [exportAs_json, pruned]
    rfl
  have loaded := load_braces true namedSchema
  rw [refused] at loaded
  exact ⟨initial true namedSchema, _, _, rfl, isJson_defaults, nofun, exported, rfl, loaded⟩

def numberSchema : Value :=
  schemaOf "object" [("properties", .ofFields [("transforms", schemaOf "object" [("properties",
    .ofFields [("enabled", schemaOf "number" [])])])])]

def numberLoaded : Configuration :=
  { initial true numberSchema with
    entries := mergeEntries defaults [(.str "transforms", .ofFields [("enabled", .int 1)])] }

/-- The number 1 is left out of an export, as it is equal to the default.  A schema for numbers refuses the
truth value that takes its place. -/
theorem export_of_number_refused :
    Reached bareHost numberLoaded ∧
      numberLoaded.exportAs (.str "json") (.bool false) (.int 2) = .ok "\x7b\x7d" ∧
      (load bareHost (.str "\x7b\x7d") .null).perform (initial true numberSchema) =
        (.error (.invalidConfiguration ["Property transforms: Property enabled: Value must be a number"]),
          initial true numberSchema) := by
  have reached : Reached bareHost numberLoaded := by
    have prepared : (initial true numberSchema).prepare bareHost
        (.map [(.str "transforms", .ofFields [("enabled", .int 1)])]) .null = .ok numberLoaded.entries := rfl
    have accepted : numberLoaded.review = .ok () := by decide +kernel
    exact .loaded (expands_initial true numberSchema) ((load_prepared prepared).trans (Prod.ext accepted rfl))
  have refused : (initial true numberSchema).review =
      .error (.invalidConfiguration ["Property transforms: Property enabled: Value must be a number"]) := by
    decide +kernel
  have pruned : withoutDefaults defaults numberLoaded.entries = [] := by
    have number : (Value.int 1).eq (.bool true) = true := rfl
    have same : ∀ v ∈ [.bool true, .bool false, .int 100, .list [], textList ["lxml"],
        textList ["./transforms"]], v.eq v = true :=
      fun v member => Value.eq_refl (by revert v; simp [textList])
    simp only [List.forall_mem_cons, textList, List.map_cons, List.map_nil] at same
    simp [withoutDefaults, numberLoaded, mergeEntries, mergeBase, mergeValue, additions, defaults,
      Value.ofFields, textList, Mapping.find?, Mapping.has, number, same]
  have exported : numberLoaded.exportAs (.str "json") (.bool false) (.int 2) = .ok "\x7b\x7d" := by
    rw [exportAs_json, pruned]
    rfl
  exact ⟨reached, exported, refused ▸ load_braces true numberSchema⟩

end StyleRules.Configuration
