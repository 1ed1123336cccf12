import StyleRules.Proofs.Configuration.Accepting
import StyleRules.Proofs.Orchestration.Setup
import StyleRules.Proofs.Registry.Naming

/-!
# Configurations that are ready for use

A configuration that conforms to the default schema can be used to set up a registry, but for one thing: the schema
asks for texts as the names of processors, and not for names that a shipped processor has.  Setting up the engine
fails at the first name that none of them has.
-/

namespace StyleRules.Orchestrator

open StyleRules.Configuration Registry Validation

variable {o : Orchestrator} {host : Host}

/-! ## Parts of the setup -/

theorem setFallbackMode_known {mode : String} (known : mode ∈ ["ignore", "suggest-alternatives", "diagnose"])
    (r : Registry) :
    ∃ strategies, (setFallbackMode (.str mode)).perform r = (.ok (), { r with strategies }) := by
  simp only [List.mem_cons, List.not_mem_nil, or_false] at known
  rcases known with rfl | rfl | rfl <;> exact ⟨_, rfl⟩

/-- What a registry is set up from, with its three sections. -/
def partOf (matchers transforms : List (Value × Value)) (references : List Value) : Value :=
  .ofFields [("matchers", .map matchers), ("xslt_transforms", .map transforms), ("plugins", .list references)]

theorem sections_partOf (matchers transforms : List (Value × Value)) (references : List Value) :
    Sections (partOf matchers transforms references) matchers transforms references := by
  refine ⟨?_, ?_, ?_⟩
  · cases matchers <;> rfl
  · cases transforms <;> rfl
  · cases references <;> rfl

theorem exists_capacity {size : Value} (isNumber : isNumber size = true)
    (notSmall : size.less (.int 1) = .ok false) (isInteger : Validation.isInteger size = .ok true) :
    ∃ capacity, Engine.capacityOf size = .ok capacity := by
  cases size with
  | int n =>
      refine Engine.exists_capacity_int ?_
      have notLess : ¬n < 1 := by
        simpa [Value.less, Value.number?, Number.compare?, compare_lt_iff_lt] using notSmall
      omega
  | float x =>
      refine Engine.exists_capacity_float (Except.ok.inj isInteger) fun greater => ?_
      simp [Value.less, Value.number?, Number.compare?, greater] at notSmall
  | _ => cases isNumber

section Accepted

variable (accepted : Accepted host o.configuration)

include accepted

theorem exists_size :
    ∃ size, o.configuration.get host "transforms.max_cache_size" (.int 100) = .ok size ∧
      ∃ capacity, Engine.capacityOf size = .ok capacity := by
  have isPath : pathNames "transforms.max_cache_size" = ["transforms", "max_cache_size"] := rfl
  have isInner : schemaAt ["transforms", "max_cache_size"] (Schema.ofValue defaultSchema) =
    some (Schema.ofValue (schemaOf "number" [("min", .int 1), ("integer", .bool true)])) := rfl
  obtain ⟨size, isGiven, rfl | ⟨_, isSize⟩⟩ := accepted.exists_get isPath isInner (.int 100)
  · exact ⟨_, isGiven, 100, rfl⟩
  · obtain ⟨isNumber, notSmall, isInteger⟩ := isSize.integer rfl rfl rfl rfl
    exact ⟨size, isGiven, exists_capacity isNumber notSmall isInteger⟩

/-- The engine is set up, unless a processor is asked for that is not shipped. -/
theorem buildEngine_accepted :
    ∃ enabled names, o.configuration.get host "transforms.enabled" (.bool true) = .ok (.bool enabled) ∧
      o.configuration.get host "transforms.processors" (textList []) = .ok (textList names) ∧
      match if enabled then names.find? fun name => !Engine.isBackend name else none with
      | some unknown => o.buildEngine host = .error (Engine.noBackend unknown)
      | none => ∃ engine, o.buildEngine host = .ok engine := by
  have enabledPath : pathNames "transforms.enabled" = ["transforms", "enabled"] := rfl
  have cachingPath : pathNames "transforms.cache_enabled" = ["transforms", "cache_enabled"] := rfl
  have processorPath : pathNames "transforms.default_processor" = ["transforms", "default_processor"] := rfl
  have placesPath : pathNames "transforms.transform_paths" = ["transforms", "transform_paths"] := rfl
  have namesPath : pathNames "transforms.processors" = ["transforms", "processors"] := rfl
  have commonPath : pathNames "transforms.common_templates" = ["transforms", "common_templates"] := rfl
  obtain ⟨enabled, isEnabled⟩ := accepted.exists_truth enabledPath rfl true
  obtain ⟨size, isSize, hasCapacity⟩ := exists_size accepted
  obtain ⟨_, _, paths, isPaths, arePaths⟩ := accepted.exists_texts placesPath rfl ["./transforms"]
  obtain ⟨names, isNames, listed, isListed, areNames⟩ := accepted.exists_texts namesPath rfl []
  obtain ⟨common, isCommon⟩ := accepted.exists_truth commonPath rfl false
  have sameNames : listed.orElse (.list []) = textList names := by
    cases names <;> exact areNames
  refine ⟨enabled, names, isEnabled, isNames, ?_⟩
  rw [buildEngine]
  dsimp only
  rw [isEnabled, Outcome.ok_bind]
  cases enabled with
  | false => exact ⟨none, rfl⟩
  | true =>
      have isCaching := accepted.get cachingPath (.bool true)
      have isProcessor := accepted.get processorPath (.str "lxml")
      obtain ⟨e, created⟩ := @Engine.exists_create ⟨_, size, _, paths, .null, host.compile⟩ _ rfl hasCapacity
        (congrArg Value.iterate arePaths)
      obtain ⟨reached, performed⟩ := Engine.enableBackends_texts names e
      rw [isCaching, Outcome.ok_bind, isSize, Outcome.ok_bind, isProcessor, Outcome.ok_bind, isPaths,
        Outcome.ok_bind, created, Outcome.ok_bind, isListed, Outcome.ok_bind, sameNames, textList, Value.iterate,
        Outcome.ok_bind, performed, Engine.enabling, if_pos rfl]
      cases names.find? fun name => !Engine.isBackend name with
      | some unknown => rfl
      | none =>
          dsimp only
          rw [Outcome.ok_bind, isCommon, Outcome.ok_bind]
          cases common with
          | false => exact ⟨some reached, rfl⟩
          | true =>
              obtain ⟨stocked, defined⟩ := Engine.exists_defineCommonTemplates reached
              rw [Value.truthy, if_pos rfl, defined]
              exact ⟨some stocked, rfl⟩

/-! ## The registry -/

theorem exists_mode :
    ∃ mode, o.configuration.get host "error_handling.fallback_strategy" (.str "ignore") = .ok (.str mode) ∧
      mode ∈ ["ignore", "suggest-alternatives", "diagnose"] := by
  have isPath : pathNames "error_handling.fallback_strategy" = ["error_handling", "fallback_strategy"] := rfl
  have isInner : schemaAt ["error_handling", "fallback_strategy"] (Schema.ofValue defaultSchema) =
    some (Schema.ofValue (schemaOf "string"
      [("enum", textList ["ignore", "suggest-alternatives", "diagnose"])])) := rfl
  obtain ⟨value, isGiven, rfl | ⟨_, isText⟩⟩ := accepted.exists_get isPath isInner (.str "ignore")
  · exact ⟨"ignore", isGiven, List.mem_cons_self⟩
  · obtain ⟨mode, rfl⟩ := isText.text rfl
    exact ⟨mode, isGiven, isText.choice rfl nofun rfl⟩

end Accepted

/-! ## From a mapping to a registry -/

theorem noOverrides_bareHost : NoOverrides bareHost := fun _ => rfl

theorem processors_eq {c : Configuration} {listed names : List String} (noOverrides : NoOverrides host)
    (isListed : lookup ["transforms", "processors"] (.map c.entries) = some (textList listed))
    (isNames : c.get host "transforms.processors" (textList []) = .ok (textList names)) : listed = names := by
  have isPath : pathNames "transforms.processors" = ["transforms", "processors"] := rfl
  rw [get_of_noOverrides noOverrides isPath, isListed] at isNames
  exact List.map_injective_iff.mpr (fun _ _ => Value.str.inj) (Value.list.inj (Except.ok.inj isNames))

end StyleRules.Orchestrator
