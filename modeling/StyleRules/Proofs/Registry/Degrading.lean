import StyleRules.Proofs.Diagnostics.Suggesting
import StyleRules.Proofs.Registry.Asking
import StyleRules.Proofs.Registry.Precedence
import StyleRules.Proofs.Registry.Strategies

/-!
# How unknown types degrade

In the modes `ignore` and `diagnose` the first strategy of the chain decides every rule whose type is unknown.
Its matcher answers that no element matches, and its one message is a warning.  What the mode `diagnose` warns
of passes through the diagnostics, whose providers may fail.
-/

namespace StyleRules.Registry

variable {d : Diagnostics} {r : Registry} {mode name : String} {types : List String}

/-! ## Modes -/

/-- The chain starts with the strategies of a mode.  Further strategies may have been registered behind them. -/
def InMode (r : Registry) (mode : String) : Prop :=
  ∃ chain, r.chainOf (.str mode) = .ok chain ∧ chain <+: r.strategies

theorem inMode_create (engine : Option Engine) (d : Diagnostics) : (create engine d true).InMode "ignore" :=
  ⟨_, rfl, List.prefix_refl _⟩

theorem inMode_setFallbackMode (known : mode ∈ ["ignore", "suggest-alternatives", "diagnose"]) (r : Registry) :
    ((setFallbackMode (.str mode)).perform r).2.InMode mode := by
  simp only [List.mem_cons, List.not_mem_nil, or_false] at known
  rcases known with rfl | rfl | rfl <;> exact ⟨_, rfl, List.prefix_refl _⟩

theorem InMode.registerStrategy (inMode : r.InMode mode) (strategy : Strategy) :
    ((Registry.registerStrategy strategy).perform r).2.InMode mode := by
  rw [Registry.registerStrategy]
  cases checked : strategy.check with
  | error reason => exact inMode
  | ok value =>
      obtain ⟨chain, isChain, starts⟩ := inMode
      exact ⟨chain, isChain, starts.trans (List.prefix_append _ _)⟩

/-! ## The strategies that recover -/

/-- The value of a strategy for an unknown type, and its only message. -/
def recovery (name text : String) : Result Value :=
  ⟨.matcher (.noop (.str ("unknown type " ++ name))), [.warning text]⟩

theorem decides_ignoreUnknown (r : Registry) (name : String) (options : Value) :
    r.Decides (.str name) options .ignoreUnknown
      (recovery name ("Unknown matcher type '" ++ name ++ "' ignored")) :=
  ⟨_, rfl, nofun, rfl, rfl⟩

theorem decides_diagnoseUnknown (suggests : d.Suggests) (listed : r.availableTypes = .ok (types.map .str))
    (name : String) (options : Value) :
    ∃ names : List String,
      d.suggestions (.str name) (types.map .str) = .ok (names.map .str) ∧ names.Nodup ∧
        r.Decides (.str name) options (.diagnoseUnknown d)
          (recovery name (Diagnostics.unknownTypeText name names types)) := by
  obtain ⟨names, suggested, distinct⟩ := suggests.suggestions name types
  refine ⟨names, suggested, distinct, .result (recovery name _), ?_, nofun, rfl, rfl⟩
  have answered := suggests.unknownType suggested options
  rw [Diagnostics.unknownContext] at answered
  rw [Strategy.handle, listed, Outcome.ok_bind]
  dsimp only
  rw [answered]
  rfl

/-- The first strategy of a chain decides the rules of unknown types. -/
theorem createMatcher_decided {chain : List Strategy} {strategy : Strategy} {result : Result Value}
    (host : Host) (options : Value) (notDirect : Mapping.find? (.str name) r.matchers = none)
    (notTransform : Mapping.find? (.str name) r.transforms = none) (starts : strategy :: chain <+: r.strategies)
    (decides : r.Decides (.str name) (options.orElse (.map [])) strategy result) :
    (createMatcher host (.str name) options).perform r = (.ok result, r) := by
  obtain ⟨rest, isChain⟩ := starts
  rw [createMatcher_fallback host options notDirect notTransform, ← isChain, List.cons_append,
    askStrategies_decided [] decides]

theorem ask_noop (reason element : Value) (r : Registry) :
    (ask (.matcher (.noop reason)) element).perform r = (.ok (.bool false), r) :=
  ask_by_itself r element nofun

/-! ## Unknown types -/

/-- A registry is used by any calls, and providers that propose texts or fail were added to its diagnostics.  In
the mode `ignore` or `diagnose` every rule of a type without a registration gets a matcher that matches no
element, and one warning.  In the mode `diagnose` the warning names the first three of the suggestions, which are
distinct texts. -/
theorem unknown_types_degrade {added : List (Value × Value)} {history : List Operation} (engine : Option Engine)
    (installFallbacks : Bool) (host : Host) (options : Value)
    (isExtended : d = Diagnostics.withProviders added .standard)
    (proposing : ∀ entry ∈ added, ProposesTexts fun unknown available => entry.1.call [unknown, .list available])
    (texts : ∀ operation ∈ history, operation.NamesTexts d) (recovers : mode = "ignore" ∨ mode = "diagnose")
    (isReached : r = reached engine d installFallbacks history) (inMode : r.InMode mode)
    (notDirect : Mapping.find? (.str name) r.matchers = none)
    (notTransform : Mapping.find? (.str name) r.transforms = none) :
    ∃ matcher text,
      (createMatcher host (.str name) options).perform r = (.ok ⟨.matcher matcher, [.warning text]⟩, r) ∧
        (∀ element later, (ask (.matcher matcher) element).perform later = (.ok (.bool false), later)) ∧
        (mode = "diagnose" → ∃ types names : List String,
          r.availableTypes = .ok (types.map .str) ∧
            d.suggestions (.str name) (types.map .str) = .ok (names.map .str) ∧ names.Nodup ∧
              text = Diagnostics.unknownTypeText name names types) := by
  obtain ⟨chain, isChain, starts⟩ := inMode
  rcases recovers with rfl | rfl
  · cases isChain
    exact ⟨_, _, createMatcher_decided host options notDirect notTransform starts
      (decides_ignoreUnknown r name _), ask_noop _, nofun⟩
  · -- the strategy holds the diagnostics of the registry, which no call has changed
    have suggests : d.Suggests := by
      rw [isExtended]
      exact Diagnostics.suggests_standard.withProviders proposing
    have diagnostics : r.diagnostics = d := by
      rw [isReached, diagnostics_reached]
    have tidy : Tidy r := by
      rw [isReached]
      exact tidy_reached texts
    have modeChain : r.chainOf (.str "diagnose") = .ok [.diagnoseUnknown d] := by
      rw [← diagnostics]
      rfl
    cases modeChain.symm.trans isChain
    obtain ⟨types, listed, _⟩ := tidy.availableTypes
    obtain ⟨names, suggested, distinct, decides⟩ :=
      decides_diagnoseUnknown suggests listed name (options.orElse (.map []))
    exact ⟨_, _, createMatcher_decided host options notDirect notTransform starts decides, ask_noop _,
      fun _ => ⟨types, names, listed, suggested, distinct, rfl⟩⟩

/-- A provider that fails, asked before one that proposes a name twice. -/
def unevenProviders : List (Value × Value) :=
  [(.callable (.constant (.list [.str "memo", .str "memo"])), .null),
    (.callable (.failing (.misuse .type)), .int 5)]

/-- A registry learns one more type and is set to diagnose. -/
def memoHistory : List Operation :=
  [.registerTransform (.str "memo") (.str "memo.xsl") .null, .setFallbackMode (.str "diagnose")]

theorem unknown_types_degrade_memo :
    let d := Diagnostics.withProviders unevenProviders .standard
    let r := reached none d true memoHistory
    r.InMode "diagnose" ∧
      ∃ matcher text,
        (createMatcher .bare (.str "memos") .null).perform r =
            (.ok ⟨.matcher matcher, [.warning text]⟩, r) ∧
          (∀ element later, (ask (.matcher matcher) element).perform later = (.ok (.bool false), later)) ∧
          ∃ types names : List String,
            r.availableTypes = .ok (types.map .str) ∧
              d.suggestions (.str "memos") (types.map .str) = .ok (names.map .str) ∧ names.Nodup ∧
                text = Diagnostics.unknownTypeText "memos" names types := by
  intro d r
  have proposing : ∀ entry ∈ unevenProviders,
      ProposesTexts fun unknown available => entry.1.call [unknown, .list available] := by
    intro entry member name available
    rcases List.mem_pair.mp member with rfl | rfl
    · exact .inr ⟨["memo", "memo"], rfl⟩
    · exact .inl ⟨.misuse .type, rfl⟩
  have texts : ∀ operation ∈ memoHistory, operation.NamesTexts d := by
    intro operation member
    rcases List.mem_pair.mp member with rfl | rfl
    · exact ⟨Mapping.textKeys_nil, Mapping.textKeys_cons.mpr ⟨⟨_, rfl⟩, Mapping.textKeys_nil⟩⟩
    · exact ⟨Mapping.textKeys_nil, Mapping.textKeys_nil⟩
  have inMode : r.InMode "diagnose" := inMode_setFallbackMode (by decide) _
  have notDirect : Mapping.find? (.str "memos") r.matchers = none := (find?_matchers_reached memoHistory).trans rfl
  have notTransform : Mapping.find? (.str "memos") r.transforms = none := rfl
  obtain ⟨matcher, text, made, never, diagnosed⟩ := unknown_types_degrade none true .bare .null rfl proposing
    texts (.inr rfl) rfl inMode notDirect notTransform
  exact ⟨inMode, matcher, text, made, never, diagnosed rfl⟩

end StyleRules.Registry
