import StyleRules.Proofs.Registry.History
import StyleRules.Proofs.Value.TextOrder

/-!
# Which registration decides

Resolving a rule, describing a type and listing the types read the two tables of a registry.  After any
history they agree: a type that was ever registered directly is decided by its last direct registration, a
type that was only registered as a transform by its stylesheet, and every other type by the strategies.
-/

namespace StyleRules

namespace Registry

variable {d : Diagnostics} {r : Registry} {name : String}

/-! ## Listing types -/

/-- The types of a tidy registry are listed in strictly ascending order, each of them once. -/
theorem Tidy.availableTypes (tidy : Tidy r) :
    ∃ types : List String,
      r.availableTypes = .ok (types.map .str) ∧ types.Pairwise (· < ·) ∧
        ∀ name, name ∈ types ↔
          (Mapping.find? (.str name) r.matchers).isSome ∨
            (Mapping.find? (.str name) r.transforms).isSome := by
  obtain ⟨direct, directKeys⟩ := Value.exists_names tidy.matcherTexts
  obtain ⟨others, otherKeys⟩ := Value.exists_names tidy.transformTexts
  have directDistinct : direct.Nodup := by
    have distinct := tidy.matchersDistinct
    rw [directKeys] at distinct
    exact List.Nodup.of_map _ distinct
  have othersDistinct : others.Nodup := by
    have distinct := tidy.transformsDistinct
    rw [otherKeys] at distinct
    exact List.Nodup.of_map _ distinct
  have listed : r.availableTypes =
      Value.sortAscending id ((direct ++ others.filter (· ∉ direct)).map .str) := by
    have isDirect : ∀ name, (direct.map Value.str).any (·.eq (.str name)) = decide (name ∈ direct) := by
      intro name
      rw [Bool.eq_iff_iff]
      simp
    rw [Registry.availableTypes, ← Mapping.keys, ← Mapping.keys, directKeys, otherKeys, List.filter_map,
      List.map_append]
    simp only [Function.comp_def, isDirect, decide_not]
  have distinct : (direct ++ others.filter (· ∉ direct)).Nodup := by
    refine List.nodup_append.mpr ⟨directDistinct, othersDistinct.filter _, ?_⟩
    rintro name isDirect _ isOther rfl
    have notDirect := (List.mem_filter.mp isOther).2
    exact (of_decide_eq_true notDirect) isDirect
  obtain ⟨types, sorted, permuted, ascending⟩ := Value.sortAscending_distinct_texts distinct
  refine ⟨types, listed.trans sorted, ascending, ?_⟩
  intro name
  rw [permuted.mem_iff, ← Mapping.str_mem_keys_iff, ← Mapping.str_mem_keys_iff, directKeys, otherKeys]
  by_cases isDirect : name ∈ direct <;> simp [isDirect]

/-! ## Describing a type -/

theorem matcherInfo_direct {registered : RegisteredMatcher}
    (found : Mapping.find? (.str name) r.matchers = some registered) :
    ∃ info, r.matcherInfo (.str name) = .ok info ∧
      info.option "source" = .ok (.str "registered") := by
  rw [matcherInfo, Value.lookIn_str, found]
  exact ⟨_, rfl, rfl⟩

theorem matcherInfo_transform {registered : RegisteredTransform}
    (notDirect : Mapping.find? (.str name) r.matchers = none)
    (found : Mapping.find? (.str name) r.transforms = some registered) :
    ∃ info, r.matcherInfo (.str name) = .ok info ∧ info.option "source" = .ok (.str "xslt") := by
  rw [matcherInfo, Value.lookIn_str, notDirect, Value.lookIn_str, found]
  exact ⟨_, rfl, rfl⟩

theorem matcherInfo_unknown (notDirect : Mapping.find? (.str name) r.matchers = none)
    (notTransform : Mapping.find? (.str name) r.transforms = none) :
    r.matcherInfo (.str name) = .ok .null := by
  rw [matcherInfo, Value.lookIn_str, notDirect, Value.lookIn_str, notTransform]
  rfl

/-! ## After any history -/

/-- Whatever calls a new registry has seen, failed ones included: the last direct registration of a type
decides its rules, with the registry unchanged; without one the stylesheet registered last does; and without
either the strategies do.  The description of a type names the same route, and the list of types is strictly
ascending, has exactly the types with a registration, and never loses one.  What counts as a registration is said
for each kind of call. -/
theorem resolution_precedence (engine : Option Engine) (d : Diagnostics) (installFallbacks : Bool)
    (history : List Operation) (texts : ∀ operation ∈ history, operation.NamesTexts d) :
    let r := reached engine d installFallbacks history
    Operation.Registers d ∧
    (∀ (host : Host) (name : String) (options : Value) (registered : RegisteredMatcher),
      lastDirect d history name = some registered →
        (createMatcher host (.str name) options).perform r =
            (.ok (build registered (.str name) (options.orElse (.map []))), r) ∧
          ∃ info, r.matcherInfo (.str name) = .ok info ∧
            info.option "source" = .ok (.str "registered")) ∧
    (∀ (host : Host) (name : String) (options : Value) (registered : RegisteredTransform),
      lastDirect d history name = none → lastTransform d history name = some registered →
        (createMatcher host (.str name) options).perform r =
            (buildTransform host registered (.str name) (options.orElse (.map []))).perform r ∧
          ∃ info, r.matcherInfo (.str name) = .ok info ∧
            info.option "source" = .ok (.str "xslt")) ∧
    (∀ (host : Host) (name : String) (options : Value),
      lastDirect d history name = none → lastTransform d history name = none →
        (createMatcher host (.str name) options).perform r =
            (r.askStrategies (.str name) (options.orElse (.map [])) [] r.strategies, r) ∧
          r.matcherInfo (.str name) = .ok .null) ∧
    ∃ types : List String,
      r.availableTypes = .ok (types.map .str) ∧ types.Pairwise (· < ·) ∧
        (∀ name, name ∈ types ↔
          (lastDirect d history name).isSome ∨ (lastTransform d history name).isSome) ∧
        ∀ later : List Operation, (∀ operation ∈ later, operation.NamesTexts d) →
          ∃ more : List String,
            (after later r).availableTypes = .ok (more.map .str) ∧ types ⊆ more := by
  intro r
  have direct : ∀ name, Mapping.find? (.str name) r.matchers = lastDirect d history name :=
    fun _ => find?_matchers_reached history
  have others : ∀ name, Mapping.find? (.str name) r.transforms = lastTransform d history name :=
    fun _ => find?_transforms_reached history
  refine ⟨Operation.registers d, ?_, ?_, ?_, ?_⟩
  · intro host name options registered last
    rw [← direct] at last
    exact ⟨createMatcher_direct host options last, matcherInfo_direct last⟩
  · intro host name options registered never last
    rw [← direct] at never
    rw [← others] at last
    exact ⟨createMatcher_transform host options never last, matcherInfo_transform never last⟩
  · intro host name options never neither
    rw [← direct] at never
    rw [← others] at neither
    exact ⟨createMatcher_fallback host options never neither, matcherInfo_unknown never neither⟩
  · have tidy : Tidy r := tidy_reached texts
    have diagnostics : r.diagnostics = d := diagnostics_reached history
    obtain ⟨types, listed, ascending, members⟩ := tidy.availableTypes
    refine ⟨types, listed, ascending, ?_, ?_⟩
    · intro name
      rw [members, direct, others]
    · intro later laterTexts
      obtain ⟨more, moreListed, _, moreMembers⟩ := (tidy.after diagnostics laterTexts).availableTypes
      refine ⟨more, moreListed, ?_⟩
      intro name known
      rw [moreMembers, find?_matchers_after later diagnostics, find?_transforms_after later diagnostics]
      rcases (members name).mp known with isDirect | isTransform
      · exact Or.inl (by simp [isDirect])
      · exact Or.inr (by simp [isTransform])

/-- The built-in type of line breaks, registered anew between two transform registrations. -/
def lineRegisteredAnew : List Operation :=
  [.registerTransform (.str "line") (.str "early.xsl") .null,
    .register (.str "line") (.callable (.constant (.str "anew"))) .null,
    .registerTransform (.str "line") (.str "late.xsl") .null]

theorem resolution_precedence_line :
    (∀ operation ∈ lineRegisteredAnew, operation.NamesTexts .standard) ∧
      (createMatcher .bare (.str "line") .null).perform
          (reached none .standard true lineRegisteredAnew) =
        (.ok (.success (.str "anew")), reached none .standard true lineRegisteredAnew) := by
  have texts : ∀ operation ∈ lineRegisteredAnew, operation.NamesTexts .standard := by
    intro operation member
    simp only [lineRegisteredAnew, List.mem_cons, List.not_mem_nil, or_false] at member
    rcases member with rfl | rfl | rfl
    · exact ⟨Mapping.textKeys_nil, Mapping.textKeys_cons.mpr ⟨⟨_, rfl⟩, Mapping.textKeys_nil⟩⟩
    · exact ⟨Mapping.textKeys_cons.mpr ⟨⟨_, rfl⟩, Mapping.textKeys_nil⟩, Mapping.textKeys_nil⟩
    · exact ⟨Mapping.textKeys_nil, Mapping.textKeys_cons.mpr ⟨⟨_, rfl⟩, Mapping.textKeys_nil⟩⟩
  have registered : lastDirect .standard lineRegisteredAnew "line" =
      some ⟨.callable (.constant (.str "anew")), .int 0, .str "default", .null,
        .str "Custom matcher for line"⟩ := rfl
  exact ⟨texts, ((resolution_precedence none .standard true lineRegisteredAnew texts).2.1
    .bare "line" .null _ registered).1⟩

end Registry

end StyleRules
