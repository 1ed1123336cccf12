import StyleRules.Proofs.Diagnostics.Providers
import StyleRules.Proofs.Outcomes

/-!
# Priorities that cannot be compared

What is registered with diagnostics is put at the end, and then all are sorted by their priorities, which may be any
values.  When two priorities cannot be compared, the registration fails, but what was registered stays.  From then on
each registration of its kind fails in the same way.
-/

namespace StyleRules

theorem Value.isKey_of_eq {known name : Value} (isKey : known.isKey = true) (same : known.eq name = true) :
    name.isKey = true := by
  cases name with
  | list _ | map _ | message _ | result _ => cases known <;> simp_all [Value.isKey, Value.eq, Value.number?]
  | _ => rfl

/-! ## Repetitions behind a list -/

namespace Suggestion

theorem distinct_go_append (seen first second : List Value) :
    distinct.go seen (first ++ second) =
      distinct.go seen first ++ distinct.go ((distinct.go seen first).reverse ++ seen) second := by
  induction first generalizing seen with
  | nil => rfl
  | cons item rest ih =>
      rw [List.cons_append, distinct.go, distinct.go]
      split
      · exact ih seen
      · rw [ih, List.cons_append, List.reverse_cons, List.append_assoc, List.singleton_append]

theorem distinct_append (first second : List Value) :
    distinct (first ++ second) = distinct first ++ distinct.go (distinct first).reverse second := by
  rw [distinct, distinct_go_append, List.append_nil]
  rfl

theorem mem_of_mem_distinct_go {seen items : List Value} {item : Value} (kept : item ∈ distinct.go seen items) :
    item ∈ items := by
  induction items generalizing seen with
  | nil => exact kept
  | cons first rest ih =>
      rw [distinct.go] at kept
      split at kept
      · exact List.mem_cons_of_mem _ (ih kept)
      · rcases List.mem_cons.mp kept with rfl | further
        · exact List.mem_cons_self
        · exact List.mem_cons_of_mem _ (ih further)

/-- Nothing is kept exactly if all items were seen before. -/
theorem distinct_go_eq_nil_iff {seen items : List Value} :
    distinct.go seen items = [] ↔ ∀ item ∈ items, seen.any (·.eq item) = true := by
  induction items with
  | nil => exact iff_of_true rfl (List.forall_mem_nil _)
  | cons item rest ih =>
      rw [distinct.go, List.forall_mem_cons]
      split
      · rename_i wasSeen
        rw [ih, and_iff_right wasSeen]
      · rename_i notSeen
        exact iff_of_false (List.cons_ne_nil _ _) fun all => notSeen all.1

/-- Items that are kept already make no difference between others. -/
theorem distinct_insert {first known : List Value} (rest : List Value)
    (kept : ∀ item ∈ known, (distinct first).any (·.eq item) = true) :
    distinct (first ++ (known ++ rest)) = distinct (first ++ rest) := by
  have nothing : distinct.go (distinct first).reverse known = [] := by
    rw [distinct_go_eq_nil_iff]
    simpa only [List.any_reverse] using kept
  rw [distinct_append, distinct_go_append, nothing, distinct_append]
  rfl

end Suggestion

namespace Diagnostics

variable {d ended : Diagnostics} {unknown : Value} {available : List Value} {provider : SuggestionProvider}
  {provide priority object : Value} {reason : Failure}

/-! ## Asking providers -/

/-- What providers propose, one after the other. -/
def allProposals (providers : List SuggestionProvider) (unknown : Value) (available : List Value) :
    Outcome (List Value) := do
  return (← providers.mapM fun provider => proposals provider unknown available).flatten

theorem allProposals_append_iff {first second : List SuggestionProvider} {all : List Value} :
    allProposals (first ++ second) unknown available = .ok all ↔
      ∃ before after, allProposals first unknown available = .ok before ∧
        allProposals second unknown available = .ok after ∧ all = before ++ after := by
  have together : allProposals (first ++ second) unknown available = do
      let before ← allProposals first unknown available
      let after ← allProposals second unknown available
      return before ++ after := by
    simp only [allProposals, List.mapM_append, bind_assoc, pure_bind, List.flatten_append]
  rw [together]
  constructor
  · intro asked
    obtain ⟨before, isBefore, asked⟩ := Outcome.bind_ok asked
    obtain ⟨after, isAfter, asked⟩ := Outcome.bind_ok asked
    exact ⟨before, after, isBefore, isAfter, (Except.ok.inj asked).symm⟩
  · rintro ⟨before, after, isBefore, isAfter, rfl⟩
    rw [isBefore, isAfter]
    rfl

theorem allProposals_singleton (provider : SuggestionProvider) (unknown : Value) (available : List Value) :
    allProposals [provider] unknown available = proposals provider unknown available := by
  rw [allProposals, List.mapM_cons, List.mapM_nil]
  cases proposals provider unknown available with
  | error reason => rfl
  | ok names => exact congrArg Except.ok (List.append_nil names)

theorem proposals_error (failed : proposals provider unknown available = .error reason) :
    reason = .misuse .type := by
  rw [proposals] at failed
  split at failed
  · split at failed
    · exact Value.iterate_error failed
    · cases failed
  · cases failed

theorem suggestions_ok_iff {found : List Value} :
    d.suggestions unknown available = .ok found ↔
      ∃ all, allProposals d.providers unknown available = .ok all ∧ all.all Value.isKey = true ∧
        found = Suggestion.distinct all := by
  rw [suggestions, allProposals]
  cases d.providers.mapM fun provider => proposals provider unknown available with
  | error reason =>
      constructor
      · rintro ⟨⟩
      · rintro ⟨_, ⟨⟩, _⟩
  | ok proposed =>
      rw [Outcome.ok_bind, Outcome.ok_bind]
      dsimp only
      split
      · rename_i areKeys
        constructor
        · rintro ⟨⟩
          exact ⟨_, rfl, areKeys, rfl⟩
        · rintro ⟨_, ⟨⟩, _, rfl⟩
          rfl
      · rename_i notKeys
        constructor
        · rintro ⟨⟩
        · rintro ⟨_, ⟨⟩, areKeys, _⟩
          exact absurd areKeys notKeys

theorem suggestions_error (failed : d.suggestions unknown available = .error reason) : reason = .misuse .type := by
  rw [suggestions] at failed
  cases asked : d.providers.mapM fun provider => proposals provider unknown available with
  | error refusal =>
      rw [asked] at failed
      cases failed
      exact mapM_error_eq (fun provider other => proposals_error) asked
  | ok found =>
      rw [asked, Outcome.ok_bind] at failed
      dsimp only at failed
      split at failed <;> cases failed
      rfl

/-- There is one reason only for which nothing is suggested. -/
theorem suggestions_eq_of_iff
    (same : ∀ found, ended.suggestions unknown available = .ok found ↔ d.suggestions unknown available = .ok found) :
    ended.suggestions unknown available = d.suggestions unknown available := by
  cases suggested : d.suggestions unknown available with
  | ok found => exact (same found).mpr suggested
  | error reason =>
      cases again : ended.suggestions unknown available with
      | error other => rw [suggestions_error suggested, suggestions_error again]
      | ok found => cases suggested.symm.trans ((same found).mp again)

/-! ## Providers that propose nothing new -/

/-- Whatever is suggested, the provider proposes nothing but names that are among the suggestions. -/
def Covers (d : Diagnostics) (provider : SuggestionProvider) : Prop :=
  ∀ unknown available found, d.suggestions unknown available = .ok found →
    ∃ names, proposals provider unknown available = .ok names ∧ ∀ name ∈ names, found.any (·.eq name) = true

theorem Covers.exists_names (covers : d.Covers provider) {all : List Value}
    (isAll : allProposals d.providers unknown available = .ok all) (areKeys : all.all Value.isKey = true) :
    ∃ names, proposals provider unknown available = .ok names ∧ names.all Value.isKey = true ∧
      ∀ name ∈ names, (Suggestion.distinct all).any (·.eq name) = true := by
  obtain ⟨names, isNames, kept⟩ := covers _ _ _ (suggestions_ok_iff.mpr ⟨all, isAll, areKeys, rfl⟩)
  refine ⟨names, isNames, List.all_eq_true.mpr fun name member => ?_, kept⟩
  obtain ⟨known, isKept, same⟩ := List.any_eq_true.mp (kept name member)
  exact Value.isKey_of_eq (List.all_eq_true.mp areKeys known (Suggestion.mem_of_mem_distinct_go isKept)) same

/-- Such a provider makes no difference behind those that suggest all the names, whatever stands behind it. -/
theorem Covers.suggestions_eq {first : Diagnostics} (covers : first.Covers provider)
    {more : List SuggestionProvider} (isAppend : d.providers = first.providers ++ more)
    (isExtended : ended.providers = first.providers ++ ([provider] ++ more)) :
    ended.suggestions unknown available = d.suggestions unknown available := by
  refine suggestions_eq_of_iff fun found => ?_
  simp only [suggestions_ok_iff, isAppend, isExtended, allProposals_append_iff, allProposals_singleton]
  constructor
  · rintro ⟨_, ⟨all, _, isAll, ⟨names, others, isNames, isOthers, rfl⟩, rfl⟩, areKeys, rfl⟩
    simp only [List.all_append, Bool.and_eq_true] at areKeys
    obtain ⟨again, isAgain, _, kept⟩ := covers.exists_names isAll areKeys.1
    cases isNames.symm.trans isAgain
    refine ⟨all ++ others, ⟨all, others, isAll, isOthers, rfl⟩, ?_, Suggestion.distinct_insert others kept⟩
    rw [List.all_append, areKeys.1, areKeys.2.2, Bool.and_self]
  · rintro ⟨_, ⟨all, others, isAll, isOthers, rfl⟩, areKeys, rfl⟩
    rw [List.all_append, Bool.and_eq_true] at areKeys
    obtain ⟨names, isNames, nameKeys, kept⟩ := covers.exists_names isAll areKeys.1
    refine ⟨_, ⟨all, _, isAll, ⟨names, others, isNames, isOthers, rfl⟩, rfl⟩, ?_,
      (Suggestion.distinct_insert others kept).symm⟩
    rw [List.all_append, List.all_append, areKeys.1, nameKeys, areKeys.2, Bool.and_self, Bool.and_self]

/-- Conversely, a provider at the end that makes no difference proposes nothing new. -/
theorem covers_of_suggestions_eq (isExtended : ended.providers = d.providers ++ [provider])
    (same : ∀ unknown available, ended.suggestions unknown available = d.suggestions unknown available) :
    d.Covers provider := by
  intro unknown available found suggested
  have again := (same unknown available).trans suggested
  simp only [suggestions_ok_iff, isExtended, allProposals_append_iff, allProposals_singleton] at again
  obtain ⟨_, ⟨all, names, isAll, isNames, rfl⟩, areKeys, isFound⟩ := again
  obtain ⟨_, isAgain, _, rfl⟩ := suggestions_ok_iff.mp suggested
  cases isAll.symm.trans isAgain
  rw [Suggestion.distinct_append, List.self_eq_append_right, Suggestion.distinct_go_eq_nil_iff] at isFound
  exact ⟨names, isNames, by simpa only [List.any_reverse] using isFound⟩

/-! ## Registering behind priorities that clash -/

/-- There are providers whose priorities cannot be compared. -/
def ProvidersClash (d : Diagnostics) : Prop := Value.Clash (·.priority) d.providers

/-- There are strategies whose priorities cannot be compared. -/
def StrategiesClash (d : Diagnostics) : Prop := Value.Clash (·.priority) d.strategies

theorem ProvidersClash.append {first : Diagnostics} (clash : first.ProvidersClash)
    {more : List SuggestionProvider} (isAppend : d.providers = first.providers ++ more) : d.ProvidersClash := by
  rw [ProvidersClash, isAppend]
  exact Value.Clash.append clash more

/-- A provider that is refused cannot be asked, or it stays at the end because of a priority. -/
theorem registerProvider_refused
    (refused : (registerProvider provide priority).perform d = (.error reason, ended)) :
    provide.isCallable = false ∧ ended = d ∨
      provide.isCallable = true ∧ ended.ProvidersClash ∧
        ended = { d with providers := d.providers ++ [⟨.custom provide, priority.orElse (.int 0)⟩] } := by
  rw [perform_registerProvider] at refused
  split at refused
  · rename_i callable
    obtain ⟨failed, rfl⟩ := Prod.mk.inj refused
    obtain ⟨isAdded, clash⟩ := Value.addSorted_error failed
    rw [isAdded]
    exact .inr ⟨callable, clash, rfl⟩
  · rename_i notCallable
    cases refused
    exact .inl ⟨Bool.eq_false_iff.mpr notCallable, rfl⟩

theorem registerStrategy_refused (refused : (registerStrategy object).perform d = (.error reason, ended)) :
    (object.attributeOrNull "handle").isCallable = false ∧ ended = d ∨
      (object.attributeOrNull "handle").isCallable = true ∧ ended.StrategiesClash ∧
        ended = { d with strategies := d.strategies ++ [⟨object⟩] } := by
  rw [perform_registerStrategy] at refused
  split at refused
  · rename_i callable
    obtain ⟨failed, rfl⟩ := Prod.mk.inj refused
    obtain ⟨isAdded, clash⟩ := Value.addSorted_error failed
    rw [isAdded]
    exact .inr ⟨callable, clash, rfl⟩
  · rename_i notCallable
    cases refused
    exact .inl ⟨Bool.eq_false_iff.mpr notCallable, rfl⟩

/-- Where priorities clash, each provider that can be asked is refused and stays. -/
theorem ProvidersClash.perform_registerProvider (clash : d.ProvidersClash) (provide priority : Value) :
    (registerProvider provide priority).perform d =
      (.error (if provide.isCallable then .misuse .type else .providerWithoutProvide),
        { d with providers := d.providers ++ (Registration.provider provide priority).providers }) := by
  rw [Diagnostics.perform_registerProvider, Registration.providers]
  cases provide.isCallable with
  | false => simp only [Bool.false_eq_true, if_false, List.append_nil]
  | true => rw [if_pos rfl, if_pos rfl, if_pos rfl, Value.Clash.addSorted clash]

theorem StrategiesClash.perform_registerStrategy (clash : d.StrategiesClash) (object : Value) :
    (registerStrategy object).perform d =
      (.error (if (object.attributeOrNull "handle").isCallable then .misuse .type else .errorStrategyWithoutHandle),
        { d with strategies := d.strategies ++ (Registration.strategy object).strategies }) := by
  rw [Diagnostics.perform_registerStrategy, Registration.strategies]
  cases (object.attributeOrNull "handle").isCallable with
  | false => simp only [Bool.false_eq_true, if_false, List.append_nil]
  | true => rw [if_pos rfl, if_pos rfl, if_pos rfl, Value.Clash.addSorted clash]

/-- Strategies and handlers are registered whatever the providers are. -/
theorem perform_of_providers (providers : List SuggestionProvider) {registration : Registration}
    (notProvider : ∀ provide priority, registration ≠ .provider provide priority) (d : Diagnostics) :
    registration.perform.perform { d with providers } =
      ((registration.perform.perform d).1, { (registration.perform.perform d).2 with providers }) := by
  cases registration with
  | provider provide priority => exact absurd rfl (notProvider provide priority)
  | strategy object =>
      simp only [Registration.perform, Diagnostics.perform_registerStrategy]
      split <;> rfl
  | handler claims handle =>
      simp only [Registration.perform, registerHandler]
      cases handle.isCallable <;> rfl

theorem providers_perform {registration : Registration}
    (notProvider : ∀ provide priority, registration ≠ .provider provide priority) (d : Diagnostics) :
    (registration.perform.perform d).2.providers = d.providers :=
  congrArg (·.2.providers) (perform_of_providers d.providers notProvider d)

/-- Each provider that can be asked is among the others afterwards, also when its registration fails. -/
theorem providers_perform_perm (registration : Registration) (d : Diagnostics) :
    (registration.perform.perform d).2.providers.Perm (d.providers ++ registration.providers) := by
  cases registration with
  | provider provide priority =>
      rw [Registration.perform, Diagnostics.perform_registerProvider, Registration.providers]
      split
      · exact Value.addSorted_perm _ _ _
      · rw [List.append_nil]
  | strategy object =>
      have noProviders : (Registration.strategy object).providers = [] := rfl
      rw [noProviders, List.append_nil, providers_perform fun _ _ same => by cases same]
  | handler claims handle =>
      have noProviders : (Registration.handler claims handle).providers = [] := rfl
      rw [noProviders, List.append_nil, providers_perform fun _ _ same => by cases same]

theorem providers_registered_perm (history : List Registration) (d : Diagnostics) :
    (registered history d).providers.Perm (d.providers ++ history.flatMap (·.providers)) := by
  induction history generalizing d with
  | nil => rw [List.flatMap_nil, List.append_nil]; rfl
  | cons registration rest ih =>
      rw [List.flatMap_cons, ← List.append_assoc]
      exact (ih _).trans ((providers_perform_perm registration d).append_right _)

theorem ProvidersClash.perform (clash : d.ProvidersClash) (registration : Registration) :
    (registration.perform.perform d).2.ProvidersClash := by
  by_cases isProvider : ∃ provide priority, registration = .provider provide priority
  · obtain ⟨provide, priority, rfl⟩ := isProvider
    rw [Registration.perform, clash.perform_registerProvider]
    exact clash.append rfl
  · rw [ProvidersClash, providers_perform fun provide priority same => isProvider ⟨provide, priority, same⟩]
    exact clash

/-- Whatever is registered later, the providers clash. -/
theorem ProvidersClash.registered (clash : d.ProvidersClash) (history : List Registration) :
    (registered history d).ProvidersClash := by
  induction history generalizing d with
  | nil => exact clash
  | cons registration rest ih => exact ih (clash.perform registration)

theorem StrategiesClash.perform (clash : d.StrategiesClash) (registration : Registration) :
    (registration.perform.perform d).2.StrategiesClash := by
  cases registration with
  | provider provide priority =>
      rw [Registration.perform, Diagnostics.perform_registerProvider]
      split <;> exact clash
  | strategy object =>
      rw [Registration.perform, clash.perform_registerStrategy]
      exact Value.Clash.append clash _
  | handler claims handle =>
      rw [Registration.perform, registerHandler]
      cases handle.isCallable <;> exact clash

/-- Whatever is registered later, the strategies clash. -/
theorem StrategiesClash.registered (clash : d.StrategiesClash) (history : List Registration) :
    (registered history d).StrategiesClash := by
  induction history generalizing d with
  | nil => exact clash
  | cons registration rest ih => exact ih (clash.perform registration)

/-! ## Diagnostics with one more provider -/

/-- The others are these diagnostics with one more provider, behind the first ones. -/
def Beside (first : Diagnostics) (provider : SuggestionProvider) (d ended : Diagnostics) : Prop :=
  ∃ more, d.providers = first.providers ++ more ∧
    ended = { d with providers := first.providers ++ ([provider] ++ more) }

/-- Behind providers that clash, one more makes no difference to what can be registered. -/
theorem Beside.perform {first : Diagnostics} (beside : Beside first provider d ended) (clash : first.ProvidersClash)
    (registration : Registration) :
    (registration.perform.perform ended).1 = (registration.perform.perform d).1 ∧
      Beside first provider (registration.perform.perform d).2 (registration.perform.perform ended).2 := by
  obtain ⟨more, isAppend, rfl⟩ := beside
  by_cases isProvider : ∃ provide priority, registration = .provider provide priority
  · obtain ⟨provide, priority, rfl⟩ := isProvider
    have before : d.ProvidersClash := clash.append isAppend
    have after := @ProvidersClash.append
      { d with providers := first.providers ++ ([provider] ++ more) } first clash _ rfl
    rw [Registration.perform, before.perform_registerProvider, after.perform_registerProvider]
    refine ⟨rfl, more ++ (Registration.provider provide priority).providers, ?_, ?_⟩
    · rw [isAppend, List.append_assoc]
    · simp only [List.append_assoc]
  · have notProvider : ∀ provide priority, registration ≠ .provider provide priority :=
      fun provide priority same => isProvider ⟨provide, priority, same⟩
    rw [perform_of_providers _ notProvider d]
    exact ⟨rfl, more, (providers_perform notProvider d).trans isAppend, rfl⟩

theorem Beside.registered {first : Diagnostics} (beside : Beside first provider d ended)
    (clash : first.ProvidersClash) (history : List Registration) :
    Beside first provider (registered history d) (registered history ended) := by
  induction history generalizing d ended with
  | nil => exact beside
  | cons registration rest ih => exact ih (beside.perform clash registration).2

/-! ## Registrations that go unnoticed -/

/-- Whatever is registered later, the suggestions, the strategies and what can be registered are the same. -/
structure Unnoticed (d ended : Diagnostics) : Prop where
  suggestions : ∀ history unknown available,
    (registered history ended).suggestions unknown available = (registered history d).suggestions unknown available
  strategies : ∀ history, (registered history ended).strategies = (registered history d).strategies
  outcomes : ∀ history (registration : Registration),
    (registration.perform.perform (registered history ended)).1 =
      (registration.perform.perform (registered history d)).1

theorem unnoticed_refl (d : Diagnostics) : Unnoticed d d :=
  ⟨fun _ _ _ => rfl, fun _ => rfl, fun _ _ => rfl⟩

theorem unnoticed_of_covers (clash : d.ProvidersClash) (covers : d.Covers provider) :
    Unnoticed d { d with providers := d.providers ++ [provider] } := by
  have beside : Beside d provider d { d with providers := d.providers ++ [provider] } :=
    ⟨[], (List.append_nil _).symm, rfl⟩
  constructor
  · intro history unknown available
    obtain ⟨more, isAppend, isExtended⟩ := beside.registered clash history
    exact covers.suggestions_eq isAppend (congrArg providers isExtended)
  · intro history
    obtain ⟨more, isAppend, isExtended⟩ := beside.registered clash history
    rw [isExtended]
  · intro history registration
    exact ((beside.registered clash history).perform clash registration).1

/-- As long as all priorities can be compared, providers with integer priorities can be registered. -/
theorem registerProvider_of_isInteger (notClash : ¬d.ProvidersClash) {n : Int}
    (member : .int n ∈ d.providers.map (·.priority)) (callable : provide.isCallable = true)
    (isInteger : (priority.orElse (.int 0)).IsInteger) :
    ((registerProvider provide priority).perform d).1 = .ok () := by
  have numbers := Value.number_of_allComparable (eq_true_of_ne_false notClash) member
  rw [Diagnostics.perform_registerProvider, if_pos callable]
  refine Value.addSorted_ok (Value.allComparable_of_number ?_)
  rw [List.map_append]
  exact List.forall_mem_append.mpr ⟨numbers, List.forall_mem_singleton.mpr isInteger.isSome⟩

/-- A provider that goes unnoticed stands behind others that clash. -/
theorem Unnoticed.providersClash (unnoticed : Unnoticed d ended) (clash : ended.ProvidersClash) {n : Int}
    (member : .int n ∈ d.providers.map (·.priority)) : d.ProvidersClash := by
  by_contra notClash
  have later := unnoticed.outcomes [] (.provider (.callable (.constant .null)) .null)
  have accepted := registerProvider_of_isInteger notClash member
    (rfl : (Value.callable (.constant .null)).isCallable = true) (⟨0, rfl⟩ : (Value.null.orElse (.int 0)).IsInteger)
  have refused := congrArg Prod.fst (clash.perform_registerProvider (.callable (.constant .null)) .null)
  cases refused.symm.trans (later.trans accepted)

/-- The diagnostics come about by registrations, whether these fail or not. -/
def Reachable (d : Diagnostics) : Prop := ∃ history, d = registered history standard

theorem Reachable.hasInteger (reachable : d.Reachable) : .int 10 ∈ d.providers.map (·.priority) := by
  obtain ⟨history, rfl⟩ := reachable
  have isStandard : ⟨.byLetters, .int 10⟩ ∈ standard.providers ++ history.flatMap (·.providers) :=
    List.mem_append_left _ List.mem_cons_self
  exact List.mem_map.mpr ⟨_, (providers_registered_perm history standard).mem_iff.mpr isStandard, rfl⟩

theorem not_unnoticed_strategy (d : Diagnostics) (strategy : ErrorStrategy) :
    ¬Unnoticed d { d with strategies := d.strategies ++ [strategy] } := by
  intro unnoticed
  exact List.ne_cons_self (List.self_eq_append_right.mp (unnoticed.strategies []).symm).symm

/-- A registration that fails goes unnoticed if there is no function to be called, and otherwise only if it adds a
provider behind others that clash already, which proposes nothing but names that are suggested anyway.  Where there is
a function, what was registered stays, and whatever is registered later, nothing of its kind can be. -/
theorem refused_unnoticed_iff (reachable : d.Reachable) :
    (∀ provide priority reason ended, (registerProvider provide priority).perform d = (.error reason, ended) →
      (Unnoticed d ended ↔
        provide.isCallable = false ∨ d.ProvidersClash ∧ d.Covers ⟨.custom provide, priority.orElse (.int 0)⟩) ∧
      (provide.isCallable = true →
        ⟨.custom provide, priority.orElse (.int 0)⟩ ∈ ended.providers ∧ ∀ later other otherPriority,
          Outcome.Fails ((registerProvider other otherPriority).perform (registered later ended)).1)) ∧
    ∀ object reason ended, (registerStrategy object).perform d = (.error reason, ended) →
      (Unnoticed d ended ↔ (object.attributeOrNull "handle").isCallable = false) ∧
      ((object.attributeOrNull "handle").isCallable = true → ⟨object⟩ ∈ ended.strategies ∧
        ∀ later other, Outcome.Fails ((registerStrategy other).perform (registered later ended)).1) := by
  constructor
  · intro provide priority reason ended refused
    rcases registerProvider_refused refused with ⟨notCallable, rfl⟩ | ⟨callable, clash, rfl⟩
    · rw [notCallable]
      exact ⟨iff_of_true (unnoticed_refl _) (.inl rfl), nofun⟩
    · refine ⟨⟨fun unnoticed => .inr ⟨?_, ?_⟩, ?_⟩, fun _ => ⟨List.mem_append_right _ List.mem_cons_self, ?_⟩⟩
      · exact unnoticed.providersClash clash reachable.hasInteger
      · exact covers_of_suggestions_eq rfl (unnoticed.suggestions [])
      · rintro (notCallable | ⟨before, covers⟩)
        · cases callable.symm.trans notCallable
        · exact unnoticed_of_covers before covers
      · intro later other otherPriority
        rw [(clash.registered later).perform_registerProvider]
        exact Outcome.fails_error _
  · intro object reason ended refused
    rcases registerStrategy_refused refused with ⟨notCallable, rfl⟩ | ⟨callable, clash, rfl⟩
    · rw [notCallable]
      exact ⟨iff_of_true (unnoticed_refl _) rfl, nofun⟩
    · rw [callable]
      refine ⟨iff_of_false (not_unnoticed_strategy d _) nofun, fun _ => ?_⟩
      refine ⟨List.mem_append_right _ List.mem_cons_self, fun later other => ?_⟩
      rw [(clash.registered later).perform_registerStrategy]
      exact Outcome.fails_error _

/-- A function that proposes one name for every unknown one. -/
def proposesMemo : Value := .callable (.constant (.list [.str "memo"]))

/-- Its registration with a text for the priority. -/
def loudProvider : Registration := .provider proposesMemo (.str "high")

/-- A strategy without a priority. -/
def plainStrategy : Registration := .strategy (.record 1 [("handle", .callable (.constant .null))])

/-- A strategy with a text for its priority. -/
def loudStrategy : Value := .record 2 [("handle", .callable (.constant .null)), ("priority", .str "high")]

/-- The first provider with a text for its priority is noticed, a further one that proposes nothing is not, and a
strategy with such a priority is noticed behind another one. -/
theorem refused_unnoticed_loud :
    (∃ ended, (registerProvider proposesMemo (.str "high")).perform standard = (.error (.misuse .type), ended) ∧
      ¬Unnoticed standard ended) ∧
    (∃ ended, (registerProvider (.callable (.constant .null)) (.str "low")).perform
      (registered [loudProvider] standard) = (.error (.misuse .type), ended) ∧
        Unnoticed (registered [loudProvider] standard) ended) ∧
    ∃ ended, (registerStrategy loudStrategy).perform (registered [plainStrategy] standard) =
      (.error (.misuse .type), ended) ∧ ¬Unnoticed (registered [plainStrategy] standard) ended := by
  refine ⟨?_, ?_, ?_⟩
  · have reachable : standard.Reachable := ⟨[], rfl⟩
    have failed : (registerProvider proposesMemo (.str "high")).perform standard =
        (.error (.misuse .type), registered [loudProvider] standard) := rfl
    refine ⟨_, failed, fun unnoticed => ?_⟩
    rcases ((refused_unnoticed_iff reachable).1 _ _ _ _ failed).1.mp unnoticed with notCallable | ⟨clash, _⟩
    · cases notCallable
    · cases clash
  · have reachable : (registered [loudProvider] standard).Reachable := ⟨_, rfl⟩
    have failed : (registerProvider (.callable (.constant .null)) (.str "low")).perform
        (registered [loudProvider] standard) = (.error (.misuse .type),
          registered [loudProvider, .provider (.callable (.constant .null)) (.str "low")] standard) := rfl
    have covers : (registered [loudProvider] standard).Covers ⟨.custom (.callable (.constant .null)), .str "low"⟩ :=
      fun _ _ _ _ => ⟨[], rfl, nofun⟩
    exact ⟨_, failed, ((refused_unnoticed_iff reachable).1 _ _ _ _ failed).1.mpr (.inr ⟨rfl, covers⟩)⟩
  · have reachable : (registered [plainStrategy] standard).Reachable := ⟨_, rfl⟩
    have failed : (registerStrategy loudStrategy).perform (registered [plainStrategy] standard) =
        (.error (.misuse .type), registered [plainStrategy, .strategy loudStrategy] standard) := rfl
    refine ⟨_, failed, fun unnoticed => ?_⟩
    cases ((refused_unnoticed_iff reachable).2 _ _ _ failed).1.mp unnoticed

/-- The provider and the strategy stay although their registrations failed, and another provider, which could have
been registered before, cannot be registered any more. -/
theorem loud_stays :
    (∃ ended, (registerProvider proposesMemo (.str "high")).perform standard = (.error (.misuse .type), ended) ∧
      standard.suggestions (.str "paragrap") [.str "paragraph"] = .ok [.str "paragraph"] ∧
      ended.suggestions (.str "paragrap") [.str "paragraph"] = .ok [.str "paragraph", .str "memo"] ∧
      ((registerProvider proposesMemo (.int 1)).perform standard).1 = .ok () ∧
      ((registerProvider proposesMemo (.int 1)).perform ended).1 = .error (.misuse .type)) ∧
    ∃ ended, (registerStrategy loudStrategy).perform (registered [plainStrategy] standard) =
      (.error (.misuse .type), ended) ∧
        (registered [plainStrategy] standard).strategies.length = 1 ∧ ended.strategies.length = 2 := by
  refine ⟨⟨_, rfl, ?_, ?_, rfl, rfl⟩, _, rfl, rfl, rfl⟩
  · rfl
  · rfl

end Diagnostics

end StyleRules
