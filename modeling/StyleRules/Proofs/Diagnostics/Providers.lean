import StyleRules.Proofs.Diagnostics.Suggesting
import StyleRules.Proofs.Suggestion.Names
import StyleRules.Proofs.Value.Ranking

/-!
# Providers and strategies of diagnostics

The standard providers find all near typos and propose available names only.  Further providers and strategies
are put in their place at every registration: in the end they stand in the order of descending priority, and those
of equal priority in the order in which they were registered.
-/

namespace StyleRules.Diagnostics

variable {d : Diagnostics} {unknown : String} {available : List String}

/-! ## The standard providers -/

/-- Suggestions are available names, each of them once.  Among them are all names in which the unknown one occurs,
whatever the case, and all those that at most two edits make of it, as long as these are less than half of the longer
length. -/
theorem standard_suggestions (strategies : List ErrorStrategy) (handlers : List WarningHandler) (unknown : String)
    (available : List String) :
    ∃ names : List String,
      ({ standard with strategies, handlers } : Diagnostics).suggestions (.str unknown) (available.map .str) =
          .ok (names.map .str) ∧
        names.Nodup ∧ (∀ name ∈ names, name ∈ available) ∧
          (∀ name ∈ available, (Text.lower unknown).toList <:+: (Text.lower name).toList → name ∈ names) ∧
            ∀ name ∈ available, ∀ n ≤ 2, Text.Edits n unknown.toList name.toList →
              2 * n < max unknown.length name.length → name ∈ names := by
  have gives : ∀ provider ∈ standard.providers,
      GivesTexts (provider.body.propose (.str unknown) (available.map .str)) :=
    fun provider member => suggests_standard.proposes provider member unknown available
  have byLetters := @SuggestionProvider.proposed_eq ⟨.byLetters, .int 10⟩ _ _ _ (propose_byLetters unknown available)
  have byFamily := @SuggestionProvider.proposed_eq ⟨.byFamily, .int 5⟩ _ _ _ (propose_byFamily unknown available)
  have members (name : String) : name ∈ (standard.providers.flatMap (·.proposed unknown available)).eraseDups ↔
      name ∈ Suggestion.byLetters unknown available ∨
        name ∈ Suggestion.byFamily unknown fun member => decide (member ∈ available) := by
    simp [standard, byLetters, byFamily]
  refine ⟨_, suggestions_texts gives, nodup_eraseDups _, ?_, ?_, ?_⟩
  · intro name member
    rcases (members name).mp member with byLetters | byFamily
    · exact (Suggestion.mem_byLetters_iff.mp byLetters).1
    · exact of_decide_eq_true (Suggestion.isAvailable_of_mem_byFamily byFamily)
  · intro name isAvailable occurs
    exact (members name).mpr (.inl (Suggestion.mem_byLetters_iff.mpr ⟨isAvailable, .inl occurs⟩))
  · intro name isAvailable n atMostTwo edits few
    exact (members name).mpr (.inl (Suggestion.mem_byLetters_of_edits isAvailable edits atMostTwo few))

/-! ## Registrations -/

/-- A call that registers something with diagnostics. -/
inductive Registration where
  | provider (provide priority : Value)
  | strategy (object : Value)
  | handler (claims handle : Value)

namespace Registration

def perform (registration : Registration) : Action Diagnostics Unit :=
  match registration with
  | .provider provide priority => registerProvider provide priority
  | .strategy object => registerStrategy object
  | .handler claims handle => registerHandler claims handle

/-- The provider that is registered; what cannot be called is refused. -/
def providers : Registration → List SuggestionProvider
  | .provider provide priority => if provide.isCallable then [⟨.custom provide, priority.orElse (.int 0)⟩] else []
  | _ => []

/-- The strategy that is registered; what has no function `handle` is refused. -/
def strategies : Registration → List ErrorStrategy
  | .strategy object => if (object.attributeOrNull "handle").isCallable then [⟨object⟩] else []
  | _ => []

/-- The priorities are integers, or there are none. -/
def HasIntegers : Registration → Prop
  | .provider _ priority => (priority.orElse (.int 0)).IsInteger
  | .strategy object => object.priority.IsInteger
  | .handler _ _ => True

/-- A provider gives a list of texts or fails, asked for a name among others. -/
def Gives (unknown : String) (available : List String) : Registration → Prop
  | .provider provide _ => GivesTexts (provide.call [.str unknown, .list (available.map .str)])
  | _ => True

end Registration

/-- The diagnostics after registrations, one after the other, whether they fail or not. -/
def registered (history : List Registration) (d : Diagnostics) : Diagnostics :=
  history.foldl (fun d registration => (registration.perform.perform d).2) d

/-- The diagnostics hold the providers and strategies that were registered, in their order. -/
structure Ordered (providers : List SuggestionProvider) (strategies : List ErrorStrategy) (d : Diagnostics) :
    Prop where
  rankedProviders : Ranked (·.priority.integer) providers d.providers
  rankedStrategies : Ranked (·.priority.integer) strategies d.strategies
  providerIntegers : ∀ provider ∈ providers, provider.priority.IsInteger
  strategyIntegers : ∀ strategy ∈ strategies, strategy.priority.IsInteger

theorem ordered_standard : Ordered standard.providers [] standard := by
  refine ⟨⟨?_, fun _ => rfl⟩, Ranked.nil _, ?_, nofun⟩
  · simp [standard, Value.integer, Value.number?]
  · intro provider member
    rcases List.mem_pair.mp member with rfl | rfl
    · exact ⟨10, rfl⟩
    · exact ⟨5, rfl⟩

variable {providers : List SuggestionProvider} {strategies : List ErrorStrategy}

theorem Ordered.registerProvider (ordered : Ordered providers strategies d) {provide priority : Value}
    (isInteger : (priority.orElse (.int 0)).IsInteger) :
    Ordered (providers ++ (Registration.provider provide priority).providers) strategies
      ((Diagnostics.registerProvider provide priority).perform d).2 := by
  rw [perform_registerProvider, Registration.providers]
  cases provide.isCallable with
  | false =>
      rw [if_neg Bool.false_ne_true, if_neg Bool.false_ne_true, List.append_nil]
      exact ordered
  | true =>
      rw [if_pos rfl, if_pos rfl]
      exact ⟨Value.addSorted_ranked ordered.rankedProviders ordered.providerIntegers isInteger,
        ordered.rankedStrategies, List.forall_mem_append.mpr
          ⟨ordered.providerIntegers, List.forall_mem_singleton.mpr isInteger⟩, ordered.strategyIntegers⟩

/-- A strategy with a function `handle` is added to the others. -/
theorem perform_registerStrategy (object : Value) (d : Diagnostics) :
    (registerStrategy object).perform d =
      if (object.attributeOrNull "handle").isCallable then
        let added := Value.addSorted (·.priority) ⟨object⟩ d.strategies
        (added.1, { d with strategies := added.2 })
      else (.error .errorStrategyWithoutHandle, d) := by
  rw [registerStrategy, Value.functionAt_eq]
  cases (object.attributeOrNull "handle").isCallable with
  | false => rfl
  | true =>
      rw [if_pos rfl, if_pos rfl, Action.perform_bind_ok (Action.perform_ofOutcome _ d),
        Action.perform_bind_ok (Action.perform_modify _ d), Action.perform_bind_ok (Action.perform_get _),
        Value.addSorted]
      cases Value.sortDescending ErrorStrategy.priority (d.strategies ++ [⟨object⟩]) <;> rfl

theorem Ordered.registerStrategy (ordered : Ordered providers strategies d) {object : Value}
    (isInteger : object.priority.IsInteger) :
    Ordered providers (strategies ++ (Registration.strategy object).strategies)
      ((Diagnostics.registerStrategy object).perform d).2 := by
  rw [perform_registerStrategy, Registration.strategies]
  cases (object.attributeOrNull "handle").isCallable with
  | false =>
      rw [if_neg Bool.false_ne_true, if_neg Bool.false_ne_true, List.append_nil]
      exact ordered
  | true =>
      rw [if_pos rfl, if_pos rfl]
      exact ⟨ordered.rankedProviders,
        Value.addSorted_ranked ordered.rankedStrategies ordered.strategyIntegers isInteger,
        ordered.providerIntegers, List.forall_mem_append.mpr
          ⟨ordered.strategyIntegers, List.forall_mem_singleton.mpr isInteger⟩⟩

/-- A registration adds what it registers. -/
theorem Ordered.perform (ordered : Ordered providers strategies d) {registration : Registration}
    (hasIntegers : registration.HasIntegers) :
    Ordered (providers ++ registration.providers) (strategies ++ registration.strategies)
      (registration.perform.perform d).2 := by
  cases registration with
  | provider provide priority =>
      have noStrategies : (Registration.provider provide priority).strategies = [] := rfl
      rw [noStrategies, List.append_nil]
      exact ordered.registerProvider hasIntegers
  | strategy object =>
      have noProviders : (Registration.strategy object).providers = [] := rfl
      rw [noProviders, List.append_nil]
      exact ordered.registerStrategy hasIntegers
  | handler claims handle =>
      have nothing : (Registration.handler claims handle).providers = [] ∧
          (Registration.handler claims handle).strategies = [] := ⟨rfl, rfl⟩
      rw [nothing.1, nothing.2, List.append_nil, List.append_nil, Registration.perform, registerHandler]
      cases handle.isCallable with
      | false => exact ordered
      | true =>
          exact ⟨ordered.rankedProviders, ordered.rankedStrategies, ordered.providerIntegers, ordered.strategyIntegers⟩

theorem Ordered.registered (ordered : Ordered providers strategies d) {history : List Registration}
    (hasIntegers : ∀ registration ∈ history, registration.HasIntegers) :
    Ordered (providers ++ history.flatMap (·.providers)) (strategies ++ history.flatMap (·.strategies))
      (registered history d) := by
  induction history generalizing providers strategies d with
  | nil =>
      rw [List.flatMap_nil, List.flatMap_nil, List.append_nil, List.append_nil]
      exact ordered
  | cons registration rest ih =>
      obtain ⟨first, others⟩ := List.forall_mem_cons.mp hasIntegers
      rw [List.flatMap_cons, List.flatMap_cons, ← List.append_assoc, ← List.append_assoc]
      exact ih (ordered.perform first) others

/-- Providers and strategies are registered with integer priorities or without any.  Then the suggestions are what
the providers give that do not fail, each name once where it first occurs; the providers are asked by descending
priority and, where it is equal, in the order of their registration, the standard ones first.  The strategies stand
in such an order as well. -/
theorem registered_order {history : List Registration} (unknown : String) (available : List String)
    (hasIntegers : ∀ registration ∈ history, registration.HasIntegers)
    (gives : ∀ registration ∈ history, registration.Gives unknown available) :
    Ranked (·.priority.integer) (standard.providers ++ history.flatMap (·.providers))
        (registered history standard).providers ∧
      (registered history standard).suggestions (.str unknown) (available.map .str) =
          .ok (((registered history standard).providers.flatMap
            (·.proposed unknown available)).eraseDups.map .str) ∧
        Ranked (·.priority.integer) (history.flatMap (·.strategies)) (registered history standard).strategies := by
  have ordered := ordered_standard.registered hasIntegers
  refine ⟨ordered.rankedProviders, suggestions_texts fun provider member => ?_, ordered.rankedStrategies⟩
  rcases List.mem_append.mp (ordered.rankedProviders.mem_iff.mp member) with isStandard | isAdded
  · exact suggests_standard.proposes provider isStandard unknown available
  · -- nothing but the registration of a provider adds one, and it asks the registered function
    obtain ⟨registration, isRegistered, adds⟩ := List.mem_flatMap.mp isAdded
    have gave := gives registration isRegistered
    cases registration with
    | provider provide priority =>
        rw [Registration.providers] at adds
        split at adds
        · rw [List.mem_singleton.mp adds]
          exact gave
        · cases adds
    | strategy object => cases adds
    | handler claims handle => cases adds

/-- A provider of the same priority as a standard one, one that fails, one without a priority, and two strategies of
which the second one has the higher priority. -/
def memoRegistrations : List Registration :=
  [.provider (.callable (.constant (.list [.str "memo", .str "note"]))) (.int 5),
    .provider (.callable (.failing (.misuse .type))) (.int 20),
    .provider (.callable (.constant (.list [.str "note", .str "memo"]))) .null,
    .strategy (.record 1 [("handle", .callable (.constant .null))]),
    .strategy (.record 2 [("handle", .callable (.constant .null)), ("priority", .int 1)])]

theorem registered_order_memo :
    Ranked (·.priority.integer) (standard.providers ++ memoRegistrations.flatMap (·.providers))
        (registered memoRegistrations standard).providers ∧
      (registered memoRegistrations standard).suggestions (.str "memos") (["memo"].map .str) =
          .ok (((registered memoRegistrations standard).providers.flatMap
            (·.proposed "memos" ["memo"])).eraseDups.map .str) ∧
        Ranked (·.priority.integer) (memoRegistrations.flatMap (·.strategies))
          (registered memoRegistrations standard).strategies := by
  refine registered_order "memos" ["memo"] ?_ ?_
  · simp only [memoRegistrations, List.forall_mem_cons]
    exact ⟨⟨5, rfl⟩, ⟨20, rfl⟩, ⟨0, rfl⟩, ⟨0, rfl⟩, ⟨1, rfl⟩, nofun⟩
  · simp only [memoRegistrations, List.forall_mem_cons]
    exact ⟨.inr ⟨["memo", "note"], rfl⟩, .inl ⟨_, rfl⟩, .inr ⟨["note", "memo"], rfl⟩, trivial, trivial, nofun⟩

end StyleRules.Diagnostics
