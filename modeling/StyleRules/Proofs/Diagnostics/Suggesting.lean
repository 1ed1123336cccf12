import StyleRules.Diagnostics.Basic
import StyleRules.Proofs.Value.Comparing
import StyleRules.Proofs.Value.Reading

/-!
# What is suggested for an unknown name

Providers propose names that are similar to an unknown one.  Providers that callers add are asked in the order of
their priorities, and those that fail have no proposals.  As long as the others propose texts, the suggestions are
texts, each of them once, and the standard handler words an unknown type with the first three of them.
-/

namespace StyleRules

namespace Suggestion

theorem distinct_go_texts (seen names : List String) :
    distinct.go (seen.map .str) (names.map .str) =
      ((names.filter fun name => decide (name ∉ seen)).eraseDups).map .str := by
  -- the names seen so far grow along the list, so the induction is for all of them
  induction names generalizing seen with
  | nil => rfl
  | cons first rest ih =>
      have wasSeen : ((seen.map Value.str).any (·.eq (.str first))) = decide (first ∈ seen) := by
        rw [Bool.eq_iff_iff]
        simp
      rw [List.map_cons, distinct.go, wasSeen]
      by_cases member : first ∈ seen
      · rw [decide_eq_true member, if_pos rfl, ih, List.filter_cons_of_neg (by simpa using member)]
      · have others : (rest.filter fun name => decide (name ∉ first :: seen)) =
            (rest.filter fun name => decide (name ∉ seen)).filter fun name => !name == first := by
          rw [List.filter_filter]
          exact List.filter_congr fun name _ => by simp [Bool.beq_eq_decide_eq]
        rw [decide_eq_false member, if_neg Bool.false_ne_true, ← List.map_cons, ih, others,
          List.filter_cons_of_pos (by simpa using member), List.eraseDups_cons, List.map_cons]

/-- Of texts each one is kept where it first occurs. -/
theorem distinct_texts (names : List String) : distinct (names.map .str) = names.eraseDups.map .str := by
  have kept := distinct_go_texts [] names
  rwa [List.filter_eq_self.mpr fun _ _ => by simp] at kept

theorem mapM_nameOf (names : List String) : (names.map Value.str).mapM nameOf = .ok names := by
  rw [List.mapM_map]
  exact (mapM_eq_pure_map fun _ _ => rfl).trans (congrArg Except.ok (List.map_id names))

end Suggestion

/-! ## Providers -/

/-- The texts in a list. -/
def Value.readTexts (items : List Value) : List String :=
  items.filterMap fun
    | .str s => some s
    | _ => none

theorem Value.readTexts_texts (names : List String) : readTexts (names.map .str) = names := by
  rw [readTexts, List.filterMap_map]
  exact List.filterMap_some

/-- A list of texts is given, or there is a failure. -/
def GivesTexts (answer : Outcome Value) : Prop :=
  (∃ reason, answer = .error reason) ∨ ∃ names : List String, answer = .ok (.list (names.map .str))

/-- What a provider proposes for a name among others: nothing when it fails. -/
def SuggestionProvider.proposed (provider : SuggestionProvider) (name : String) (available : List String) :
    List String :=
  match provider.body.propose (.str name) (available.map .str) with
  | .ok (.list found) => Value.readTexts found
  | _ => []

theorem SuggestionProvider.proposed_eq {provider : SuggestionProvider} {name : String}
    {available names : List String}
    (proposes : provider.body.propose (.str name) (available.map .str) = .ok (.list (names.map .str))) :
    provider.proposed name available = names := by
  rw [proposed, proposes]
  exact Value.readTexts_texts names

/-- Asked for a function's proposals among texts, it gives a list of texts, or it fails. -/
def ProposesTexts (propose : Value → List Value → Outcome Value) : Prop :=
  ∀ (name : String) (available : List String),
    (∃ reason, propose (.str name) (available.map .str) = .error reason) ∨
      ∃ names : List String, propose (.str name) (available.map .str) = .ok (.list (names.map .str))

theorem propose_byLetters (name : String) (available : List String) :
    ProviderBody.byLetters.propose (.str name) (available.map .str) =
      .ok (.list ((Suggestion.byLetters name available).map .str)) := by
  rw [ProviderBody.propose, Suggestion.byLettersOf, Suggestion.mapM_nameOf]
  rfl

theorem propose_byFamily (name : String) (available : List String) :
    ProviderBody.byFamily.propose (.str name) (available.map .str) =
      .ok (.list ((Suggestion.byFamily name fun member => decide (member ∈ available)).map .str)) := by
  have isAvailable (member : String) :
      ((available.map Value.str).any (·.isText member)) = decide (member ∈ available) := by
    rw [List.any_map, Bool.eq_iff_iff]
    simp [Value.isText]
  rw [← funext isAvailable]
  rfl

theorem proposesTexts_byLetters : ProposesTexts ProviderBody.byLetters.propose :=
  fun name available => .inr ⟨_, propose_byLetters name available⟩

theorem proposesTexts_byFamily : ProposesTexts ProviderBody.byFamily.propose :=
  fun name available => .inr ⟨_, propose_byFamily name available⟩

namespace Diagnostics

variable {d : Diagnostics} {name : String} {available names : List String}

/-- The handlers are the standard ones, and all providers propose texts. -/
structure Suggests (d : Diagnostics) : Prop where
  handlers : d.handlers = standard.handlers
  proposes : ∀ provider ∈ d.providers, ProposesTexts provider.body.propose

theorem suggests_standard : standard.Suggests := by
  refine ⟨rfl, fun provider member => ?_⟩
  rcases List.mem_pair.mp member with rfl | rfl
  · exact proposesTexts_byLetters
  · exact proposesTexts_byFamily

/-- A provider that can be asked is added to the others. -/
theorem perform_registerProvider (provide priority : Value) (d : Diagnostics) :
    (registerProvider provide priority).perform d =
      if provide.isCallable then
        let added := Value.addSorted (·.priority) ⟨.custom provide, priority.orElse (.int 0)⟩ d.providers
        (added.1, { d with providers := added.2 })
      else (.error .providerWithoutProvide, d) := by
  rw [registerProvider]
  cases provide.isCallable with
  | false => rfl
  | true =>
      simp only [Bool.not_true, Bool.false_eq_true, if_false, if_true]
      rw [Action.perform_bind_ok (Action.perform_modify _ d), Action.perform_bind_ok (Action.perform_get _),
        Value.addSorted]
      cases Value.sortDescending SuggestionProvider.priority
          (d.providers ++ [⟨.custom provide, priority.orElse (.int 0)⟩]) <;> rfl

/-- A provider is refused, or it is among the others in some order. -/
theorem registerProvider_leaves (provide priority : Value) (d : Diagnostics) :
    ((registerProvider provide priority).perform d).2 = d ∨
      ∃ providers, ((registerProvider provide priority).perform d).2 = { d with providers } ∧
        providers.Perm (d.providers ++ [⟨.custom provide, priority.orElse (.int 0)⟩]) := by
  rw [perform_registerProvider]
  split
  · exact .inr ⟨_, rfl, Value.addSorted_perm _ _ _⟩
  · exact .inl rfl

theorem Suggests.registerProvider (suggests : d.Suggests) {provide : Value}
    (proposes : ProposesTexts fun unknown available => provide.call [unknown, .list available]) (priority : Value) :
    ((Diagnostics.registerProvider provide priority).perform d).2.Suggests := by
  rcases registerProvider_leaves provide priority d with refused | ⟨providers, added, permuted⟩
  · rw [refused]
    exact suggests
  · rw [added]
    refine ⟨suggests.handlers, fun provider member => ?_⟩
    rcases List.mem_append.mp (permuted.mem_iff.mp member) with known | isAdded
    · exact suggests.proposes provider known
    · rw [List.mem_singleton.mp isAdded]
      exact proposes

/-- The diagnostics with further providers, registered one after the other. -/
def withProviders (added : List (Value × Value)) (d : Diagnostics) : Diagnostics :=
  added.foldl (fun d (provide, priority) => ((registerProvider provide priority).perform d).2) d

theorem Suggests.withProviders (suggests : d.Suggests) {added : List (Value × Value)}
    (proposing : ∀ entry ∈ added, ProposesTexts fun unknown available => entry.1.call [unknown, .list available]) :
    (withProviders added d).Suggests := by
  induction added generalizing d with
  | nil => exact suggests
  | cons entry rest ih =>
      obtain ⟨first, others⟩ := List.forall_mem_cons.mp proposing
      exact ih (suggests.registerProvider first entry.2) others

theorem proposals_texts {provider : SuggestionProvider}
    (gives : GivesTexts (provider.body.propose (.str name) (available.map .str))) :
    proposals provider (.str name) (available.map .str) = .ok ((provider.proposed name available).map .str) := by
  rw [proposals]
  rcases gives with ⟨reason, failed⟩ | ⟨names, proposes⟩
  · rw [SuggestionProvider.proposed, failed]
    rfl
  · rw [SuggestionProvider.proposed_eq proposes, proposes]
    cases names <;> rfl

/-- The suggestions are what the providers propose, one after the other, and each name once. -/
theorem suggestions_texts
    (gives : ∀ provider ∈ d.providers, GivesTexts (provider.body.propose (.str name) (available.map .str))) :
    d.suggestions (.str name) (available.map .str) =
      .ok ((d.providers.flatMap fun provider => provider.proposed name available).eraseDups.map .str) := by
  have asked : (d.providers.mapM fun provider => proposals provider (.str name) (available.map .str)) =
      .ok (d.providers.map fun provider => (provider.proposed name available).map .str) :=
    mapM_eq_pure_map fun provider member => proposals_texts (gives provider member)
  have together : (d.providers.map fun provider => (provider.proposed name available).map Value.str).flatten =
      (d.providers.flatMap fun provider => provider.proposed name available).map .str := by
    rw [List.map_flatMap, List.flatMap]
  have keys (names : List String) : (names.map Value.str).all Value.isKey = true := by
    rw [List.all_map]
    exact List.all_eq_true.mpr fun _ _ => rfl
  rw [Diagnostics.suggestions, asked, Outcome.ok_bind, together]
  dsimp only
  rw [if_pos (keys _), Suggestion.distinct_texts]
  rfl

theorem Suggests.suggestions (suggests : d.Suggests) (name : String) (available : List String) :
    ∃ names : List String, d.suggestions (.str name) (available.map .str) = .ok (names.map .str) ∧ names.Nodup :=
  ⟨_, suggestions_texts fun provider member => suggests.proposes provider member name available,
    nodup_eraseDups _⟩

/-! ## Wording -/

/-- The hint to the first three of similar names. -/
def hintText (names : List String) : String :=
  if names = [] then "" else ". Did you mean: " ++ Text.join ", " (names.take 3) ++ "?"

theorem hintOf_texts (names : List String) : hintOf (names.map .str) = .ok (hintText names) := by
  cases names with
  | nil => rfl
  | cons first rest =>
      rw [hintOf, ← List.map_take, Value.joinTexts_texts]
      rfl

def unknownTypeText (name : String) (names types : List String) : String :=
  "Unknown document matcher type: '" ++ name ++ "'" ++ hintText names ++ "\nAvailable types: " ++
    Text.join ", " types

/-- What a strategy tells about an unknown type. -/
def unknownContext (available : List String) (options : Value) : Value :=
  .ofFields [("available_types", .list (available.map .str)), ("options", options)]

theorem wordUnknownType_texts {fault : Fault} (isName : fault.unknownType = .str name)
    (suggested : d.suggestions (.str name) (available.map .str) = .ok (names.map .str)) (options : Value) :
    d.wordUnknownType fault (unknownContext available options) =
      .ok (Callable.handledFault (unknownTypeText name names available) fault.category.code
        fault.category.severity (.bool true)
        (.callable (.constant (.matcher (.noop (.str ("unknown type " ++ name))))))
        (.list (names.map .str)) (.list [])) := by
  have isListed : (unknownContext available options).option "available_types" =
      .ok (.list (available.map .str)) := rfl
  have listed (next : List Value → Outcome Value) :
      (if (Value.list (available.map .str)).truthy then (Value.list (available.map .str)).iterate >>= next
        else Except.ok [] >>= next) = next (available.map .str) := by
    cases available <;> rfl
  rw [wordUnknownType, isListed, Outcome.ok_bind]
  dsimp only
  rw [listed, isName, suggested, Outcome.ok_bind, hintOf_texts, Outcome.ok_bind, Value.joinTexts_texts,
    Outcome.ok_bind]
  rfl

/-- The standard handler recovers from an unknown type with a matcher that matches nothing. -/
theorem Suggests.unknownType (suggests : d.Suggests)
    (suggested : d.suggestions (.str name) (available.map .str) = .ok (names.map .str)) (options : Value) :
    d.unknownType (.str name) (unknownContext available options) =
      .ok ⟨.matcher (.noop (.str ("unknown type " ++ name))),
        [.warning (unknownTypeText name names available)]⟩ := by
  have claimed : handlerFor FaultCategory.unknownType.code d.handlers =
      .ok (some ⟨.list [.str FaultCategory.unknownType.code], .unknownType⟩) := by
    rw [suggests.handlers]
    rfl
  have isContext : (unknownContext available options).orElse (.map []) = unknownContext available options := rfl
  rw [Diagnostics.unknownType, isContext]
  dsimp only
  rw [claimed, Outcome.ok_bind]
  dsimp only
  rw [word, wordUnknownType_texts rfl suggested]
  rfl

end Diagnostics

end StyleRules
