import StyleRules.Proofs.Value.Reading
import StyleRules.Proofs.Value.TextOrder
import StyleRules.Registry.Resolve

/-!
# How the strategies decide

A strategy is passed over, decides the rule, or gives an answer that cannot be read.  Answers are read
outside of the part that is guarded, so an answer of the last kind makes the chain fail as a whole.
-/

namespace StyleRules

namespace Value

/-- The value is a result or looks like one: it has a value, or else a list of messages. -/
def ReadsAsResult (answer : Value) : Prop :=
  (∃ result, answer = .result result) ∨
    ∃ value, answer.attribute? "value" = some value ∧
      (value ≠ .null ∨ ∃ messages items, answer.attribute? "messages" = some messages ∧
        messages.iterate = .ok items)

theorem toResult_ok_iff (answer : Value) :
    (∃ result, answer.toResult = .ok result) ↔ answer.ReadsAsResult := by
  by_cases isResult : ∃ result, answer = .result result
  · obtain ⟨result, rfl⟩ := isResult
    exact ⟨fun _ => Or.inl ⟨result, rfl⟩, fun _ => ⟨_, rfl⟩⟩
  rw [ReadsAsResult, or_iff_right isResult]
  have reads : answer.toResult = answer.likeResult := by
    cases answer <;> first | rfl | exact absurd ⟨_, rfl⟩ isResult
  rw [reads, likeResult, attributeOf]
  cases answer.attribute? "value" with
  | none =>
      constructor
      · rintro ⟨result, impossible⟩
        cases impossible
      · rintro ⟨value, impossible, _⟩
        cases impossible
  | some value =>
      by_cases isNull : value = .null
      · subst isNull
        simp only [bind, Except.bind, attributeOf, Option.some.injEq, exists_eq_left', ne_eq,
          not_true_eq_false, false_or]
        cases answer.attribute? "messages" with
        | none => simp [Outcome.noAttribute]
        | some messages => cases iterated : messages.iterate <;> simp [iterated, pure, Except.pure]
      · refine iff_of_true ?_ ⟨value, rfl, Or.inl isNull⟩
        cases value <;> first | exact ⟨_, rfl⟩ | exact absurd rfl isNull

end Value

namespace Registry

variable {r : Registry} {name options : Value}

/-! ## The types that are listed -/

def TypesAreTexts (r : Registry) : Prop :=
  Mapping.TextKeys r.matchers ∧ Mapping.TextKeys r.transforms

/-- The types to be listed: those of the first table, and those of the second table that are not in it. -/
def listedTypes (r : Registry) : List Value :=
  Mapping.keys r.matchers ++
    (Mapping.keys r.transforms).filter fun type => !(Mapping.keys r.matchers).any (·.eq type)

theorem availableTypes_eq : r.availableTypes = Value.sortAscending id r.listedTypes := rfl

/-- A type that is left out is equal to one that is listed, so it does not matter to the texts. -/
theorem listedTypes_texts_iff : (∀ type ∈ r.listedTypes, type.IsText) ↔ r.TypesAreTexts := by
  rw [listedTypes, List.forall_mem_append, TypesAreTexts]
  refine and_congr_right fun directTexts => ?_
  constructor
  · intro othersTexts type member
    by_cases isDirect : (Mapping.keys r.matchers).any (·.eq type) = true
    · obtain ⟨direct, directMember, same⟩ := List.any_eq_true.mp isDirect
      have isText := directTexts direct directMember
      rw [isText.eq_iff] at same
      exact same ▸ isText
    · exact othersTexts type (List.mem_filter.mpr ⟨member, by simp [isDirect]⟩)
  · intro othersTexts type member
    exact othersTexts type (List.mem_filter.mp member).1

theorem availableTypes_texts (texts : r.TypesAreTexts) :
    ∃ types : List String, r.availableTypes = .ok (types.map .str) := by
  obtain ⟨names, isNames⟩ := Value.exists_names (listedTypes_texts_iff.mpr texts)
  obtain ⟨types, isSorted, _⟩ := Value.sortAscending_texts names
  exact ⟨types, by rw [availableTypes_eq, isNames, isSorted]⟩

theorem unresolved_ok_iff : (∃ warning, r.unresolved name = .ok warning) ↔ r.TypesAreTexts := by
  rw [← listedTypes_texts_iff, unresolved, availableTypes_eq]
  cases sorted : Value.sortAscending id r.listedTypes with
  | error reason =>
      refine iff_of_false ?_ ?_
      · rintro ⟨warning, impossible⟩
        cases impossible
      · intro texts
        obtain ⟨types, listed⟩ := availableTypes_texts (listedTypes_texts_iff.mp texts)
        cases sorted.symm.trans listed
  | ok types =>
      have permuted := Value.sortAscending_perm sorted
      have sameTexts : (∀ type ∈ r.listedTypes, type.IsText) ↔ ∀ type ∈ types, type.IsText :=
        forall_congr' fun type => by rw [permuted.mem_iff]
      rw [sameTexts, ← Value.joinTexts_ok_iff ", " types]
      cases joined : Value.joinTexts ", " types <;> simp [joined, bind, Except.bind, pure, Except.pure]

/-! ## One strategy -/

/-- The chain goes on behind a strategy that fails, that has no answer, or whose result has no value. -/
def PassesOver (r : Registry) (name options : Value) (strategy : Strategy) : Prop :=
  (∃ reason, strategy.handle r name options = .error reason) ∨
    strategy.handle r name options = .ok .null ∨
      ∃ answer result, strategy.handle r name options = .ok answer ∧ answer.toResult = .ok result ∧
        result.isSuccess = false

/-- The strategy gives an answer that cannot be read. -/
def AnswersUnreadably (r : Registry) (name options : Value) (strategy : Strategy) : Prop :=
  ∃ answer, strategy.handle r name options = .ok answer ∧ answer ≠ .null ∧ ¬answer.ReadsAsResult

/-- The strategy gives the result of the chain. -/
def Decides (r : Registry) (name options : Value) (strategy : Strategy) (result : Result Value) :
    Prop :=
  ∃ answer, strategy.handle r name options = .ok answer ∧ answer ≠ .null ∧
    answer.toResult = .ok result ∧ result.isSuccess = true

theorem strategy_cases (r : Registry) (name options : Value) (strategy : Strategy) :
    r.PassesOver name options strategy ∨ r.AnswersUnreadably name options strategy ∨
      ∃ result, r.Decides name options strategy result := by
  cases answered : strategy.handle r name options with
  | error reason => exact Or.inl (Or.inl ⟨reason, answered⟩)
  | ok answer =>
      by_cases isNull : answer = .null
      · subst isNull
        exact Or.inl (Or.inr (Or.inl answered))
      cases reads : answer.toResult with
      | error reason =>
          refine Or.inr (Or.inl ⟨answer, answered, isNull, ?_⟩)
          intro readable
          obtain ⟨result, impossible⟩ := (Value.toResult_ok_iff answer).mpr readable
          rw [reads] at impossible
          cases impossible
      | ok result =>
          cases success : result.isSuccess with
          | true => exact Or.inr (Or.inr ⟨result, answer, answered, isNull, reads, success⟩)
          | false => exact Or.inl (Or.inr (Or.inr ⟨answer, result, answered, reads, success⟩))

theorem PassesOver.not_answersUnreadably {strategy : Strategy}
    (passed : r.PassesOver name options strategy) : ¬r.AnswersUnreadably name options strategy := by
  rintro ⟨answer, answered, notNull, unreadable⟩
  rcases passed with ⟨reason, failed⟩ | null | ⟨other, result, gave, reads, _⟩
  · rw [answered] at failed
    cases failed
  · rw [answered] at null
    exact notNull (Except.ok.inj null)
  · rw [answered] at gave
    cases gave
    exact unreadable ((Value.toResult_ok_iff answer).mp ⟨result, reads⟩)

theorem Decides.not_answersUnreadably {strategy : Strategy} {result : Result Value}
    (decides : r.Decides name options strategy result) :
    ¬r.AnswersUnreadably name options strategy := by
  obtain ⟨answer, answered, _, reads, _⟩ := decides
  rintro ⟨other, gave, _, unreadable⟩
  rw [answered] at gave
  cases gave
  exact unreadable ((Value.toResult_ok_iff answer).mp ⟨result, reads⟩)

theorem Decides.not_passesOver {strategy : Strategy} {result : Result Value}
    (decides : r.Decides name options strategy result) : ¬r.PassesOver name options strategy := by
  obtain ⟨answer, answered, notNull, reads, success⟩ := decides
  rintro (⟨reason, failed⟩ | null | ⟨other, found, gave, otherReads, noValue⟩)
  · rw [answered] at failed
    cases failed
  · rw [answered] at null
    exact notNull (Except.ok.inj null)
  · rw [answered] at gave
    cases gave
    rw [reads] at otherReads
    cases otherReads
    rw [success] at noValue
    cases noValue

/-! ## The chain -/

variable {strategy : Strategy} {rest : List Strategy}

theorem askStrategies_answered {answer : Value} (kept : List Message)
    (answered : strategy.handle r name options = .ok answer) (notNull : answer ≠ .null) :
    r.askStrategies name options kept (strategy :: rest) = (do
      let result ← answer.toResult
      if result.isSuccess then return result
      else r.askStrategies name options (kept ++ result.messages) rest) := by
  simp only [askStrategies, answered]

theorem askStrategies_passed (kept : List Message) (passed : r.PassesOver name options strategy) :
    ∃ more, r.askStrategies name options kept (strategy :: rest) =
      r.askStrategies name options more rest := by
  rcases passed with ⟨reason, failed⟩ | null | ⟨answer, result, answered, reads, noValue⟩
  · exact ⟨kept, by simp only [askStrategies, failed]⟩
  · exact ⟨kept, by simp only [askStrategies, null]⟩
  · by_cases isNull : answer = .null
    · subst isNull
      exact ⟨kept, by simp only [askStrategies, answered]⟩
    · refine ⟨kept ++ result.messages, ?_⟩
      rw [askStrategies_answered kept answered isNull, reads]
      simp [noValue, bind, Except.bind]

theorem askStrategies_decided {result : Result Value} (kept : List Message)
    (decides : r.Decides name options strategy result) :
    r.askStrategies name options kept (strategy :: rest) = .ok result := by
  obtain ⟨answer, answered, notNull, reads, success⟩ := decides
  rw [askStrategies_answered kept answered notNull, reads]
  simp [success, bind, Except.bind, pure, Except.pure]

theorem askStrategies_unreadable (kept : List Message)
    (unreadable : r.AnswersUnreadably name options strategy) :
    ∃ reason, r.askStrategies name options kept (strategy :: rest) = .error reason := by
  obtain ⟨answer, answered, notNull, notReadable⟩ := unreadable
  rw [askStrategies_answered kept answered notNull]
  cases reads : answer.toResult with
  | error reason => exact ⟨reason, rfl⟩
  | ok result => exact absurd ((Value.toResult_ok_iff answer).mp ⟨result, reads⟩) notReadable

/-- The chain fails as a whole: it reaches an answer that cannot be read, or it ends without a value while
some registered type is not a text. -/
def ChainFails (r : Registry) (name options : Value) (strategies : List Strategy) : Prop :=
  (∃ earlier strategy later, strategies = earlier ++ strategy :: later ∧
      (∀ passed ∈ earlier, r.PassesOver name options passed) ∧
        r.AnswersUnreadably name options strategy) ∨
    (∀ passed ∈ strategies, r.PassesOver name options passed) ∧ ¬r.TypesAreTexts

theorem chainFails_nil : r.ChainFails name options [] ↔ ¬r.TypesAreTexts := by
  simp [ChainFails]

theorem chainFails_cons :
    r.ChainFails name options (strategy :: rest) ↔
      r.AnswersUnreadably name options strategy ∨
        r.PassesOver name options strategy ∧ r.ChainFails name options rest := by
  constructor
  · rintro (⟨earlier, stopping, later, split, passed, unreadable⟩ | ⟨passed, notTexts⟩)
    · cases earlier with
      | nil =>
          cases split
          exact Or.inl unreadable
      | cons first others =>
          cases split
          obtain ⟨firstPassed, othersPassed⟩ := List.forall_mem_cons.mp passed
          exact Or.inr ⟨firstPassed, Or.inl ⟨others, stopping, later, rfl, othersPassed, unreadable⟩⟩
    · obtain ⟨firstPassed, othersPassed⟩ := List.forall_mem_cons.mp passed
      exact Or.inr ⟨firstPassed, Or.inr ⟨othersPassed, notTexts⟩⟩
  · rintro (unreadable | ⟨firstPassed, othersFail⟩)
    · exact Or.inl ⟨[], strategy, rest, rfl, by simp, unreadable⟩
    rcases othersFail with ⟨earlier, stopping, later, rfl, passed, unreadable⟩ | ⟨passed, notTexts⟩
    · exact Or.inl ⟨strategy :: earlier, stopping, later, rfl,
        List.forall_mem_cons.mpr ⟨firstPassed, passed⟩, unreadable⟩
    · exact Or.inr ⟨List.forall_mem_cons.mpr ⟨firstPassed, passed⟩, notTexts⟩

/-- Asking the strategies fails exactly when the chain fails as a whole, whatever was said before. -/
theorem askStrategies_error_iff (kept : List Message) (strategies : List Strategy) :
    (∃ reason, r.askStrategies name options kept strategies = .error reason) ↔
      r.ChainFails name options strategies := by
  induction strategies generalizing kept with
  | nil =>
      rw [askStrategies, chainFails_nil, ← @unresolved_ok_iff r name]
      cases r.unresolved name <;> simp [bind, Except.bind, pure, Except.pure]
  | cons strategy rest ih =>
      rw [chainFails_cons]
      rcases r.strategy_cases name options strategy with passed | unreadable | ⟨result, decides⟩
      · obtain ⟨more, asked⟩ := @askStrategies_passed r name options strategy rest kept passed
        rw [asked, ih, or_iff_right passed.not_answersUnreadably, and_iff_right passed]
      · exact iff_of_true (askStrategies_unreadable kept unreadable) (Or.inl unreadable)
      · refine iff_of_false ?_ ?_
        · rw [askStrategies_decided kept decides]
          rintro ⟨reason, impossible⟩
          cases impossible
        · rintro (unreadable | ⟨passed, _⟩)
          · exact decides.not_answersUnreadably unreadable
          · exact decides.not_passesOver passed

/-- The strategies of the library answer with results. -/
theorem AnswersUnreadably.custom {strategy : Strategy}
    (unreadable : r.AnswersUnreadably name options strategy) :
    (∃ shown handle, strategy = .named shown handle) ∨ ∃ subject, strategy = .object subject := by
  obtain ⟨answer, answered, _, notReadable⟩ := unreadable
  have notResult : ∀ result, answer ≠ .result result := by
    rintro result rfl
    exact notReadable (Or.inl ⟨result, rfl⟩)
  cases strategy with
  | ignoreUnknown =>
      cases answered
      exact absurd rfl (notResult _)
  | suggestAlternatives =>
      simp only [Strategy.handle, bind, Except.bind] at answered
      split at answered
      · cases answered
      · split at answered
        · cases answered
        · cases answered
          exact absurd rfl (notResult _)
  | diagnoseUnknown diagnostics =>
      simp only [Strategy.handle, bind, Except.bind] at answered
      split at answered
      · cases answered
      · split at answered
        · cases answered
        · cases answered
          exact absurd rfl (notResult _)
  | named shown handle => exact Or.inl ⟨shown, handle, rfl⟩
  | object subject => exact Or.inr ⟨subject, rfl⟩

end Registry

end StyleRules
