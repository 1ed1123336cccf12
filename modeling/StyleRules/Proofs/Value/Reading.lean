import StyleRules.Proofs.Lists
import StyleRules.Proofs.Value.TextKeys
import StyleRules.Value.Access

/-!
# Which values can be read

Copying a value into a mapping and joining values with a separator are refused for some values.  Here it is
said which ones are accepted, and what is read as a list.
-/

namespace StyleRules.Value

/-! ## Counting -/

/-- Lists, mappings, texts and byte strings have parts that can be counted. -/
def isSequence : Value → Bool
  | .list _ | .map _ | .str _ | .bytes _ => true
  | _ => false

theorem length_wrongType_iff (v : Value) : v.length = Outcome.wrongType ↔ v.isSequence = false := by
  cases v <;> simp [length, isSequence, Outcome.wrongType]

theorem length_error {v : Value} {reason : Failure} (failed : v.length = .error reason) :
    reason = .misuse .type := by
  cases v <;> cases failed <;> rfl

theorem iterate_error {v : Value} {reason : Failure} (failed : v.iterate = .error reason) :
    reason = .misuse .type := by
  cases v <;> cases failed <;> rfl

/-! ## Lists -/

/-- The items of a list; other values have none. -/
def listed : Value → List Value
  | .list items => items
  | _ => []

theorem listed_of_falsy {v : Value} (falsy : v.truthy = false) : v.listed = [] := by
  cases v with
  | list items => simpa [truthy, listed] using falsy
  | _ => rfl

/-! ## Functions under attributes -/

theorem functionAt_eq (subject : Value) (name : String) (reason : Failure) :
    subject.functionAt name reason =
      if (subject.attributeOrNull name).isCallable then .ok (subject.attributeOrNull name) else .error reason := by
  rw [functionAt, attributeOrNull]
  cases subject.attribute? name <;> rfl

/-! ## Copying -/

/-- The value has two parts, of which the first can be a key. -/
def IsPair (item : Value) : Prop :=
  ∃ key value : Value, item.iterate = .ok [key, value] ∧ key.isKey = true

/-- A mapping can be copied into a mapping, and so can a sequence of pairs. -/
def Copyable (v : Value) : Prop :=
  (∃ entries, v = .map entries) ∨ ∃ items, v.iterate = .ok items ∧ ∀ item ∈ items, item.IsPair

theorem copyPairs_ok_iff (entries : List (Value × Value)) (items : List Value) :
    (∃ copied, copyPairs entries items = .ok copied) ↔ ∀ item ∈ items, item.IsPair := by
  induction items generalizing entries with
  | nil => simp [copyPairs]
  | cons item rest ih =>
      rw [copyPairs, List.forall_mem_cons]
      split
      · rename_i key value parts
        by_cases isKey : key.isKey = true
        · have isPair : item.IsPair := ⟨key, value, parts, isKey⟩
          rw [if_pos isKey, ih]
          exact ⟨fun others => ⟨isPair, others⟩, fun both => both.2⟩
        · rw [if_neg isKey]
          constructor
          · rintro ⟨copied, impossible⟩
            cases impossible
          · rintro ⟨⟨other, second, otherParts, otherIsKey⟩, _⟩
            rw [parts] at otherParts
            cases otherParts
            exact absurd otherIsKey isKey
      · rename_i parts notTwo partsEq
        constructor
        · rintro ⟨copied, impossible⟩
          cases impossible
        · rintro ⟨⟨key, value, two, _⟩, _⟩
          exact absurd two (by
            rw [partsEq]
            exact fun same => notTwo key value (Except.ok.inj same))
      · rename_i reason noParts
        constructor
        · rintro ⟨copied, impossible⟩
          cases impossible
        · rintro ⟨⟨key, value, two, _⟩, _⟩
          rw [noParts] at two
          cases two

theorem toEntries_ok_iff (v : Value) : (∃ entries, v.toEntries = .ok entries) ↔ v.Copyable := by
  by_cases isMapping : ∃ entries, v = .map entries
  · obtain ⟨entries, rfl⟩ := isMapping
    exact ⟨fun _ => Or.inl ⟨entries, rfl⟩, fun _ => ⟨entries, rfl⟩⟩
  · have copies : v.toEntries = v.iterate >>= copyPairs [] := by
      cases v <;> first | rfl | exact absurd ⟨_, rfl⟩ isMapping
    rw [copies, Copyable, or_iff_right isMapping]
    cases iterated : v.iterate with
    | error reason =>
        constructor
        · rintro ⟨entries, impossible⟩
          cases impossible
        · rintro ⟨items, impossible, _⟩
          cases impossible
    | ok items =>
        refine (copyPairs_ok_iff [] items).trans ⟨fun pairs => ⟨items, rfl, pairs⟩, ?_⟩
        rintro ⟨others, same, pairs⟩
        cases same
        exact pairs

/-! ## Joining -/

theorem joinTexts_ok_iff (separator : String) (items : List Value) :
    (∃ text, joinTexts separator items = .ok text) ↔ ∀ item ∈ items, item.IsText := by
  have onlyTexts : ∀ item : Value, (∃ text, item.onlyText = .ok text) ↔ item.IsText := by
    intro item
    cases item <;> simp [onlyText, IsText, Outcome.wrongType]
  rw [joinTexts, ← forall₂_congr fun item _ => onlyTexts item, ← mapM_ok_iff]
  cases items.mapM onlyText <;> simp [bind, Except.bind, pure, Except.pure]

theorem joinTexts_texts (separator : String) (names : List String) :
    joinTexts separator (names.map .str) = .ok (Text.join separator names) := by
  have read : (names.map Value.str).mapM onlyText = .ok names := by
    rw [List.mapM_map]
    exact (mapM_eq_pure_map fun _ _ => rfl).trans (congrArg Except.ok (List.map_id names))
  rw [joinTexts, read]
  rfl

end StyleRules.Value
