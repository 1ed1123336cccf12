import StyleRules.Proofs.Suggestion.Distance
import StyleRules.Proofs.Text.Search
import StyleRules.Suggestion.Names

/-!
# Which names are similar to an unknown name

By letters, an available name is found when the unknown name occurs in it, whatever the case, or when both are
nearly of the same length and few edits turn one into the other.  A typo of few edits changes the length by few
characters, so all such typos are found.
-/

namespace StyleRules

namespace Text

variable {s t needle text : String} {n : Nat}

theorem isSome_find?_iff : (find? needle text).isSome = true ↔ needle.toList <:+: text.toList := by
  rw [find?, Option.isSome_map, isSome_cut?_iff]

/-- The order of the arguments does not matter for the similarity. -/
theorem isSimilar_iff :
    isSimilar s t = true ↔ max s.length t.length = 0 ∨ 2 * distance s t < max s.length t.length := by
  rw [isSimilar, longerFirst]
  by_cases longer : t.length < s.length
  · rw [if_pos longer, max_eq_left longer.le]
    simp
  · rw [if_neg longer, max_eq_right (not_lt.mp longer), distance_comm s t]
    simp

theorem Edits.isSimilar (edits : Edits n s.toList t.toList) (few : 2 * n < max s.length t.length) :
    Text.isSimilar s t = true := by
  have := edits.distance_le
  exact isSimilar_iff.mpr (.inr (by omega))

/-- Each edit changes the length by at most one. -/
theorem Edits.nearLength (edits : Edits n s.toList t.toList) : t.length ≤ s.length + n ∧ s.length ≤ t.length + n :=
  ⟨edits.length_le, edits.symm.length_le⟩

end Text

namespace Suggestion

variable {unknown name : String} {available : List String}

theorem mem_byLetters_iff :
    name ∈ byLetters unknown available ↔ name ∈ available ∧
      ((Text.lower unknown).toList <:+: (Text.lower name).toList ∨
        (name.length ≤ unknown.length + 2 ∧ unknown.length ≤ name.length + 2) ∧
          Text.isSimilar unknown name = true) := by
  -- the first two lists tell apart where the unknown name occurs, which does not matter here
  have occurs : (Text.lower unknown).toList <:+: (Text.lower name).toList ↔
      Text.find? (Text.lower unknown) (Text.lower name) = some 0 ∨
        ((Text.find? (Text.lower unknown) (Text.lower name)).any fun position => decide (0 < position)) = true := by
    rw [← Text.isSome_find?_iff]
    cases Text.find? (Text.lower unknown) (Text.lower name) with
    | none => simp
    | some position => simp [Nat.eq_zero_or_pos]
  rw [occurs, byLetters]
  simp only [List.mem_append, List.mem_filter, decide_eq_true_eq, Bool.and_eq_true, ← and_or_left]

/-- All names of few edits are found, as long as these are less than half of the letters. -/
theorem mem_byLetters_of_edits {n : Nat} (isAvailable : name ∈ available)
    (edits : Text.Edits n unknown.toList name.toList) (atMostTwo : n ≤ 2)
    (few : 2 * n < max unknown.length name.length) : name ∈ byLetters unknown available := by
  -- two edits leave the length within the window, whatever they are
  obtain ⟨notLonger, notShorter⟩ := edits.nearLength
  refine mem_byLetters_iff.mpr ⟨isAvailable, .inr ⟨⟨?_, ?_⟩, edits.isSimilar few⟩⟩
  · omega
  · omega

theorem isAvailable_of_mem_byFamily {isAvailable : String → Bool} (member : name ∈ byFamily unknown isAvailable) :
    isAvailable name = true := by
  obtain ⟨⟨keyword, members⟩, _, found⟩ := List.mem_flatMap.mp member
  dsimp only at found
  split at found
  · exact (List.mem_filter.mp found).2
  · cases found

end Suggestion

end StyleRules
