import Mathlib.Data.List.Infix
import StyleRules.Text.Search

/-!
# Finding texts in texts

Searching a text decides whether another one occurs in it, at its beginning or anywhere.
-/

namespace StyleRules.Text

theorem dropStart?_eq_some_iff {start chars rest : List Char} :
    dropStart? start chars = some rest ↔ chars = start ++ rest := by
  induction start generalizing chars with
  | nil => simp [dropStart?]
  | cons a start ih =>
      cases chars with
      | nil => simp [dropStart?]
      | cons c chars =>
          rw [dropStart?, List.cons_append, List.cons.injEq]
          split
          · rename_i same
            simp [ih, same]
          · rename_i different
            simp [Ne.symm different]

theorem isSome_dropStart?_iff {start chars : List Char} :
    (dropStart? start chars).isSome = true ↔ start <+: chars := by
  rw [Option.isSome_iff_exists]
  simp only [dropStart?_eq_some_iff]
  exact exists_congr fun rest => eq_comm

theorem isSome_cut?_iff {needle chars : List Char} :
    (cut? needle chars).isSome = true ↔ needle <:+: chars := by
  induction chars with
  | nil => cases needle <;> simp [cut?]
  | cons c chars ih =>
      rw [List.infix_cons_iff, ← ih, ← isSome_dropStart?_iff, cut?]
      cases dropStart? needle (c :: chars) <;> simp

theorem startsWith_iff {text start : String} :
    startsWith text start = true ↔ start.toList <+: text.toList :=
  isSome_dropStart?_iff

theorem occursIn_iff {needle text : String} :
    occursIn needle text = true ↔ needle.toList <:+: text.toList :=
  isSome_cut?_iff

/-- A text with a character that another one does not have does not occur in it. -/
theorem cut?_eq_none_of_notMem {needle chars : List Char} {c : Char} (inNeedle : c ∈ needle)
    (notInChars : c ∉ chars) : cut? needle chars = none := by
  rw [← Option.not_isSome_iff_eq_none, isSome_cut?_iff]
  exact fun occurs => notInChars (occurs.subset inNeedle)

/-- A text has at least one part. -/
theorem parts_ne_nil (mark : Char) (text : String) : parts mark text ≠ [] := by
  have goes (part chars : List Char) : parts.go mark part chars ≠ [] := by
    induction chars generalizing part with
    | nil => exact List.cons_ne_nil _ _
    | cons c rest ih =>
        rw [parts.go]
        split
        · exact List.cons_ne_nil _ _
        · exact ih _
  exact goes [] text.toList

end StyleRules.Text
