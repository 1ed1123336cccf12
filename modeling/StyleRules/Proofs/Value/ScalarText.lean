import Mathlib.Data.List.Basic
import StyleRules.Value.Text

/-!
# The characters of written numbers

Numbers are written with printable ASCII characters, whatever their size.
-/

namespace StyleRules

/-- All characters are printable ASCII ones. -/
def IsPlainText (s : String) : Prop := ∀ c ∈ s.toList, 0x20 ≤ c.toNat ∧ c.toNat < 0x7f

instance : DecidablePred IsPlainText := fun s => List.decidableBAll _ s.toList

namespace IsPlainText

variable {s t : String}

theorem append (first : IsPlainText s) (second : IsPlainText t) : IsPlainText (s ++ t) := by
  intro c member
  rw [String.toList_append, List.mem_append] at member
  exact member.elim (first c) (second c)

theorem ofList_subset {chars : List Char} (plain : IsPlainText s) (subset : chars ⊆ s.toList) :
    IsPlainText (String.ofList chars) := by
  intro c member
  rw [String.toList_ofList] at member
  exact plain c (subset member)

end IsPlainText

theorem isPlainText_nat (n : Nat) : IsPlainText (toString n) := by
  intro c member
  have isDigit : c.isDigit = true := by
    refine Nat.isDigit_of_mem_toDigits (b := 10) (n := n) (by decide) (by decide) ?_
    simpa using member
  rw [Char.isDigit_iff_toNat] at isDigit
  have zero : '0'.toNat = 48 := rfl
  have nine : '9'.toNat = 57 := rfl
  omega

theorem isPlainText_int (n : Int) : IsPlainText (toString n) := by
  cases n with
  | ofNat n => exact isPlainText_nat n
  | negSucc n =>
      have sign : IsPlainText "-" := by decide
      exact sign.append (isPlainText_nat (n + 1))

namespace Decimal

theorem isPlainText_zeros (n : Nat) : IsPlainText (zeros n) := by
  intro c member
  rw [zeros, String.toList_ofList, List.mem_replicate] at member
  rw [member.2]
  decide

theorem isPlainText_exponentText (power : Int) : IsPlainText (exponentText power) := by
  have signs : IsPlainText "e-" ∧ IsPlainText "e+" ∧ IsPlainText "0" := by decide
  obtain ⟨minus, plus, zero⟩ := signs
  rw [exponentText]
  refine IsPlainText.append ?_ ?_
  · split
    · exact minus
    · exact plus
  · split
    · exact zero.append (isPlainText_nat _)
    · exact isPlainText_nat _

theorem isPlainText_text (d : Decimal) : IsPlainText d.text := by
  have marks : IsPlainText "0." ∧ IsPlainText ".0" ∧ IsPlainText "." ∧ IsPlainText "" := by decide
  obtain ⟨zeroPoint, pointZero, point, nothing⟩ := marks
  have digits := isPlainText_nat d.digits
  rw [text]
  dsimp only
  split_ifs
  · exact (zeroPoint.append (isPlainText_zeros _)).append digits
  · exact (digits.append (isPlainText_zeros _)).append pointZero
  · exact ((digits.ofList_subset (List.take_subset _ _)).append point).append
      (digits.ofList_subset (List.drop_subset _ _))
  · refine IsPlainText.append ?_ (isPlainText_exponentText _)
    cases spelled : (toString d.digits).toList with
    | nil => exact nothing
    | cons c rest =>
        have spelledDigits : ∀ e ∈ c :: '.' :: rest, 0x20 ≤ e.toNat ∧ e.toNat < 0x7f := by
          rw [IsPlainText, spelled] at digits
          obtain ⟨first, further⟩ := List.forall_mem_cons.mp digits
          exact List.forall_mem_cons.mpr ⟨first, List.forall_mem_cons.mpr ⟨by decide, further⟩⟩
        cases rest with
        | nil =>
            rw [IsPlainText, String.toList_ofList]
            exact List.forall_mem_singleton.mpr (List.forall_mem_cons.mp spelledDigits).1
        | cons d more =>
            rw [IsPlainText, String.toList_ofList]
            exact spelledDigits

theorem isPlainText_floatText {nan infinity : String} (nanPlain : IsPlainText nan)
    (infinityPlain : IsPlainText infinity) (x : Float) : IsPlainText (floatText nan infinity x) := by
  have marks : IsPlainText "-" ∧ IsPlainText "0.0" := by decide
  rw [floatText]
  cases Binary.ofFloat x with
  | nan => exact nanPlain
  | infinite negative =>
      cases negative
      · exact infinityPlain
      · exact marks.1.append infinityPlain
  | finite negative mantissa exponent =>
      have body : IsPlainText (if mantissa = 0 then "0.0" else (shortest mantissa exponent).text) := by
        split
        · exact marks.2
        · exact isPlainText_text _
      cases negative
      · exact body
      · exact marks.1.append body

end Decimal

end StyleRules
