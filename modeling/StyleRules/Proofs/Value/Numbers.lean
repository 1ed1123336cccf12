import Mathlib.Algebra.Order.Field.Power
import Mathlib.Data.Rat.Cast.Order
import Mathlib.Tactic.Linarith
import Mathlib.Tactic.Positivity
import Mathlib.Tactic.Ring
import StyleRules.Proofs.Value.TextKeys

/-!
# The exact values of numbers

Integers and doubles are compared in different ways: doubles by exponent and mantissa, and an integer with a double
by what the double stands for.  Still two numbers compare as equal exactly if they have the same exact value, so that
equality can be followed from one number to another.  Hence a key of a mapping can be replaced by any equal one.
-/

namespace StyleRules

namespace Decimal

open Float.Model

variable {x : Float} {negative : Bool} {mantissa other : Nat} {exponent further : Int}

/-! ## Decoding doubles -/

section Fields

variable (bits : BitVec Format.binary64.numBits)

theorem unpackMantissa_toNat : (UnpackedFloat.unpackMantissa bits).toNat = bits.toNat % Nat.pow 2 52 := by
  simp [UnpackedFloat.unpackMantissa, BitVec.extractLsb, BitVec.extractLsb']

theorem unpackExponent_toNat : (UnpackedFloat.unpackExponent bits).toNat = bits.toNat / Nat.pow 2 52 % 2048 := by
  simp [UnpackedFloat.unpackExponent, BitVec.extractLsb, BitVec.extractLsb', Nat.shiftRight_eq_div_pow]

theorem unpackSign_toNat : (UnpackedFloat.unpackSign bits).toNat = bits.toNat / Nat.pow 2 63 := by
  have bound : bits.toNat < 2 ^ 64 := bits.isLt
  have isBit : (UnpackedFloat.unpackSign bits).toNat = bits.toNat >>> 63 % 2 := rfl
  rw [isBit, Nat.shiftRight_eq_div_pow]
  exact Nat.mod_eq_of_lt (Nat.div_lt_of_lt_mul bound)

end Fields

def signOf (negative : Bool) : UnpackedFloat.Sign := if negative then .negative else .positive

/-- The binary fraction in the form in which doubles are compared. -/
def Binary.unpacked : Binary → UnpackedFloat
  | .nan => .notANumber
  | .infinite negative => .infinity (signOf negative)
  | .finite negative mantissa exponent =>
    if given : 0 < mantissa then .finite (signOf negative) mantissa exponent given else .zero (signOf negative)

theorem ofBitVec_eq (bit : BitVec 1) : UnpackedFloat.Sign.ofBitVec bit = signOf (bit.toNat = 1) := by
  rcases BitVec.eq_zero_or_eq_one bit with rfl | rfl <;> rfl

theorem implicit_toNat (low : BitVec 52) : (1#1 ++ low).toNat = Nat.pow 2 52 + low.toNat := by
  rw [BitVec.toNat_append, ← Nat.shiftLeft_add_eq_or_of_lt low.isLt]
  simp [Nat.shiftLeft_eq]

theorem finite_congr {sign : UnpackedFloat.Sign} {mantissa other : Nat} {exponent further : Int}
    (sameMantissa : mantissa = other) (sameExponent : exponent = further) (positive : 0 < mantissa) :
    UnpackedFloat.finite sign mantissa exponent positive = .finite sign other further (sameMantissa ▸ positive) := by
  subst sameMantissa sameExponent
  rfl

/-- The bits of a double are decoded here as they are where doubles are compared. -/
theorem unpack_toModel (x : Float) : x.toModel.unpack = (Binary.ofFloat x).unpacked := by
  obtain ⟨bits, isBits⟩ : ∃ bits : BitVec Format.binary64.numBits, x.toModel.toBits.toBitVec = bits :=
    ⟨_, rfl⟩
  have isNumber : x.toBits.toNat = bits.toNat := congrArg BitVec.toNat isBits
  rw [Float.Model.unpack, Binary.ofFloat, isNumber, isBits]
  rw [← unpackMantissa_toNat, ← unpackExponent_toNat, ← unpackSign_toNat]
  unfold UnpackedFloat.unpack
  dsimp only
  rw [ofBitVec_eq]
  have isBias : (Format.binary64.exponentBias : Int) + Format.binary64.mantissaBitsWithoutImplicit = 1075 := rfl
  have isMost : UnpackedFloat.unpackExponent bits = -1#_ ↔ (UnpackedFloat.unpackExponent bits).toNat = 2047 :=
    BitVec.toNat_inj.symm
  have isLeast : UnpackedFloat.unpackExponent bits = 0#_ ↔ (UnpackedFloat.unpackExponent bits).toNat = 0 :=
    BitVec.toNat_inj.symm
  have noDigits : UnpackedFloat.unpackMantissa bits = 0#_ ↔ (UnpackedFloat.unpackMantissa bits).toNat = 0 :=
    BitVec.toNat_inj.symm
  by_cases most : (UnpackedFloat.unpackExponent bits).toNat = 2047
  · rw [if_pos (isMost.mpr most), if_pos most]
    by_cases zero : (UnpackedFloat.unpackMantissa bits).toNat = 0
    · rw [if_pos (noDigits.mpr zero), if_pos zero, Binary.unpacked]
    · rw [if_neg (mt noDigits.mp zero), if_neg zero, Binary.unpacked]
  · rw [if_neg (mt isMost.mp most), if_neg most]
    by_cases least : (UnpackedFloat.unpackExponent bits).toNat = 0
    · rw [if_pos (isLeast.mpr least), if_pos least, Binary.unpacked]
      by_cases zero : (UnpackedFloat.unpackMantissa bits).toNat = 0
      · rw [dif_pos (noDigits.mpr zero), dif_neg (by omega)]
      · rw [dif_neg (mt noDigits.mp zero), dif_pos (by omega)]
        refine finite_congr rfl ?_ _
        rw [isBias, least]
        rfl
    · rw [if_neg (mt isLeast.mp least), if_neg least, Binary.unpacked, dif_pos (Nat.add_pos_left (by decide) _)]
      exact finite_congr (implicit_toNat (UnpackedFloat.unpackMantissa bits)) rfl _

/-! ## Canonical mantissas and exponents -/

/-- The mantissa has its highest bit, unless the exponent is the least one. -/
structure IsCanonical (mantissa : Nat) (exponent : Int) : Prop where
  room : mantissa < 2 ^ 53
  least : -1074 ≤ exponent
  filled : 2 ^ 52 ≤ mantissa ∨ exponent = -1074

theorem isCanonical_ofFloat (decoded : Binary.ofFloat x = .finite negative mantissa exponent) :
    IsCanonical mantissa exponent := by
  unfold Binary.ofFloat at decoded
  dsimp only at decoded
  have isLow : x.toBits.toNat % Nat.pow 2 52 < 2 ^ 52 := Nat.mod_lt _ (by decide)
  generalize x.toBits.toNat % Nat.pow 2 52 = low at isLow decoded
  have implicit : Nat.pow 2 52 = 2 ^ 52 := rfl
  split at decoded
  · split at decoded <;> cases decoded
  · split at decoded
    · cases decoded
      exact ⟨by omega, le_rfl, .inr rfl⟩
    · cases decoded
      exact ⟨by omega, by omega, .inl (Nat.le_add_right _ _)⟩

theorem IsCanonical.exponent_le (first : IsCanonical mantissa exponent) (second : IsCanonical other further)
    (same : (mantissa : ℚ) * 2 ^ exponent = other * 2 ^ further) : exponent ≤ further := by
  by_contra below
  have above : further < exponent := not_le.mp below
  -- a mantissa with its highest bit and a larger exponent make a larger value
  have filled : 2 ^ 52 ≤ mantissa := first.filled.resolve_right (by have := second.least; omega)
  have large : (2 : ℚ) ^ 52 ≤ mantissa := by exact_mod_cast filled
  have small : (other : ℚ) < 2 ^ 53 := by exact_mod_cast second.room
  have double : (2 : ℚ) ^ (further + 1) ≤ 2 ^ exponent := zpow_le_zpow_right₀ one_le_two above
  have larger : (other : ℚ) * 2 ^ further < mantissa * 2 ^ exponent := calc
    (other : ℚ) * 2 ^ further < 2 ^ 53 * 2 ^ further := by gcongr
    _ = 2 ^ 52 * 2 ^ (further + 1) := by rw [zpow_add_one₀ two_ne_zero]; ring
    _ ≤ mantissa * 2 ^ exponent := by gcongr
  exact absurd same larger.ne'

/-- A value has at most one canonical mantissa and exponent. -/
theorem IsCanonical.unique (first : IsCanonical mantissa exponent) (second : IsCanonical other further)
    (same : (mantissa : ℚ) * 2 ^ exponent = other * 2 ^ further) : exponent = further ∧ mantissa = other := by
  obtain rfl := le_antisymm (first.exponent_le second same) (second.exponent_le first same.symm)
  have nonzero : (2 : ℚ) ^ exponent ≠ 0 := zpow_ne_zero _ two_ne_zero
  exact ⟨rfl, by exact_mod_cast mul_right_cancel₀ nonzero same⟩

theorem compare_magnitudes_iff (first : IsCanonical mantissa exponent) (second : IsCanonical other further) :
    (compare exponent further).then (compare mantissa other) = .eq ↔
      (mantissa : ℚ) * 2 ^ exponent = other * 2 ^ further := by
  rw [Ordering.then_eq_eq, compare_eq_iff_eq, compare_eq_iff_eq]
  constructor
  · rintro ⟨rfl, rfl⟩
    rfl
  · exact first.unique second

/-! ## Exact values -/

/-- The exact value of a number that is not NaN. -/
inductive Exact where
  | infinite (negative : Bool)
  | finite (value : ℚ)

def signed (negative : Bool) (mantissa : Nat) (exponent : Int) : ℚ :=
  if negative then -(mantissa * 2 ^ exponent) else mantissa * 2 ^ exponent

def Binary.exactValue : Binary → Option Exact
  | .nan => none
  | .infinite negative => some (.infinite negative)
  | .finite negative mantissa exponent => some (.finite (signed negative mantissa exponent))

def exactOf : UnpackedFloat → Option Exact
  | .notANumber => none
  | .infinity .negative => some (.infinite true)
  | .infinity .positive => some (.infinite false)
  | .zero _ => some (.finite 0)
  | .finite .negative mantissa exponent _ => some (.finite (signed true mantissa exponent))
  | .finite .positive mantissa exponent _ => some (.finite (signed false mantissa exponent))

theorem exactOf_unpacked (b : Binary) : exactOf b.unpacked = b.exactValue := by
  cases b with
  | nan => rfl
  | infinite negative => cases negative <;> rfl
  | finite negative mantissa exponent =>
      rw [Binary.unpacked]
      by_cases given : 0 < mantissa
      · rw [dif_pos given]
        cases negative <;> rfl
      · have isZero : mantissa = 0 := by omega
        rw [dif_neg given, isZero]
        dsimp only [exactOf, Binary.exactValue]
        cases negative <;> simp [signed]

/-- The mantissa and the exponent are canonical, if there are any. -/
def Canonical (unpacked : UnpackedFloat) : Prop :=
  ∀ sign mantissa exponent positive, unpacked = .finite sign mantissa exponent positive →
    IsCanonical mantissa exponent

theorem canonical_unpacked (x : Float) : Canonical (Binary.ofFloat x).unpacked := by
  intro sign mantissa exponent positive isFinite
  cases decoded : Binary.ofFloat x with
  | finite negative known further =>
      rw [decoded, Binary.unpacked] at isFinite
      by_cases given : 0 < known
      · rw [dif_pos given] at isFinite
        cases isFinite
        exact isCanonical_ofFloat decoded
      · rw [dif_neg given] at isFinite
        cases isFinite
  | _ =>
      rw [decoded] at isFinite
      cases isFinite

theorem magnitude_pos (positive : 0 < mantissa) (exponent : Int) : (0 : ℚ) < mantissa * 2 ^ exponent := by
  have above : (0 : ℚ) < mantissa := Nat.cast_pos.mpr positive
  positivity

theorem signed_ne_zero (positive : 0 < mantissa) (negative : Bool) (exponent : Int) :
    signed negative mantissa exponent ≠ 0 := by
  have above := magnitude_pos positive exponent
  rw [signed]
  split <;> linarith

theorem compare_finite_iff {sign otherSign : UnpackedFloat.Sign} {positive : 0 < mantissa}
    {otherPositive : 0 < other} (first : IsCanonical mantissa exponent) (second : IsCanonical other further) :
    UnpackedFloat.compare (.finite sign mantissa exponent positive)
        (.finite otherSign other further otherPositive) = some .eq ↔
      exactOf (.finite sign mantissa exponent positive) = exactOf (.finite otherSign other further otherPositive) := by
  have compared := compare_magnitudes_iff first second
  have above := magnitude_pos positive exponent
  have otherAbove := magnitude_pos otherPositive further
  have apart : signed true mantissa exponent ≠ signed false other further ∧
      signed false mantissa exponent ≠ signed true other further := by
    simp only [signed, if_true, Bool.false_eq_true, if_false]
    constructor <;> linarith
  cases sign with
  | negative =>
      cases otherSign with
      | negative =>
          dsimp only [exactOf, UnpackedFloat.compare]
          simpa [signed] using compared
      | positive =>
          dsimp only [exactOf, UnpackedFloat.compare]
          simp [apart.1]
  | positive =>
      cases otherSign with
      | negative =>
          dsimp only [exactOf, UnpackedFloat.compare]
          simp [apart.2]
      | positive =>
          dsimp only [exactOf, UnpackedFloat.compare]
          simpa [signed] using compared

theorem compare_eq_iff {first second : UnpackedFloat} (canonical : Canonical first)
    (otherCanonical : Canonical second) :
    first.compare second = some .eq ↔ (exactOf first).isSome = true ∧ exactOf first = exactOf second := by
  cases first with
  | notANumber =>
      have incomparable : UnpackedFloat.notANumber.compare second = none := by cases second <;> rfl
      have noValue : exactOf .notANumber = none := rfl
      rw [incomparable, noValue]
      simp
  | infinity sign =>
      cases second with
      | infinity other =>
          cases sign <;> cases other <;> dsimp only [exactOf, UnpackedFloat.compare] <;> simp [compare]
      | finite other _ _ _ => cases sign <;> cases other <;> dsimp only [exactOf, UnpackedFloat.compare] <;> simp
      | _ => cases sign <;> dsimp only [exactOf, UnpackedFloat.compare] <;> simp
  | zero sign =>
      cases second with
      | infinity other => cases other <;> dsimp only [exactOf, UnpackedFloat.compare] <;> simp
      | finite other mantissa exponent positive =>
          have nonzero negative := (signed_ne_zero positive negative exponent).symm
          cases other <;> dsimp only [exactOf, UnpackedFloat.compare] <;> simp [nonzero]
      | _ =>
          dsimp only [exactOf, UnpackedFloat.compare]
          simp
  | finite sign mantissa exponent positive =>
      cases second with
      | notANumber => cases sign <;> dsimp only [exactOf, UnpackedFloat.compare] <;> simp
      | infinity other => cases sign <;> cases other <;> dsimp only [exactOf, UnpackedFloat.compare] <;> simp
      | zero other =>
          have nonzero negative := signed_ne_zero positive negative exponent
          cases sign <;> dsimp only [exactOf, UnpackedFloat.compare] <;> simp [nonzero]
      | finite otherSign other further otherPositive =>
          rw [compare_finite_iff (canonical _ _ _ _ rfl) (otherCanonical _ _ _ _ rfl)]
          cases sign <;> exact (and_iff_right rfl).symm

theorem beq_iff_compare (x y : Float) : (x == y) = true ↔ x.toModel.unpack.compare y.toModel.unpack = some .eq := by
  have isEqual : (x == y) = (x.toModel.unpack.compare y.toModel.unpack == some .eq) := rfl
  rw [isEqual, beq_iff_eq]

theorem lt_iff_compare (x y : Float) : x < y ↔ x.toModel.unpack.compare y.toModel.unpack = some .lt := by
  have isLess : x < y ↔ x.lt y = true := Iff.rfl
  rw [isLess, Float.lt, decide_eq_true_iff]
  exact beq_iff_eq

theorem fraction_den_pos (mantissa : Nat) (exponent : Int) : 0 < (fraction mantissa exponent).2 := by
  cases exponent with
  | ofNat k => exact Nat.one_pos
  | negSucc k => exact Nat.pow_pos Nat.two_pos

theorem fraction_eq (mantissa : Nat) (exponent : Int) :
    ((fraction mantissa exponent).1 : ℚ) = mantissa * 2 ^ exponent * (fraction mantissa exponent).2 := by
  cases exponent with
  | ofNat k => simp [fraction]
  | negSucc k => simp [fraction, zpow_negSucc]

theorem compareInt?_eq_iff (n : Int) (x : Float) :
    compareInt? n x = some .eq ↔ (Binary.ofFloat x).exactValue = some (.finite n) := by
  rw [compareInt?]
  cases Binary.ofFloat x with
  | nan => simp [Binary.exactValue]
  | infinite negative => cases negative <;> simp [Binary.exactValue]
  | finite negative mantissa exponent =>
      have isFraction := fraction_eq mantissa exponent
      have positive := fraction_den_pos mantissa exponent
      dsimp only
      generalize fraction mantissa exponent = parts at isFraction positive
      obtain ⟨num, den⟩ := parts
      have nonzero : (den : ℚ) ≠ 0 := Nat.cast_ne_zero.mpr positive.ne'
      have isValue : (((if negative then -(num : Int) else num) : Int) : ℚ) =
          signed negative mantissa exponent * den := by
        cases negative <;> simp [signed, isFraction]
      rw [Option.some.injEq, compare_eq_iff_eq, Binary.exactValue, Option.some.injEq, Exact.finite.injEq,
        ← @Int.cast_inj ℚ, isValue, Int.cast_mul, Int.cast_natCast, mul_left_inj' nonzero, eq_comm]

end Decimal

namespace Number

open Decimal

/-- The exact value of a number, unless it is NaN. -/
def exactValue : Number → Option Exact
  | .int n => some (.finite n)
  | .float x => (Binary.ofFloat x).exactValue

theorem compare_float_iff (x y : Float) :
    compare? (.float x) (.float y) = some .eq ↔
      (exactValue (.float x)).isSome = true ∧ exactValue (.float x) = exactValue (.float y) := by
  have isCompare := compare_eq_iff (canonical_unpacked x) (canonical_unpacked y)
  rw [exactOf_unpacked, exactOf_unpacked, ← unpack_toModel, ← unpack_toModel] at isCompare
  rw [exactValue, exactValue, ← isCompare, compare?]
  simp only [lt_iff_compare, beq_iff_compare]
  cases x.toModel.unpack.compare y.toModel.unpack with
  | none => simp
  | some order => cases order <;> simp

/-- Numbers compare as equal exactly if they have the same exact value. -/
theorem compare?_eq_iff (x y : Number) :
    x.compare? y = some .eq ↔ x.exactValue.isSome = true ∧ x.exactValue = y.exactValue := by
  cases x with
  | int m =>
      cases y with
      | int n => simp [compare?, exactValue]
      | float y =>
          rw [compare?, compareInt?_eq_iff, exactValue, exactValue, eq_comm]
          exact ⟨fun same => ⟨rfl, same⟩, And.right⟩
  | float x =>
      cases y with
      | int n =>
          have isSwap : (compareInt? n x).map Ordering.swap = some .eq ↔ compareInt? n x = some .eq := by
            cases compareInt? n x with
            | none => simp
            | some order => cases order <;> simp
          rw [compare?, isSwap, compareInt?_eq_iff, exactValue, exactValue]
          exact ⟨fun same => ⟨by rw [same]; rfl, same⟩, And.right⟩
      | float y => exact compare_float_iff x y

end Number

namespace Value

variable {key : Value}

/-! ## Keys -/

theorem eq_iff_of_number {y : Number} (isNumber : key.number? = some y) (v : Value) :
    v.eq key = true ↔ ∃ x, v.number? = some x ∧ x.compare? y = some .eq := by
  cases key with
  | bool b => cases isNumber; cases v <;> simp [eq, number?]
  | int n => cases isNumber; cases v <;> simp [eq, number?]
  | float x => cases isNumber; cases v <;> simp [eq, number?]
  | _ => cases isNumber

theorem interchangeable_of_number {y : Number} (isNumber : key.number? = some y) : key.Interchangeable := by
  intro other same v
  obtain ⟨x, isOther, equal⟩ := (eq_iff_of_number isNumber other).mp same
  have sameValue := ((Number.compare?_eq_iff x y).mp equal).2
  rw [Bool.eq_iff_iff, eq_iff_of_number isNumber, eq_iff_of_number isOther]
  simp only [Number.compare?_eq_iff, sameValue]

/-- Whatever can be a key of a mapping can be replaced by an equal value. -/
theorem interchangeable_of_isKey (isKey : key.isKey = true) : key.Interchangeable := by
  cases number : key.number? with
  | some y => exact interchangeable_of_number number
  | none =>
      intro other same v
      cases key with
      | list | map | message | result => cases isKey
      | _ =>
          -- equal values that are no numbers are of the same kind
          cases other <;> simp [eq, number?] at same number
          all_goals cases v <;> simp [eq, number?, same]

end Value

end StyleRules
