import StyleRules.Decimal.Binary

/-!
# The fewest decimal digits that read back

Among the decimals that round to a given double, `shortest` picks one with the fewest digits, and of
those the nearest to the double, on a tie the even one.  All work is exact arithmetic on natural numbers.
-/

namespace StyleRules

/-- The decimal `digits * 10 ^ exponent`. -/
structure Decimal where
  digits : Nat
  exponent : Int
  deriving Repr, DecidableEq

namespace Decimal

/-- The decimals that round to a positive double lie between `low / den` and `high / den`; the ends belong
to them when `closed`.  The double itself is `value / den`. -/
structure Interval where
  low : Nat
  value : Nat
  high : Nat
  den : Nat
  closed : Bool

/-- The interval of `mantissa * 2 ^ exponent`.  Below a power of two the doubles are twice as dense. -/
def Interval.ofBinary (mantissa : Nat) (exponent : Int) : Interval :=
  let below := if mantissa = Nat.pow 2 52 && exponent > -1074 then 1 else 2
  let (scale, den) := fraction 1 (exponent - 2)
  ⟨(4 * mantissa - below) * scale, 4 * mantissa * scale, (4 * mantissa + 2) * scale, den,
    mantissa % 2 = 0⟩

/-- Multiply a fraction by a power of ten. -/
def scaleTen (num den : Nat) (power : Int) : Nat × Nat :=
  match power with
  | .ofNat k => (num * Nat.pow 10 k, den)
  | .negSucc k => (num, den * Nat.pow 10 (k + 1))

/-- The greatest power of ten that is at most `num / den`, for a positive fraction. -/
def leadingPower (num den : Nat) : Int :=
  let guess : Int := ((Nat.log2 num : Int) - (Nat.log2 den : Int)) * 30103 / 100000
  let atMost (power : Int) : Bool :=
    let (n, d) := scaleTen num den (-power)
    d ≤ n
  if atMost (guess + 2) then guess + 2
  else if atMost (guess + 1) then guess + 1
  else if atMost guess then guess
  else if atMost (guess - 1) then guess - 1
  else guess - 2

/-- The decimal `digits * 10 ^ power` rounds to the double. -/
def Interval.contains (range : Interval) (digits : Nat) (power : Int) : Bool :=
  let (num, den) := scaleTen digits 1 power
  let place := num * range.den
  if range.closed then range.low * den ≤ place && place ≤ range.high * den
  else range.low * den < place && place < range.high * den

/-- The best decimal with the grid of the given power of ten, if one rounds to the double. -/
def Interval.onGrid? (range : Interval) (power : Int) : Option Decimal :=
  let (num, den) := scaleTen range.value range.den (-power)
  let floor := num / den
  let rest := num % den
  let preferUp := 2 * rest > den || (2 * rest = den && floor % 2 = 1)
  let first := if preferUp then floor + 1 else floor
  let second := if preferUp then floor else floor + 1
  if first ≠ 0 && range.contains first power then some ⟨first, power⟩
  else if second ≠ 0 && range.contains second power then some ⟨second, power⟩
  else none

/-- Drop trailing zeros of the digits; `fuel` bounds their number. -/
def normalize (d : Decimal) : Nat → Decimal
  | 0 => d
  | fuel + 1 =>
    if d.digits % 10 = 0 && d.digits ≠ 0 then
      normalize ⟨d.digits / 10, d.exponent + 1⟩ fuel
    else d

/-- The shortest decimal of the positive double `mantissa * 2 ^ exponent`.  Seventeen digits always
suffice, so the last grid is the fallback. -/
def shortest (mantissa : Nat) (exponent : Int) : Decimal :=
  let range := Interval.ofBinary mantissa exponent
  let top := leadingPower range.value range.den
  let grids := (List.range 17).map fun (n : Nat) => top - (n : Int)
  match grids.findSome? range.onGrid? with
  | some decimal => decimal.normalize 20
  | none => ⟨0, 0⟩

end Decimal

end StyleRules
