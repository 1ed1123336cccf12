/-!
# Floating point numbers as exact binary fractions

A finite double is a sign, a mantissa and a power of two.  Comparisons with integers and the choice of
decimal digits work on that exact value.
-/

namespace StyleRules.Decimal

/-- What a double stands for; a finite one is `mantissa * 2 ^ exponent` with its sign. -/
inductive Binary where
  | nan
  | infinite (negative : Bool)
  | finite (negative : Bool) (mantissa : Nat) (exponent : Int)
  deriving Repr, DecidableEq

/-- Decode the bits of a double. -/
def Binary.ofFloat (x : Float) : Binary :=
  let bits : Nat := x.toBits.toNat
  let negative := bits / Nat.pow 2 63 = 1
  let field : Nat := bits / Nat.pow 2 52 % 2048
  let low : Nat := bits % Nat.pow 2 52
  if field = 2047 then
    if low = 0 then .infinite negative else .nan
  else if field = 0 then .finite negative low (-1074)
  else .finite negative (Nat.pow 2 52 + low) ((field : Int) - 1075)

/-- The numerator and denominator of `mantissa * 2 ^ exponent`. -/
def fraction (mantissa : Nat) (exponent : Int) : Nat × Nat :=
  match exponent with
  | .ofNat k => (mantissa * Nat.pow 2 k, 1)
  | .negSucc k => (mantissa, Nat.pow 2 (k + 1))

/-- How an integer compares with a double; nothing compares with NaN. -/
def compareInt? (n : Int) (x : Float) : Option Ordering :=
  match Binary.ofFloat x with
  | .nan => none
  | .infinite negative => some (if negative then .gt else .lt)
  | .finite negative mantissa exponent =>
    let (num, den) := fraction mantissa exponent
    let value : Int := if negative then -(num : Int) else num
    some (compare (n * den) value)

/-- The integer part of a finite double, toward zero. -/
def truncate? (x : Float) : Option Int :=
  match Binary.ofFloat x with
  | .finite negative mantissa exponent =>
    let (num, den) := fraction mantissa exponent
    let whole : Nat := num / den
    some (if negative then -(whole : Int) else whole)
  | _ => none

def isInteger (x : Float) : Bool :=
  match Binary.ofFloat x with
  | .finite _ mantissa exponent =>
    let (num, den) := fraction mantissa exponent
    num % den = 0
  | _ => false

/-- Integers from here on have no nearest finite double. -/
def overflowBound : Nat := Nat.pow 2 1024 - Nat.pow 2 970

/-- The integer has a nearest finite double. -/
def fitsFloat (n : Int) : Bool :=
  n.natAbs < overflowBound

end StyleRules.Decimal
