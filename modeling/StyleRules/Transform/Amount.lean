import StyleRules.Text.Ranges

/-!
# Decimal amounts

A number is written as a decimal, possibly with a fraction and a power of ten.  Numbers are compared exactly.
Anything else is no number.
-/

namespace StyleRules

/-- The number `± digits · 10 ^ scale`. -/
structure Amount where
  negative : Bool
  digits : Nat
  scale : Int
  deriving Repr, DecidableEq

namespace Amount

/-- White space around a number. -/
def isSpace (c : Char) : Bool := c = ' ' || c = '\t' || c = '\n' || c = '\r'

/-- A natural number as an amount. -/
def ofNat (n : Nat) : Amount := ⟨false, n, 0⟩

/-- The power of ten behind a number; without digits it is zero.  Powers beyond four digits are cut down. -/
def power? : List Char → Option Int
  | [] => some 0
  | mark :: rest =>
    if mark = 'e' || mark = 'E' then
      let (negative, digits) := match rest with
        | '-' :: digits => (true, digits)
        | '+' :: digits => (false, digits)
        | digits => (false, digits)
      if digits.all Char.isDigit then
        let size : Int := min (Text.readDecimal digits) 9999
        some (if negative then -size else size)
      else none
    else none

/-- Read an amount without a sign. -/
def readUnsigned? (negative : Bool) (chars : List Char) : Option Amount :=
  let whole := chars.takeWhile Char.isDigit
  let (fraction, rest) := match chars.dropWhile Char.isDigit with
    | '.' :: rest => (rest.takeWhile Char.isDigit, rest.dropWhile Char.isDigit)
    | rest => ([], rest)
  if whole.isEmpty && fraction.isEmpty then none
  else (power? rest).map fun power =>
    ⟨negative, Text.readDecimal (whole ++ fraction), power - fraction.length⟩

/-- Read an amount; white space may surround it. -/
def read? (s : String) : Option Amount :=
  let chars := (s.toList.dropWhile isSpace).reverse.dropWhile isSpace |>.reverse
  match chars with
  | '-' :: rest => readUnsigned? true rest
  | _ => readUnsigned? false chars

def signed (amount : Amount) : Int := if amount.negative then -amount.digits else amount.digits

/-- Two amounts, both multiplied by the power of ten that makes them integers. -/
def aligned (a b : Amount) : Int × Int :=
  let low := min a.scale b.scale
  (a.signed * (Nat.pow 10 (a.scale - low).toNat : Nat), b.signed * (Nat.pow 10 (b.scale - low).toNat : Nat))

def isLess (a b : Amount) : Bool := (aligned a b).1 < (aligned a b).2

def isEqual (a b : Amount) : Bool := (aligned a b).1 = (aligned a b).2

/-- Write an amount with all its digits and without a power of ten. -/
def text (amount : Amount) : String :=
  let whole := amount.digits * Nat.pow 10 amount.scale.toNat
  let places := (-amount.scale).toNat
  let fraction := toString (whole % Nat.pow 10 places)
  let padded := List.replicate (places - fraction.length) '0' ++ fraction.toList
  let kept := (padded.reverse.dropWhile (· = '0')).reverse
  (if amount.negative && amount.digits ≠ 0 then "-" else "") ++ toString (whole / Nat.pow 10 places) ++
    (if kept.isEmpty then "" else "." ++ String.ofList kept)

end Amount

end StyleRules
