import StyleRules.Decimal.Shortest

/-!
# Numbers as text

A double is written with the fewest digits that read back, positionally when its leading digit has a
power of ten from -4 to 15 and with an exponent of at least two digits otherwise.  Reading rounds to the
nearest double.
-/

namespace StyleRules.Decimal

/-- A text of `n` zeros. -/
def zeros (n : Nat) : String :=
  String.ofList (List.replicate n '0')

/-- The exponent part: a sign and at least two digits. -/
def exponentText (power : Int) : String :=
  let digits := toString power.natAbs
  let padded := if digits.length < 2 then "0" ++ digits else digits
  (if power < 0 then "e-" else "e+") ++ padded

/-- Write a positive decimal. -/
def text (d : Decimal) : String :=
  let digits := toString d.digits
  let count := digits.length
  let point : Int := (count : Int) + d.exponent
  if -4 < point ∧ point ≤ 16 then
    if point ≤ 0 then "0." ++ zeros (-point).toNat ++ digits
    else if (count : Int) ≤ point then digits ++ zeros (point - count).toNat ++ ".0"
    else
      let whole := point.toNat
      String.ofList (digits.toList.take whole) ++ "." ++ String.ofList (digits.toList.drop whole)
  else
    let mantissa :=
      match digits.toList with
      | [] => ""
      | [c] => String.ofList [c]
      | c :: rest => String.ofList (c :: '.' :: rest)
    mantissa ++ exponentText (point - 1)

/-- Write a double; NaN and the infinities have the names given. -/
def floatText (nan infinity : String) (x : Float) : String :=
  match Binary.ofFloat x with
  | .nan => nan
  | .infinite negative => if negative then "-" ++ infinity else infinity
  | .finite negative mantissa exponent =>
    let body := if mantissa = 0 then "0.0" else (shortest mantissa exponent).text
    if negative then "-" ++ body else body

/-- The double nearest to `digits * 10 ^ exponent`, where `digits` was read from `count` digits. -/
def ofDigits (negative : Bool) (digits count : Nat) (exponent : Int) : Float :=
  let magnitude : Float :=
    if digits = 0 then 0.0
    else if (count : Int) + exponent < -400 then 0.0
    else if exponent > 400 then 1.0 / 0.0
    else
      match exponent with
      | .ofNat k => Float.ofScientific (digits * Nat.pow 10 k) false 0
      | .negSucc k => Float.ofScientific digits true (k + 1)
  if negative then -magnitude else magnitude

def nan : Float := 0.0 / 0.0

def infinity : Float := 1.0 / 0.0

/-- The digits at the beginning of a text and the rest of it. -/
def takeDigits (chars : List Char) : List Char × List Char :=
  (chars.takeWhile Char.isDigit, chars.dropWhile Char.isDigit)

/-- The number that decimal digits write. -/
def digitsValue (digits : List Char) : Nat :=
  digits.foldl (fun total c => 10 * total + (c.toNat - '0'.toNat)) 0

/-- Read a signed exponent after its mark; the digits must be all that is left. -/
def readExponent? : List Char → Option Int
  | '+' :: digits => whole? digits
  | '-' :: digits => (whole? digits).map (- ·)
  | digits => whole? digits
where
  /-- Digits only, at least one. -/
  whole? (digits : List Char) : Option Int :=
    if digits.isEmpty || !digits.all Char.isDigit then none
    else some (digitsValue digits)

/-- Read an unsigned decimal: digits with an optional point and exponent, at least one digit. -/
def readUnsigned? (negative : Bool) (chars : List Char) : Option Float :=
  let (whole, rest) := takeDigits chars
  let (part, rest) :=
    match rest with
    | '.' :: more => takeDigits more
    | _ => ([], rest)
  if whole.isEmpty && part.isEmpty then none
  else
    let digits := whole ++ part
    let build (exponent : Int) : Float :=
      ofDigits negative (digitsValue digits) digits.length (exponent - part.length)
    match rest with
    | [] => some (build 0)
    | mark :: more =>
      if mark = 'e' || mark = 'E' then (readExponent? more).map build else none

end StyleRules.Decimal
