import StyleRules.Decimal.Text
import StyleRules.Text.Bytes
import StyleRules.Text.Case
import StyleRules.Value.Text

/-!
# What YAML scalars mean

A plain scalar is null, a truth value, a number, a date or a text, depending on its form.  Integers may be
binary, octal, hexadecimal or sexagesimal, and underscores may stand between digits.
-/

namespace StyleRules.Yaml

/-- The kinds of scalars that plain text is recognised as. -/
inductive ScalarKind where
  | null | bool | int | float | timestamp | bytes | text | merge | default
  deriving Repr, DecidableEq

namespace Scalar

/-- The characters behind an optional sign, and whether the sign is a minus. -/
def unsigned (chars : List Char) : Bool × List Char :=
  match chars with
  | '-' :: rest => (true, rest)
  | '+' :: rest => (false, rest)
  | rest => (false, rest)

def isDigitMark (c : Char) : Bool := c.isDigit || c = '_'

/-- A hexadecimal digit or an underscore. -/
def isHexMark (c : Char) : Bool :=
  isDigitMark c || ('a' ≤ c && c ≤ 'f') || ('A' ≤ c && c ≤ 'F')

/-- Sexagesimal digits: at least one group of one or two digits below 60, each behind a colon. -/
def isSexagesimal : List Char → Bool
  | [':', a] => a.isDigit
  | [':', a, b] => '0' ≤ a && a ≤ '5' && b.isDigit
  | ':' :: a :: ':' :: rest => a.isDigit && isSexagesimal (':' :: rest)
  | ':' :: a :: b :: ':' :: rest => '0' ≤ a && a ≤ '5' && b.isDigit && isSexagesimal (':' :: rest)
  | _ => false

/-- The form of a decimal integer, possibly sexagesimal. -/
def isDecimalForm (chars : List Char) : Bool :=
  match chars with
  | c :: rest =>
    '1' ≤ c && c ≤ '9' &&
      (let after := rest.dropWhile isDigitMark
      after.isEmpty || isSexagesimal after)
  | [] => false

def isIntForm (text : List Char) : Bool :=
  match (unsigned text).2 with
  | ['0'] => true
  | '0' :: 'b' :: c :: rest => (c :: rest).all fun c => c = '0' || c = '1' || c = '_'
  | '0' :: 'x' :: c :: rest => (c :: rest).all isHexMark
  | '0' :: rest => rest.all fun c => ('0' ≤ c && c ≤ '7') || c = '_'
  | chars => isDecimalForm chars

/-- The form of a power of ten, which may be missing.  Its sign may not. -/
def isPowerForm (chars : List Char) : Bool :=
  match chars with
  | [] => true
  | e :: sign :: d :: rest =>
    (e = 'e' || e = 'E') && (sign = '+' || sign = '-') && (d :: rest).all Char.isDigit
  | _ => false

/-- The form of a number with a point between digits. -/
def isPointForm (chars : List Char) : Bool :=
  match chars with
  | c :: rest =>
    c.isDigit &&
      (match rest.dropWhile isDigitMark with
      | '.' :: rest => isPowerForm (rest.dropWhile isDigitMark)
      | ':' :: more =>
        let groups := (':' :: more).takeWhile (· ≠ '.')
        isSexagesimal groups &&
          (match (':' :: more).dropWhile (· ≠ '.') with
          | '.' :: rest => rest.all isDigitMark
          | _ => false)
      | _ => false)
  | [] => false

/-- The form of a number that begins with a point. -/
def isFractionForm (chars : List Char) : Bool :=
  match chars with
  | '.' :: c :: rest => c.isDigit && isPowerForm (rest.dropWhile isDigitMark)
  | _ => false

def isFloatForm (text : List Char) : Bool :=
  let chars := (unsigned text).2
  isPointForm chars || isFractionForm text ||
    [".inf", ".Inf", ".INF"].any (fun name => chars = name.toList) ||
    [".nan", ".NaN", ".NAN"].any (fun name => text = name.toList)

/-- The characters are digits, as many as given. -/
def areDigits (count : Nat) (chars : List Char) : Bool := chars.length = count && chars.all Char.isDigit

/-- Take one or two digits. -/
def takeShort? (chars : List Char) : Option (Nat × List Char) :=
  match chars with
  | a :: b :: rest =>
    if a.isDigit && b.isDigit then some (Text.readDecimal [a, b], rest)
    else if a.isDigit then some (Text.readDecimal [a], b :: rest) else none
  | [a] => if a.isDigit then some (Text.readDecimal [a], []) else none
  | [] => none

/-- Take exactly two digits. -/
def takePair? (chars : List Char) : Option (Nat × List Char) :=
  match chars with
  | a :: b :: rest => if a.isDigit && b.isDigit then some (Text.readDecimal [a, b], rest) else none
  | _ => none

def takeMark? (mark : Char) (chars : List Char) : Option (List Char) :=
  match chars with
  | c :: rest => if c = mark then some rest else none
  | [] => none

/-- Take year, month and day; month and day may have one digit. -/
def takeDate? (chars : List Char) : Option (Date × List Char) :=
  if areDigits 4 (chars.take 4) then do
    let (month, rest) ← takeShort? (← takeMark? '-' (chars.drop 4))
    let (day, rest) ← takeShort? (← takeMark? '-' rest)
    return (⟨Text.readDecimal (chars.take 4), month, day⟩, rest)
  else none

/-- Read an offset from universal time in seconds; nothing stands for an unknown one. -/
def offset? (chars : List Char) : Option (Option Int) :=
  match chars with
  | [] => some none
  | ['Z'] => some (some 0)
  | sign :: rest =>
    if sign = '+' || sign = '-' then do
      let (hours, rest) ← takeShort? rest
      let minutes ←
        match rest with
        | [] => some 0
        | _ =>
          match takeMark? ':' rest >>= takePair? with
          | some (minutes, []) => some minutes
          | _ => none
      let size : Int := hours * 3600 + minutes * 60
      return some (if sign = '-' then -size else size)
    else none

/-- Microseconds from the digits behind the point of a second. -/
def micro (digits : List Char) : Nat :=
  let shown := digits.take 6
  Text.readDecimal shown * Nat.pow 10 (6 - shown.length)

/-- Read a date with a time of day. -/
def moment? (chars : List Char) : Option Moment := do
  let (date, rest) ← takeDate? chars
  let isGap (c : Char) : Bool := c = ' ' || c = '\t'
  let rest ←
    match rest with
    | c :: more =>
      if c = 'T' || c = 't' then some more else if isGap c then some (more.dropWhile isGap) else none
    | [] => none
  let (hour, rest) ← takeShort? rest
  let (minute, rest) ← takeMark? ':' rest >>= takePair?
  let (second, rest) ← takeMark? ':' rest >>= takePair?
  let (digits, rest) :=
    match rest with
    | '.' :: rest => (rest.takeWhile Char.isDigit, rest.dropWhile Char.isDigit)
    | rest => ([], rest)
  let gapless := rest.dropWhile isGap
  if gapless.isEmpty && !rest.isEmpty then none
  else
    let offset ← offset? gapless
    return ⟨date, hour, minute, second, micro digits, offset⟩

/-- Read a date of four, two and two digits. -/
def date? (chars : List Char) : Option Date :=
  if chars.length = 10 then
    match takeDate? chars with
    | some (date, []) => some date
    | _ => none
  else none

/-- The form of a date or a moment. -/
def isTimestampForm (text : List Char) : Bool := (date? text).isSome || (moment? text).isSome

/-- The texts of the truth values. -/
def trueTexts : List String := ["yes", "true", "on"]

/-- The texts of the truth values. -/
def falseTexts : List String := ["no", "false", "off"]

/-- A word in lower case, with a capital at its beginning, or in upper case. -/
def isCaseForm (word text : String) : Bool :=
  text = word || text = word.capitalize || text = word.toUpper

/-- What a plain scalar is recognised as. -/
def kindOf (text : String) : ScalarKind :=
  let chars := text.toList
  if (trueTexts ++ falseTexts).any fun word => isCaseForm word text then .bool
  else if isFloatForm chars then .float
  else if isIntForm chars then .int
  else if text = "<<" then .merge
  else if text.isEmpty || text = "~" || isCaseForm "null" text then .null
  else if isTimestampForm chars then .timestamp
  else if text = "=" then .default
  else .text

/-- Read digits of a base; there has to be one at least. -/
def readBase? (base : Nat) (chars : List Char) : Option Int :=
  if chars.isEmpty || chars.any (fun c => !isHexMark c || c = '_' || base ≤ Text.hexDigit c) then none
  else some (chars.foldl (fun total c => base * total + Text.hexDigit c) 0 : Nat)

def readSexagesimal? (chars : List Char) : Option Int :=
  (Text.splitOn ':' chars).foldl (fun total part => do
    return 60 * (← total) + (← readBase? 10 part)) (some 0)

/-- A text without its underscores. -/
def withoutMarks (text : String) : List Char := text.toList.filter (· ≠ '_')

/-- The integer that a text writes. -/
def readInt? (text : String) : Option Int :=
  let (negative, chars) := unsigned (withoutMarks text)
  let size := match chars with
    | ['0'] => some 0
    | '0' :: 'b' :: rest => readBase? 2 rest
    | '0' :: 'x' :: rest => readBase? 16 rest
    | '0' :: rest => readBase? 8 ('0' :: rest)
    | chars => if chars.contains ':' then readSexagesimal? chars else readBase? 10 chars
  size.map fun size => if negative then -size else size

/-- The double that sexagesimal digits write; the last part is added first. -/
def readSexagesimalFloat? : List (List Char) → Option (Float × Float)
  | [] => some (0.0, 1.0)
  | part :: rest => do
    let (total, unit) ← readSexagesimalFloat? rest
    let digits ← Decimal.readUnsigned? false part
    return (total + digits * unit, unit * 60.0)

/-- The double that a text without a sign writes. -/
def readUnsignedFloat? (chars : List Char) : Option Float :=
  if chars = ".inf".toList then some Decimal.infinity
  else if chars = ".nan".toList then some Decimal.nan
  else if chars.contains ':' then (readSexagesimalFloat? (Text.splitOn ':' chars)).map (·.1)
  else Decimal.readUnsigned? false chars

/-- The double that a text writes. -/
def readFloat? (text : String) : Option Float :=
  let (negative, chars) := unsigned ((withoutMarks text).map Char.toLower)
  (readUnsignedFloat? chars).map fun x => if negative then -x else x

/-- The bytes that a text of ASCII characters writes. -/
def readBytes? (text : String) : Option (List UInt8) :=
  let chars := text.toList
  if chars.all fun c => c.toNat < 128 then Base64.decode? chars else none

/-- The value of a scalar of some kind.  A text that does not have the form of its kind cannot be
converted; an integer without any digit and an empty double lack even their first character. -/
def valueOf (kind : ScalarKind) (text : String) : Outcome Value :=
  let convert (found : Option Value) : Outcome Value :=
    match found with
    | some v => .ok v
    | none => .error (.misuse .value)
  match kind with
  | .null => .ok .null
  | .bool =>
    let word := Text.lower text
    if trueTexts.contains word then .ok (.bool true)
    else if falseTexts.contains word then .ok (.bool false)
    else .error (.missingKey (Text.quoted word))
  | .int =>
    if (unsigned (withoutMarks text)).2.isEmpty then .error (.misuse .index)
    else convert ((readInt? text).map .int)
  | .float =>
    if (withoutMarks text).isEmpty then .error (.misuse .index)
    else convert ((readFloat? text).map .float)
  | .bytes =>
    match readBytes? text with
    | some bytes => .ok (.bytes bytes)
    | none => .error .malformedYaml
  | .timestamp =>
    match takeDate? text.toList with
    | some (date, []) => convert (if date.isValid then some (.date date) else none)
    | _ =>
      match moment? text.toList with
      | some moment =>
        let valid := moment.isValid && (moment.offset.getD 0).natAbs < 86400
        convert (if valid then some (.moment moment) else none)
      | none => Outcome.noAttribute
  | .text => .ok (.str text)
  | .merge | .default => .error .malformedYaml

end Scalar

end StyleRules.Yaml
