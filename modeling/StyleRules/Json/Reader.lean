import StyleRules.Decimal.Text
import StyleRules.Text.Ranges
import StyleRules.Text.Search
import StyleRules.Value.Mapping

/-!
# Reading JSON

JSON as it is usually read: besides the standard, the numbers `NaN`, `Infinity` and `-Infinity` are known,
and of repeated keys the last one counts.  A fault names what was expected and where.
-/

namespace StyleRules.Json

/-- What is wrong with a text, and what is left of it from the offending character on. -/
structure Fault where
  reason : String
  rest : List Char

/-- White space between parts. -/
def isSpace (c : Char) : Bool := c = ' ' || c = '\t' || c = '\n' || c = '\r'

/-- Drop white space. -/
def skipSpace (chars : List Char) : List Char := chars.dropWhile isSpace

/-- The value of a hexadecimal digit. -/
def hexDigit? (c : Char) : Option Nat :=
  if c.isDigit || ('a' ≤ c && c ≤ 'f') || ('A' ≤ c && c ≤ 'F') then some (Text.hexDigit c) else none

/-- The 16-bit unit that four hexadecimal digits write, and what is left behind them. -/
def unit? : List Char → Option (Nat × List Char)
  | a :: b :: c :: d :: rest => do
    let high := 16 * (← hexDigit? a) + (← hexDigit? b)
    let low := 16 * (← hexDigit? c) + (← hexDigit? d)
    return (256 * high + low, rest)
  | _ => none

/-- The character of a 16-bit unit; half of a pair stands for nothing. -/
def unitChar (unit : Nat) : Char :=
  if unit.isValidChar then Char.ofNat unit else '\ufffd'

/-- The character of an escape with one letter. -/
def escaped? (c : Char) : Option Char :=
  match c with
  | '"' => some '"'
  | '\\' => some '\\'
  | '/' => some '/'
  | 'b' => some '\x08'
  | 'f' => some '\x0c'
  | 'n' => some '\n'
  | 'r' => some '\r'
  | 't' => some '\t'
  | _ => none

/-- Read the escape of a 16-bit unit behind the backslash, whose first character is `u`.  Two units that make
up a pair are one character. -/
def escapedUnit (chars : List Char) : Except Fault (Char × List Char) :=
  let fault : Fault := ⟨"Invalid \\uXXXX escape", chars⟩
  match unit? (chars.drop 1) with
  | none => .error fault
  | some (_, []) => .error fault
  | some (high, rest) =>
    if 0xd800 ≤ high && high < 0xdc00 then
      match rest with
      | '\\' :: 'u' :: digits =>
        if digits.length ≤ 4 then .ok (unitChar high, rest)
        else
          match unit? digits with
          | none => .error ⟨"Invalid \\uXXXX escape", rest.drop 1⟩
          | some (low, rest') =>
            if 0xdc00 ≤ low && low < 0xe000 then
              .ok (Char.ofNat (0x10000 + (high - 0xd800) * 0x400 + (low - 0xdc00)), rest')
            else .ok (unitChar high, rest)
      | _ => .ok (unitChar high, rest)
    else .ok (unitChar high, rest)

/-- Read the characters of a text up to its closing quote.  `start` is the text from its opening quote on;
`fuel` bounds the number of characters. -/
def textChars (start : List Char) : Nat → List Char → Except Fault (List Char × List Char)
  | 0, _ => .error ⟨"Unterminated string starting at", start⟩
  | fuel + 1, chars =>
    match chars with
    | [] => .error ⟨"Unterminated string starting at", start⟩
    | '"' :: rest => .ok ([], rest)
    | '\\' :: rest =>
      match rest with
      | [] => .error ⟨"Unterminated string starting at", start⟩
      | 'u' :: _ => do
        let (c, rest) ← escapedUnit rest
        let (others, rest) ← textChars start fuel rest
        return (c :: others, rest)
      | mark :: rest =>
        match escaped? mark with
        | none => .error ⟨"Invalid \\escape", chars⟩
        | some c => do
          let (others, rest) ← textChars start fuel rest
          return (c :: others, rest)
    | c :: rest =>
      if c.toNat < 32 then .error ⟨"Invalid control character at", chars⟩
      else do
        let (others, rest) ← textChars start fuel rest
        return (c :: others, rest)

/-- Read a text from its opening quote on. -/
def text (chars : List Char) : Except Fault (String × List Char) := do
  let (inside, rest) ← textChars chars (chars.length + 1) (chars.drop 1)
  return (String.ofList inside, rest)

/-- The digits behind a decimal point; without digits there is no fraction. -/
def fraction? : List Char → Option (List Char × List Char)
  | '.' :: c :: rest =>
    if c.isDigit then some (c :: rest.takeWhile Char.isDigit, rest.dropWhile Char.isDigit) else none
  | _ => none

/-- The power of ten behind a number; without digits there is none. -/
def power? : List Char → Option (Int × List Char)
  | mark :: rest =>
    if mark = 'e' || mark = 'E' then
      let (negative, digits) := match rest with
        | '-' :: digits => (true, digits)
        | '+' :: digits => (false, digits)
        | digits => (false, digits)
      let size : Int := Text.readDecimal (digits.takeWhile Char.isDigit)
      if digits.takeWhile Char.isDigit = [] then none
      else some (if negative then -size else size, digits.dropWhile Char.isDigit)
    else none
  | [] => none

/-- Read a number without its sign. -/
def unsigned? (negative : Bool) (chars : List Char) : Option (Value × List Char) :=
  match chars with
  | [] => none
  | c :: rest =>
    if !c.isDigit then none
    else
      let (whole, rest) :=
        if c = '0' then (['0'], rest)
        else (c :: rest.takeWhile Char.isDigit, rest.dropWhile Char.isDigit)
      let size : Int := Text.readDecimal whole
      match fraction? rest, power? ((fraction? rest).map (·.2) |>.getD rest) with
      | none, none => some (.int (if negative then -size else size), rest)
      | part, power =>
        let digits := whole ++ (part.map (·.1)).getD []
        let scale := (power.map (·.1)).getD 0 - ((part.map (·.1.length)).getD 0 : Nat)
        let left := (power.map (·.2)).getD ((part.map (·.2)).getD rest)
        some (.float (Decimal.ofDigits negative (Text.readDecimal digits) digits.length scale), left)

def named : List (String × Value) :=
  [("null", .null), ("true", .bool true), ("false", .bool false), ("NaN", .float Decimal.nan),
    ("Infinity", .float Decimal.infinity), ("-Infinity", .float (-Decimal.infinity))]

/-- Read a named value or a number. -/
def plain (chars : List Char) : Except Fault (Value × List Char) :=
  match named.findSome? fun (name, v) => (Text.dropStart? name.toList chars).map fun rest => (v, rest) with
  | some found => .ok found
  | none =>
    let number := match chars with
      | '-' :: rest => unsigned? true rest
      | _ => unsigned? false chars
    match number with
    | some found => .ok found
    | none => .error ⟨"Expecting value", chars⟩

mutual

/-- Read a value; `fuel` bounds the depth and the length of the text. -/
def valueUpTo : Nat → List Char → Except Fault (Value × List Char)
  | 0, chars => .error ⟨"Expecting value", chars⟩
  | fuel + 1, chars =>
    match chars with
    | '"' :: _ => do
      let (s, rest) ← text chars
      return (.str s, rest)
    | '[' :: rest =>
      match skipSpace rest with
      | ']' :: rest => .ok (.list [], rest)
      | next => do
        let (items, rest) ← itemsUpTo fuel next
        return (.list items, rest)
    | '\x7b' :: rest =>
      match skipSpace rest with
      | '\x7d' :: rest => .ok (.map [], rest)
      | next => do
        let (entries, rest) ← entriesUpTo fuel [] next
        return (.map entries, rest)
    | _ => plain chars

/-- Read the items of a list, of which there is at least one. -/
def itemsUpTo : Nat → List Char → Except Fault (List Value × List Char)
  | 0, chars => .error ⟨"Expecting value", chars⟩
  | fuel + 1, chars => do
    let (first, rest) ← valueUpTo fuel chars
    match skipSpace rest with
    | ']' :: rest => return ([first], rest)
    | ',' :: rest =>
      let (others, rest) ← itemsUpTo fuel (skipSpace rest)
      return (first :: others, rest)
    | next => .error ⟨"Expecting ',' delimiter", next⟩

/-- Read the entries of a mapping, of which there is at least one more than those already read. -/
def entriesUpTo : Nat → List (Value × Value) → List Char → Except Fault (List (Value × Value) × List Char)
  | 0, _, chars => .error ⟨"Expecting value", chars⟩
  | fuel + 1, known, chars =>
    match chars with
    | '"' :: _ => do
      let (key, rest) ← text chars
      match skipSpace rest with
      | ':' :: rest =>
        let (value, rest) ← valueUpTo fuel (skipSpace rest)
        let known := Mapping.insert (.str key) value known
        match skipSpace rest with
        | '\x7d' :: rest => return (known, rest)
        | ',' :: rest => entriesUpTo fuel known (skipSpace rest)
        | next => .error ⟨"Expecting ',' delimiter", next⟩
      | next => .error ⟨"Expecting ':' delimiter", next⟩
    | _ => .error ⟨"Expecting property name enclosed in double quotes", chars⟩

end

/-- Locate a fault in the whole text. -/
def Fault.locate (fault : Fault) (whole : List Char) : JsonFault :=
  let before := whole.take (whole.length - fault.rest.length)
  ⟨fault.reason, before.count '\n' + 1, (before.reverse.takeWhile (· ≠ '\n')).length + 1, before.length⟩

/-- Read a whole text. -/
def readChars (chars : List Char) : Except Fault Value :=
  match chars with
  | '\ufeff' :: _ => .error ⟨"Unexpected UTF-8 BOM (decode using utf-8-sig)", chars⟩
  | _ => do
    let (v, rest) ← valueUpTo (2 * chars.length + 2) (skipSpace chars)
    match skipSpace rest with
    | [] => return v
    | next => .error ⟨"Extra data", next⟩

def read (s : String) : Outcome Value :=
  match readChars s.toList with
  | .ok v => .ok v
  | .error fault => .error (.malformedJson (fault.locate s.toList))

end StyleRules.Json
