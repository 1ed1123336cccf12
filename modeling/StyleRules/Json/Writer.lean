import StyleRules.Value.Compare
import StyleRules.Value.Text

/-!
# Writing JSON

Texts are written in ASCII; a character beyond the basic plane becomes a surrogate pair.  Keys that are not
texts are written as the text of their value.  Values that JSON does not know are refused, or replaced by
their plain text when the style says so.
-/

namespace StyleRules.Json

/-- How JSON is laid out. -/
structure Style where
  /-- The indentation of one level; without it everything stands on one line. -/
  indent : Option String := none
  sortKeys : Bool := false
  /-- Write the plain text of values that JSON does not know. -/
  lenient : Bool := false

def unitEscape (n : Nat) : String := "\\u" ++ Text.hexText 4 n

/-- One character between quotes. -/
def escapeChar (c : Char) : String :=
  if c = '"' then "\\\""
  else if c = '\\' then "\\\\"
  else if c = '\n' then "\\n"
  else if c = '\r' then "\\r"
  else if c = '\t' then "\\t"
  else if c = '\x08' then "\\b"
  else if c = '\x0c' then "\\f"
  else if 32 ≤ c.toNat && c.toNat < 127 then String.ofList [c]
  else if c.toNat < 0x10000 then unitEscape c.toNat
  else
    let n := c.toNat - 0x10000
    unitEscape (0xd800 + n / 0x400) ++ unitEscape (0xdc00 + n % 0x400)

/-- A text between quotes. -/
def textLiteral (s : String) : String :=
  "\"" ++ String.join (s.toList.map escapeChar) ++ "\""

def floatLiteral (x : Float) : String := Decimal.floatText "NaN" "Infinity" x

def keyText? : Value → Option String
  | .str s => some s
  | .bool b => some (if b then "true" else "false")
  | .null => some "null"
  | .int n => some (toString n)
  | .float x => some (floatLiteral x)
  | _ => none

/-- Lay out the written parts of a list or mapping. -/
def enclose (style : Style) (level : Nat) (opening closing : String) (parts : List String) : String :=
  if parts.isEmpty then opening ++ closing
  else
    match style.indent with
    | none => opening ++ Text.join ", " parts ++ closing
    | some unit =>
      let line (depth : Nat) : String := "\n" ++ String.join (List.replicate depth unit)
      opening ++ line (level + 1) ++ Text.join ("," ++ line (level + 1)) parts ++ line level ++ closing

/-- Order written entries by their keys when the style asks for it. -/
def arrange (style : Style) (entries : List (Value × String)) : Outcome (List (Value × String)) :=
  if style.sortKeys then Value.sortAscending (·.1) entries else .ok entries

mutual

/-- Write a value at a level of nesting. -/
def writeAt (style : Style) (level : Nat) : Value → Outcome String
  | .null => .ok "null"
  | .bool b => .ok (if b then "true" else "false")
  | .int n => .ok (toString n)
  | .float x => .ok (floatLiteral x)
  | .str s => .ok (textLiteral s)
  | .list items => do
    return enclose style level "[" "]" (← writeItems style (level + 1) items)
  | .map entries => do
    let written ← arrange style (← writeEntries style (level + 1) entries)
    return enclose style level "\x7b" "\x7d" (written.map (·.2))
  | v => if style.lenient then .ok (textLiteral v.text) else Outcome.wrongType

def writeItems (style : Style) (level : Nat) : List Value → Outcome (List String)
  | [] => .ok []
  | v :: rest => do
    let first ← writeAt style level v
    return first :: (← writeItems style level rest)

/-- Write the entries of a mapping, each with its key. -/
def writeEntries (style : Style) (level : Nat) : List (Value × Value) →
    Outcome (List (Value × String))
  | [] => .ok []
  | (k, v) :: rest => do
    match keyText? k with
    | none => Outcome.wrongType
    | some name =>
      let value ← writeAt style level v
      return (k, textLiteral name ++ ": " ++ value) :: (← writeEntries style level rest)

end

/-- Write a value as JSON. -/
def write (style : Style) (v : Value) : Outcome String := writeAt style 0 v

end StyleRules.Json
