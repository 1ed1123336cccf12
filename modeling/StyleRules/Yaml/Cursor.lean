import StyleRules.Text.Ranges

/-!
# Positions in a YAML text

A cursor holds what is left of a text and where it begins in the whole.  Columns count characters since the
last line end.  Behind the end of the text stands an endless row of NUL characters, which no text holds.
-/

namespace StyleRules.Yaml

/-- A character that a text may hold. -/
def isShown (c : Char) : Bool :=
  let n := c.toNat
  n = 9 || n = 10 || n = 13 || (0x20 ≤ n && n ≤ 0x7e) || n = 0x85 || (0xa0 ≤ n && n ≤ 0xd7ff) ||
    (0xe000 ≤ n && n ≤ 0xfffd) || 0x10000 ≤ n

def isEnd (c : Char) : Bool := c = '\x00'

/-- A line end. -/
def isBreak (c : Char) : Bool :=
  c = '\r' || c = '\n' || c = '\u0085' || c = '\u2028' || c = '\u2029'

/-- A line end or the end of the text. -/
def isBreakOrEnd (c : Char) : Bool := isEnd c || isBreak c

/-- A space, a line end or the end of the text. -/
def isSpaceOrEnd (c : Char) : Bool := c = ' ' || isBreakOrEnd c

/-- White space or the end of the text. -/
def isBlankOrEnd (c : Char) : Bool := c = '\t' || isSpaceOrEnd c

/-- A letter, a digit, a hyphen or an underscore. -/
def isNameChar (c : Char) : Bool := c.isAlphanum || c = '-' || c = '_'

/-- A place in a text. -/
structure Cursor where
  rest : List Char
  index : Nat
  line : Nat
  column : Nat

namespace Cursor

/-- The beginning of a text. -/
def start (chars : List Char) : Cursor := ⟨chars, 0, 0, 0⟩

/-- The character at a distance. -/
def peek (cursor : Cursor) (distance : Nat) : Char := cursor.rest.getD distance '\x00'

/-- The character at the cursor. -/
def current (cursor : Cursor) : Char := cursor.peek 0

/-- Move on by one character. -/
def next (cursor : Cursor) : Cursor :=
  match cursor.rest with
  | [] => cursor
  | c :: rest =>
    if c = '\r' && rest.head? = some '\n' then ⟨rest, cursor.index + 1, cursor.line, cursor.column + 1⟩
    else if isBreak c then ⟨rest, cursor.index + 1, cursor.line + 1, 0⟩
    else if c = '\ufeff' then ⟨rest, cursor.index + 1, cursor.line, cursor.column⟩
    else ⟨rest, cursor.index + 1, cursor.line, cursor.column + 1⟩

/-- Move on by several characters. -/
def skip : Nat → Cursor → Cursor
  | 0, cursor => cursor
  | n + 1, cursor => skip n cursor.next

/-- The characters of a class at the cursor. -/
def run (accepts : Char → Bool) (cursor : Cursor) : List Char := cursor.rest.takeWhile accepts

/-- Move over the characters of a class. -/
def skipWhile (accepts : Char → Bool) (cursor : Cursor) : Cursor :=
  cursor.skip (cursor.run accepts).length

/-- Move over a line end.  All line ends but the Unicode separators count as line feeds. -/
def lineBreak (cursor : Cursor) : List Char × Cursor :=
  let c := cursor.current
  if c = '\r' && cursor.peek 1 = '\n' then (['\n'], cursor.skip 2)
  else if c = '\r' || c = '\n' || c = '\u0085' then (['\n'], cursor.next)
  else if c = '\u2028' || c = '\u2029' then ([c], cursor.next)
  else ([], cursor)

/-- A document marker stands at the cursor. -/
def atMarker (cursor : Cursor) : Bool :=
  (cursor.rest.take 3 = ['-', '-', '-'] || cursor.rest.take 3 = ['.', '.', '.']) &&
    isBlankOrEnd (cursor.peek 3)

end Cursor

/-- A token of a YAML text. -/
inductive Token where
  /-- The version of the language, of which only the first number matters. -/
  | version (major : Nat)
  /-- A shorthand for tags. -/
  | shorthand (handle target : String)
  | otherDirective
  | documentStart
  | documentEnd
  | blockSequence
  | blockMapping
  | blockEnd
  | flowSequence
  | flowSequenceEnd
  | flowMapping
  | flowMappingEnd
  | key
  | value
  | blockEntry
  | flowEntry
  | alias (name : String)
  | anchor (name : String)
  | tag (handle : Option String) (suffix : String)
  | scalar (text : String) (plain : Bool)
  deriving Repr, DecidableEq

end StyleRules.Yaml
