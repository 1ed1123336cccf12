import StyleRules.Yaml.Cursor
import StyleRules.Yaml.Scalar

/-!
# Styles of written scalars

A scalar is written plain when its text cannot be mistaken for anything else, and in single quotes
otherwise.  Texts with characters beyond printable ASCII, and texts in which line ends and spaces meet, need
double quotes.
-/

namespace StyleRules.Yaml

/-- How a scalar is written. -/
inductive ScalarStyle where
  | plain
  | single
  | double
  deriving Repr, DecidableEq

namespace ScalarStyle

/-- A character that single quotes and plain text can show. -/
def isSimple (c : Char) : Bool := c = '\n' || (32 ≤ c.toNat && c.toNat < 127)

/-- The text begins like a document marker. -/
def beginsAsMarker (chars : List Char) : Bool :=
  chars.take 3 = ['-', '-', '-'] || chars.take 3 = ['.', '.', '.']

/-- A character that marks something when a scalar begins with it. -/
def isLeadingMark (c : Char) : Bool := "#,[]\x7b\x7d&*!|>'\"%@`".toList.contains c

/-- The first character marks something; some marks need white space behind them. -/
def marksAtStart (chars : List Char) : Bool :=
  match chars with
  | [] => false
  | c :: rest =>
    isLeadingMark c || ((c = '?' || c = ':' || c = '-') && isBlankOrEnd (rest.headD '\x00'))

/-- A later character marks something: a colon before white space, or a number sign behind it. -/
def marksInside (before : Char) : List Char → Bool
  | [] => false
  | c :: rest =>
    (c = ':' && isBlankOrEnd (rest.headD '\x00')) || (c = '#' && isBlankOrEnd before) ||
      marksInside c rest

/-- The text would be read as something else than a scalar. -/
def hasMarks (chars : List Char) : Bool :=
  beginsAsMarker chars || marksAtStart chars || marksInside (chars.headD '\x00') (chars.drop 1)

/-- Two characters of the given classes stand side by side. -/
def meet (first second : Char) : List Char → Bool
  | a :: b :: rest => (a = first && b = second) || meet first second (b :: rest)
  | _ => false

/-- A space or line end stands at the beginning or at the end. -/
def hasLooseEnds (chars : List Char) : Bool :=
  let loose (c : Option Char) : Bool := c = some ' ' || c = some '\n'
  loose chars.head? || loose chars.getLast?

/-- The text can be written plain inside a block, as far as its characters go. -/
def allowsPlain (chars : List Char) : Bool :=
  !hasLooseEnds chars && !chars.contains '\n' && chars.all isSimple && !hasMarks chars

/-- The text can be written in single quotes. -/
def allowsSingle (chars : List Char) : Bool :=
  chars.all isSimple && !meet ' ' '\n' chars && !meet '\n' ' ' chars

/-- The style of a text.  `recognised` tells that its plain form would be read with the right kind, and
`inKey` that it has to stay on one line. -/
def choose (recognised inKey : Bool) (text : String) : ScalarStyle :=
  let chars := text.toList
  let crossesLines := inKey && chars.contains '\n'
  if recognised && !crossesLines && allowsPlain chars then .plain
  else if allowsSingle chars && !crossesLines then .single
  else .double

end ScalarStyle

end StyleRules.Yaml
