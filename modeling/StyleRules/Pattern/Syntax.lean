import StyleRules.Text.Classes

/-!
# Patterns as trees

The syntax tree of a search pattern.  A character class lists single characters, ranges and the named
classes; groups that capture are numbered from one in the order of their opening parentheses.
-/

namespace StyleRules

/-- One member of a character class. -/
inductive ClassItem where
  | single (c : Char)
  | range (lo hi : Char)
  | digit (negated : Bool)
  | word (negated : Bool)
  | blank (negated : Bool)
  deriving Repr, DecidableEq

/-- Where an anchor holds. -/
inductive Anchor where
  | textStart
  | textEnd
  | lineStart
  | lineEnd
  | wordEdge
  | insideWord
  deriving Repr, DecidableEq

/-- The switches of a pattern: ignoring case, anchors at every line, the dot matching line ends, and
classes limited to ASCII. -/
structure PatternFlags where
  ignoreCase : Bool := false
  multiLine : Bool := false
  dotAll : Bool := false
  ascii : Bool := false
  verbose : Bool := false
  deriving Repr, DecidableEq

inductive Pattern where
  | empty
  | char (c : Char) (flags : PatternFlags)
  | any (flags : PatternFlags)
  | oneOf (items : List ClassItem) (negated : Bool) (flags : PatternFlags)
  | anchor (kind : Anchor) (flags : PatternFlags)
  | sequence (first second : Pattern)
  | choice (first second : Pattern)
  | repeated (body : Pattern) (least : Nat) (most : Option Nat) (lazy possessive : Bool)
  | group (number : Nat) (body : Pattern)
  | atomic (body : Pattern)
  | backref (number : Nat) (flags : PatternFlags)
  /-- A look at what follows, or at what precedes with the number of characters to go back. -/
  | look (body : Pattern) (back : Option Nat) (negated : Bool)
  | conditional (number : Nat) (yes no : Pattern)
  deriving Repr, DecidableEq, Inhabited

end StyleRules
