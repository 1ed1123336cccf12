import StyleRules.Pattern.Reader
import StyleRules.Text.Case

/-!
# Searching with patterns

Matching tries the alternatives of a pattern in order and hands every way to match on to a continuation;
the first one that leads to a complete match wins.  The recursion follows the tree of the pattern; a
repetition goes on only as long as its turns consume characters, so the length of the text bounds it.
-/

namespace StyleRules.Pattern

/-- A position in the text with what the groups have captured, latest first. -/
structure State where
  position : Nat
  captures : List (Nat × Nat × Nat)

/-- Two characters are the same when case does not matter.  Limited to ASCII, only its letters have case. -/
def sameLetter (flags : PatternFlags) (c d : Char) : Bool :=
  flags.ignoreCase &&
    if flags.ascii then c.toLower = d.toLower else (Text.caseVariants c).contains d

/-- A character lies in a range, or another one that differs only in case. -/
def inRange (flags : PatternFlags) (lo hi c : Char) : Bool :=
  let inside (x : Char) : Bool := lo ≤ x && x ≤ hi
  inside c || (flags.ignoreCase &&
    if flags.ascii then inside c.toLower || inside c.toUpper else (Text.caseVariants c).any inside)

/-- A word character under the given switches. -/
def isWordUnder (flags : PatternFlags) (c : Char) : Bool :=
  if flags.ascii then c.isAlphanum || c = '_' else Text.isWordChar c

/-- The character is a member of the class. -/
def ClassItem.holds (flags : PatternFlags) (c : Char) : ClassItem → Bool
  | .single d => c = d || sameLetter flags c d
  | .range lo hi => inRange flags lo hi c
  | .digit negated => (if flags.ascii then c.isDigit else Text.isDigitChar c) != negated
  | .word negated => isWordUnder flags c != negated
  | .blank negated =>
    (if flags.ascii then [' ', '\t', '\n', '\r', '\x0b', '\x0c'].contains c else Text.isBlank c) !=
      negated

/-- The anchor holds at a position.  An empty text has no inside. -/
def Anchor.holds (text : Array Char) (position : Nat) (flags : PatternFlags) : Anchor → Bool
  | .textStart => position = 0
  | .textEnd => position = text.size
  | .lineStart =>
    position = 0 || (flags.multiLine && text[position - 1]? = some '\n')
  | .lineEnd =>
    position = text.size || (position + 1 = text.size && text[position]? = some '\n') ||
      (flags.multiLine && text[position]? = some '\n')
  | .wordEdge => atEdge
  | .insideWord => text.size ≠ 0 && !atEdge
where
  /-- Exactly one neighbour is a word character. -/
  atEdge : Bool :=
    let before := position ≠ 0 && (text[position - 1]?).any (isWordUnder flags)
    let after := (text[position]?).any (isWordUnder flags)
    before != after

/-- The captured text of a group. -/
def State.capture? (s : State) (text : Array Char) (number : Nat) : Option (List Char) :=
  (s.captures.find? (·.1 = number)).map fun (_, start, stop) => (text.extract start stop).toList

/-- The text continues with the given characters. -/
def continues (text : Array Char) (flags : PatternFlags) : List Char → Nat → Bool
  | [], _ => true
  | c :: rest, position =>
    match text[position]? with
    | some d =>
      (c = d || sameLetter flags c d) && continues text flags rest (position + 1)
    | none => false

/-- A way to match: a state, and what to do with each state it can lead to. -/
abbrev Step := State → (State → Option State) → Option State

/-- Repeat a step.  `count` turns are done, `last` is where the latest turn began; a turn beyond the
least count must begin elsewhere than the turn before it. -/
def turns (step : Step) (least : Nat) (most : Option Nat) (lazy : Bool) :
    Nat → Nat → Option Nat → Step
  | 0, _, _, s, k => k s
  | fuel + 1, count, last, s, k =>
    let again (_ : Unit) : Option State :=
      step s fun s' => turns step least most lazy fuel (count + 1) (some s.position) s' k
    if count < least then again ()
    else
      let allowed := most.all (count < ·) && last ≠ some s.position
      if lazy then
        match k s with
        | some result => some result
        | none => if allowed then again () else none
      else if allowed then
        match again () with
        | some result => some result
        | none => k s
      else k s

/-- Match a pattern at a state. -/
def run (text : Array Char) : Pattern → Step
  | .empty, s, k => k s
  | .char c flags, s, k =>
    match text[s.position]? with
    | some d =>
      if c = d || sameLetter flags c d then
        k { s with position := s.position + 1 }
      else none
    | none => none
  | .any flags, s, k =>
    match text[s.position]? with
    | some d =>
      if flags.dotAll || d ≠ '\n' then k { s with position := s.position + 1 } else none
    | none => none
  | .oneOf items negated flags, s, k =>
    match text[s.position]? with
    | some d =>
      if items.any (ClassItem.holds flags d) != negated then
        k { s with position := s.position + 1 }
      else none
    | none => none
  | .anchor kind flags, s, k => if Anchor.holds text s.position flags kind then k s else none
  | .sequence first second, s, k => run text first s fun s' => run text second s' k
  | .choice first second, s, k =>
    match run text first s k with
    | some result => some result
    | none => run text second s k
  | .repeated body least most lazy possessive, s, k =>
    let step : Step := fun s k => run text body s k
    let fuel := text.size + least + 2
    if possessive then
      match turns step least most false fuel 0 none s some with
      | some s' => k s'
      | none => none
    else turns step least most lazy fuel 0 none s k
  | .group number body, s, k =>
    run text body s fun s' =>
      k { s' with captures := (number, s.position, s'.position) :: s'.captures }
  | .atomic body, s, k =>
    match run text body s some with
    | some s' => k s'
    | none => none
  | .backref number flags, s, k =>
    match s.capture? text number with
    | some chars =>
      if continues text flags chars s.position then
        k { s with position := s.position + chars.length }
      else none
    | none => none
  | .look body back negated, s, k =>
    let back := back.getD 0
    let found : Option State :=
      if back > s.position then none
      else run text body { s with position := s.position - back } some
    if negated then
      if found.isSome then none else k s
    else
      match found with
      | some s' => k { s' with position := s.position }
      | none => none
  | .conditional number yes no, s, k =>
    if (s.captures.find? (·.1 = number)).isSome then run text yes s k else run text no s k

/-- Some part of the text matches the pattern. -/
def occurs (pattern : Pattern) (source : String) : Bool :=
  let text := source.toList.toArray
  (List.range (text.size + 1)).any fun start =>
    (run text pattern ⟨start, []⟩ some).isSome

end StyleRules.Pattern
