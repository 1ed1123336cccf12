import StyleRules.Failure
import StyleRules.Pattern.Syntax

/-!
# Reading patterns

A pattern is read from left to right.  The cursor holds the characters that are left, the capturing groups
seen so far, those that are still open, and the switches in force.  A pattern that breaks a rule is
malformed; a repetition count beyond 32 bits overflows.
-/

namespace StyleRules.Pattern

/-- How many characters matches take at least and, if there is a bound, at most. -/
structure Width where
  least : Nat
  most : Option Nat
  deriving Repr, DecidableEq

/-- Where reading has arrived. -/
structure Cursor where
  rest : List Char
  groups : Nat := 0
  names : List (String × Nat) := []
  openGroups : List Nat := []
  /-- Groups from this number on were opened inside the current look-behind. -/
  behind : Option Nat := none
  /-- Group numbers that conditionals ask for; they must exist in the end. -/
  asked : List Nat := []
  /-- The widths of the closed groups. -/
  widths : List (Nat × Width) := []
  flags : PatternFlags := {}

abbrev Reader := StateT Cursor (Except Failure)

/-- Give up: the pattern is malformed. -/
def malformed {α : Type} : Reader α := throw .malformedPattern

/-- The next character, left in place. -/
def peek? : Reader (Option Char) := do return (← get).rest.head?

/-- Move past `n` characters. -/
def skip (n : Nat) : Reader Unit := modify fun c => { c with rest := c.rest.drop n }

/-- Take the next character. -/
def next : Reader Char := do
  match (← get).rest with
  | [] => malformed
  | c :: rest =>
    modify fun cursor => { cursor with rest }
    return c

/-- Take the given character if it comes next. -/
def accept (c : Char) : Reader Bool := do
  if (← peek?) = some c then
    skip 1
    return true
  else return false

/-- Take characters of a class, at most `limit` of them. -/
def takeWhile (limit : Nat) (p : Char → Bool) : Reader (List Char) := do
  let taken := ((← get).rest.takeWhile p).take limit
  skip taken.length
  return taken

/-- Take everything before the given character, and the character itself. -/
def takeUntil (mark : Char) : Reader (List Char) := do
  let rest := (← get).rest
  let taken := rest.takeWhile (· ≠ mark)
  if taken.length = rest.length then malformed
  else
    skip (taken.length + 1)
    return taken

def isOctal (c : Char) : Bool := '0' ≤ c && c ≤ '7'

/-- A hexadecimal digit. -/
def isHex (c : Char) : Bool := c.isDigit || ('a' ≤ c && c ≤ 'f') || ('A' ≤ c && c ≤ 'F')

def octalValue (digits : List Char) : Nat :=
  digits.foldl (fun total c => 8 * total + (c.toNat - '0'.toNat)) 0

/-- A character given by its code point in exactly `count` hexadecimal digits. -/
def hexEscape (count : Nat) : Reader Char := do
  let digits ← takeWhile count isHex
  let code := Text.readHex digits
  if digits.length = count ∧ code < 0x110000 then return Char.ofNat code else malformed

/-- Escapes that stand for the same character inside and outside of classes. -/
def plainEscape? (c : Char) : Option Char :=
  match c with
  | 'a' => some '\x07'
  | 'f' => some '\x0c'
  | 'n' => some '\n'
  | 'r' => some '\r'
  | 't' => some '\t'
  | 'v' => some '\x0b'
  | '\\' => some '\\'
  | _ => none

/-- Escapes that stand for a named class. -/
def classEscape? (c : Char) : Option ClassItem :=
  match c with
  | 'd' => some (.digit false)
  | 'D' => some (.digit true)
  | 's' => some (.blank false)
  | 'S' => some (.blank true)
  | 'w' => some (.word false)
  | 'W' => some (.word true)
  | _ => none

/-- A letter of ASCII: an escaped one has to be known. -/
def isAsciiLetter (c : Char) : Bool := c.isUpper || c.isLower

/-- Code point escapes, shared by both positions. -/
def codeEscape? (c : Char) : Option (Reader Char) :=
  match c with
  | 'x' => some (hexEscape 2)
  | 'u' => some (hexEscape 4)
  | 'U' => some (hexEscape 8)
  | _ => none

/-- An escape inside a class, after its backslash. -/
def escapeInClass : Reader ClassItem := do
  let c ← next
  if let some item := classEscape? c then return item
  if let some plain := plainEscape? c then return .single plain
  if let some code := codeEscape? c then return .single (← code)
  if c = 'b' then return .single '\x08'
  if isOctal c then
    let value := octalValue (c :: (← takeWhile 2 isOctal))
    if value > 255 then malformed else return .single (Char.ofNat value)
  if c.isDigit || isAsciiLetter c then malformed else return .single c

/-- One character or class inside brackets. -/
def classAtom : Reader ClassItem := do
  let c ← next
  if c = '\\' then escapeInClass else return .single c

/-- The members of a class up to its closing bracket; `fuel` bounds their number. -/
def classItems (first : Bool) : Nat → Reader (List ClassItem)
  | 0 => malformed
  | fuel + 1 => do
    let ended ← if first then pure false else accept ']'
    if ended then return []
    let low ← classAtom
    if (← peek?) = some '-' then
      skip 1
      if (← accept ']') then return [low, .single '-']
      let high ← classAtom
      match low, high with
      | .single lo, .single hi =>
        if hi.toNat < lo.toNat then malformed
        else return .range lo hi :: (← classItems false fuel)
      | _, _ => malformed
    else return low :: (← classItems false fuel)

/-- The class after an opening bracket. -/
def readClass : Reader Pattern := do
  let negated ← accept '^'
  let cursor ← get
  let items ← classItems true (cursor.rest.length + 1)
  return .oneOf items negated cursor.flags

namespace Width

/-- One match after another. -/
def follow (a b : Width) : Width :=
  ⟨a.least + b.least, do return (← a.most) + (← b.most)⟩

/-- One match or another. -/
def either (a b : Width) : Width :=
  ⟨min a.least b.least, do return max (← a.most) (← b.most)⟩

/-- Several matches in a row. -/
def times (least : Nat) (most : Option Nat) (one : Width) : Width :=
  ⟨one.least * least,
    if one.most = some 0 then some 0 else if most = some 0 then some 0
    else do return (← one.most) * (← most)⟩

end Width

/-- The width of a pattern, given those of the groups that it may refer to. -/
def widthOf (groups : List (Nat × Width)) : Pattern → Width
  | .empty | .anchor _ _ | .look _ _ _ => ⟨0, some 0⟩
  | .char _ _ | .any _ | .oneOf _ _ _ => ⟨1, some 1⟩
  | .sequence first second => (widthOf groups first).follow (widthOf groups second)
  | .choice first second => (widthOf groups first).either (widthOf groups second)
  | .repeated body least most _ _ => (widthOf groups body).times least most
  | .group _ body | .atomic body => widthOf groups body
  | .backref number _ => (groups.lookup number).getD ⟨0, some 0⟩
  | .conditional _ yes no => (widthOf groups yes).either (widthOf groups no)

/-- A group that may be referred to exists and is closed. -/
def Cursor.isClosed (cursor : Cursor) (number : Nat) : Bool :=
  number ≠ 0 && number ≤ cursor.groups && !cursor.openGroups.contains number

/-- A reference to a group: it must be closed, and not belong to the look-behind it stands in. -/
def reference (number : Nat) : Reader Pattern := do
  let cursor ← get
  if !cursor.isClosed number || cursor.behind.any (· ≤ number) then malformed
  else return .backref number cursor.flags

/-- An escape outside of classes, after its backslash. -/
def escape : Reader Pattern := do
  let flags := (← get).flags
  let c ← next
  if let some item := classEscape? c then return .oneOf [item] false flags
  match c with
  | 'A' => return .anchor .textStart flags
  | 'Z' => return .anchor .textEnd flags
  | 'b' => return .anchor .wordEdge flags
  | 'B' => return .anchor .insideWord flags
  | _ =>
    if let some plain := plainEscape? c then return .char plain flags
    if let some code := codeEscape? c then return .char (← code) flags
    if c = '0' then
      return .char (Char.ofNat (octalValue (← takeWhile 2 isOctal))) flags
    if c.isDigit then
      match (← get).rest with
      | d :: e :: _ =>
        if isOctal c && isOctal d && isOctal e then
          skip 2
          let value := octalValue [c, d, e]
          if value > 255 then malformed else return .char (Char.ofNat value) flags
      | _ => pure ()
      let digits := c :: (← takeWhile 1 Char.isDigit)
      reference (digits.foldl (fun total d => 10 * total + (d.toNat - '0'.toNat)) 0)
    else if isAsciiLetter c then malformed
    else return .char c flags

/-- Counts from here on overflow. -/
def countLimit : Nat := 4294967295

/-- A quantifier: the least and the greatest count. -/
abbrev Counts := Nat × Option Nat

/-- Read a repetition count. -/
def countOf (digits : List Char) : Reader Nat := do
  let value := Text.readDecimal digits
  if value ≥ countLimit then throw (.misuse .overflow) else return value

/-- Read a quantifier in braces; without the right form the brace is an ordinary character. -/
def bracedCounts? : Reader (Option Counts) := do
  let start := (← get).rest
  if start.head? = some '\x7d' then return none
  let low ← takeWhile start.length Char.isDigit
  let comma ← accept ','
  let high ← if comma then takeWhile start.length Char.isDigit else pure low
  if (← accept '\x7d') then
    let least ← if low.isEmpty then pure 0 else countOf low
    let most ← if high.isEmpty then pure none else some <$> countOf high
    if most.any (· < least) then malformed else return some (least, most)
  else
    modify fun c => { c with rest := start }
    return none

/-- Read a quantifier if one comes next. -/
def quantifier? : Reader (Option Counts) := do
  match ← peek? with
  | some '*' => skip 1; return some (0, none)
  | some '+' => skip 1; return some (1, none)
  | some '?' => skip 1; return some (0, some 1)
  | some '\x7b' =>
    let start := (← get).rest
    skip 1
    match ← bracedCounts? with
    | some counts => return some counts
    | none =>
      modify fun c => { c with rest := start }
      return none
  | _ => return none

/-- An anchor or an earlier repetition cannot be repeated. -/
def repeatable : Pattern → Bool
  | .anchor _ _ | .repeated _ _ _ _ _ => false
  | _ => true

/-- Blanks and comments that a verbose pattern passes over; `fuel` bounds their number. -/
def skipVerbose : Nat → Reader Unit
  | 0 => return
  | fuel + 1 => do
    if (← get).flags.verbose then
      match ← peek? with
      | some '#' =>
        let rest := (← get).rest
        skip (rest.takeWhile (· ≠ '\n')).length
        skipVerbose fuel
      | some c =>
        if [' ', '\t', '\n', '\r', '\x0b', '\x0c'].contains c then
          skip 1
          skipVerbose fuel
      | none => return

def isSwitch (c : Char) : Bool := ['i', 'm', 's', 'x', 'a', 'u'].contains c

/-- Switch letters from the given one on, and the character of `ends` behind them. -/
def switchLetters (ends : List Char) (first : Char) : Reader (List Char × Char) := do
  if !isSwitch first then malformed
  let others ← takeWhile (← get).rest.length isSwitch
  let mark ← next
  if ends.contains mark then return (first :: others, mark) else malformed

/-- Turn a switch on or off. -/
def setSwitch (value : Bool) (flags : PatternFlags) (c : Char) : PatternFlags :=
  match c with
  | 'i' => { flags with ignoreCase := value }
  | 'm' => { flags with multiLine := value }
  | 's' => { flags with dotAll := value }
  | 'x' => { flags with verbose := value }
  | 'a' => { flags with ascii := value }
  | 'u' => { flags with ascii := !value }
  | _ => flags

/-- The switch chooses between ASCII and all characters, and cannot be turned off. -/
def isAlphabetSwitch (c : Char) : Bool := c = 'a' || c = 'u'

/-- Read switches behind `(?`.  The answer tells whether they hold for the rest of the pattern, or else for
a group.  No switch may be turned on and off at once. -/
def readSwitches (first : Char) (flags : PatternFlags) : Reader (Bool × PatternFlags) := do
  let (on, mark) ← if first = '-' then pure ([], '-') else switchLetters [')', '-', ':'] first
  if on.contains 'a' && on.contains 'u' then malformed
  let changed := on.foldl (setSwitch true) flags
  if mark = '-' then
    let (off, _) ← switchLetters [':'] (← next)
    if off.any fun c => isAlphabetSwitch c || on.contains c then malformed
    return (false, off.foldl (setSwitch false) changed)
  else return (mark = ')', changed)

/-- A group name: a letter or underscore, then letters, digits and underscores. -/
def isGroupName (name : List Char) : Bool :=
  match name with
  | [] => false
  | c :: rest => Text.isWordChar c && !Text.isDigitChar c && rest.all Text.isWordChar

def openGroup (name : Option String) : Reader Nat := do
  let cursor ← get
  let number := cursor.groups + 1
  match name with
  | some text =>
    if (cursor.names.lookup text).isSome then malformed
    set { cursor with
      groups := number, names := (text, number) :: cursor.names,
      openGroups := number :: cursor.openGroups }
  | none =>
    set { cursor with groups := number, openGroups := number :: cursor.openGroups }
  return number

def closeGroup (number : Nat) (body : Pattern) : Reader Unit :=
  modify fun cursor =>
    { cursor with
      openGroups := cursor.openGroups.filter (· ≠ number)
      widths := (number, widthOf cursor.widths body) :: cursor.widths }

/-- Require a closing parenthesis. -/
def closing : Reader Unit := do
  if !(← accept ')') then malformed

/-- Run a reader under other switches. -/
def withFlags {α : Type} (flags : PatternFlags) (inner : Reader α) : Reader α := do
  let outer := (← get).flags
  modify fun c => { c with flags }
  let result ← inner
  modify fun c => { c with flags := outer }
  return result

/-- The group number that a conditional names. -/
def conditionNumber (name : List Char) : Reader Nat := do
  if isGroupName name then
    match (← get).names.lookup (String.ofList name) with
    | some number => return number
    | none => malformed
  else if !name.isEmpty && name.all Char.isDigit then
    let number := Text.readDecimal name
    if number = 0 || number ≥ 2147483647 then malformed
    modify fun c => { c with asked := number :: c.asked }
    return number
  else malformed

mutual

/-- Alternatives separated by bars. -/
def readChoice (fuel : Nat) (top : Bool) : Reader Pattern :=
  match fuel with
  | 0 => malformed
  | fuel + 1 => do
    let first ← readSequence fuel top .empty none
    if (← accept '|') then return .choice first (← readChoice fuel false)
    else return first

/-- Items up to a bar, a closing parenthesis or the end.  `done` holds the items before the last one. -/
def readSequence (fuel : Nat) (top : Bool) (done : Pattern) (last : Option Pattern) : Reader Pattern :=
  match fuel with
  | 0 => malformed
  | fuel + 1 => do
    skipVerbose ((← get).rest.length + 1)
    let whole := match last with
      | some item => if done = .empty then item else .sequence done item
      | none => done
    match ← peek? with
    | none => return whole
    | some '|' => return whole
    | some ')' => return whole
    | some _ =>
      match ← quantifier? with
      | some (least, most) =>
        match last with
        | none => malformed
        | some item =>
          if !repeatable item then malformed
          let lazy ← accept '?'
          let possessive ← if lazy then pure false else accept '+'
          readSequence fuel top done (some (.repeated item least most lazy possessive))
      | none =>
        match ← readItem fuel (top && last.isNone && done = .empty) with
        | some item => readSequence fuel top whole (some item)
        | none => readSequence fuel top done last

/-- One item; switches for the whole pattern and comments give none. -/
def readItem (fuel : Nat) (start : Bool) : Reader (Option Pattern) :=
  match fuel with
  | 0 => malformed
  | fuel + 1 => do
    let flags := (← get).flags
    let c ← next
    match c with
    | '\\' => some <$> escape
    | '[' => some <$> readClass
    | '.' => return some (.any flags)
    | '^' => return some (.anchor .lineStart flags)
    | '$' => return some (.anchor .lineEnd flags)
    | '(' => readGroup fuel start
    | _ => return some (.char c flags)

/-- What follows an opening parenthesis. -/
def readGroup (fuel : Nat) (start : Bool) : Reader (Option Pattern) :=
  match fuel with
  | 0 => malformed
  | fuel + 1 => do
    if !(← accept '?') then
      let number ← openGroup none
      let body ← withFlags (← get).flags (readChoice fuel false)
      closing
      closeGroup number body
      return some (.group number body)
    let mark ← next
    match mark with
    | ':' =>
      let body ← withFlags (← get).flags (readChoice fuel false)
      closing
      return some (.sequence .empty body)
    | '>' =>
      let body ← withFlags (← get).flags (readChoice fuel false)
      closing
      return some (.atomic body)
    | '#' =>
      let _ ← takeUntil ')'
      return none
    | '=' => readLook fuel true false
    | '!' => readLook fuel true true
    | '<' =>
      let kind ← next
      if kind = '=' then readLook fuel false false
      else if kind = '!' then readLook fuel false true
      else malformed
    | 'P' =>
      let kind ← next
      if kind = '<' then
        let name ← takeUntil '>'
        if !isGroupName name then malformed
        let number ← openGroup (some (String.ofList name))
        let body ← withFlags (← get).flags (readChoice fuel false)
        closing
        closeGroup number body
        return some (.group number body)
      else if kind = '=' then
        let name ← takeUntil ')'
        match (← get).names.lookup (String.ofList name) with
        | some number => some <$> reference number
        | none => malformed
      else malformed
    | '(' =>
      let number ← conditionNumber (← takeUntil ')')
      let cursor ← get
      if cursor.behind.any fun own => !cursor.isClosed number || own ≤ number then malformed
      let yes ← withFlags (← get).flags (readSequence fuel false .empty none)
      let no ← if (← accept '|') then
          withFlags (← get).flags (readSequence fuel false .empty none)
        else pure .empty
      closing
      return some (.conditional number yes no)
    | _ =>
      let (global, changed) ← readSwitches mark (← get).flags
      if global then
        if !start then malformed
        modify fun cursor => { cursor with flags := changed }
        return none
      else
        let body ← withFlags changed (readChoice fuel false)
        closing
        return some (.sequence .empty body)

/-- The body of a look-ahead or look-behind. -/
def readLook (fuel : Nat) (ahead negated : Bool) : Reader (Option Pattern) :=
  match fuel with
  | 0 => malformed
  | fuel + 1 => do
    let outer := (← get).behind
    if !ahead && outer.isNone then
      modify fun c => { c with behind := some (c.groups + 1) }
    let body ← withFlags (← get).flags (readChoice fuel false)
    closing
    modify fun c => { c with behind := outer }
    if ahead then return some (.look body none negated)
    let width := widthOf (← get).widths body
    if width.most = some width.least then return some (.look body (some width.least) negated) else malformed

end

/-- Read a whole pattern under the given switches. -/
def compile (flags : PatternFlags) (source : String) : Outcome Pattern :=
  let chars := source.toList
  let whole : Reader Pattern := do
    let tree ← readChoice (6 * chars.length + 10) true
    let cursor ← get
    if !cursor.rest.isEmpty then malformed
    if cursor.asked.any (· > cursor.groups) then malformed
    return tree
  (whole.run { rest := chars, flags }).map (·.1)

end StyleRules.Pattern
