import StyleRules.Text.Bytes
import StyleRules.Yaml.Cursor

/-!
# Scalars, names and tags in a YAML text

How the text of a scalar is put together from its lines, for plain, quoted and block scalars, and how names,
tags and directives are read.  Each function starts at the cursor and gives what it read together with the
cursor behind it.
-/

namespace StyleRules.Yaml.Cursor

/-- Number of steps within which any loop over the rest of the text ends. -/
def fuel (cursor : Cursor) : Nat := cursor.rest.length + 1

/-! ## Plain scalars -/

/-- The plain scalar may not continue with the character at the head of the rest. -/
def plainEnds (inFlow : Bool) : List Char → Bool
  | [] => true
  | c :: rest =>
    isBlankOrEnd c ||
      (c = ':' && (let after := rest.headD '\x00'
        isBlankOrEnd after || (inFlow && ",[]\x7b\x7d".toList.contains after))) ||
      (inFlow && ",?[]\x7b\x7d".toList.contains c)

/-- The longest part of a plain scalar without white space. -/
def plainPart (inFlow : Bool) : List Char → List Char
  | [] => []
  | c :: rest => if plainEnds inFlow (c :: rest) then [] else c :: plainPart inFlow rest

/-- Line ends and spaces inside a plain scalar, up to a document marker. -/
def plainBreaks : Nat → Cursor → Option (List Char) × Cursor
  | 0, cursor => (some [], cursor)
  | n + 1, cursor =>
    if cursor.current = ' ' then plainBreaks n cursor.next
    else if isBreak cursor.current then
      let (mark, after) := cursor.lineBreak
      if after.atMarker then (none, after)
      else
        let (others, after) := plainBreaks n after
        (others.map (mark ++ ·), after)
    else (some [], cursor)

/-- A line end folds into a space, unless further line ends or a Unicode separator keep it. -/
def folded (mark breaks : List Char) : List Char :=
  if mark ≠ ['\n'] then mark ++ breaks else if breaks.isEmpty then [' '] else breaks

/-- White space between the parts of a plain scalar: what it stands for and whether a line ended.  Nothing
stands before a document marker. -/
def plainSpaces (cursor : Cursor) : List Char × Bool × Cursor :=
  let spaces := cursor.run (· = ' ')
  let after := cursor.skip spaces.length
  if isBreak after.current then
    let (mark, after) := after.lineBreak
    if after.atMarker then ([], true, after)
    else
      match plainBreaks after.fuel after with
      | (some breaks, after) => (folded mark breaks, true, after)
      | (none, after) => ([], true, after)
  else (spaces, false, after)

/-- Read a plain scalar whose further lines are indented by `indent` at least.  The answer also tells
whether a line ended behind the scalar's last part. -/
def plainScalar (inFlow : Bool) (indent : Int) :
    Nat → List Char → Bool → Cursor → List Char × Bool × Cursor
  | 0, _, ended, cursor => ([], ended, cursor)
  | n + 1, spaces, ended, cursor =>
    if cursor.current = '#' then ([], ended, cursor)
    else
      let part := plainPart inFlow cursor.rest
      if part.isEmpty then ([], ended, cursor)
      else
        let (between, ended, after) := (cursor.skip part.length).plainSpaces
        let read := spaces ++ part
        if between.isEmpty || after.current = '#' || (!inFlow && (after.column : Int) < indent) then
          (read, ended, after)
        else
          let (others, ended, after) := plainScalar inFlow indent n between ended after
          (read ++ others, ended, after)

/-! ## Quoted scalars -/

/-- Line ends and white space inside a quoted scalar; no document marker may stand there. -/
def quotedBreaks : Nat → Cursor → Option (List Char × Cursor)
  | 0, _ => none
  | n + 1, cursor =>
    if cursor.atMarker then none
    else
      let after := cursor.skipWhile fun c => c = ' ' || c = '\t'
      if isBreak after.current then do
        let (mark, after) := after.lineBreak
        let (others, after) ← quotedBreaks n after
        return (mark ++ others, after)
      else some ([], after)

/-- White space inside a quoted scalar. -/
def quotedSpaces (cursor : Cursor) : Option (List Char × Cursor) :=
  let spaces := cursor.run fun c => c = ' ' || c = '\t'
  let after := cursor.skip spaces.length
  if isEnd after.current then none
  else if isBreak after.current then do
    let (mark, after) := after.lineBreak
    let (breaks, after) ← quotedBreaks after.fuel after
    return (folded mark breaks, after)
  else some (spaces, after)

/-- The character of an escape with one letter. -/
def escaped? (c : Char) : Option Char :=
  match c with
  | '0' => some '\x00'
  | 'a' => some '\x07'
  | 'b' => some '\x08'
  | 't' | '\t' => some '\t'
  | 'n' => some '\n'
  | 'v' => some '\x0b'
  | 'f' => some '\x0c'
  | 'r' => some '\r'
  | 'e' => some '\x1b'
  | ' ' => some ' '
  | '"' => some '"'
  | '\\' => some '\\'
  | '/' => some '/'
  | 'N' => some '\u0085'
  | '_' => some '\u00a0'
  | 'L' => some '\u2028'
  | 'P' => some '\u2029'
  | _ => none

/-- The number of hexadecimal digits behind the letter of an escape. -/
def escapeLength? (c : Char) : Option Nat :=
  match c with
  | 'x' => some 2
  | 'u' => some 4
  | 'U' => some 8
  | _ => none

def isHexDigit (c : Char) : Bool := c.isDigit || ('a' ≤ c && c ≤ 'f') || ('A' ≤ c && c ≤ 'F')

/-- Read an escape behind its backslash. -/
def escape? (cursor : Cursor) : Option (List Char × Cursor) :=
  let c := cursor.current
  match escaped? c, escapeLength? c with
  | some found, _ => some ([found], cursor.next)
  | none, some count =>
    let digits := cursor.next.rest.take count
    if digits.length = count && digits.all isHexDigit then
      some ([Char.ofNat (Text.readHex digits)], cursor.skip (count + 1))
    else none
  | none, none =>
    if isBreak c then
      let (_, after) := cursor.lineBreak
      quotedBreaks after.fuel after
    else none

/-- Read a quoted scalar behind its opening quote. -/
def quotedScalar (double : Bool) : Nat → Cursor → Option (List Char × Cursor)
  | 0, _ => none
  | n + 1, cursor =>
    let c := cursor.current
    let continueWith (read : List Char) (after : Cursor) : Option (List Char × Cursor) :=
      (quotedScalar double n after).map fun (others, after) => (read ++ others, after)
    if isBlankOrEnd c then do
      let (spaces, after) ← cursor.quotedSpaces
      continueWith spaces after
    else if double then
      if c = '"' then some ([], cursor.next)
      else if c = '\\' then do
        let (read, after) ← cursor.next.escape?
        continueWith read after
      else continueWith [c] cursor.next
    else if c = '\'' then
      if cursor.peek 1 = '\'' then continueWith ['\''] (cursor.skip 2) else some ([], cursor.next)
    else continueWith [c] cursor.next

/-! ## Block scalars -/

/-- What happens to the line ends at the end of a block scalar. -/
inductive Chomping where
  | clip
  | strip
  | keep
  deriving DecidableEq

/-- The chomping that an indicator stands for. -/
def chomping? (c : Char) : Option Chomping :=
  if c = '+' then some .keep else if c = '-' then some .strip else none

/-- The additional indentation that an indicator stands for. -/
def increment? (c : Char) : Option Nat :=
  if c.isDigit && c ≠ '0' then some (c.toNat - 48) else none

/-- Read the indicators of a block scalar, in any order. -/
def blockIndicators? (cursor : Cursor) : Option (Chomping × Option Nat × Cursor) :=
  let read : Chomping × Option Nat × Cursor :=
    match chomping? cursor.current with
    | some chomping =>
      match increment? cursor.next.current with
      | some n => (chomping, some n, cursor.skip 2)
      | none => (chomping, none, cursor.next)
    | none =>
      match increment? cursor.current with
      | some n =>
        match chomping? cursor.next.current with
        | some chomping => (chomping, some n, cursor.skip 2)
        | none => (.clip, some n, cursor.next)
      | none => (.clip, none, cursor)
  if isSpaceOrEnd read.2.2.current then some read else none

/-- Skip spaces and a comment, which have to end the line. -/
def restOfLine? (cursor : Cursor) : Option Cursor :=
  let after := cursor.skipWhile (· = ' ')
  let after := if after.current = '#' then after.skipWhile fun c => !isBreakOrEnd c else after
  if isBreakOrEnd after.current then some after.lineBreak.2 else none

/-- Skip the spaces before a column. -/
def indentTo (indent : Nat) : Nat → Cursor → Cursor
  | 0, cursor => cursor
  | n + 1, cursor =>
    if cursor.column < indent && cursor.current = ' ' then indentTo indent n cursor.next else cursor

/-- The empty lines of a block scalar with a known indentation. -/
def blockBreaks (indent : Nat) : Nat → Cursor → List Char × Cursor
  | 0, cursor => ([], cursor)
  | n + 1, cursor =>
    let after := indentTo indent cursor.fuel cursor
    if isBreak after.current then
      let (mark, after) := after.lineBreak
      let (others, after) := blockBreaks indent n after
      (mark ++ others, after)
    else ([], after)

/-- The empty lines at the beginning of a block scalar, and the greatest column that their spaces reach. -/
def blockIndentation : Nat → Nat → Cursor → List Char × Nat × Cursor
  | 0, deepest, cursor => ([], deepest, cursor)
  | n + 1, deepest, cursor =>
    if cursor.current = ' ' then blockIndentation n (max deepest cursor.next.column) cursor.next
    else if isBreak cursor.current then
      let (mark, after) := cursor.lineBreak
      let (others, deepest, after) := blockIndentation n deepest after
      (mark ++ others, deepest, after)
    else ([], deepest, cursor)

/-- Read the lines of a block scalar; `breaks` holds the line ends before the first one.  The answer holds
the text without its final line ends, the last line end and the empty lines behind it. -/
def blockLines (fold : Bool) (indent : Nat) :
    Nat → List Char → Cursor → List Char × List Char × List Char × Cursor
  | 0, breaks, cursor => ([], [], breaks, cursor)
  | n + 1, breaks, cursor =>
    if cursor.column = indent && !isEnd cursor.current then
      let flush := !(cursor.current = ' ' || cursor.current = '\t')
      let line := cursor.run fun c => !isBreakOrEnd c
      let (mark, after) := (cursor.skip line.length).lineBreak
      let (following, after) := blockBreaks indent after.fuel after
      if after.column = indent && !isEnd after.current then
        let joined :=
          if fold && mark = ['\n'] && flush && !(after.current = ' ' || after.current = '\t') then
            if following.isEmpty then [' '] else []
          else mark
        let (others, last, ending, after) := blockLines fold indent n following after
        (breaks ++ line ++ joined ++ others, last, ending, after)
      else (breaks ++ line, mark, following, after)
    else ([], [], breaks, cursor)

/-- Read a block scalar behind its mark, inside a block with the given indentation. -/
def blockScalar? (fold : Bool) (blockIndent : Int) (cursor : Cursor) : Option (List Char × Cursor) := do
  let (chomping, increment, after) ← cursor.blockIndicators?
  let after ← after.restOfLine?
  let least := (max (blockIndent + 1) 1).toNat
  let (breaks, indent, after) :=
    match increment with
    | some n =>
      let indent := least + n - 1
      let (breaks, after) := blockBreaks indent after.fuel after
      (breaks, indent, after)
    | none =>
      let (breaks, deepest, after) := blockIndentation after.fuel 0 after
      (breaks, max least deepest, after)
  let (text, mark, ending, after) := blockLines fold indent after.fuel breaks after
  let text := match chomping with
    | .strip => text
    | .clip => text ++ mark
    | .keep => text ++ mark ++ ending
  return (text, after)

/-! ## Names, tags and directives -/

/-- Read the name of an anchor or alias behind its mark. -/
def anchorName? (cursor : Cursor) : Option (String × Cursor) :=
  let name := cursor.run isNameChar
  let after := cursor.skip name.length
  let ends := isBlankOrEnd after.current || "?:,]\x7d%@`".toList.contains after.current
  if name.isEmpty || !ends then none else some (String.ofList name, after)

/-- Read characters written as hexadecimal bytes, each behind a percent sign. -/
def uriEscapes? : Nat → Cursor → Option (List UInt8 × Cursor)
  | 0, cursor => some ([], cursor)
  | n + 1, cursor =>
    if cursor.current = '%' then
      let digits := cursor.next.rest.take 2
      if digits.length = 2 && digits.all isHexDigit then
        (uriEscapes? n (cursor.skip 3)).map fun (bytes, after) =>
          (UInt8.ofNat (Text.readHex digits) :: bytes, after)
      else none
    else some ([], cursor)

/-- A character that may stand in the reference of a tag. -/
def isUriChar (c : Char) : Bool := c.isAlphanum || "-;/?:@&=+$,_.!~*'()[]%".toList.contains c

/-- Read the reference of a tag. -/
def uri? : Nat → Cursor → Option (List Char × Cursor)
  | 0, cursor => some ([], cursor)
  | n + 1, cursor =>
    if cursor.current = '%' then do
      let (bytes, after) ← uriEscapes? cursor.fuel cursor
      let text := (Text.decodeLossy bytes).toList
      if text.contains Text.replacement then none
      else
        let (others, after) ← uri? n after
        return (text ++ others, after)
    else if isUriChar cursor.current then do
      let (others, after) ← uri? n cursor.next
      return (cursor.current :: others, after)
    else some ([], cursor)

/-- Read the reference of a tag, which may not be empty. -/
def tagUri? (cursor : Cursor) : Option (String × Cursor) := do
  let (chars, after) ← uri? cursor.fuel cursor
  if after.index = cursor.index then none else return (String.ofList chars, after)

/-- Read the handle of a tag, from its first exclamation mark on. -/
def tagHandle? (cursor : Cursor) : Option (String × Cursor) :=
  if cursor.current ≠ '!' then none
  else
    let name := cursor.next.run isNameChar
    let after := cursor.skip (name.length + 1)
    if cursor.next.current = ' ' then some ("!", cursor.next)
    else if after.current = '!' then some (String.ofList ('!' :: name ++ ['!']), after.next)
    else none

/-- Read a tag, whatever stands behind it. -/
def tagBody? (cursor : Cursor) : Option (Token × Cursor) :=
  if cursor.peek 1 = '<' then
    match (cursor.skip 2).tagUri? with
    | some (uri, after) => if after.current = '>' then some (.tag none uri, after.next) else none
    | none => none
  else if isBlankOrEnd (cursor.peek 1) then some (.tag none "!", cursor.next)
  else if (cursor.next.run fun c => !isSpaceOrEnd c).contains '!' then
    match cursor.tagHandle? with
    | some (handle, after) => after.tagUri?.map fun (uri, after) => (.tag (some handle) uri, after)
    | none => none
  else cursor.next.tagUri?.map fun (uri, after) => (.tag (some "!") uri, after)

/-- Read a tag; a space or a line end follows it. -/
def tag? (cursor : Cursor) : Option (Token × Cursor) :=
  match cursor.tagBody? with
  | some (token, after) => if isSpaceOrEnd after.current then some (token, after) else none
  | none => none

/-- Read a whole number. -/
def number? (cursor : Cursor) : Option (Nat × Cursor) :=
  let digits := cursor.run Char.isDigit
  if digits.isEmpty then none else some (Text.readDecimal digits, cursor.skip digits.length)

/-- Read a directive behind its percent sign. -/
def directive? (cursor : Cursor) : Option (Token × Cursor) := do
  let name := cursor.run isNameChar
  let after := cursor.skip name.length
  if name.isEmpty || !isSpaceOrEnd after.current then none
  else if name = "YAML".toList then
    let (major, after) ← (after.skipWhile (· = ' ')).number?
    if after.current ≠ '.' then none
    else
      let (_, after) ← after.next.number?
      if isSpaceOrEnd after.current then return (.version major, ← after.restOfLine?) else none
  else if name = "TAG".toList then
    let (handle, after) ← (after.skipWhile (· = ' ')).tagHandle?
    if after.current ≠ ' ' then none
    else
      let (uri, after) ← (after.skipWhile (· = ' ')).tagUri?
      if isSpaceOrEnd after.current then return (.shorthand handle uri, ← after.restOfLine?) else none
  else
    let after := after.skipWhile fun c => !isBreakOrEnd c
    return (.otherDirective, ← after.restOfLine?)

end StyleRules.Yaml.Cursor
