import StyleRules.Yaml.ScalarText

/-!
# Tokens and indentation

The indentation of a text opens and closes blocks.  A scalar or collection that turns out to be followed by
a colon on the same line was a key, so that the tokens before it have to be completed later.  The layout
keeps track of what is open while the tokens are read from left to right.
-/

namespace StyleRules.Yaml

/-- A place where a key may have begun. -/
structure KeyCandidate where
  /-- The number of tokens before it. -/
  position : Nat
  /-- The line has to contain a key here. -/
  required : Bool
  index : Nat
  line : Nat
  column : Nat

/-- What is known while tokens are read. -/
structure Layout where
  cursor : Cursor
  /-- The tokens read so far. -/
  tokens : Array Token
  /-- The number of flow collections around the cursor. -/
  flow : Nat
  /-- The column of the innermost block, and those of the blocks around it. -/
  indent : Int
  outer : List Int
  /-- A key may begin here. -/
  keyAllowed : Bool
  /-- The key candidates, by the number of flow collections around them. -/
  candidates : List (Nat × KeyCandidate)

namespace Layout

/-- The layout at the beginning of a text. -/
def start (chars : List Char) : Layout := ⟨.start chars, #[], 0, -1, [], true, []⟩

/-- Append a token. -/
def push (token : Token) (layout : Layout) : Layout :=
  { layout with tokens := layout.tokens.push token }

def column (layout : Layout) : Int := layout.cursor.column

/-- Close the blocks that lie deeper than a column. -/
def unwind (column : Int) (layout : Layout) : Layout :=
  if layout.flow ≠ 0 then layout else go layout.outer.length layout
where
  /-- Close at most `fuel` blocks. -/
  go : Nat → Layout → Layout
    | 0, layout => layout
    | n + 1, layout =>
      if layout.indent > column then
        match layout.outer with
        | [] => layout
        | indent :: outer => go n { layout.push .blockEnd with indent, outer }
      else layout

/-- Open a block at a column, unless it is open already. -/
def openBlock (column : Int) (token : Token) (layout : Layout) : Layout :=
  if layout.indent < column then
    { layout.push token with indent := column, outer := layout.indent :: layout.outer }
  else layout

/-- The key candidate among the flow collections at the cursor. -/
def candidate? (layout : Layout) : Option KeyCandidate := layout.candidates.lookup layout.flow

/-- Forget the key candidate; a key that has to be there may not be forgotten. -/
def forgetCandidate? (layout : Layout) : Option Layout :=
  match layout.candidate? with
  | none => some layout
  | some candidate =>
    if candidate.required then none
    else some { layout with candidates := layout.candidates.filter fun entry => entry.1 ≠ layout.flow }

/-- Forget the candidates that can no longer be keys: a key ends on the line on which it begins, and within
1024 characters. -/
def dropStale? (layout : Layout) : Option Layout :=
  let stale (candidate : KeyCandidate) : Bool :=
    candidate.line ≠ layout.cursor.line || candidate.index + 1024 < layout.cursor.index
  if layout.candidates.any fun entry => stale entry.2 && entry.2.required then none
  else some { layout with candidates := layout.candidates.filter fun entry => !stale entry.2 }

/-- Remember that a key may begin here. -/
def saveCandidate? (layout : Layout) : Option Layout :=
  if layout.keyAllowed then
    layout.forgetCandidate?.map fun layout =>
      let candidate : KeyCandidate :=
        ⟨layout.tokens.size, layout.flow = 0 && layout.indent = layout.column, layout.cursor.index,
          layout.cursor.line, layout.cursor.column⟩
      { layout with candidates := (layout.flow, candidate) :: layout.candidates }
  else some layout

/-- Skip white space, comments and line ends before the next token. -/
def skipSpace : Nat → Layout → Layout
  | 0, layout => layout
  | n + 1, layout =>
    let cursor := if layout.cursor.index = 0 && layout.cursor.current = '\ufeff' then
      layout.cursor.next else layout.cursor
    let cursor := cursor.skipWhile (· = ' ')
    let cursor := if cursor.current = '#' then cursor.skipWhile fun c => !isBreakOrEnd c else cursor
    if isBreak cursor.current then
      skipSpace n { layout with
        cursor := cursor.lineBreak.2, keyAllowed := layout.flow = 0 || layout.keyAllowed }
    else { layout with cursor }

/-- Read a token of one character after which a key may or may not begin. -/
def single (token : Token) (keyAllowed : Bool) (layout : Layout) : Layout :=
  { layout.push token with cursor := layout.cursor.next, keyAllowed }

/-- Read a directive or a document marker, which close all blocks. -/
def marker? (layout : Layout) (token : Token) (after : Cursor) : Option Layout :=
  (layout.unwind (-1)).forgetCandidate?.map fun layout =>
    { layout.push token with cursor := after, keyAllowed := false }

/-- Read the opening bracket of a flow collection. -/
def openFlow? (layout : Layout) (token : Token) : Option Layout :=
  layout.saveCandidate?.map fun layout =>
    { layout.single token true with flow := layout.flow + 1 }

/-- Read the closing bracket of a flow collection. -/
def closeFlow? (layout : Layout) (token : Token) : Option Layout :=
  if layout.flow = 0 then none
  else layout.forgetCandidate?.map fun layout =>
    { layout.single token false with flow := layout.flow - 1 }

/-- Read the mark of a block entry. -/
def blockEntry? (layout : Layout) : Option Layout :=
  if layout.flow ≠ 0 then layout.forgetCandidate?.map (single .blockEntry true)
  else if layout.keyAllowed then
    (layout.openBlock layout.column .blockSequence).forgetCandidate?.map (single .blockEntry true)
  else none

/-- Read the mark of a key. -/
def key? (layout : Layout) : Option Layout :=
  if layout.flow ≠ 0 then layout.forgetCandidate?.map (single .key false)
  else if layout.keyAllowed then
    (layout.openBlock layout.column .blockMapping).forgetCandidate?.map (single .key true)
  else none

def insertTokens (position : Nat) (inserted : List Token) (layout : Layout) : Layout :=
  let all := layout.tokens.toList
  { layout with tokens := (all.take position ++ inserted ++ all.drop position).toArray }

/-- Read the mark of a value.  A key candidate on the same line turns out to be its key. -/
def value? (layout : Layout) : Option Layout :=
  match layout.candidate? with
  | some candidate =>
    let candidates := layout.candidates.filter fun entry => entry.1 ≠ layout.flow
    let layout := { layout with candidates }
    let layout :=
      if layout.flow = 0 && layout.indent < (candidate.column : Int) then
        { layout.insertTokens candidate.position [.blockMapping, .key] with
          indent := (candidate.column : Int), outer := layout.indent :: layout.outer }
      else layout.insertTokens candidate.position [.key]
    some (layout.single .value false)
  | none =>
    if layout.flow ≠ 0 then layout.forgetCandidate?.map (single .value false)
    else if layout.keyAllowed then
      (layout.openBlock layout.column .blockMapping).forgetCandidate?.map (single .value true)
    else none

/-- Read a token that may begin a key, with a reader for the cursor. -/
def word? (layout : Layout) (read : Cursor → Option (Token × Cursor)) : Option Layout := do
  let layout ← layout.saveCandidate?
  let (token, after) ← read layout.cursor
  return { layout.push token with cursor := after, keyAllowed := false }

def blockScalar? (layout : Layout) (fold : Bool) : Option Layout := do
  let layout ← layout.forgetCandidate?
  let (text, after) ← layout.cursor.next.blockScalar? fold layout.indent
  return { layout.push (.scalar (String.ofList text) false) with cursor := after, keyAllowed := true }

/-- Read a quoted scalar. -/
def quoted? (layout : Layout) (double : Bool) : Option Layout :=
  layout.word? fun cursor =>
    (cursor.next.quotedScalar double cursor.fuel).map fun (text, after) =>
      (.scalar (String.ofList text) false, after)

/-- Read a plain scalar. -/
def plain? (layout : Layout) : Option Layout :=
  layout.saveCandidate?.map fun layout =>
    let (text, ended, after) :=
      layout.cursor.plainScalar (layout.flow ≠ 0) (layout.indent + 1) layout.cursor.fuel [] false
    { layout.push (.scalar (String.ofList text) true) with cursor := after, keyAllowed := ended }

/-- A plain scalar may begin here. -/
def plainBegins (layout : Layout) : Bool :=
  let c := layout.cursor.current
  !(isBlankOrEnd c || "-?:,[]\x7b\x7d#&*!|>'\"%@`".toList.contains c) ||
    (!isBlankOrEnd (layout.cursor.peek 1) && (c = '-' || (layout.flow = 0 && (c = '?' || c = ':'))))

/-- Read the next token at the cursor, which does not stand at the end of the text. -/
def token? (layout : Layout) : Option Layout :=
  let cursor := layout.cursor
  let c := cursor.current
  let blankFollows := isBlankOrEnd (cursor.peek 1)
  if c = '%' && cursor.column = 0 then do
    let (token, after) ← cursor.next.directive?
    layout.marker? token after
  else if cursor.column = 0 && cursor.atMarker then
    layout.marker? (if c = '-' then .documentStart else .documentEnd) (cursor.skip 3)
  else if c = '[' then layout.openFlow? .flowSequence
  else if c = '\x7b' then layout.openFlow? .flowMapping
  else if c = ']' then layout.closeFlow? .flowSequenceEnd
  else if c = '\x7d' then layout.closeFlow? .flowMappingEnd
  else if c = ',' then layout.forgetCandidate?.map (single .flowEntry true)
  else if c = '-' && blankFollows then layout.blockEntry?
  else if c = '?' && (layout.flow ≠ 0 || blankFollows) then layout.key?
  else if c = ':' && (layout.flow ≠ 0 || blankFollows) then layout.value?
  else if c = '*' then layout.word? fun cursor =>
    cursor.next.anchorName?.map fun (name, after) => (.alias name, after)
  else if c = '&' then layout.word? fun cursor =>
    cursor.next.anchorName?.map fun (name, after) => (.anchor name, after)
  else if c = '!' then layout.word? Cursor.tag?
  else if c = '|' && layout.flow = 0 then layout.blockScalar? false
  else if c = '>' && layout.flow = 0 then layout.blockScalar? true
  else if c = '\'' then layout.quoted? false
  else if c = '"' then layout.quoted? true
  else if layout.plainBegins then layout.plain?
  else none

/-- Read all tokens up to the end of the text. -/
def tokensUpTo : Nat → Layout → Option (List Token)
  | 0, _ => none
  | n + 1, layout => do
    let layout ← (layout.skipSpace layout.cursor.fuel).dropStale?
    let layout := layout.unwind layout.column
    if isEnd layout.cursor.current then
      let layout ← (layout.unwind (-1)).forgetCandidate?
      return layout.tokens.toList
    else tokensUpTo n (← layout.token?)

end Layout

def tokens? (text : String) : Option (List Token) :=
  let chars := text.toList
  if chars.all isShown then (Layout.start chars).tokensUpTo (chars.length + 2) else none

end StyleRules.Yaml
