import StyleRules.Text.Bytes
import StyleRules.Yaml.Style

/-!
# Writing YAML

Collections are written as blocks, empty ones as brackets.  A sequence inside a mapping stands at the column
of its key.  Lines are folded at spaces beyond column 80.  Values that are not plain data are refused.
-/

namespace StyleRules.Yaml

/-- The text written so far and what matters about its end. -/
structure Page where
  text : String
  column : Nat
  /-- The last character separates. -/
  spaced : Bool
  /-- Only marks of collections stand on the line. -/
  atMarks : Bool

namespace Page

def empty : Page := ⟨"", 0, true, true⟩

/-- Write characters that are part of a scalar. -/
def put (shown : String) (page : Page) : Page :=
  { page with text := page.text ++ shown, column := page.column + shown.length }

/-- Write a mark, behind a space if one is needed. -/
def mark (shown : String) (needSpace spaced atMarks : Bool) (page : Page) : Page :=
  let shown := if page.spaced || !needSpace then shown else " " ++ shown
  { page.put shown with spaced, atMarks := page.atMarks && atMarks }

def lineEnd (page : Page) : Page := ⟨page.text ++ "\n", 0, true, true⟩

/-- Go to a column, on the same line if nothing but marks stands there. -/
def goTo (indent : Nat) (page : Page) : Page :=
  let page :=
    if !page.atMarks || page.column > indent || (page.column = indent && !page.spaced) then page.lineEnd
    else page
  if page.column < indent then
    { page.put (String.ofList (List.replicate (indent - page.column) ' ')) with spaced := true }
  else page

/-- Scalar text follows a line break inside a scalar. -/
def resume (page : Page) : Page := { page with spaced := false, atMarks := false }

/-- The column beyond which lines are folded. -/
def width : Nat := 80

/-- The maximal runs of characters of one class in a text. -/
def runs (sort : Char → Nat) : List Char → List (Nat × List Char)
  | [] => []
  | c :: rest =>
    match runs sort rest with
    | (n, run) :: others => if sort c = n then (n, c :: run) :: others else (sort c, [c]) :: (n, run) :: others
    | [] => [(sort c, [c])]

/-- The classes that matter for folding: other characters, spaces, line ends. -/
def sortOf (c : Char) : Nat := if c = ' ' then 1 else if c = '\n' then 2 else 0

/-- Write the runs of a plain scalar. -/
def plainRuns (indent : Nat) (split : Bool) (page : Page) : List (Nat × List Char) → Page
  | [] => page
  | (sort, run) :: rest =>
    let page :=
      if sort = 1 && run.length = 1 && page.column > width && split then (page.goTo indent).resume
      else page.put (String.ofList run)
    plainRuns indent split page rest

/-- Write a plain scalar. -/
def plain (indent : Nat) (split : Bool) (chars : List Char) (page : Page) : Page :=
  if chars.isEmpty then page
  else
    let page := if page.spaced then page else page.put " "
    plainRuns indent split page.resume (runs sortOf chars)

/-- Write the runs of a scalar in single quotes; `first` tells that the first run comes next. -/
def singleRuns (indent : Nat) (split first : Bool) (page : Page) : List (Nat × List Char) → Page
  | [] => page
  | (sort, run) :: rest =>
    let page :=
      if sort = 1 then
        if run.length = 1 && page.column > width && split && !first && !rest.isEmpty then page.goTo indent
        else page.put (String.ofList run)
      else if sort = 2 then
        (run.foldl (fun page _ => page.lineEnd) page.lineEnd).goTo indent
      else
        page.put (String.ofList (run.flatMap fun c => if c = '\'' then ['\'', '\''] else [c]))
    singleRuns indent split false page rest

/-- Write a scalar in single quotes. -/
def single (indent : Nat) (split : Bool) (chars : List Char) (page : Page) : Page :=
  (singleRuns indent split true (page.mark "'" true false false) (runs sortOf chars)).mark "'" false false
    false

/-- The escape of a character in double quotes; characters that show themselves have none. -/
def escape? (c : Char) : Option String :=
  let named : List (Char × String) :=
    [('\x00', "0"), ('\x07', "a"), ('\x08', "b"), ('\t', "t"), ('\n', "n"), ('\x0b', "v"), ('\x0c', "f"),
      ('\r', "r"), ('\x1b', "e"), ('"', "\""), ('\\', "\\"), ('\u0085', "N"), ('\u00a0', "_"),
      ('\u2028', "L"), ('\u2029', "P")]
  match named.lookup c with
  | some letter => some ("\\" ++ letter)
  | none =>
    if 32 ≤ c.toNat && c.toNat < 127 then none
    else if c.toNat < 0x100 then some ("\\x" ++ (Text.hexText 2 c.toNat).toUpper)
    else if c.toNat < 0x10000 then some ("\\u" ++ (Text.hexText 4 c.toNat).toUpper)
    else some ("\\U" ++ (Text.hexText 8 c.toNat).toUpper)

/-- Write the characters of a scalar in double quotes.  `pending` holds characters that are not written
yet, last one first, and `first` tells that the first character comes next. -/
def doubleChars (indent : Nat) (split first : Bool) (pending : List Char) (page : Page) :
    List Char → Page
  | [] => page.put (String.ofList pending.reverse)
  | c :: rest =>
    let flushed := page.put (String.ofList pending.reverse)
    let shown := escape? c
    let page := match shown with
      | some escape => flushed.put escape
      | none => page
    let before := if shown.isSome then [] else pending
    let column := if shown.isSome then page.column - 1 else page.column + before.length
    let mayFold := split && !first && !rest.isEmpty
    if mayFold && (c = ' ' || before.isEmpty) && column > width then
      let page := ((page.put (String.ofList before.reverse ++ "\\")).goTo indent).resume
      let next := if shown.isSome then rest.headD '\x00' else c
      let page := if next = ' ' then page.put "\\" else page
      doubleChars indent split false (if shown.isSome then [] else [c]) page rest
    else
      doubleChars indent split false (if shown.isSome then [] else c :: pending) page rest

/-- Write a scalar in double quotes. -/
def double (indent : Nat) (split : Bool) (chars : List Char) (page : Page) : Page :=
  (doubleChars indent split true [] (page.mark "\"" true false false) chars).mark "\"" false false false

/-- Write lines as a literal block. -/
def literal (indent : Nat) (lines : List String) (page : Page) : Page :=
  lines.foldl (fun page line => ((page.goTo indent).put line).lineEnd)
    (page.mark "|" true false false).lineEnd

end Page

/-! ## Scalars -/

/-- A double in a form that is read back as a double. -/
def floatText (x : Float) : String :=
  let text := Decimal.floatText ".nan" ".inf" x
  if !text.toList.contains '.' && text.toList.contains 'e' then
    String.ofList (text.toList.flatMap fun c => if c = 'e' then ['.', '0', 'e'] else [c])
  else text

/-- The text of a scalar, the name of its tag, and whether its plain form is recognised. -/
def scalarText? : Value → Option (String × String × Bool)
  | .null => some ("null", "null", true)
  | .bool b => some (if b then "true" else "false", "bool", true)
  | .int n => some (toString n, "int", true)
  | .float x => some (floatText x, "float", true)
  | .str s => some (s, "str", Scalar.kindOf s = .text)
  | .date d => some (d.text, "timestamp", true)
  | .moment m => some (m.textWith " ", "timestamp", true)
  | _ => none

/-- Cut characters into lines of a length; `fuel` bounds their number. -/
def linesOf (length : Nat) : Nat → List Char → List String
  | 0, _ => []
  | _, [] => []
  | n + 1, chars => String.ofList (chars.take length) :: linesOf length n (chars.drop length)

/-- Write a scalar whose further lines stand at `indent`. -/
def writeScalar (indent : Nat) (inKey : Bool) (v : Value) (page : Page) : Outcome Page :=
  match v with
  | .bytes bytes =>
    let page := page.mark "!!binary" true false false
    let chars := Base64.encode bytes
    if bytes.isEmpty then .ok (page.double indent (!inKey) [])
    else if inKey then .ok (page.double indent false (chars ++ ['\n']))
    else .ok (page.literal indent (linesOf 76 chars.length chars))
  | _ =>
    match scalarText? v with
    | none => .error .malformedYaml
    | some (text, _, recognised) =>
      match ScalarStyle.choose recognised inKey text with
      | .plain => .ok (page.plain indent (!inKey) text.toList)
      | .single => .ok (page.single indent (!inKey) text.toList)
      | .double => .ok (page.double indent (!inKey) text.toList)

/-- The key can stand on the line of its value: it is short, not empty, and has no line ends. -/
def isSimpleKey (key : Value) : Bool :=
  match key with
  | .list items => items.isEmpty
  | .map entries => entries.isEmpty
  | _ =>
    match scalarText? key with
    | some (text, tag, _) => !text.isEmpty && !text.toList.contains '\n' && text.length + tag.length + 2 < 128
    | none => false

/-! ## Collections -/

/-- The indentation of a block inside another one; the outermost block has none. -/
def deeper (step : Nat) (indent : Option Nat) : Nat :=
  match indent with
  | none => 0
  | some n => n + step

mutual

/-- Write a value.  `indent` is that of the block around it, and `inMapping` tells that it is a key or value
of a mapping. -/
def writeNode (step : Nat) (indent : Option Nat) (inMapping inKey : Bool) (page : Page) :
    Value → Outcome Page
  | .list [] => .ok ((page.mark "[" true true false).mark "]" false false false)
  | .map [] => .ok ((page.mark "\x7b" true true false).mark "\x7d" false false false)
  | .list items =>
    let inner := if inMapping && !page.atMarks then indent.getD 0 else deeper step indent
    writeItems step inner page items
  | .map entries => writeEntries step (deeper step indent) page entries
  | v => writeScalar ((indent.map (· + step)).getD step) inKey v page

def writeItems (step indent : Nat) (page : Page) : List Value → Outcome Page
  | [] => .ok page
  | item :: rest => do
    let page := (page.goTo indent).mark "-" true false true
    let page ← writeNode step (some indent) false false page item
    writeItems step indent page rest

def writeEntries (step indent : Nat) (page : Page) : List (Value × Value) → Outcome Page
  | [] => .ok page
  | (key, value) :: rest => do
    let page := page.goTo indent
    let page ←
      if isSimpleKey key then do
        let page ← writeNode step (some indent) true true page key
        pure (page.mark ":" false false false)
      else do
        let page ← writeNode step (some indent) true false (page.mark "?" true false true) key
        pure ((page.goTo indent).mark ":" true false true)
    let page ← writeNode step (some indent) true false page value
    writeEntries step indent page rest

end

/-- The columns of one level of indentation: numbers outside 2 to 9 count as 2. -/
def stepOf (indent : Value) : Outcome Nat :=
  if !indent.truthy then .ok 2
  else
    match indent with
    | .int n => .ok (if 1 < n ∧ n < 10 then n.toNat else 2)
    | .bool _ => .ok 2
    | .float x => if 1.0 < x ∧ x < 10.0 then Outcome.wrongType else .ok 2
    | _ => Outcome.wrongType

/-- Write a value as YAML. -/
def write (indent v : Value) : Outcome String := do
  let step ← stepOf indent
  return ((← writeNode step none false false Page.empty v).goTo 0).text

end StyleRules.Yaml
