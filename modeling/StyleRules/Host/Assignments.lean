import StyleRules.Host.Basic
import StyleRules.Text.Classes

/-!
# Assignment files

An assignment file sets environment variables, one `NAME=value` per line.  Values may stand between quotes,
and may refer to other variables as `${NAME}` or, with a default, as `${NAME:-default}`.  A line that cannot
be read is skipped.  Variables that are set already keep their values.
-/

namespace StyleRules.Assignments

/-- A name with its value; a name without an equals sign has none. -/
abbrev Assignment := String × Option String

/-- The character ends a line. -/
def isLineEnd (c : Char) : Bool := c = '\n' || c = '\r'

/-- The character is a blank inside a line. -/
def isInlineBlank (c : Char) : Bool := Text.isBlank c && !isLineEnd c

/-- Skip blanks inside a line. -/
def skipBlanks (chars : List Char) : List Char := chars.dropWhile isInlineBlank

/-- Skip the word `export` with the blanks behind it. -/
def skipExport (chars : List Char) : List Char :=
  match Text.dropStart? "export".toList chars with
  | some rest => if (rest.head?.map isInlineBlank).getD false then skipBlanks rest else chars
  | none => chars

/-- The character can stand in a plain name. -/
def isNameChar (c : Char) : Bool := c ≠ '=' && c ≠ '#' && !Text.isBlank c

/-- Read a name, plain or between single quotes; a comment has none. -/
def readName (chars : List Char) : Except (List Char) (Option String × List Char) :=
  match chars with
  | '#' :: _ => .ok (none, chars)
  | '\'' :: rest =>
    let name := rest.takeWhile (· ≠ '\'')
    match name, rest.dropWhile (· ≠ '\'') with
    | _ :: _, _ :: after => .ok (some (String.ofList name), after)
    | _, _ => .error chars
  | _ =>
    let name := chars.takeWhile isNameChar
    if name.isEmpty then .error chars
    else .ok (some (String.ofList name), chars.dropWhile isNameChar)

/-- The text before the first quote that no backslash precedes, and the text behind it. -/
def cutPlainQuote? (quote previous : Char) : List Char → Option (List Char × List Char)
  | [] => none
  | c :: rest =>
    if c = quote && previous ≠ '\\' then some ([], rest)
    else (cutPlainQuote? quote c rest).map fun (inside, after) => (c :: inside, after)

/-- The text before the last quote and the text behind it. -/
def cutLastQuote? (quote : Char) (chars : List Char) : Option (List Char × List Char) :=
  let reversed := chars.reverse
  match reversed.dropWhile (· ≠ quote) with
  | [] => none
  | _ :: inside => some (inside.reverse, (reversed.takeWhile (· ≠ quote)).reverse)

/-- The character that an escape between double quotes stands for. -/
def escapedChar? : Char → Option Char
  | '\\' => some '\\'
  | '\'' => some '\''
  | '"' => some '"'
  | 'a' => some '\x07'
  | 'b' => some '\x08'
  | 'f' => some '\x0c'
  | 'n' => some '\n'
  | 'r' => some '\r'
  | 't' => some '\t'
  | 'v' => some '\x0b'
  | _ => none

/-- The escapes of a quote: single quotes only know the backslash and themselves. -/
def escapesOf (quote c : Char) : Option Char :=
  if quote = '"' || c = '\\' || c = '\'' then escapedChar? c else none

/-- Replace escapes by what they stand for. -/
def unescape (quote : Char) : List Char → List Char
  | '\\' :: c :: rest =>
    match escapesOf quote c with
    | some d => d :: unescape quote rest
    | none => '\\' :: unescape quote (c :: rest)
  | c :: rest => c :: unescape quote rest
  | [] => []

/-- Cut off a comment that blanks precede. -/
def cutComment : List Char → List Char
  | [] => []
  | c :: rest =>
    if Text.isBlank c && (rest.dropWhile Text.isBlank).head? = some '#' then []
    else c :: cutComment rest

def readValue (chars : List Char) : Except (List Char) (String × List Char) :=
  let quotedValue (quote : Char) (rest : List Char) : Except (List Char) (String × List Char) :=
    match (cutPlainQuote? quote ' ' rest).orElse fun _ => cutLastQuote? quote rest with
    | some (inside, after) => .ok (String.ofList (unescape quote inside), after)
    | none => .error chars
  match chars with
  | '\'' :: rest => quotedValue '\'' rest
  | '"' :: rest => quotedValue '"' rest
  | _ =>
    let line := chars.takeWhile (!isLineEnd ·)
    let shown := ((cutComment line).reverse.dropWhile Text.isBlank).reverse
    .ok (String.ofList shown, chars.dropWhile (!isLineEnd ·))

/-- Skip a comment and the end of the line; anything else is refused. -/
def readLineEnd (chars : List Char) : Except (List Char) (List Char) :=
  let rest := match skipBlanks chars with
    | '#' :: rest => rest.dropWhile (!isLineEnd ·)
    | _ => chars
  match skipBlanks rest with
  | [] => .ok []
  | '\r' :: '\n' :: after => .ok after
  | c :: after => if isLineEnd c then .ok after else .error rest

def skipLine (chars : List Char) : List Char :=
  (chars.dropWhile (!isLineEnd ·)).drop 1

/-- Read one line; a line that cannot be read gives the characters from where reading stopped. -/
def readLine (chars : List Char) : Except (List Char) (Option Assignment × List Char) := do
  let (name, rest) ← readName (skipExport chars)
  let (value, rest) ← match skipBlanks rest with
    | '=' :: rest => do
      let (value, rest) ← readValue (skipBlanks rest)
      pure (some value, rest)
    | rest => pure (none, rest)
  let rest ← readLineEnd rest
  return (name.map fun name => (name, value), rest)

/-- Read all lines; `fuel` bounds their number. -/
def readLines : Nat → List Char → List Assignment
  | 0, _ => []
  | fuel + 1, chars =>
    match chars.dropWhile Text.isBlank with
    | [] => []
    | start =>
      match readLine start with
      | .ok (some assignment, rest) => assignment :: readLines fuel rest
      | .ok (none, rest) => readLines fuel rest
      | .error rest => readLines fuel (skipLine rest)

/-- Read an assignment file. -/
def read (text : String) : List Assignment :=
  readLines (text.length + 1) text.toList

/-- Split a reference that begins behind `${`: its name, its default, and what follows. -/
def reference? (chars : List Char) : Option (String × String × List Char) :=
  let name := String.ofList (chars.takeWhile fun c => c ≠ '}' && c ≠ ':')
  match chars.dropWhile fun c => c ≠ '}' && c ≠ ':' with
  | '}' :: rest => some (name, "", rest)
  | ':' :: '-' :: rest =>
    match rest.dropWhile (· ≠ '}') with
    | _ :: after => some (name, String.ofList (rest.takeWhile (· ≠ '}')), after)
    | [] => none
  | _ => none

/-- Replace references by the values of variables; `skipped` counts the characters of a reference that are
still to be passed over. -/
def expandFrom (valueOf : String → Option String) : Nat → List Char → List Char
  | _, [] => []
  | skipped + 1, _ :: rest => expandFrom valueOf skipped rest
  | 0, c :: rest =>
    match c, rest with
    | '$', '{' :: inside =>
      match reference? inside with
      | some (name, default, after) =>
        ((valueOf name).getD default).toList ++ expandFrom valueOf (rest.length - after.length) rest
      | none => c :: expandFrom valueOf 0 rest
    | _, _ => c :: expandFrom valueOf 0 rest

/-- Replace references by the values of variables. -/
def expand (valueOf : String → Option String) (text : String) : String :=
  String.ofList (expandFrom valueOf 0 text.toList)

/-- The value of a name: variables of the host come before those assigned so far, and a name that was
assigned no value is empty. -/
def valueOf (host : Host) (assigned : List Assignment) (name : String) : Option String :=
  match host.valueOf? name with
  | some value => some value
  | none => (assigned.lookup name).map (·.getD "")

/-- Expand the values of assignments, each with the ones before it. -/
def expandAll (host : Host) (assignments : List Assignment) : List Assignment :=
  assignments.foldl (fun assigned (name, value) =>
    let expanded := value.map (expand (valueOf host assigned))
    if (assigned.lookup name).isSome then
      assigned.map fun entry => if entry.1 = name then (name, expanded) else entry
    else assigned ++ [(name, expanded)]) []

/-- Set the variables that are not set yet; a name with an equals sign is no name of a variable. -/
def assignAll (host : Host) : List Assignment → Outcome Host
  | [] => .ok host
  | (name, value) :: rest =>
    match host.valueOf? name, value with
    | none, some value =>
      if name.toList.contains '=' || name.toList.contains '\x00' || value.toList.contains '\x00' then
        .error (.misuse .value)
      else assignAll (host.setVariable name value) rest
    | _, _ => assignAll host rest

/-- Set the variables of an assignment file, when there is such a file. -/
def load (host : Host) (path : String) : Outcome Host :=
  match host.find path with
  | .ok (.file text) => assignAll host (expandAll host (read text))
  | _ => .ok host

end StyleRules.Assignments
