import StyleRules.Text.Ranges
import StyleRules.Text.Search
import StyleRules.Xml.Node

/-!
# XML tokens

A document is cut into tags, texts and the parts that carry no content.  References are replaced by the
characters that they stand for, and white space inside attribute values becomes blanks.
-/

namespace StyleRules.Xml

inductive Token where
  /-- A start tag, or the tag of an empty element. -/
  | opening (label : String) (attributes : List (String × String)) (empty : Bool)
  | closing (label : String)
  | text (chars : List Char)
  /-- A document type declaration. -/
  | doctype
  /-- A comment or an instruction. -/
  | silent

namespace Token

def isDoctype : Token → Bool
  | .doctype => true
  | _ => false

/-- Drop white space from the beginning. -/
def skipSpace (chars : List Char) : List Char := chars.dropWhile isXmlSpace

/-- The character of a number, where a document may hold it. -/
def charOfCode? (code : Nat) : Option Char :=
  if code.isValidChar ∧ isXmlChar (Char.ofNat code) then some (Char.ofNat code) else none

def isHexDigit (c : Char) : Bool :=
  c.isDigit || ('a' ≤ c && c ≤ 'f') || ('A' ≤ c && c ≤ 'F')

/-- The character that the name of a reference stands for. -/
def referenced? (name : List Char) : Option Char :=
  match name with
  | '#' :: 'x' :: digits =>
    if !digits.isEmpty && digits.all isHexDigit then charOfCode? (Text.readHex digits)
    else none
  | '#' :: digits =>
    if !digits.isEmpty && digits.all Char.isDigit then
      charOfCode? (Text.readDecimal digits)
    else none
  | _ =>
    if name = "amp".toList then some '&'
    else if name = "lt".toList then some '<'
    else if name = "gt".toList then some '>'
    else if name = "quot".toList then some '"'
    else if name = "apos".toList then some '\''
    else none

/-- Read characters and references up to a character that ends the run.  `blank` turns white space into
blanks.  What is left begins with the end character, or is empty. -/
def run? (ends : Char → Bool) (blank : Bool) (chars : List Char) :
    Option (List Char × List Char) :=
  go chars.length chars
where
  /-- Read at most `fuel` characters or references. -/
  go : Nat → List Char → Option (List Char × List Char)
    | _, [] => some ([], [])
    | 0, _ => none
    | fuel + 1, c :: rest =>
      if ends c then some ([], c :: rest)
      else if c = '&' then
        match referenced? (rest.takeWhile (· ≠ ';')), rest.dropWhile (· ≠ ';') with
        | some found, _ :: rest => (go fuel rest).map fun (chars, left) => (found :: chars, left)
        | _, _ => none
      else
        let shown := if blank && isXmlSpace c then ' ' else c
        (go fuel rest).map fun (chars, left) => (shown :: chars, left)

/-- Read a label: a plain name, or two with a colon between. -/
def label? (chars : List Char) : Option (String × List Char) :=
  match takeName chars with
  | ([], _) => none
  | (first, ':' :: rest) =>
    match takeName rest with
    | ([], _) => none
    | (second, rest) => some (String.ofList (first ++ ':' :: second), rest)
  | (first, rest) => some (String.ofList first, rest)

/-- Read an attribute value between quotes. -/
def quotedValue? : List Char → Option (String × List Char)
  | quote :: rest =>
    if quote = '"' || quote = '\'' then
      match run? (fun c => c = quote || c = '<') true rest with
      | some (value, c :: rest) => if c = quote then some (String.ofList value, rest) else none
      | _ => none
    else none
  | [] => none

def attribute? (chars : List Char) : Option ((String × String) × List Char) := do
  let (label, rest) ← label? chars
  match skipSpace rest with
  | '=' :: rest =>
    let (value, rest) ← quotedValue? (skipSpace rest)
    return ((label, value), rest)
  | _ => none

/-- Read the attributes of a tag up to its end; white space stands before each of them.  The answer also
tells whether the tag is that of an empty element. -/
def attributes? (chars : List Char) : Option ((List (String × String) × Bool) × List Char) :=
  match skipSpace chars with
  | '>' :: rest => some (([], false), rest)
  | '/' :: '>' :: rest => some (([], true), rest)
  | next =>
    if next.length < chars.length then
      match attribute? next with
      | none => none
      | some (first, rest) =>
        if rest.length < chars.length then
          (attributes? rest).map fun ((others, empty), left) => ((first :: others, empty), left)
        else none
    else none
termination_by chars.length

/-- Read a tag behind its opening bracket. -/
def tag? (chars : List Char) : Option (Token × List Char) :=
  match chars with
  | '/' :: rest => do
    let (label, rest) ← label? rest
    match skipSpace rest with
    | '>' :: rest => return (.closing label, rest)
    | _ => none
  | _ => do
    let (label, rest) ← label? chars
    let ((attributes, empty), rest) ← attributes? rest
    return (.opening label attributes empty, rest)

/-- Read a comment behind its opening mark; two hyphens only stand at its end. -/
def comment? (chars : List Char) : Option (Token × List Char) := do
  let (_, rest) ← Text.cut? "--".toList chars
  match rest with
  | '>' :: rest => return (.silent, rest)
  | _ => none

/-- Read an instruction behind its opening mark; its target is not reserved. -/
def instruction? (chars : List Char) : Option (Token × List Char) :=
  match takeName chars with
  | ([], _) => none
  | (target, rest) => do
    if (String.ofList target).toLower = "xml" then none
    else
      match rest with
      | c :: _ =>
        if isXmlSpace c || Text.dropStart? "?>".toList rest ≠ none then do
          let (_, rest) ← Text.cut? "?>".toList rest
          return (.silent, rest)
        else none
      | [] => none

/-- Read a document type declaration behind its opening mark; brackets and quotes nest in it. -/
def doctype? (inBrackets : Bool) (quote : Option Char) : List Char → Option (Token × List Char)
  | [] => none
  | c :: rest =>
    match quote with
    | some q => doctype? inBrackets (if c = q then none else quote) rest
    | none =>
      if c = '"' || c = '\'' then doctype? inBrackets (some c) rest
      else if c = '[' then doctype? true none rest
      else if c = ']' then doctype? false none rest
      else if c = '>' && !inBrackets then some (.doctype, rest)
      else doctype? inBrackets none rest

/-- Read markup behind its opening bracket. -/
def markup? (chars : List Char) : Option (Token × List Char) :=
  match Text.dropStart? "!--".toList chars with
  | some rest => comment? rest
  | none =>
    match Text.dropStart? "![CDATA[".toList chars with
    | some rest => (Text.cut? "]]>".toList rest).map fun (shown, rest) => (.text shown, rest)
    | none =>
      match Text.dropStart? "!DOCTYPE".toList chars with
      | some rest => doctype? false none rest
      | none =>
        match chars with
        | '?' :: rest => instruction? rest
        | _ => tag? chars

/-- Read the first token. -/
def next? (chars : List Char) : Option (Token × List Char) :=
  match chars with
  | '<' :: rest => markup? rest
  | _ =>
    match run? (· = '<') false chars with
    | none => none
    | some (shown, rest) =>
      if (Text.cut? "]]>".toList (chars.takeWhile (· ≠ '<'))).isSome then none
      else some (.text shown, rest)

/-- Cut characters into tokens. -/
def all? (chars : List Char) : Option (List Token) :=
  if chars.isEmpty then some []
  else
    match next? chars with
    | none => none
    | some (token, rest) =>
      if rest.length < chars.length then (all? rest).map (token :: ·) else none
termination_by chars.length

end Token

end StyleRules.Xml
