import StyleRules.Host.Basic
import StyleRules.Text.Bytes
import StyleRules.Text.Case
import StyleRules.Transform.Program
import StyleRules.Value.Access
import StyleRules.Xml.Reader
import StyleRules.Xml.Writer

/-!
# Running stylesheets

A stylesheet is run over a document with parameters.  The common stylesheets give the document of one element
`result`; what others give is up to the library that compiles them.  The output of a transform decides a match: a
text by its first element `result`, which has to hold `true`, or without such an element by being `true` or `1`.
Case and surrounding blanks do not matter.  Any other output decides by whether it counts as true.
-/

namespace StyleRules

abbrev SheetParameters := List (String × String)

namespace SheetParameters

/-- The text of a parameter value; truth values are written in lower case. -/
def textOf : Value → String
  | .bool b => if b then "true" else "false"
  | v => v.text

/-- The prefix of a parameter name is bound in the common stylesheets. -/
def isBound (name : String) : Bool :=
  let before := (Xml.splitLabel name).1
  before = "" || before = "xml" || before = "xsl"

/-- XML can hold the text. -/
def isWritable (text : String) : Bool := text.toList.all Xml.isXmlChar

def textGiven (entry : Value × Value) : Outcome (Value × String) :=
  if isWritable (textOf entry.2) then .ok (entry.1, textOf entry.2) else .error .unwritableText

/-- A parameter under its name, which has to be a text. -/
def named : Value × String → Outcome (String × String)
  | (.str name, text) => .ok (name, text)
  | _ => Outcome.wrongType

/-- Read parameters: null is left out, names have to be texts, and XML has to be able to hold both names and
values. -/
def ofEntries (entries : List (Value × Value)) : Outcome SheetParameters := do
  let given ← (entries.filter fun entry => !entry.2.isNull).mapM textGiven
  let parameters ← given.mapM named
  if parameters.all fun entry => isWritable entry.1 then return parameters else .error .unwritableText

end SheetParameters

namespace Stylesheet

open Xml (Node)

def resultText (sheet : Stylesheet) (root : Node) (parameters : SheetParameters) : String :=
  sheet.program.run root parameters

/-- One character of the result; a carriage return is written as a reference. -/
def resultChar (c : Char) : List Char :=
  if c = '\r' then "&#13;".toList else Xml.escapeTextChar c

def resultDocument (text : String) : String :=
  let shown := String.ofList (text.toList.flatMap resultChar)
  "<?xml version=\"1.0\"?>\n" ++
    (if shown.isEmpty then "<result/>" else "<result>" ++ shown ++ "</result>") ++ "\n"

/-- The output of a common stylesheet over the document with the given root. -/
def output (sheet : Stylesheet) (root : Node) (given : SheetParameters) : Outcome String :=
  if given.all fun entry => SheetParameters.isBound entry.1 then .ok (resultDocument (sheet.resultText root given))
  else .error .malformedXml

end Stylesheet

/-- A stylesheet that is ready to run. -/
inductive LoadedSheet where
  | common (sheet : Stylesheet)
  | compiled (sheet : CompiledSheet)

namespace LoadedSheet

/-- The stylesheet of a template: a common one by its exact source, and otherwise what the source compiles to. -/
def ofTemplate (compile : String → Outcome CompiledSheet) (template : Value) : Outcome LoadedSheet :=
  if !template.isKey then Outcome.wrongType
  else
    match template with
    | .str source =>
      match Stylesheet.ofSource? source with
      | some sheet => .ok (.common sheet)
      | none => (compile source).map .compiled
    | _ => Outcome.noAttribute

/-- Read a document, which a stylesheet then turns into an output. -/
def onDocument (sheet : LoadedSheet) (xml : Value) : Outcome (SheetParameters → Outcome String) :=
  match xml with
  | .str text =>
    match sheet with
    | .common sheet =>
      match Xml.read? text with
      | some root => .ok (sheet.output root)
      | none => .error .malformedXml
    | .compiled read => (read text).map fun work given => work fun name => given.lookup name
  | _ => Outcome.noAttribute

end LoadedSheet

namespace Stylesheet

/-- Run the stylesheet of a template over a document. -/
def run (compile : String → Outcome CompiledSheet) (xml template parameters : Value) : Outcome Value := do
  let work ← (← LoadedSheet.ofTemplate compile template).onDocument xml
  let entries ← (parameters.orElse (.map [])).items
  let given ← SheetParameters.ofEntries entries
  return .str (← work given)

end Stylesheet

/-! ## Reading the output -/

namespace Verdict

/-- The text inside the first element `result`. -/
def markedText? (chars : List Char) : Option (List Char) := do
  let (_, rest) ← Text.cut? "<result>".toList chars
  let (inside, _) ← Text.cut? "</result>".toList rest
  return inside

/-- Read the output text of a transform. -/
def ofText (text : String) : Bool :=
  let trimmed := Text.lower (Text.strip text)
  match markedText? trimmed.toList with
  | some inside => Text.strip (String.ofList inside) = "true"
  | none => trimmed = "true" || trimmed = "1"

/-- Read the output of a transform. -/
def ofOutput : Value → Bool
  | .bool b => b
  | .bytes bytes => ofText (Text.decodeLossy bytes)
  | .str text => ofText text
  | other => other.truthy

end Verdict

end StyleRules
