import StyleRules.Xml.Outline
import StyleRules.Xml.Writer

/-!
# The document of an element

An outline becomes an element of the name `element`: its fields are the XML attributes, and the attribute
map, the text and the children follow as elements of their own.  A field name of the form `{space}local`
lies in a namespace.  Every namespace gets a prefix, and the root declares them all.
-/

namespace StyleRules.Xml

/-- The namespaces that are in use, each with its prefix, in the order of their first use. -/
abbrev Spaces := List (String × String)

namespace Spaces

/-- The namespaces that have a customary prefix. -/
def customary : List (String × String) :=
  [("http://www.w3.org/XML/1998/namespace", "xml"), ("http://www.w3.org/1999/xhtml", "html"),
    ("http://www.w3.org/1999/02/22-rdf-syntax-ns#", "rdf"), ("http://schemas.xmlsoap.org/wsdl/", "wsdl"),
    ("http://www.w3.org/2001/XMLSchema", "xs"), ("http://www.w3.org/2001/XMLSchema-instance", "xsi"),
    ("http://purl.org/dc/elements/1.1/", "dc")]

/-- The prefix of a namespace, which is taken into use if it has none yet.  The prefix `xml` needs no
declaration. -/
def prefixFor (spaces : Spaces) (space : String) : String × Spaces :=
  match spaces.lookup space with
  | some found => (found, spaces)
  | none =>
    let chosen := (customary.lookup space).getD ("ns" ++ toString spaces.length)
    (chosen, if chosen = "xml" then spaces else spaces ++ [(space, chosen)])

/-- Cut an expanded name behind its last closing brace. -/
def cutExpanded (chars : List Char) : Option (String × String) :=
  let reversed := chars.reverse
  match reversed.dropWhile (· ≠ '\x7d') with
  | [] => none
  | _ :: space =>
    some (String.ofList space.reverse, String.ofList (reversed.takeWhile (· ≠ '\x7d')).reverse)

def textLabel (spaces : Spaces) (name : String) : Outcome (String × Spaces) :=
  match name.toList with
  | '\x7b' :: rest =>
    match cutExpanded rest with
    | none => .error (.misuse .value)
    | some (space, part) =>
      let (chosen, spaces) := spaces.prefixFor space
      .ok (if chosen.isEmpty then part else chosen ++ ":" ++ part, spaces)
  | _ => .ok (name, spaces)

/-- The label of a name; besides texts, only null and byte strings can be names. -/
def label (spaces : Spaces) (name : Value) : Outcome (String × Spaces) :=
  match name with
  | .str s => spaces.textLabel s
  | .null | .bytes _ => .ok (name.text, spaces)
  | _ => Outcome.wrongType

/-- Label the names of attributes from left to right. -/
def labelAll (spaces : Spaces) : List (Value × String) → Outcome (List (Name × String) × Spaces)
  | [] => .ok ([], spaces)
  | (name, text) :: rest => do
    let (label, spaces) ← spaces.label name
    let (others, spaces) ← spaces.labelAll rest
    return ((Name.plain label, text) :: others, spaces)

/-- The declarations of the namespaces, ordered by their prefixes. -/
def declarations (spaces : Spaces) : List (Name × String) :=
  let sorted := spaces.mergeSort fun a b => !Text.less b.2 a.2
  sorted.map fun (space, chosen) =>
    (Name.plain (if chosen.isEmpty then "xmlns" else "xmlns:" ++ chosen), space)

end Spaces

/-- An element that holds a text, unless the text is empty. -/
def textElement (label text : String) : Node :=
  .element (.plain label) [] (if text.isEmpty then [] else [.text text])

namespace Outline

/-- The element that shows an attribute map. -/
def attributesNode (spaces : Spaces) (attributes : Option (List (String × String))) :
    Outcome (List Node × Spaces) :=
  match attributes with
  | none => .ok ([], spaces)
  | some entries => do
    let (labelled, spaces) ← spaces.labelAll (entries.map fun (name, text) => (.str name, text))
    return ([.element (.plain "attributes") labelled []], spaces)

mutual

/-- The node of an outline, given the namespaces in use before it. -/
def toNode (spaces : Spaces) : Outline → Outcome (Node × Spaces)
  | .node fields attributes text children => do
    let (labelled, spaces) ← spaces.labelAll fields
    let (attributePart, spaces) ← attributesNode spaces attributes
    let (childNodes, spaces) ← toNodes spaces children
    let textPart := (text.map (textElement "text")).toList
    let childPart :=
      if childNodes.isEmpty then [] else [Node.element (.plain "children") [] childNodes]
    return (.element (.plain "element") labelled (attributePart ++ textPart ++ childPart), spaces)

def toNodes (spaces : Spaces) : List Outline → Outcome (List Node × Spaces)
  | [] => .ok ([], spaces)
  | outline :: rest => do
    let (first, spaces) ← toNode spaces outline
    let (others, spaces) ← toNodes spaces rest
    return (first :: others, spaces)

end

/-- The document of an outline: its root declares the namespaces. -/
def document (outline : Outline) : Outcome Node := do
  match ← toNode [] outline with
  | (.element name attributes content, spaces) =>
    return .element name (spaces.declarations ++ attributes) content
  | (other, _) => return other

end Outline

/-- Write an element as XML. -/
def ofElement (element : Value) : Outcome String := do
  return (← (← Outline.ofElement element).document).write

end StyleRules.Xml
