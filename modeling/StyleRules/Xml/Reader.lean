import StyleRules.Xml.Token

/-!
# Reading XML

Tokens are put together to a tree by keeping the elements that are still open.  Then the prefixes of names
are replaced by the namespaces that declarations bind them to.  A document that is not well formed, or that
uses an undeclared prefix, is refused.
-/

namespace StyleRules.Xml

/-- An element whose end has not been read; its content stands in reverse. -/
structure OpenElement where
  label : String
  attributes : List (String × String)
  content : List Node

namespace OpenElement

/-- The element with all its content read. -/
def finish (open_ : OpenElement) : Node :=
  .element (.plain open_.label) (open_.attributes.map fun (name, value) => (.plain name, value))
    open_.content.reverse

/-- Add a node to the content; texts side by side become one. -/
def add (node : Node) (open_ : OpenElement) : OpenElement :=
  match node, open_.content with
  | .text s, .text before :: rest => { open_ with content := .text (before ++ s) :: rest }
  | node, content => { open_ with content := node :: content }

end OpenElement

/-- Put tokens together.  `opened` holds the elements around the next token, innermost first, and `root` the
root once it is complete. -/
def assemble (root : Option Node) (opened : List OpenElement) : List Token → Option Node
  | [] => if opened.isEmpty then root else none
  | .silent :: rest => assemble root opened rest
  | .doctype :: rest =>
    -- It stands in front of the root, and there is only one.
    if opened.isEmpty && root.isNone && !rest.any Token.isDoctype then assemble root opened rest else none
  | .text chars :: rest =>
    match opened with
    | [] => if chars.all isXmlSpace then assemble root [] rest else none
    | inner :: outer =>
      if chars.isEmpty then assemble root opened rest
      else assemble root (inner.add (.text (String.ofList chars)) :: outer) rest
  | .opening label attributes empty :: rest =>
    if opened.isEmpty && root.isSome then none
    else if empty then place root opened ⟨label, attributes, []⟩ rest
    else assemble root (⟨label, attributes, []⟩ :: opened) rest
  | .closing label :: rest =>
    match opened with
    | inner :: outer => if inner.label = label then place root outer inner rest else none
    | [] => none
where
  /-- Put a complete element at its place. -/
  place (root : Option Node) (opened : List OpenElement) (element : OpenElement)
      (rest : List Token) : Option Node :=
    match opened with
    | [] => assemble (some element.finish) [] rest
    | inner :: outer => assemble root (inner.add element.finish :: outer) rest

/-- The bindings of prefixes to namespaces, innermost first; the empty prefix is that of names without
one. -/
abbrev Bindings := List (String × String)

namespace Bindings

/-- The namespace of the prefix `xml`. -/
def xmlSpace : String := "http://www.w3.org/XML/1998/namespace"

def declarationSpace : String := "http://www.w3.org/2000/xmlns/"

/-- A character that a namespace may hold. -/
def isReferenceChar (c : Char) : Bool :=
  c.isAlphanum || "-_.!~*'();/?:@&=+$,#[]%".toList.contains c

/-- The binding of a declaration; other attributes declare nothing.  Some declarations are not allowed. -/
def declared? (label value : String) : Option Bindings :=
  let (before, part) := splitLabel label
  let allowed := value.toList.all isReferenceChar && value ≠ declarationSpace
  if label = "xmlns" then
    if allowed && value ≠ xmlSpace then some [("", value)] else none
  else if before = "xmlns" then
    if part = "xmlns" || !allowed || value.isEmpty || (part = "xml") ≠ (value = xmlSpace) then none
    else some [(part, value)]
  else some []

def elementName? (bindings : Bindings) (label : String) : Option Name :=
  let (before, _) := splitLabel label
  match bindings.lookup before with
  | some space => some ⟨space, label⟩
  | none => if before.isEmpty then some ⟨"", label⟩ else none

/-- The name of an attribute; without a prefix it lies outside all namespaces. -/
def attributeName? (bindings : Bindings) (label : String) : Option Name :=
  let (before, _) := splitLabel label
  if before.isEmpty then some ⟨"", label⟩
  else (bindings.lookup before).map fun space => ⟨space, label⟩

def isDeclaration (label : String) : Bool :=
  label = "xmlns" || (splitLabel label).1 = "xmlns"

/-- All names are different, also when only their namespaces and local parts are compared. -/
def distinct : List Name → Bool
  | [] => true
  | name :: rest =>
    rest.all (fun other =>
      other.label ≠ name.label && (other.space ≠ name.space || other.localPart ≠ name.localPart)) &&
      distinct rest

/-- The labels of declarations are all different. -/
def distinctLabels (labels : List String) : Bool := labels.Nodup

mutual

/-- Replace the prefixes in a node, and leave out the declarations. -/
def bind? (bindings : Bindings) : Node → Option Node
  | .text s => some (.text s)
  | .element name attributes content => do
    let labels := attributes.map (·.1.label)
    let own : List Bindings ← attributes.mapM fun (name, value) => declared? name.label value
    let inner : Bindings := own.flatten ++ bindings
    let shown := attributes.filter fun entry => !isDeclaration entry.1.label
    let names ← shown.mapM fun (name, _) => attributeName? inner name.label
    if distinctLabels labels && distinct names then
      let name ← elementName? inner name.label
      return .element name (names.zip (shown.map (·.2))) (← applyAll? inner content)
    else none

/-- Replace the prefixes in nodes. -/
def applyAll? (bindings : Bindings) : List Node → Option (List Node)
  | [] => some []
  | node :: rest => do
    let first ← bind? bindings node
    return first :: (← applyAll? bindings rest)

end

end Bindings

/-- Line ends become line feeds. -/
def normalizeLineEnds : List Char → List Char
  | [] => []
  | '\r' :: '\n' :: rest => '\n' :: normalizeLineEnds rest
  | c :: rest => (if c = '\r' then '\n' else c) :: normalizeLineEnds rest

/-- The pseudo attributes of an XML declaration are in order: a version, then possibly an encoding, then
possibly whether the document stands alone. -/
def declarationAllowed (attributes : List (String × String)) : Bool :=
  match attributes with
  | ("version", version) :: rest =>
    Text.startsWith version "1." && version.length > 2 && (version.toList.drop 2).all Char.isDigit &&
      match rest with
      | [] => true
      | [("encoding", _)] => true
      | [("standalone", alone)] => alone = "yes" || alone = "no"
      | [("encoding", _), ("standalone", alone)] => alone = "yes" || alone = "no"
      | _ => false
  | _ => false

/-- Drop the XML declaration at the very beginning. -/
def dropDeclaration? (chars : List Char) : Option (List Char) :=
  match Text.dropStart? "<?xml".toList chars with
  | some (c :: rest) =>
    if isXmlSpace c then do
      let (inside, rest) ← Text.cut? "?>".toList (c :: rest)
      let ((attributes, _), left) ← Token.attributes? (inside ++ ['>'])
      if left.isEmpty && declarationAllowed attributes then some rest else none
    else some chars
  | _ => some chars

def read? (document : String) : Option Node := do
  let chars := match document.toList with
    | '\ufeff' :: rest => rest
    | chars => chars
  if chars.all isXmlChar then
    let chars ← dropDeclaration? (normalizeLineEnds chars)
    let root ← assemble none [] (← Token.all? chars)
    Bindings.bind? [("xml", Bindings.xmlSpace)] root
  else none

end StyleRules.Xml
