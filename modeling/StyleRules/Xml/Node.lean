import StyleRules.Text.Ranges

/-!
# XML documents as trees

A document is its root element.  An element has a name, attributes in the order in which they are written,
and content of texts and elements; two texts never stand side by side, and no text is empty.  A name without a colon
is plain; a label is a plain name, or two of them with a colon between.
-/

namespace StyleRules.Xml

/-! ## Characters and names -/

/-- The code lies between two bounds. -/
def within (bounds : Nat × Nat) (n : Nat) : Bool := bounds.1 ≤ n && n ≤ bounds.2

/-- A character that a document may hold. -/
def isXmlChar (c : Char) : Bool :=
  let n := c.toNat
  n = 9 || n = 10 || n = 13 || within (0x20, 0xd7ff) n || within (0xe000, 0xfffd) n || 0x10000 ≤ n

/-- White space inside markup. -/
def isXmlSpace (c : Char) : Bool :=
  c = ' ' || c = '\t' || c = '\n' || c = '\r'

/-- The characters beyond ASCII that can begin a name. -/
def nameStartRanges : List (Nat × Nat) :=
  [(0xc0, 0xd6), (0xd8, 0xf6), (0xf8, 0x2ff), (0x370, 0x37d), (0x37f, 0x1fff), (0x200c, 0x200d),
    (0x2070, 0x218f), (0x2c00, 0x2fef), (0x3001, 0xd7ff), (0xf900, 0xfdcf), (0xfdf0, 0xfffd),
    (0x10000, 0xeffff)]

/-- The further characters beyond ASCII that can stand inside a name. -/
def nameInnerRanges : List (Nat × Nat) := [(0xb7, 0xb7), (0x300, 0x36f), (0x203f, 0x2040)]

/-- A character that can begin a plain name. -/
def isNameStart (c : Char) : Bool :=
  c = '_' || c.isAlpha || (128 ≤ c.toNat && nameStartRanges.any fun r => within r c.toNat)

/-- A character that can stand inside a plain name. -/
def isNameChar (c : Char) : Bool :=
  isNameStart c || c = '-' || c = '.' || c.isDigit ||
    (128 ≤ c.toNat && nameInnerRanges.any fun r => within r c.toNat)

def isPlainName : List Char → Bool
  | [] => false
  | c :: rest => isNameStart c && rest.all isNameChar

/-- Take a plain name from the beginning; it is empty when there is none. -/
def takeName : List Char → List Char × List Char
  | [] => ([], [])
  | c :: rest =>
    if isNameStart c then (c :: rest.takeWhile isNameChar, rest.dropWhile isNameChar) else ([], c :: rest)

/-- The prefix of a label, empty when there is none, and its local part. -/
def splitLabel (label : String) : String × String :=
  match label.toList.span (· ≠ ':') with
  | (_, []) => ("", label)
  | (space, _ :: part) => (String.ofList space, String.ofList part)

/-! ## Trees -/

/-- A name as it is written, with the namespace that its prefix stands for; names outside all namespaces
have the empty one. -/
structure Name where
  space : String
  label : String
  deriving Repr, DecidableEq

namespace Name

/-- A name outside all namespaces. -/
def plain (label : String) : Name := ⟨"", label⟩

/-- The name lies outside all namespaces and is written as `label`. -/
def isPlain (name : Name) (label : String) : Bool := name.space.isEmpty && name.label = label

/-- The part of the label behind the prefix. -/
def localPart (name : Name) : String := (splitLabel name.label).2

end Name

/-- A part of a document. -/
inductive Node where
  | element (name : Name) (attributes : List (Name × String)) (content : List Node)
  | text (text : String)

namespace Node

/-- The node is an element outside all namespaces with this name. -/
def isElement (label : String) : Node → Bool
  | .element name _ _ => name.isPlain label
  | .text _ => false

/-- The nodes inside an element. -/
def content : Node → List Node
  | .element _ _ content => content
  | .text _ => []

def attributes : Node → List (Name × String)
  | .element _ attributes _ => attributes
  | .text _ => []

/-- The elements with a name directly inside a node. -/
def elements (label : String) (node : Node) : List Node :=
  node.content.filter (isElement label)

/-- The value of an attribute outside all namespaces. -/
def attribute? (node : Node) (label : String) : Option String :=
  (node.attributes.find? fun entry => entry.1.isPlain label).map (·.2)

end Node

end StyleRules.Xml
