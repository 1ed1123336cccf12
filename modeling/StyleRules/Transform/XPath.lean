import StyleRules.Text.Search
import StyleRules.Transform.Amount
import StyleRules.Xml.Node

/-!
# Expressions over documents

The expressions of stylesheets are those of XPath 1.0, as far as stylesheets here use them.  An expression is
evaluated at an item of a document and gives items, a truth value, a number or a text.  Values of one kind
are converted to another kind where it is asked for, and items are compared by whether some of them compare.
-/

namespace StyleRules.XPath

open Xml (Name Node)

/-! ## Items -/

/-- A part of a document. -/
inductive Item where
  /-- The document itself, around its root. -/
  | document (root : Node)
  | node (inner : Node)
  | attribute (name : Name) (value : String)

mutual

/-- All text inside a node. -/
def textInside : Node → String
  | .text s => s
  | .element _ _ content => textsInside content

def textsInside : List Node → String
  | [] => ""
  | node :: rest => textInside node ++ textsInside rest

end

namespace Item

def children : Item → List Node
  | .document root => [root]
  | .node inner => inner.content
  | .attribute _ _ => []

/-- The elements directly inside an item that lie outside all namespaces and have the name. -/
def childrenNamed (label : String) (item : Item) : List Item :=
  (item.children.filter (Node.isElement label)).map .node

def attributes : Item → List Item
  | .node inner => inner.attributes.map fun entry => .attribute entry.1 entry.2
  | _ => []

def isAttribute (label : String) : Item → Bool
  | .attribute name _ => name.isPlain label
  | _ => false

/-- The name as it is written. -/
def name : Item → String
  | .node (.element name _ _) => name.label
  | .attribute name _ => name.label
  | _ => ""

def text : Item → String
  | .document root => textInside root
  | .node inner => textInside inner
  | .attribute _ value => value

end Item

/-! ## Objects -/

/-- What an expression gives. -/
inductive Object where
  /-- Items in the order of the document. -/
  | items (found : List Item)
  | truth (b : Bool)
  /-- A number; there is none when a text that is no number was converted. -/
  | number (n : Option Amount)
  | text (s : String)

namespace Object

/-- Only items are items. -/
def toItems : Object → List Item
  | .items found => found
  | _ => []

def toTruth : Object → Bool
  | .items found => !found.isEmpty
  | .truth b => b
  | .number n => n.any fun amount => amount.digits ≠ 0
  | .text s => !s.isEmpty

/-- The text of items is that of the first one. -/
def toText : Object → String
  | .items found => (found.head?.map Item.text).getD ""
  | .truth b => if b then "true" else "false"
  | .number n => (n.map Amount.text).getD "NaN"
  | .text s => s

def toNumber : Object → Option Amount
  | .truth b => some (.ofNat (if b then 1 else 0))
  | .number n => n
  | object => Amount.read? object.toText

def isTruth : Object → Bool
  | .truth _ => true
  | _ => false

def isNumber : Object → Bool
  | .number _ => true
  | _ => false

end Object

/-! ## Comparing -/

inductive Relation where
  | equal | different | less | greater
  deriving Repr, DecidableEq

namespace Relation

/-- Compare numbers; what is no number is only different from everything. -/
def ofNumbers (relation : Relation) : Option Amount → Option Amount → Bool
  | some a, some b =>
    match relation with
    | .equal => a.isEqual b
    | .different => !a.isEqual b
    | .less => a.isLess b
    | .greater => b.isLess a
  | _, _ => relation = .different

def ofEquality (relation : Relation) (same : Bool) : Bool :=
  match relation with
  | .equal => same
  | _ => !same

/-- Compare objects that are not items: for equality as truth values if one is a truth value, else as numbers
if one is a number, else as texts, and for the order as numbers. -/
def ofPlain (relation : Relation) (a b : Object) : Bool :=
  match relation with
  | .equal | .different =>
    if a.isTruth || b.isTruth then relation.ofEquality (a.toTruth = b.toTruth)
    else if a.isNumber || b.isNumber then relation.ofNumbers a.toNumber b.toNumber
    else relation.ofEquality (a.toText = b.toText)
  | .less | .greater => relation.ofNumbers a.toNumber b.toNumber

/-- Compare objects.  Items compare when the text of some of them does, apart from truth values, to which they
are compared by whether there are any. -/
def holds (relation : Relation) (a b : Object) : Bool :=
  match a, b with
  | .items xs, .items ys =>
    xs.any fun x => ys.any fun y => relation.ofPlain (.text x.text) (.text y.text)
  | .items xs, .truth t => relation.ofPlain (.truth !xs.isEmpty) (.truth t)
  | .truth t, .items ys => relation.ofPlain (.truth t) (.truth !ys.isEmpty)
  | .items xs, b => xs.any fun x => relation.ofPlain (.text x.text) b
  | a, .items ys => ys.any fun y => relation.ofPlain a (.text y.text)
  | a, b => relation.ofPlain a b

end Relation

/-! ## Expressions -/

inductive Expr where
  /-- The document. -/
  | document
  /-- The value of a variable or parameter. -/
  | named (name : String)
  | literal (text : String)
  | number (n : Nat)
  /-- The elements with a name directly inside items. -/
  | child (of : Expr) (label : String)
  | attribute (of : Expr) (label : String)
  /-- All attributes that pass a test. -/
  | attributesWhere (of : Expr) (test : Expr)
  /-- The name of the item at hand. -/
  | ownName
  | both (first second : Expr)
  | either (first second : Expr)
  | compare (relation : Relation) (first second : Expr)
  | contains (text part : Expr)
  | startsWith (text start : Expr)
  | count (of : Expr)
  | toNumber (of : Expr)
  | negation (of : Expr)

abbrev Variables := List (String × Object)

/-- Evaluate an expression at an item of the document with the given root.  A variable without a value is an
empty text. -/
def Expr.eval (root : Node) (values : Variables) : Expr → Item → Object
  | .document, _ => .items [.document root]
  | .named name, _ => (values.lookup name).getD (.text "")
  | .literal text, _ => .text text
  | .number n, _ => .number (some (.ofNat n))
  | .child of label, item =>
    .items ((of.eval root values item).toItems.flatMap (Item.childrenNamed label))
  | .attribute of label, item =>
    .items ((of.eval root values item).toItems.flatMap fun found =>
      found.attributes.filter (Item.isAttribute label))
  | .attributesWhere of test, item =>
    .items ((of.eval root values item).toItems.flatMap fun found =>
      found.attributes.filter fun inner => (test.eval root values inner).toTruth)
  | .ownName, item => .text item.name
  | .both first second, item =>
    .truth ((first.eval root values item).toTruth && (second.eval root values item).toTruth)
  | .either first second, item =>
    .truth ((first.eval root values item).toTruth || (second.eval root values item).toTruth)
  | .compare relation first second, item =>
    .truth (relation.holds (first.eval root values item) (second.eval root values item))
  | .contains text part, item =>
    .truth (Text.occursIn (part.eval root values item).toText (text.eval root values item).toText)
  | .startsWith text start, item =>
    .truth (Text.startsWith (text.eval root values item).toText (start.eval root values item).toText)
  | .count of, item => .number (some (.ofNat (of.eval root values item).toItems.length))
  | .toNumber of, item => .number (of.eval root values item).toNumber
  | .negation of, item => .truth (!(of.eval root values item).toTruth)

/-! ## Writing -/

def Relation.written : Relation → String
  | .equal => " = "
  | .different => " != "
  | .less => " &lt; "
  | .greater => " &gt; "

/-- The expression as it stands in the attribute of a stylesheet. -/
def Expr.written : Expr → String
  | .document => ""
  | .named name => "$" ++ name
  | .literal text => "'" ++ text ++ "'"
  | .number n => toString n
  | .child of label => of.written ++ "/" ++ label
  | .attribute of label => of.written ++ "/@" ++ label
  | .attributesWhere of test => of.written ++ "/@*[" ++ test.written ++ "]"
  | .ownName => "name()"
  | .both first second => first.written ++ " and " ++ second.written
  | .either first second => first.written ++ " or " ++ second.written
  | .compare relation first second => first.written ++ relation.written ++ second.written
  | .contains text part => "contains(" ++ text.written ++ ", " ++ part.written ++ ")"
  | .startsWith text start => "starts-with(" ++ text.written ++ ", " ++ start.written ++ ")"
  | .count of => "count(" ++ of.written ++ ")"
  | .toNumber of => "number(" ++ of.written ++ ")"
  | .negation of => "not(" ++ of.written ++ ")"

end StyleRules.XPath
