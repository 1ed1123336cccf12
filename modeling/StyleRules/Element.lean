import StyleRules.Value.Access

/-!
# Document elements

Any value can stand for a document element.  Its children are the items of the field `children`; a missing
or empty field has none.  An element together with everything below it is a tree, and walking through a
list of trees in preorder gives every element with its path of positions.
-/

namespace StyleRules

namespace Value

/-- The items of the field `children`. -/
def childrenOf (children : Value) : Outcome (List Value) :=
  if children.truthy then children.iterate else .ok []

def children (element : Value) : Outcome (List Value) :=
  (element.field "children").childrenOf

/-- The public fields of an element: all entries of a mapping, and the attributes of an object whose names
do not begin with an underscore.  Plain data has no attributes. -/
def publicFields : Value → Outcome (List (Value × Value))
  | .map entries => .ok entries
  | .record _ fields => .ok (visible fields)
  | .message m => .ok (visible m.fields)
  | .result r =>
    .ok (visible [("value", r.value), ("messages", .list (r.messages.map .message))])
  | .plugin p => .ok (visible p.fields)
  | .processor p => .ok (if p.transform.isSome then visible p.fields else [])
  | .failure _ | .callable _ | .matcher _ | .opaqueObject _ => .ok []
  | .null | .bool _ | .int _ | .float _ | .str _ | .bytes _ | .date _ | .moment _ | .list _ =>
    Outcome.wrongType
where
  /-- The fields whose names do not begin with an underscore. -/
  visible (fields : List (String × Value)) : List (Value × Value) :=
    (fields.filter fun field => !Text.startsWith field.1 "_").map fun (name, v) => (.str name, v)

end Value

/-- An element with the trees of its children. -/
inductive Tree where
  | node (element : Value) (children : List Tree)

namespace Tree

/-- An element without children. -/
def leaf (element : Value) : Tree := .node element []

mutual

def ofElement : Value → Outcome Tree
  | .map entries => do return .node (.map entries) (← ofEntries entries)
  | .record tag fields => do return .node (.record tag fields) (← ofFields fields)
  | element => .ok (leaf element)

/-- The trees below the entry `children`. -/
def ofEntries : List (Value × Value) → Outcome (List Tree)
  | [] => .ok []
  | (key, value) :: rest => if key.isText "children" then ofChildren value else ofEntries rest

/-- The trees below the attribute `children`. -/
def ofFields : List (String × Value) → Outcome (List Tree)
  | [] => .ok []
  | (name, value) :: rest => if name = "children" then ofChildren value else ofFields rest

/-- The trees of the items of the field `children`. -/
def ofChildren : Value → Outcome (List Tree)
  | .list items => ofItems items
  | .map entries => ofKeys entries
  | other => do return (← other.childrenOf).map leaf

/-- The trees of a list of elements. -/
def ofItems : List Value → Outcome (List Tree)
  | [] => .ok []
  | element :: rest => do
    let first ← ofElement element
    return first :: (← ofItems rest)

/-- The trees of the keys of a mapping. -/
def ofKeys : List (Value × Value) → Outcome (List Tree)
  | [] => .ok []
  | (key, _) :: rest => do
    let first ← ofElement key
    return first :: (← ofKeys rest)

end

/-- The trees of the elements of a sequence. -/
def forest (elements : Value) : Outcome (List Tree) := do
  (← elements.iterate).mapM ofElement

/-- The elements of a list of trees, of which the first has the position `index` below `path`. -/
def walkFrom (path : List Nat) (index : Nat) : List Tree → List (List Nat × Value)
  | [] => []
  | .node element children :: rest =>
    let here := path ++ [index]
    (here, element) :: walkFrom here 0 children ++ walkFrom path (index + 1) rest

/-- All elements of a list of trees in preorder, each with its path. -/
def walk (trees : List Tree) : List (List Nat × Value) := walkFrom [] 0 trees

end Tree

end StyleRules
