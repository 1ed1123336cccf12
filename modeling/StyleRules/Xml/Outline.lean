import StyleRules.Element
import StyleRules.Value.Text

/-!
# What XML shows of an element

The outline of an element holds its scalar fields as text, the scalar entries of its attribute map, its
text, and the outlines of its children.  Everything else about the element is left out.
-/

namespace StyleRules

namespace Value

/-- The text of a scalar; values that are not scalars have none. -/
def scalarText? : Value → Option String
  | .bool b => some (if b then "true" else "false")
  | .int n => some (toString n)
  | .float x => some (floatText x)
  | .str s => some s
  | _ => none

end Value

namespace Xml

/-- What XML shows of an element. -/
inductive Outline where
  | node (fields : List (Value × String)) (attributes : Option (List (String × String)))
      (text : Option String) (children : List Outline)

namespace Outline

/-- The field is shown in another way than as an XML attribute. -/
def isStructural (name : Value) : Bool :=
  name.isText "children" || name.isText "text" || name.isText "attributes"

/-- The scalar fields of an element with their texts. -/
def scalarFields (fields : List (Value × Value)) : List (Value × String) :=
  fields.filterMap fun (name, value) =>
    if isStructural name then none else value.scalarText?.map fun text => (name, text)

/-- Set the text of a name, in place if there is one already. -/
def setText (name text : String) : List (String × String) → List (String × String)
  | [] => [(name, text)]
  | (n, t) :: rest => if n = name then (name, text) :: rest else (n, t) :: setText name text rest

/-- The scalar entries of an attribute map; a map that is missing or empty is not shown. -/
def attributeTexts (attributes : Value) : Option (List (String × String)) :=
  match attributes with
  | .map (entry :: entries) =>
    some ((entry :: entries).foldl (fun shown (name, value) =>
      match value.scalarText? with
      | some text => setText name.text text shown
      | none => shown) [])
  | _ => none

/-- The text of an element, unless it counts as false. -/
def shownText (text : Value) : Option String :=
  if text.truthy then some text.text else none

mutual

def ofTree : Tree → Outcome Outline
  | .node element children => do
    let fields ← element.publicFields
    return .node (scalarFields fields) (attributeTexts (element.field "attributes"))
      (shownText (element.field "text")) (← ofTrees children)

def ofTrees : List Tree → Outcome (List Outline)
  | [] => .ok []
  | tree :: rest => do
    let first ← ofTree tree
    return first :: (← ofTrees rest)

end

def ofElement (element : Value) : Outcome Outline := do
  ofTree (← Tree.ofElement element)

end Outline

end Xml

end StyleRules
