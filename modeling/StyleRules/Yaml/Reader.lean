import StyleRules.Value.Mapping
import StyleRules.Yaml.Node
import StyleRules.Yaml.Scalar

/-!
# Reading YAML

The nodes of a text become values.  Only the tags of plain data are known.  A merge key adds the entries of
other mappings in front of the own ones, which take precedence.
-/

namespace StyleRules.Yaml

/-- The common beginning of the tags of plain data. -/
def tagStem : String := "tag:yaml.org,2002:"

/-- The kinds of scalars by their tags. -/
def scalarTags : List (String × ScalarKind) :=
  [("null", .null), ("bool", .bool), ("int", .int), ("float", .float), ("timestamp", .timestamp),
    ("binary", .bytes), ("str", .text), ("merge", .merge), ("value", .default)]

/-- The kind of a scalar: that of its tag, or the one its text is recognised as.  Other tags are unknown. -/
def scalarKind? (tag : Option String) (text : String) (plain : Bool) : Option ScalarKind :=
  match tag with
  | none => some (if plain then Scalar.kindOf text else .text)
  | some tag => (scalarTags.find? fun entry => tagStem ++ entry.1 = tag).map (·.2)

namespace Node

/-- The node is a key that merges mappings. -/
def isMerge : Node → Bool
  | .scalar tag text plain => scalarKind? tag text plain = some .merge
  | _ => false

/-- The key of a mapping entry; the default key is a text. -/
def asKey : Node → Node
  | .scalar tag text plain =>
    if scalarKind? tag text plain = some .default then .scalar (some (tagStem ++ "str")) text false
    else .scalar tag text plain
  | node => node

/-- The tag of a collection is the expected one, or missing. -/
def tagAllowed (tag : Option String) (expected : String) : Bool :=
  tag.all fun tag => tag = tagStem ++ expected

mutual

/-- The entries that a mapping stands for, the merged ones first. -/
def mergedEntries? : List (Node × Node) → Option (List (Node × Node))
  | [] => some []
  | (key, value) :: rest => do
    let others ← mergedEntries? rest
    if key.isMerge then return (← mergeSource? value) ++ others else return others

/-- The entries that the value of a merge key adds. -/
def mergeSource? : Node → Option (List (Node × Node))
  | .mapping _ entries => do
    let merged ← mergedEntries? entries
    return merged ++ entries.filter fun entry => !entry.1.isMerge
  | .sequence _ items => mergeSources? items
  | .scalar _ _ _ => none

/-- The entries that several mappings add; the first mapping takes precedence, so it comes last. -/
def mergeSources? : List Node → Option (List (Node × Node))
  | [] => some []
  | .mapping _ entries :: rest => do
    let merged ← mergedEntries? entries
    let others ← mergeSources? rest
    return others ++ (merged ++ entries.filter fun entry => !entry.1.isMerge)
  | _ :: _ => none

end

/-- The entries of a mapping after merging. -/
def flatEntries? (entries : List (Node × Node)) : Option (List (Node × Node)) := do
  let merged ← mergedEntries? entries
  let own := entries.filter fun entry => !entry.1.isMerge
  return (merged ++ own).map fun (key, value) => (key.asKey, value)

mutual

/-- The value of a node; `fuel` bounds the depth of the tree. -/
def valueUpTo : Nat → Node → Outcome Value
  | 0, _ => .error .malformedYaml
  | fuel + 1, node =>
    match node with
    | .scalar tag text plain =>
      match scalarKind? tag text plain with
      | some kind => Scalar.valueOf kind text
      | none => .error .malformedYaml
    | .sequence tag items =>
      if tagAllowed tag "seq" then do return .list (← itemsUpTo fuel items)
      else .error .malformedYaml
    | .mapping tag entries =>
      if tagAllowed tag "map" then
        match flatEntries? entries with
        | some entries => do return .map (← entriesUpTo fuel [] entries)
        | none => .error .malformedYaml
      else .error .malformedYaml

/-- The values of nodes. -/
def itemsUpTo : Nat → List Node → Outcome (List Value)
  | 0, _ => .error .malformedYaml
  | _ + 1, [] => .ok []
  | fuel + 1, node :: rest => do
    let first ← valueUpTo fuel node
    return first :: (← itemsUpTo fuel rest)

/-- The entries of a mapping, added to those already read.  Keys have to be usable as keys. -/
def entriesUpTo : Nat → List (Value × Value) → List (Node × Node) → Outcome (List (Value × Value))
  | 0, _, _ => .error .malformedYaml
  | _ + 1, known, [] => .ok known
  | fuel + 1, known, (key, value) :: rest => do
    let key ← valueUpTo fuel key
    if key.isKey then
      let value ← valueUpTo fuel value
      entriesUpTo fuel (Mapping.insert key value known) rest
    else .error .malformedYaml

end

/-- A bound on the depth and width of a node. -/
def extent : Node → Nat
  | .scalar _ _ _ => 1
  | .sequence _ items => 2 + items.length + extents items
  | .mapping _ entries => 2 + entries.length + entryExtents entries
where
  /-- A bound for nodes side by side. -/
  extents : List Node → Nat
    | [] => 0
    | node :: rest => extent node + extents rest
  /-- A bound for entries side by side. -/
  entryExtents : List (Node × Node) → Nat
    | [] => 0
    | (key, value) :: rest => extent key + extent value + 1 + entryExtents rest

end Node

/-- Read YAML; an empty text is null. -/
def read (text : String) : Outcome Value :=
  match (tokens? text).bind document? with
  | none => .error .malformedYaml
  | some none => .ok .null
  | some (some node) => node.valueUpTo (4 * node.extent + 4)

end StyleRules.Yaml
