import StyleRules.Value.Access

/-!
# Schemas

A schema names the kind of a value and constrains it; the schemas of items and properties are nested in it.
A schema is written as a mapping.
-/

namespace StyleRules

inductive Schema where
  /-- Every value conforms to a schema that is empty or names no kind. -/
  | free
  /-- A schema that is not a mapping. -/
  | malformed
  /-- A kind with its constraints as they are written, the schema of items, and the schemas of properties,
  which are missing when they are not written as a mapping. -/
  | typed (kind : Value) (constraints : List (Value × Value)) (items : Option Schema)
      (properties : Option (List (Value × Schema)))

namespace Schema

mutual

/-- Read a schema. -/
def ofValue : Value → Schema
  | .map entries =>
    let kind := (Mapping.get? "type" entries).getD .null
    if kind.truthy then .typed kind entries (itemsOf entries) (propertiesOf entries) else .free
  | other => if other.truthy then .malformed else .free
termination_by structural schema => schema

/-- Read the schema of items; an empty one constrains nothing. -/
def itemsOf : List (Value × Value) → Option Schema
  | [] => none
  | (key, schema) :: rest =>
    if key.isText "itemSchema" then
      if schema.truthy then some (ofValue schema) else none
    else itemsOf rest
termination_by structural entries => entries

/-- Read the schemas of properties; without any there are none to check. -/
def propertiesOf : List (Value × Value) → Option (List (Value × Schema))
  | [] => some []
  | (key, schemas) :: rest =>
    if key.isText "properties" then propertyTable schemas else propertiesOf rest
termination_by structural entries => entries

def propertyTable : Value → Option (List (Value × Schema))
  | .map entries => some (ofEntries entries)
  | other => if other.truthy then none else some []
termination_by structural table => table

/-- Read the schemas of a table. -/
def ofEntries : List (Value × Value) → List (Value × Schema)
  | [] => []
  | (key, schema) :: rest => (key, ofValue schema) :: ofEntries rest
termination_by structural entries => entries

end

/-- The written schema below a dotted path; where the path leaves the schema, every value conforms. -/
def under : List String → Value → Outcome Value
  | [], schema => .ok schema
  | name :: rest, schema => do
    let properties ← schema.option "properties"
    let inner ← (properties.orElse (.map [])).option name
    if inner.truthy then under rest inner else return .map []

end Schema

end StyleRules
