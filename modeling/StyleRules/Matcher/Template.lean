import StyleRules.Pattern.Reader
import StyleRules.Value.Access

/-!
# Reading templates

Templates are written as mappings.  A part of a structural template that cannot be read makes the template that
holds it match nothing; a child template that cannot be read only matters when a child is compared with it.  What
cannot be read of a style template is kept as a malformed condition at its place, so that conditions before it still
decide first.
-/

namespace StyleRules

/-! ## Structural templates -/

/-- The switches named by the flags of an expected pattern; unknown letters are passed over. -/
def PatternFlags.ofValue (flags : Value) : Outcome PatternFlags := do
  let names ← (flags.orElse (.str "")).iterate
  names.foldlM (fun acc name =>
    if !name.isKey then Outcome.wrongType
    else if name.isText "i" then .ok { acc with ignoreCase := true }
    else if name.isText "m" then .ok { acc with multiLine := true }
    else if name.isText "s" then .ok { acc with dotAll := true }
    else .ok acc) {}

/-- Read an expected pattern with its flags. -/
def Expected.readPattern (source flags : Value) : Option Pattern :=
  match source, PatternFlags.ofValue flags with
  | .str text, .ok switches => (Pattern.compile switches text).toOption
  | _, _ => none

/-- Read what is expected of one field. -/
def Expected.ofValue (expected : Value) : Expected Value :=
  let entries := match expected with
    | .map entries => entries
    | _ => []
  let source := (Mapping.get? "regex" entries).getD .null
  let choices := (Mapping.get? "oneOf" entries).getD .null
  if expected.isNull then .absent
  else if source.truthy then
    .pattern (Expected.readPattern source ((Mapping.get? "flags" entries).getD .null))
  else if choices.truthy then .oneOf choices
  else if expected.isCallable then .test expected
  else .literal expected

namespace Template

/-- Read the constraints of a mapping of names; a missing mapping has none. -/
def constraints? (v : Value) : Option (List (Value × Expected Value)) :=
  if v.truthy then
    match v with
    | .map entries => some (entries.map fun (name, expected) => (name, Expected.ofValue expected))
    | _ => none
  else some []

mutual

/-- Read a structural template. -/
def ofValue : Value → Template Value
  | .map entries =>
    let get (name : String) : Value := (Mapping.get? name entries).getD .null
    let custom := get "customMatcher"
    let custom := if custom.isCallable then some custom else none
    match constraints? (get "properties"), constraints? (get "attributes") with
    | some properties, some attributes =>
      match h : Mapping.get? "children" entries with
      | some (.list items) =>
        have : sizeOf items < sizeOf entries := by
          have := Mapping.sizeOf_find?_lt h
          simp only [Value.list.sizeOf_spec] at this
          omega
        .node (get "type") properties attributes (ofItems items) true custom
      | some children =>
        match children.length with
        | .ok n => .node (get "type") properties attributes (List.replicate n .malformed) true custom
        | .error _ =>
          .node (get "type") properties attributes [] (!children.truthy) custom
      | none => .node (get "type") properties attributes [] true custom
    | _, _ => .malformed
  | _ => .malformed
termination_by v => sizeOf v
decreasing_by
  simp only [Value.map.sizeOf_spec]
  omega

/-- Read child templates. -/
def ofItems : List Value → List (Template Value)
  | [] => []
  | v :: rest => ofValue v :: ofItems rest
termination_by items => sizeOf items
decreasing_by
  all_goals simp only [List.cons.sizeOf_spec]
  all_goals omega

end

end Template

/-! ## Style templates -/

/-- Read a condition. -/
def Condition.ofValue : Value → Condition Value
  | .map entries =>
    let get (name : String) : Value := (Mapping.get? name entries).getD .null
    let kind := get "type"
    if kind.isText "property" then .property (get "property") (get "value")
    else if kind.isText "attribute" then .attribute (get "attribute") (get "value")
    else if kind.isText "custom" then .custom (get "evaluator")
    else .unconstrained
  | _ => .malformed (.misuse .attribute)

/-- Read the conditions of a template; a missing list is empty. -/
def Condition.listOfValue (v : Value) : List (Condition Value) :=
  if v.truthy then
    match v.iterate with
    | .ok items => items.map Condition.ofValue
    | .error reason => [.malformed reason]
  else []

/-- Read a style template; what is not a mapping fails before anything else is looked at. -/
def StyleTemplate.ofValue : Value → StyleTemplate Value
  | .map entries =>
    let get (name : String) : Value := (Mapping.get? name entries).getD .null
    ⟨get "elementType", get "styleId", get "styleName", Condition.listOfValue (get "conditions")⟩
  | _ => ⟨.null, .null, .null, [.malformed (.misuse .attribute)]⟩

end StyleRules
