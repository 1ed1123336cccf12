import StyleRules.Suggestion.Distance
import StyleRules.Text.Case
import StyleRules.Value.Access

/-!
# Names similar to an unknown name

An unknown rule type is compared with the available types in two ways: by the letters of the names, and by
keywords that stand for families of rule types.
-/

namespace StyleRules.Suggestion

/-- The available names that begin with the unknown name, then those that contain it further on, then those
of nearly the same length that are similar to it. -/
def byLetters (unknown : String) (available : List String) : List String :=
  let position (name : String) := Text.find? (Text.lower unknown) (Text.lower name)
  let nearLength (name : String) : Bool :=
    name.length ≤ unknown.length + 2 && unknown.length ≤ name.length + 2
  available.filter (fun name => position name = some 0) ++
    available.filter (fun name => (position name).any (0 < ·)) ++
    available.filter (fun name => nearLength name && Text.isSimilar unknown name)

/-- Keywords with the rule types of their family. -/
def families : List (String × List String) :=
  [("break", ["line", "page", "column", "section", "wrap-text", "clear"]),
    ("format", ["bold", "italic", "underline", "strikethrough"]),
    ("text", ["all-caps", "small-caps", "highlight"]),
    ("structure", ["paragraph", "run", "table"]),
    ("form", ["form-field", "checkbox", "dropdown"]),
    ("media", ["image", "video", "audio", "media"])]

/-- The available types of the families whose keywords occur in the unknown name. -/
def byFamily (unknown : String) (isAvailable : String → Bool) : List String :=
  families.flatMap fun (keyword, members) =>
    if Text.occursIn keyword (Text.lower unknown) then members.filter isAvailable else []

/-- A value as a name; numbers and other values that have no lower case are refused. -/
def nameOf : Value → Outcome String
  | .str name => .ok name
  | .bytes _ => Outcome.wrongType
  | _ => Outcome.noAttribute

/-- The names by letters, for names given as values. -/
def byLettersOf (unknown : Value) (available : List Value) : Outcome (List Value) := do
  let name ← nameOf unknown
  return (byLetters name (← available.mapM nameOf)).map .str

/-- The names by family, for names given as values. -/
def byFamilyOf (unknown : Value) (available : List Value) : Outcome (List Value) := do
  let name ← nameOf unknown
  return (byFamily name fun member => available.any (·.isText member)).map .str

/-- The items without later repetitions. -/
def distinct (items : List Value) : List Value :=
  go [] items
where
  /-- Keep the items that have not been seen. -/
  go (seen : List Value) : List Value → List Value
    | [] => []
    | item :: rest => if seen.any (·.eq item) then go seen rest else item :: go (item :: seen) rest

end StyleRules.Suggestion
