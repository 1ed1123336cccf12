import StyleRules.Value.Access

/-!
# Merging configurations

A configuration is laid over another one.  Mappings are merged entry by entry, and every other value replaces
what was there.  The entries of the lower configuration come first.
-/

namespace StyleRules.Configuration

/-- The entries whose keys the lower mapping does not have. -/
def additions (base changes : List (Value × Value)) : List (Value × Value) :=
  changes.filter fun entry => !Mapping.has entry.1 base

mutual

/-- Lay a value over another one. -/
def mergeValue : Value → Value → Value
  | .map base, .map changes => .map (mergeBase changes base ++ additions base changes)
  | _, change => change

/-- The entries of the lower mapping, each with its change. -/
def mergeBase (changes : List (Value × Value)) : List (Value × Value) → List (Value × Value)
  | [] => []
  | (key, value) :: rest =>
    (match Mapping.find? key changes with
      | some change => (key, mergeValue value change)
      | none => (key, value)) :: mergeBase changes rest

end

/-- Lay a mapping over another one. -/
def mergeEntries (base changes : List (Value × Value)) : List (Value × Value) :=
  mergeBase changes base ++ additions base changes

/-- Lay a value over a mapping.  What is no mapping cannot be merged: it is either searched for the keys of
the mapping in vain, or fails when one is found. -/
def merge (base changes : Value) : Outcome Value :=
  match base, changes with
  | .map entries, .map others => .ok (.map (mergeEntries entries others))
  | .map entries, other => do
    for (key, _) in entries do
      if ← other.contains key then Outcome.wrongType
    Outcome.noAttribute
  | _, _ => Outcome.noAttribute

/-- The entries that differ from the defaults; a mapping keeps those of its own entries that differ. -/
def withoutDefaults (defaults : List (Value × Value)) : List (Value × Value) → List (Value × Value)
  | [] => []
  | (key, value) :: rest =>
    let others := withoutDefaults defaults rest
    match Mapping.find? key defaults, value with
    | none, _ => (key, value) :: others
    | some (.map inner), .map entries =>
      let kept := withoutDefaults inner entries
      if kept.isEmpty then others else (key, .map kept) :: others
    | some default, _ => if value.eq default then others else (key, value) :: others

end StyleRules.Configuration
