import StyleRules.Host.Basic
import StyleRules.Json.Reader
import StyleRules.Matcher.Evaluate

/-!
# Transformers

A transformer changes single values of a configuration.  References to environment variables are expanded
whenever a configuration is loaded; the others are applied on request.
-/

namespace StyleRules

/-- A change of single values. -/
inductive Transformer where
  /-- A text that is a reference to a variable becomes its value. -/
  | variable
  /-- A path becomes a path from the root. -/
  | path
  /-- A text that is JSON becomes what it says. -/
  | json
  | custom (function : Value)

namespace Transformer

/-- The name in a text of the form `${name}`, which may end in a line feed. -/
def referenceName? (s : String) : Option String := do
  let rest ← Text.dropStart? ['$', '{'] s.toList
  let name := rest.takeWhile (· ≠ '}')
  let ending := rest.dropWhile (· ≠ '}')
  if !name.isEmpty && (ending = ['}'] || ending = ['}', '\n']) then
    return String.ofList name
  else none

/-- Replace a reference by the value of its variable, unless that is missing or empty. -/
def expandVariable (host : Host) (s : String) : String :=
  match (referenceName? s).bind host.valueOf? with
  | some value => if value.isEmpty then s else value
  | none => s

/-- The path from the root that a path names. -/
def resolvePath (host : Host) (s : String) : Outcome String :=
  if s.toList.contains '\x00' then .error (.misuse .value)
  else .ok ("/" ++ Text.join "/" ((Path.ofString s).resolve host.directory))

/-- Apply a transformer; all but custom ones leave other values than texts alone. -/
def apply (host : Host) : Transformer → Value → Outcome Value
  | .variable, .str s => .ok (.str (expandVariable host s))
  | .path, .str s => return .str (← resolvePath host s)
  | .json, .str s => .ok ((Json.read s).toOption.getD (.str s))
  | .custom function, value => function.call [value]
  | _, value => .ok value

end Transformer

end StyleRules
