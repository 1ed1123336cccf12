import StyleRules.Configuration.Schema
import StyleRules.Matcher.Evaluate

/-!
# Validation

A value is checked against a schema by the validator of its kind, which gives a list of errors.  The errors
of items and properties are put together in one error of the list or mapping around them.
-/

namespace StyleRules

/-- A kind of values that can be checked without further registration. -/
inductive BasicKind where
  | text
  | number
  | truth
  | list
  | mapping
  deriving Repr, DecidableEq

/-- What checks the values of a kind. -/
inductive Validator where
  | basic (kind : BasicKind)
  /-- A function of the value and the written schema. -/
  | custom (function : Value)

namespace Validation

def errors (texts : List String) : Value := .list (texts.map .str)

def constraint (constraints : List (Value × Value)) (name : String) : Value :=
  (Mapping.get? name constraints).getD .null

/-- An error where a condition holds. -/
def errorIf (condition : Bool) (text : String) : List String := if condition then [text] else []

/-- A bound that counts as true and is exceeded. -/
def exceeds (bound : Value) (test : Value → Outcome Bool) : Outcome Bool :=
  if bound.truthy then test bound else .ok false

def patternOccurs (pattern : Value) (text : String) : Outcome Bool :=
  match pattern with
  | .str source => do return (← Pattern.compile {} source).occurs text
  | _ => Outcome.wrongType

/-- Check a text: its length, its pattern, and the choices for it. -/
def checkText (constraints : List (Value × Value)) : Value → Outcome (List String)
  | .str s => do
    let size : Value := .int s.length
    let least := constraint constraints "minLength"
    let most := constraint constraints "maxLength"
    let pattern := constraint constraints "pattern"
    let choices := constraint constraints "enum"
    let short ← exceeds least fun bound => size.less bound
    let long ← exceeds most fun bound => bound.less size
    let unlike ← exceeds pattern fun source => return !(← patternOccurs source s)
    let unknown ← exceeds choices fun all => return !(← all.contains (.str s))
    let listed ← if unknown then Value.joinTexts ", " (← choices.iterate) else .ok ""
    return errorIf short s!"String must be at least {least.text} characters" ++
      errorIf long s!"String must be no more than {most.text} characters" ++
      errorIf unlike s!"String must match pattern: {pattern.text}" ++
      errorIf unknown s!"String must be one of: {listed}"
  | _ => .ok ["Value must be a string"]

/-- The value is a number, and not a truth value or NaN. -/
def isNumber : Value → Bool
  | .int _ => true
  | .float x => !x.isNaN
  | _ => false

/-- The number is an integer; integers beyond the range of doubles cannot be checked. -/
def isInteger : Value → Outcome Bool
  | .int n => if Decimal.fitsFloat n then .ok true else .error (.misuse .overflow)
  | .float x => .ok (Decimal.isInteger x)
  | _ => .ok false

/-- Check a number: its bounds, and whether it has to be an integer. -/
def checkNumber (constraints : List (Value × Value)) (value : Value) : Outcome (List String) := do
  if isNumber value then
    let least := constraint constraints "min"
    let most := constraint constraints "max"
    let small ← if least.isNull then .ok false else value.less least
    let large ← if most.isNull then .ok false else most.less value
    let broken ← if (constraint constraints "integer").truthy then
        do pure !(← isInteger value)
      else .ok false
    return errorIf small s!"Number must be at least {least.text}" ++
      errorIf large s!"Number must be no more than {most.text}" ++
      errorIf broken "Number must be an integer"
  else return ["Value must be a number"]

def checkTruth : Value → List String
  | .bool _ => []
  | _ => ["Value must be a boolean"]

/-- Put the errors of a part into one error. -/
def nested (label : String) (found : Value) : Outcome (List String) := do
  if found.truthy then
    return [label ++ ": " ++ (← Value.joinTexts ", " (← found.iterate))]
  else return []

def itemErrors (check : Value → Outcome Value) : Nat → List Value → Outcome (List String)
  | _, [] => .ok []
  | position, item :: rest => do
    let first ← nested s!"Item {position}" (← check item)
    return first ++ (← itemErrors check (position + 1) rest)

/-- Check a list: its length, and its items. -/
def checkList (constraints : List (Value × Value)) (checkItem : Option (Value → Outcome Value)) :
    Value → Outcome (List String)
  | .list items => do
    let size : Value := .int items.length
    let least := constraint constraints "minItems"
    let most := constraint constraints "maxItems"
    let short ← exceeds least fun bound => size.less bound
    let long ← exceeds most fun bound => bound.less size
    let found ← match checkItem with
      | some check => itemErrors check 0 items
      | none => .ok []
    return errorIf short s!"Array must have at least {least.text} items" ++
      errorIf long s!"Array must have no more than {most.text} items" ++ found
  | _ => .ok ["Value must be an array"]

/-- The required keys that a mapping does not have. -/
def missingKeys (entries : List (Value × Value)) : List Value → Outcome (List String)
  | [] => .ok []
  | key :: rest => do
    let present ← (Value.map entries).contains key
    return errorIf (!present) s!"Missing required property: {key.text}" ++
      (← missingKeys entries rest)

/-- The keys of a mapping that have no schema. -/
def unexpectedKeys (known : List Value) (entries : List (Value × Value)) : List String :=
  (entries.filter fun entry => !known.any (·.eq entry.1)).map fun entry =>
    s!"Unexpected property: {entry.1.text}"

/-- Check a mapping: its required keys, the properties with schemas, and that there are no others. -/
def checkMapping (constraints : List (Value × Value))
    (checkProperties : Option (List Value × (List (Value × Value) → Outcome (List String)))) :
    Value → Outcome (List String)
  | .map entries => do
    let required := constraint constraints "required"
    let missing ← if required.truthy then do missingKeys entries (← required.iterate) else .ok []
    match checkProperties with
    | none => Outcome.noAttribute
    | some (known, check) =>
      let found ← check entries
      let closed := match constraint constraints "additionalProperties" with
        | .bool false => true
        | _ => false
      return missing ++ found ++ (if closed then unexpectedKeys known entries else [])
  | _ => .ok ["Value must be an object"]

def validatorOf (validators : List (Value × Validator)) (kind : Value) : Outcome (Option Validator) :=
  kind.lookIn validators

mutual

/-- Check a value against a schema: the errors, or what a custom validator gives. -/
def check (validators : List (Value × Validator)) : Schema → Value → Outcome Value
  | .free, _ => .ok (errors [])
  | .malformed, _ => Outcome.noAttribute
  | .typed kind constraints items properties, value => do
    match ← validatorOf validators kind with
    | none => return errors [s!"Unknown validator type: {kind.text}"]
    | some (.custom function) => function.call [value, .map constraints]
    | some (.basic .text) => return errors (← checkText constraints value)
    | some (.basic .number) => return errors (← checkNumber constraints value)
    | some (.basic .truth) => return errors (checkTruth value)
    | some (.basic .list) =>
      return errors (← checkList constraints (checkItem validators items) value)
    | some (.basic .mapping) =>
      return errors (← checkMapping constraints (checkTable validators properties) value)
termination_by structural schema => schema

def checkItem (validators : List (Value × Validator)) :
    Option Schema → Option (Value → Outcome Value)
  | none => none
  | some schema => some fun value => check validators schema value
termination_by structural schema => schema

/-- The check of the properties of a table, with their names. -/
def checkTable (validators : List (Value × Validator)) :
    Option (List (Value × Schema)) →
      Option (List Value × (List (Value × Value) → Outcome (List String)))
  | none => none
  | some table => some (table.map (·.1), fun entries => checkProperties validators table entries)
termination_by structural table => table

/-- Check the properties of a mapping that have schemas, in the order of the schemas. -/
def checkProperties (validators : List (Value × Validator)) :
    List (Value × Schema) → List (Value × Value) → Outcome (List String)
  | [], _ => .ok []
  | (key, schema) :: rest, entries => do
    let first ← match Mapping.find? key entries with
      | some value => do nested s!"Property {key.text}" (← check validators schema value)
      | none => pure []
    return first ++ (← checkProperties validators rest entries)
termination_by structural table => table

end

end Validation

end StyleRules
