import StyleRules.Matcher.StyleName
import StyleRules.Message
import StyleRules.Pattern.Syntax
import StyleRules.Value.Date

/-!
# Values

Document elements, rule options, configurations and everything that callers hand in are values of one
type: JSON-like data, attribute objects, and the active objects of the library (functions, matchers,
plugins, transform processors).  The active objects are described by the types below, which are
parametrised by the type of values so that values can contain them.
-/

namespace StyleRules

/-- A condition of a style template. -/
inductive Condition (α : Type) where
  /-- A field of the element equals a value. -/
  | property (name expected : α)
  /-- An entry of the element's attribute map equals a value. -/
  | attribute (name expected : α)
  /-- A function of element and options gives a truthy value. -/
  | custom (evaluator : α)
  /-- Other kinds of conditions do not constrain the match. -/
  | unconstrained
  /-- The condition cannot be read. -/
  | malformed (reason : Failure)

/-- A style template: type and style of the element, and further conditions. -/
structure StyleTemplate (α : Type) where
  elementType : α
  styleId : α
  styleName : α
  conditions : List (Condition α)

/-- What a structural template expects of one field. -/
inductive Expected (α : Type) where
  /-- A missing value, when the template is strict. -/
  | absent
  /-- A text in which a pattern occurs; a pattern that cannot be read occurs nowhere. -/
  | pattern (pattern : Option Pattern)
  /-- One of several values. -/
  | oneOf (choices : α)
  /-- A value that a function accepts. -/
  | test (accepts : α)
  /-- This value. -/
  | literal (value : α)

/-- A structural template for an element and its descendants. -/
inductive Template (α : Type) where
  /-- The field `countable` is false when the child templates are not a sequence. -/
  | node (elementType : α) (properties attributes : List (α × Expected α))
      (children : List (Template α)) (countable : Bool) (custom : Option α)
  /-- A template that cannot be read matches nothing. -/
  | malformed

/-- The kinds of matchers that are built from rule options or positional arguments. -/
inductive MatcherKind where
  | noop | conditional | conditionalBreak | element | plainBreak | highlight | styleTemplate
  | sectionBreak | wrapBreak | clearBreak | formField | equation | media | container | structural
  | unbound | transform
  | paragraph | run | table | highlightOptions
  deriving Repr, DecidableEq

/-- A compiled rule: a predicate over document elements. -/
inductive Matcher (α : Type) where
  /-- Matches nothing. -/
  | noop (reason : α)
  /-- Asks a condition first and a fallback matcher second. -/
  | conditional (ofBreaks : Bool) (condition fallback : α)
  /-- Elements of one type, narrowed by style and list level. -/
  | element (elementType styleId : α) (styleName : Option StyleName) (list : α)
  /-- Breaks of one kind. -/
  | plainBreak (kind : α)
  /-- Highlights, of one colour when it is given. -/
  | highlight (color : α)
  /-- Elements that satisfy a style template. -/
  | styleTemplate (template : StyleTemplate α) (options : α)
  | sectionBreak (sectionType continuous : α)
  | wrapBreak (side wrapType : α)
  | clearBreak (side : α)
  | formField (fieldType fieldName required placeholder : α)
  | equation (mathType writtenAs : α)
  | media (mediaType mimeType source : α)
  | container (containerType className attributes children : α)
  /-- Elements that have the shape of a template. -/
  | structural (template : Option (Template α)) (strict : Bool)
  /-- A transform-backed rule without an engine. -/
  | unbound (ruleType path : α)
  /-- A rule decided by a template of the transform engine at hand. -/
  | transform (template : α) (parameters : List (α × α)) (useCache : α)
  /-- A rule decided by a template of no engine. -/
  | detached (template : α) (parameters : List (α × α)) (useCache : α)
  /-- A matcher that a caller supplies as a function. -/
  | scripted (test : α)

/-- Checks of rule options before a matcher is built. -/
inductive OptionCheck where
  | always | wrapText | clear | conditional | formField | media | container | template
  deriving Repr, DecidableEq

/-- The plugins that the library ships. -/
inductive BuiltinPlugin where
  | extendedBreaks
  | customElements
  deriving Repr, DecidableEq

/-- What a caller's function sees of a value: all data, and of other objects the class name. -/
inductive Datum where
  | null
  | bool (b : Bool)
  | int (n : Int)
  | float (x : Float)
  | str (s : String)
  | bytes (b : List UInt8)
  | date (d : Date)
  | moment (m : Moment)
  | list (items : List Datum)
  | map (entries : List (Datum × Datum))
  | record (tag : Nat) (fields : List (String × Datum))
  | failure (reason : Failure)
  | message (message : Message)
  | result (value : Datum) (messages : List Message)
  | object (className : String)

/-- A function.  Those of callers are pure: they give the same for the same arguments, and what they raise are
errors. -/
inductive Callable (α : Type) where
  /-- Gives the same value for all arguments. -/
  | constant (value : α)
  /-- Always fails. -/
  | failing (reason : Failure)
  /-- Gives one of its arguments. -/
  | argument (index : Int)
  /-- Gives a field of its argument. -/
  | field (name : α)
  /-- Gives its argument with one entry changed. -/
  | withEntry (key value : α)
  /-- A function that a caller wrote, by what it gives for the data of its arguments. -/
  | written (answer : List Datum → Except Failure α)
  /-- Builds a matcher of one kind from its arguments. -/
  | build (kind : MatcherKind)
  /-- Builds matchers for one style template. -/
  | fromStyleTemplate (template : α)
  /-- Checks rule options. -/
  | check (rule : OptionCheck)
  /-- Builds a plugin that the library ships. -/
  | buildPlugin (plugin : BuiltinPlugin)
  /-- A method of a value that no rule calls. -/
  | method

/-- The steps in which a plugin is set up. -/
inductive PluginStep where
  | register
  | startUp
  deriving Repr, DecidableEq

/-- What a plugin does with a registry in one of its steps: the calls that it makes, until one of them fails. -/
inductive PluginScript (α : Type) where
  | done
  /-- Raises an error, or asks for the end of the process. -/
  | failing (reason : Failure)
  | register (name factory options : α) (rest : PluginScript α)
  | registerTransform (name path options : α) (rest : PluginScript α)
  | registerPlugin (plugin : α) (rest : PluginScript α)
  /-- Adds an object with a function `handle` to the chain of strategies. -/
  | registerStrategy (subject : α) (rest : PluginScript α)
  /-- Adds a setup message, a warning or an error. -/
  | report (isWarning : Bool) (text : String) (rest : PluginScript α)

/-- What a plugin does. -/
inductive PluginBody (α : Type) where
  | builtin (plugin : BuiltinPlugin)
  /-- A plugin that a caller wrote, with the name of its class. -/
  | written (className : String) (register startUp : PluginScript α)

/-- A plugin: a batch of matcher types with a name and dependencies. -/
structure Plugin (α : Type) where
  body : PluginBody α
  name : α
  version : α
  dependencies : α
  enabled : Bool

structure Processor (α : Type) where
  name : α
  displayName : α
  supports : List α
  priority : α
  /-- The function that does the work; without one, the processor runs stylesheets. -/
  transform : Option α

/-- A produced value, null on failure, with the messages that came up. -/
structure Result (α : Type) where
  value : α
  messages : List Message

inductive Value where
  | null
  | bool (b : Bool)
  | int (n : Int)
  | float (x : Float)
  | str (s : String)
  | bytes (b : List UInt8)
  | date (d : Date)
  | moment (m : Moment)
  | list (items : List Value)
  /-- A mapping, in the order of insertion. -/
  | map (entries : List (Value × Value))
  /-- An attribute object; `tag` tells objects with the same fields apart. -/
  | record (tag : Nat) (fields : List (String × Value))
  | failure (reason : Failure)
  | message (message : Message)
  | result (result : Result Value)
  | callable (function : Callable Value)
  | matcher (matcher : Matcher Value)
  | plugin (plugin : Plugin Value)
  | processor (processor : Processor Value)
  /-- An object of which only the class name is known. -/
  | opaqueObject (className : String)

instance : Inhabited Value := ⟨.null⟩

namespace Value

/-- A mapping with text keys. -/
def ofFields (fields : List (String × Value)) : Value :=
  .map (fields.map fun (name, value) => (.str name, value))

def isNull : Value → Bool
  | .null => true
  | _ => false

/-- The value counts as true. -/
def truthy : Value → Bool
  | .null => false
  | .bool b => b
  | .int n => n ≠ 0
  | .float x => x != 0.0
  | .str s => !s.isEmpty
  | .bytes b => !b.isEmpty
  | .list items => !items.isEmpty
  | .map entries => !entries.isEmpty
  | _ => true

/-- The first value when it counts as true, and the second otherwise. -/
def orElse (a b : Value) : Value := if a.truthy then a else b

end Value

namespace Result

/-- A value without messages. -/
def success (value : Value) : Result Value := ⟨value, []⟩

/-- No value, and the error message of a failure. -/
def failed (reason : Failure) : Result Value := ⟨.null, [.error reason]⟩

/-- No value, and a warning. -/
def refused (text : String) : Result Value := ⟨.null, [.warning text]⟩

/-- The result has a value. -/
def isSuccess (result : Result Value) : Bool := !result.value.isNull

def warnings (result : Result Value) : List Message := result.messages.filter (·.isWarning)

def errors (result : Result Value) : List Message := result.messages.filter (·.isError)

end Result

end StyleRules
