import StyleRules.Diagnostics.Basic
import StyleRules.Plugin.Basic
import StyleRules.Transform.Engine

/-!
# Registry

A registry maps matcher types to the functions that build their matchers, and further types to stylesheets.
It holds the plugins that were loaded and the chain of strategies for types that nobody registered.
-/

namespace StyleRules

/-! ## Built-in types -/

namespace BuiltinTypes

/-- A matcher type whose matcher does not look at the options. -/
def fixed (matcher : Matcher Value) : Value := .callable (.constant (.matcher matcher))

/-- The matcher of breaks of one kind. -/
def breakOf (kind : String) : Matcher Value := .plainBreak (.str kind)

/-- The matcher of all elements of one type. -/
def elementOf (elementType : String) : Matcher Value := .element (.str elementType) .null none .null

/-- The built-in matcher types with the functions that build their matchers. -/
def all : List (String × Value) :=
  [("line", fixed (breakOf "line")),
    ("page", fixed (breakOf "page")),
    ("column", fixed (breakOf "column")),
    ("paragraph", .callable (.build .paragraph)),
    ("run", .callable (.build .run)),
    ("table", .callable (.build .table)),
    ("bold", fixed (elementOf "bold")),
    ("italic", fixed (elementOf "italic")),
    ("underline", fixed (elementOf "underline")),
    ("strikethrough", fixed (elementOf "strikethrough")),
    ("all-caps", fixed (elementOf "allCaps")),
    ("small-caps", fixed (elementOf "smallCaps")),
    ("highlight", .callable (.build .highlightOptions)),
    ("comment-reference", fixed (elementOf "commentReference"))]

end BuiltinTypes

/-! ## Tables -/

structure RegisteredMatcher where
  factory : Value
  priority : Value
  space : Value
  validation : Value
  description : Value

/-- A matcher type that is decided by a stylesheet. -/
structure RegisteredTransform where
  path : Value
  priority : Value
  space : Value
  caching : Bool

/-- What is done with an unknown matcher type. -/
inductive Strategy where
  /-- Stands in with a matcher that matches nothing. -/
  | ignoreUnknown
  /-- Proposes types with the same first letter. -/
  | suggestAlternatives
  /-- Reports the type to diagnostics. -/
  | diagnoseUnknown (diagnostics : Diagnostics)
  /-- Calls a function. -/
  | named (name handle : Value)
  /-- Calls the function `handle` of an object. -/
  | object (subject : Value)

structure Registry where
  engine : Option Engine
  diagnostics : Diagnostics
  matchers : List (Value × RegisteredMatcher)
  transforms : List (Value × RegisteredTransform)
  plugins : List Value
  strategies : List Strategy
  setupMessages : List Message

namespace Strategy

/-- The name of the strategy, null when it has none. -/
def name : Strategy → Value
  | .ignoreUnknown => .str "ignore-unknown"
  | .suggestAlternatives => .str "suggest-alternatives"
  | .diagnoseUnknown _ => .str "diagnose-unknown"
  | .named name _ => name
  | .object subject => subject.attributeOrNull "name"

/-- The strategy has a function that handles unknown types. -/
def check : Strategy → Outcome Unit
  | .object subject => (subject.functionAt "handle" .strategyWithoutHandle).map fun _ => ()
  | _ => .ok ()

end Strategy

namespace Registry

/-- A registry without any types. -/
def empty (engine : Option Engine) (diagnostics : Diagnostics) : Registry :=
  ⟨engine, diagnostics, [], [], [], [], []⟩

/-- Perform an action on the engine, if there is one. -/
def withEngine {α : Type} (fallback : Action Registry α) (action : Action Engine α) :
    Action Registry α := do
  match (← get).engine with
  | none => fallback
  | some engine =>
    let (outcome, changed) := action.perform engine
    modify fun r => { r with engine := some changed }
    Action.ofOutcome outcome

/-! ## Types -/

/-- Read a registered matcher from its options. -/
def matcherOf (name factory options : Value) : Outcome RegisteredMatcher := do
  let options := options.orElse (.map [])
  return { factory
           priority := (← options.option "priority").orElse (.int 0)
           space := (← options.option "namespace").orElse (.str "default")
           validation := ← options.option "validation"
           description := (← options.option "description").orElse
             (.str ("Custom matcher for " ++ name.text)) }

/-- Register a matcher type; an earlier registration of the type is replaced. -/
def register (name factory options : Value) : Action Registry Unit := do
  if !name.isKey then throw (.misuse .type)
  let registered ← Action.ofOutcome (matcherOf name factory options)
  modify fun r => { r with matchers := Mapping.insert name registered r.matchers }

/-- Read a registered transform from its options. -/
def transformOf (path options : Value) : Outcome RegisteredTransform := do
  let options := options.orElse (.map [])
  return { path
           priority := (← options.option "priority").orElse (.int 0)
           space := (← options.option "namespace").orElse (.str "xslt")
           caching := match ← options.optionOr "caching" (.bool true) with
             | .bool false => false
             | _ => true }

/-- Register a matcher type that the stylesheet in a file decides. -/
def registerTransform (name path options : Value) : Action Registry Unit := do
  let registered ← Action.ofOutcome (transformOf path options)
  if !name.isKey then throw (.misuse .type)
  modify fun r => { r with transforms := Mapping.insert name registered r.transforms }

/-- All registered types in ascending order. -/
def availableTypes (r : Registry) : Outcome (List Value) :=
  let direct := r.matchers.map (·.1)
  let others := (r.transforms.map (·.1)).filter fun name => !direct.any (·.eq name)
  Value.sortAscending id (direct ++ others)

/-- What callers may know about a type, null for an unknown one. -/
def matcherInfo (r : Registry) (name : Value) : Outcome Value := do
  match ← name.lookIn r.matchers with
  | some registered =>
    return .ofFields [("type", name), ("namespace", registered.space),
      ("description", registered.description), ("priority", registered.priority),
      ("source", .str "registered")]
  | none =>
    match ← name.lookIn r.transforms with
    | some registered =>
      return .ofFields [("type", name), ("namespace", registered.space),
        ("description", .str "XSLT-based matcher"), ("priority", registered.priority),
        ("source", .str "xslt"), ("transform_path", registered.path)]
    | none => return .null

/-! ## Strategies -/

/-- Add a strategy at the end of the chain. -/
def registerStrategy (strategy : Strategy) : Action Registry Unit := do
  Action.ofOutcome strategy.check
  modify fun r => { r with strategies := r.strategies ++ [strategy] }

/-- Add strategies one after the other. -/
def registerStrategies : List Strategy → Action Registry Unit
  | [] => pure ()
  | strategy :: rest => do
    registerStrategy strategy
    registerStrategies rest

/-- Replace the chain. -/
def setStrategies (strategies : List Strategy) : Action Registry Unit := do
  modify fun r => { r with strategies := [] }
  registerStrategies strategies

/-- The chain of a named mode. -/
def chainOf (r : Registry) (mode : Value) : Outcome (List Strategy) :=
  if mode.isText "ignore" then .ok [.ignoreUnknown, .suggestAlternatives]
  else if mode.isText "suggest-alternatives" then .ok [.suggestAlternatives]
  else if mode.isText "diagnose" then .ok [.diagnoseUnknown r.diagnostics]
  else .error (.unknownFallbackMode mode.text)

/-- Replace the chain by that of a named mode. -/
def setFallbackMode (mode : Value) : Action Registry Unit := do
  setStrategies (← Action.ofOutcome ((← get).chainOf mode))

/-! ## Plugins -/

/-- The registry as functions of other objects see it. -/
def asValue : Value := .opaqueObject "MatcherRegistry"

/-- Register entries one after the other. -/
def registerEntries : List PluginEntry → Action Registry Unit
  | [] => pure ()
  | entry :: rest => do
    register entry.name entry.factory entry.options
    registerEntries rest

/-- Add a plugin to the list; what has no function `register` is refused. -/
def listPlugin (plugin : Value) : Action Registry Unit := do
  let _ ← Action.ofOutcome (plugin.functionAt "register" .pluginWithoutRegister)
  modify fun r => { r with plugins := r.plugins ++ [plugin] }

/-- Let an object of another class perform a step; its functions cannot reach the registry. -/
def performForeign (step : PluginStep) (plugin : Value) : Action Registry Unit := do
  let function := plugin.attributeOrNull (if step = .register then "register" else "initialize")
  if function.isCallable then
    let _ ← Action.ofOutcome (function.call [asValue])

mutual

/-- Register a plugin: it is listed first, then registers its types, and is initialized at last. -/
def registerPlugin : Value → Action Registry Unit
  | .plugin ⟨body, name, version, dependencies, enabled⟩ => do
    listPlugin (.plugin ⟨body, name, version, dependencies, enabled⟩)
    performStep .register body
    performStep .startUp body
  | other => do
    listPlugin other
    performForeign .register other
    performForeign .startUp other
termination_by structural plugin => plugin

/-- Let a plugin perform one of its steps. -/
def performStep (step : PluginStep) : PluginBody Value → Action Registry Unit
  | .builtin plugin => if step = .register then registerEntries plugin.entries else pure ()
  | .written _ atRegister atStart =>
    match step with
    | .register => performScript atRegister
    | .startUp => performScript atStart
termination_by structural body => body

/-- Make the calls of a script, until one of them fails. -/
def performScript : PluginScript Value → Action Registry Unit
  | .done => pure ()
  | .failing reason => throw reason
  | .register name factory options rest => do
    register name factory options
    performScript rest
  | .registerTransform name path options rest => do
    registerTransform name path options
    performScript rest
  | .registerPlugin plugin rest => do
    registerPlugin plugin
    performScript rest
  | .registerStrategy subject rest => do
    registerStrategy (.object subject)
    performScript rest
  | .report isWarning text rest => do
    modify fun r => { r with
      setupMessages := r.setupMessages ++ [if isWarning then .warning text else .errorText text] }
    performScript rest
termination_by structural script => script

end

/-- Let an object that stands for a plugin perform a step. -/
def takeStep (step : PluginStep) : Value → Action Registry Unit
  | .plugin p => performStep step p.body
  | other => performForeign step other

/-- Register a plugin whose steps are given actions on the registry. -/
def registerBy (take : PluginStep → Value → Action Registry Unit) (plugin : Value) : Action Registry Unit := do
  listPlugin plugin
  take .register plugin
  take .startUp plugin

/-- A plugin is registered by the steps that it takes. -/
theorem registerBy_takeStep (plugin : Value) : registerBy takeStep plugin = registerPlugin plugin := by
  cases plugin <;> rfl

/-! ## Setting up -/

def builtinEntries : List PluginEntry :=
  BuiltinTypes.all.map fun (name, factory) =>
    ⟨.str name, factory, .ofFields [("description", .str ("Built-in matcher for " ++ name))]⟩

/-- Set up a registry with the built-in types, and with the chain that ignores unknown ones. -/
def create (engine : Option Engine) (diagnostics : Diagnostics) (installFallbacks : Bool) :
    Registry :=
  let setUp : Action Registry Unit := do
    registerEntries builtinEntries
    if installFallbacks then setFallbackMode (.str "ignore")
  (setUp.perform (empty engine diagnostics)).2

end Registry

end StyleRules
