import StyleRules.Configuration.Basic
import StyleRules.Diagnostics.Report
import StyleRules.Element
import StyleRules.Registry.Resolve
import StyleRules.Registry.Setup

/-!
# Runs

A run sets up a registry from plugins, a configuration and further registrations, compiles the rules of an
event, and asks every compiled rule about every element of the document.  The outcome lists the paths of the
elements that each rule matches, all messages, and a report.
-/

namespace StyleRules

/-- A matcher type that is registered at last. -/
structure Registration where
  name : Value
  factory : Value
  options : List (Value × Value)

/-- What a run is set up from. -/
structure Orchestrator where
  configuration : Configuration
  plugins : List Value
  registrations : List Registration

/-- A rule with the result of making its matcher. -/
structure CompiledRule where
  index : Nat
  type : Value
  result : Result Value

/-- What a run found out about a rule. -/
structure RuleOutcome where
  index : Nat
  type : Value
  compiled : Bool
  matched : List (List Nat)

/-- What a run found out. -/
structure RunOutcome where
  rules : List RuleOutcome
  messages : List Message
  report : Report

namespace RuleOutcome

/-- The outcome of a rule as a value. -/
def toValue (outcome : RuleOutcome) : Value :=
  let paths := outcome.matched.map fun path => Value.list (path.map fun (position : Nat) => .int position)
  .ofFields [("index", .int outcome.index), ("type", outcome.type),
    ("compiled", .bool outcome.compiled), ("matches", .list paths)]

end RuleOutcome

namespace Message

def toValue (m : Message) : Value := .ofFields [("type", .str m.kind), ("message", .str m.text)]

end Message

namespace RunOutcome

/-- The outcome of a run as a value. -/
def toValue (outcome : RunOutcome) : Value :=
  .ofFields [("statusCode", .int 200), ("rules", .list (outcome.rules.map (·.toValue))),
    ("messages", .list (outcome.messages.map (·.toValue))), ("report", outcome.report.toValue)]

end RunOutcome

namespace Orchestrator

/-- An orchestrator of a configuration with plugins. -/
def create (configuration : Configuration) (plugins : Value) : Outcome Orchestrator := do
  return ⟨configuration, ← (plugins.orElse (.list [])).iterate, []⟩

/-- Register a further matcher type; its options are copied. -/
def addMatcher (o : Orchestrator) (name factory options : Value) : Outcome Orchestrator := do
  let entries ← (options.orElse (.map [])).toEntries
  return { o with registrations := o.registrations ++ [⟨name, factory, entries⟩] }

/-! ## Setting up -/

/-- Set up the transform engine, unless transforms are switched off. -/
def buildEngine (o : Orchestrator) (host : Host) : Outcome (Option Engine) := do
  let get (path : String) (default : Value) := o.configuration.get host path default
  if !(← get "transforms.enabled" (.bool true)).truthy then return none
  let engine ← Engine.create
    { cacheEnabled := ← get "transforms.cache_enabled" (.bool true)
      maxCacheSize := ← get "transforms.max_cache_size" (.int 100)
      defaultProcessor := ← get "transforms.default_processor" (.str "lxml")
      transformPaths := ← get "transforms.transform_paths" .null
      compile := host.compile }
  let names ← ((← get "transforms.processors" .null).orElse (.list [])).iterate
  let (enabled, engine) := (Engine.enableBackends names).perform engine
  enabled
  if (← get "transforms.common_templates" (.bool false)).truthy then
    let (defined, engine) := Engine.defineCommonTemplates.perform engine
    defined
    return some engine
  else return some engine

/-- The dependencies of a plugin that no loaded plugin meets. -/
def missingDependencies (plugin : Value) (loaded : List Value) : Outcome Value :=
  match plugin with
  | .plugin p => do return .list (← p.missingDependencies (.list loaded))
  | other =>
    let function := other.attributeOrNull "missing_dependencies"
    if function.isCallable then function.call [.list loaded] else .ok (.list [])

/-- Register plugins in order, by the steps that they take; missing dependencies are reported before the plugin is
registered. -/
def registerPlugins (take : PluginStep → Value → Action Registry Unit) : List Value → Action Registry Unit
  | [] => pure ()
  | plugin :: rest => do
    let loaded := (← get).plugins.map (·.attributeOrNull "name")
    let missing ← Action.ofOutcome (missingDependencies plugin loaded)
    if missing.truthy then
      let name ← Action.ofOutcome (plugin.attributeOf "name")
      Registry.report ((← get).diagnostics.dependenciesMissing name missing)
    Registry.registerBy take plugin
    registerPlugins take rest

/-- Register further matcher types in order. -/
def registerAll : List Registration → Action Registry Unit
  | [] => pure ()
  | registration :: rest => do
    Registry.register registration.name registration.factory (.map registration.options)
    registerAll rest

/-- Set up the registry: the fallback mode, plugins, the configuration, and further registrations.  What the plugins
do in their steps is given, since plugins may do anything with a registry. -/
def setUpBy (take : PluginStep → Value → Action Registry Unit) (o : Orchestrator) (host : Host) :
    Action Registry Unit := do
  let mode := o.configuration.get host "error_handling.fallback_strategy" (.str "ignore")
  Registry.setFallbackMode (← Action.ofOutcome mode)
  registerPlugins take o.plugins
  Registry.loadConfiguration host (← Action.ofOutcome (o.configuration.registryPart host))
  registerAll o.registrations
  let _ ← Action.ofOutcome (← get).availableTypes

def buildBy (take : PluginStep → Value → Action Registry Unit) (o : Orchestrator) (host : Host) :
    Outcome Registry := do
  let registry := Registry.create (← o.buildEngine host) Diagnostics.standard true
  let (outcome, ready) := (o.setUpBy take host).perform registry
  outcome.map fun () => ready

/-- The registry that a run starts with. -/
def buildRegistry (o : Orchestrator) (host : Host) : Outcome Registry := o.buildBy Registry.takeStep host

/-! ## Compiling -/

/-- Compile rules in order. -/
def compileFrom (host : Host) (index : Nat) : List Value → Action Registry (List CompiledRule)
  | [] => pure []
  | rule :: rest => do
    let type ← Action.ofOutcome (rule.option "type")
    let options ← Action.ofOutcome (rule.option "options")
    let result ← Registry.createMatcher host type options
    let others ← compileFrom host (index + 1) rest
    return ⟨index, type, result⟩ :: others

/-! ## Evaluating -/

/-- What asking a matcher about elements gave so far. -/
structure Tally where
  matched : List (List Nat) := []
  failures : Nat := 0
  firstFailure : Option Failure := none

/-- Note the answer for one element; a failure counts as a non-match. -/
def Tally.note (tally : Tally) (path : List Nat) (answer : Outcome Value) : Tally :=
  match answer with
  | .ok verdict => if verdict.truthy then { tally with matched := tally.matched ++ [path] } else tally
  | .error reason =>
    { tally with
      failures := tally.failures + 1
      firstFailure := tally.firstFailure.orElse fun _ => some reason }

/-- Ask a matcher about elements in order. -/
def askAll (matcher : Value) : Tally → List (List Nat × Value) → Action Registry Tally
  | tally, [] => pure tally
  | tally, (path, element) :: rest => do
    let answer ← (Registry.ask matcher element).attempt
    askAll matcher (tally.note path answer) rest

/-- The message about failures of a rule, if there were any. -/
def failureMessage (rule : CompiledRule) (tally : Tally) : List Message :=
  match tally.firstFailure with
  | none => []
  | some reason =>
    let about := s!"Matcher for rule {rule.index} ({rule.type.text}) failed on {tally.failures} elements: "
    [⟨Message.errorKind, about ++ reason.kind ++ ": " ++ reason.message, some (.failure reason)⟩]

/-- Evaluate a rule: its outcome, and the message about its failures. -/
def evaluateRule (elements : List (List Nat × Value)) (rule : CompiledRule) :
    Action Registry (RuleOutcome × List Message) := do
  let tally ← if rule.result.isSuccess then askAll rule.result.value {} elements else pure {}
  return (⟨rule.index, rule.type, rule.result.isSuccess, tally.matched⟩, failureMessage rule tally)

/-- Evaluate rules in order. -/
def evaluateAll (elements : List (List Nat × Value)) :
    List CompiledRule → Action Registry (List (RuleOutcome × List Message))
  | [] => pure []
  | rule :: rest => do
    let first ← evaluateRule elements rule
    return first :: (← evaluateAll elements rest)

/-- The first messages up to a limit; a negative limit counts from the end, and null is no limit. -/
def limited (limit : Value) (messages : List Message) : Outcome (List Message) :=
  let upTo (n : Int) : List Message :=
    messages.take (if n < 0 then n + messages.length else n).toNat
  match limit with
  | .null => .ok messages
  | .int n => .ok (upTo n)
  | .bool b => .ok (upTo (if b then 1 else 0))
  | _ => Outcome.wrongType

/-! ## Running -/

/-- The rules, elements and context of an event. -/
structure Event where
  rules : List Value
  elements : Value
  context : Value

/-- Read an event.  Rules and elements have to be sequences; missing ones are empty. -/
def Event.ofValue (event : Value) : Outcome Event := do
  let rules := (← event.option "rules").orElse (.list [])
  let elements := (← event.option "elements").orElse (.list [])
  let context := (← event.option "context").orElse (.map [])
  let _ ← rules.length
  let _ ← elements.length
  return ⟨← rules.iterate, elements, context⟩

/-- Refuse rules that did not compile when the configuration is strict. -/
def checkStrict (o : Orchestrator) (host : Host) (rules : List CompiledRule) : Outcome Unit := do
  let failed := rules.filter fun rule => !rule.result.isSuccess
  if !failed.isEmpty then
    if (← o.configuration.get host "error_handling.strict_mode" (.bool false)).truthy then
      .error (.strictMode (failed.map fun rule => s!"{rule.index}:{rule.type.text}"))

/-- Compile the rules of an event and evaluate them. -/
def runRules (o : Orchestrator) (host : Host) (now : String) (event : Event) :
    Action Registry RunOutcome := do
  let rules ← compileFrom host 0 event.rules
  Action.ofOutcome (o.checkStrict host rules)
  let elements := Tree.walk (← Action.ofOutcome (Tree.forest event.elements))
  let outcomes ← evaluateAll elements rules
  let messages := (← get).setupMessages ++ rules.flatMap (·.result.messages) ++ outcomes.flatMap (·.2)
  let limit ← Action.ofOutcome (o.configuration.get host "error_handling.max_errors" (.int 100))
  let shown ← Action.ofOutcome (limited limit messages)
  let report ← Action.ofOutcome (Report.ofRecords now (shown.map .message) event.context)
  return ⟨outcomes.map (·.1), messages, report⟩

/-- Run the rules of an event over its elements. -/
def run (o : Orchestrator) (host : Host) (now : String) (event : Value) : Outcome RunOutcome := do
  let event ← Event.ofValue event
  let registry ← o.buildRegistry host
  ((o.runRules host now event).perform registry).1

end Orchestrator

end StyleRules
