import StyleRules.Action
import StyleRules.Diagnostics.Fault
import StyleRules.Matcher.Evaluate
import StyleRules.Suggestion.Names
import StyleRules.Value.Compare

/-!
# Diagnostics

Failures to resolve a rule become results with messages.  Warning handlers word the messages: the first
handler that claims the code of a failure is used.  Suggestion providers propose names for an unknown one;
they are asked in the order of descending priority.
-/

namespace StyleRules

/-- What a warning handler does. -/
inductive HandlerBody where
  /-- Names similar types and recovers with a matcher that matches nothing. -/
  | unknownType
  /-- Names the rejected options. -/
  | validation
  /-- Calls a function with the fault and its context. -/
  | custom (handle : Value)

/-- A warning handler and the codes that it claims. -/
structure WarningHandler where
  claims : Value
  body : HandlerBody

/-- What a suggestion provider does. -/
inductive ProviderBody where
  | byLetters
  | byFamily
  /-- Calls a function with the unknown name and the available ones. -/
  | custom (provide : Value)

structure SuggestionProvider where
  body : ProviderBody
  priority : Value

/-- A registered error strategy: an object with a function `handle`. -/
structure ErrorStrategy where
  object : Value

/-- The handlers, providers and strategies in use. -/
structure Diagnostics where
  strategies : List ErrorStrategy
  handlers : List WarningHandler
  providers : List SuggestionProvider

namespace ErrorStrategy

def name (strategy : ErrorStrategy) : Value := strategy.object.attributeOrNull "name"

def priority (strategy : ErrorStrategy) : Value := strategy.object.priority

end ErrorStrategy

namespace ProviderBody

/-- Propose names for an unknown name. -/
def propose (body : ProviderBody) (unknown : Value) (available : List Value) : Outcome Value :=
  match body with
  | .byLetters => return .list (← Suggestion.byLettersOf unknown available)
  | .byFamily => return .list (← Suggestion.byFamilyOf unknown available)
  | .custom provide => provide.call [unknown, .list available]

end ProviderBody

namespace Diagnostics

/-- Diagnostics without any handlers and providers. -/
def empty : Diagnostics := ⟨[], [], []⟩

/-- The built-in handlers and providers. -/
def standard : Diagnostics :=
  { strategies := []
    handlers :=
      [⟨.list [.str FaultCategory.unknownType.code], .unknownType⟩,
        ⟨.list [.str FaultCategory.validationFailed.code], .validation⟩]
    providers := [⟨.byLetters, .int 10⟩, ⟨.byFamily, .int 5⟩] }

/-! ## Registration -/

/-- Register an error strategy.  When the priorities cannot be compared the strategy stays at the end. -/
def registerStrategy (strategy : Value) : Action Diagnostics Unit := do
  let _ ← Action.ofOutcome (strategy.functionAt "handle" .errorStrategyWithoutHandle)
  modify fun d => { d with strategies := d.strategies ++ [⟨strategy⟩] }
  let sorted ← Action.ofOutcome (Value.sortDescending (·.priority) (← get).strategies)
  modify fun d => { d with strategies := sorted }

/-- Register a warning handler behind the others. -/
def registerHandler (claims handle : Value) : Action Diagnostics Unit := do
  if !handle.isCallable then throw .handlerWithoutHandle
  modify fun d => { d with handlers := d.handlers ++ [⟨claims, .custom handle⟩] }

/-- Register an object with a function `handle` as a warning handler. -/
def registerHandlerObject (handler : Value) : Action Diagnostics Unit :=
  registerHandler ((handler.attribute? "handles").getD .null)
    ((handler.attribute? "handle").getD .null)

/-- Register a suggestion provider.  When the priorities cannot be compared it stays at the end. -/
def registerProvider (provide priority : Value) : Action Diagnostics Unit := do
  if !provide.isCallable then throw .providerWithoutProvide
  let added : SuggestionProvider := ⟨.custom provide, priority.orElse (.int 0)⟩
  modify fun d => { d with providers := d.providers ++ [added] }
  let sorted ← Action.ofOutcome (Value.sortDescending (·.priority) (← get).providers)
  modify fun d => { d with providers := sorted }

/-- Register an object with a function `provide` as a suggestion provider. -/
def registerProviderObject (provider : Value) : Action Diagnostics Unit :=
  registerProvider ((provider.attribute? "provide").getD .null) provider.priority

/-! ## Suggestions -/

/-- The proposals of one provider; a failing provider has none, and proposals have to be a sequence. -/
def proposals (provider : SuggestionProvider) (unknown : Value) (available : List Value) :
    Outcome (List Value) :=
  match provider.body.propose unknown available with
  | .ok found => if found.truthy then found.iterate else .ok []
  | .error _ => .ok []

/-- The proposals of all providers, each name once. -/
def suggestions (d : Diagnostics) (unknown : Value) (available : List Value) :
    Outcome (List Value) := do
  let all := (← d.providers.mapM fun provider => proposals provider unknown available).flatten
  if all.all Value.isKey then return Suggestion.distinct all else Outcome.wrongType

/-! ## Handling failures -/

/-- The first handler that claims a code. -/
def handlerFor (code : String) : List WarningHandler → Outcome (Option WarningHandler)
  | [] => .ok none
  | handler :: rest => do
    let claimed ← if handler.claims.truthy then handler.claims.contains (.str code) else .ok false
    if claimed then return some handler else handlerFor code rest

/-- The first three of the similar names as a question; without any there is none. -/
def hintOf (similar : List Value) : Outcome String :=
  if similar.isEmpty then .ok ""
  else do return ". Did you mean: " ++ (← Value.joinTexts ", " (similar.take 3)) ++ "?"

/-- Word an unknown type: similar types and all available ones. -/
def wordUnknownType (d : Diagnostics) (fault : Fault) (context : Value) : Outcome Value := do
  let types ← context.option "available_types"
  let available ← if types.truthy then types.iterate else .ok []
  let found ← d.suggestions fault.unknownType available
  let hint ← hintOf found
  let name := fault.unknownType.text
  let text := s!"Unknown document matcher type: '{name}'" ++ hint ++ "\nAvailable types: " ++
    (← Value.joinTexts ", " available)
  let recovery : Value :=
    .callable (.constant (.matcher (.noop (.str ("unknown type " ++ name)))))
  return Callable.handledFault text fault.category.code fault.category.severity (.bool true) recovery
    (.list found) (.list [])

def wordRejectedOptions (fault : Fault) : Value :=
  let name := fault.matcherType.text
  let text := s!"Validation failed for matcher '{name}': {fault.details}"
  Callable.handledFault text fault.category.code fault.category.severity (.bool false) .null (.list [])
    (.list fault.validationErrors)

/-- Let a handler word a fault. -/
def word (d : Diagnostics) (body : HandlerBody) (fault : Fault) : Outcome Value :=
  match body with
  | .unknownType => d.wordUnknownType fault fault.context
  | .validation => .ok (wordRejectedOptions fault)
  | .custom handle => handle.call [fault.toValue, fault.context]

/-- An unknown type becomes a warning; a handler that offers recovery supplies the value. -/
def unknownType (d : Diagnostics) (name context : Value) : Outcome (Result Value) := do
  let fault : Fault :=
    { category := .unknownType, context := context.orElse (.map []), unknownType := name }
  match ← handlerFor fault.category.code d.handlers with
  | none => return ⟨.null, [.warning ("Unknown matcher type: " ++ name.text)]⟩
  | some handler =>
    let handled ← d.word handler.body fault
    let recoverable ← handled.attributeOf "recoverable"
    let recovery ← if recoverable.truthy then handled.attributeOf "recovery" else .ok .null
    let value ← if recovery.isNull then .ok .null else recovery.call []
    return ⟨value, [.warning (← handled.attributeOf "message").text]⟩

/-- Rejected options become an error. -/
def rejectedOptions (d : Diagnostics) (name errors context : Value) : Outcome (Result Value) := do
  let listed ← errors.iterate
  let fault : Fault :=
    { category := .validationFailed, context := context.orElse (.map []), matcherType := name
      validationErrors := listed, details := ← Value.joinTexts "; " listed }
  let text ← match ← handlerFor fault.category.code d.handlers with
    | none => .ok ("Validation failed for matcher: " ++ name.text)
    | some handler => do
      let handled ← d.word handler.body fault
      pure (← handled.attributeOf "message").text
  return ⟨.null, [.error (.rejectedOptions text)]⟩

/-- A failure without recovery becomes an error, which a handler may reword. -/
def failed (d : Diagnostics) (fault : Fault) (text : String) : Outcome (Result Value) := do
  let shown ← match ← handlerFor fault.category.code d.handlers with
    | none => .ok text
    | some handler => do
      let handled ← d.word handler.body fault
      pure (← handled.attributeOf "message").text
  return ⟨.null, [⟨Message.errorKind, shown, Cause.ofValue fault.cause⟩]⟩

/-- A plugin that fails becomes an error. -/
def pluginFailed (d : Diagnostics) (name cause : Value) : Outcome (Result Value) :=
  let details := cause.causeText "Unknown plugin error"
  d.failed { category := .plugin, context := .map [], matcherType := name, details, cause }
    s!"Plugin '{name.text}' error: {details}"

/-- A transform that fails becomes an error. -/
def transformFailed (d : Diagnostics) (path cause : Value) : Outcome (Result Value) :=
  let details := cause.causeText "XSLT transformation failed"
  d.failed { category := .transform, context := .map [], matcherType := path, details, cause }
    s!"XSLT transform '{path.text}' error: {details}"

/-- Missing dependencies of a plugin become an error. -/
def dependenciesMissing (d : Diagnostics) (name missing : Value) : Outcome (Result Value) := do
  let listed ← missing.iterate
  let details ← Value.joinTexts ", " listed
  d.failed { category := .dependency, context := .map [], matcherType := name, details
             validationErrors := listed }
    s!"Plugin '{name.text}' has unmet dependencies: {details}"

end Diagnostics

end StyleRules
