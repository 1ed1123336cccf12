import StyleRules.Registry.Basic

/-!
# Resolving rules

A rule names a matcher type and options.  Its matcher is built by the function registered for the type; a
type that a stylesheet decides gets a matcher of the transform engine; for all other types the chain of
strategies is asked in order, and the first one that has a value decides.
-/

namespace StyleRules

/-- The messages among the items of a list. -/
def Message.ofValues (items : List Value) : List Message :=
  items.filterMap fun
    | .message m => some m
    | _ => none

/-- What a function gave that cannot reach the engine at hand. -/
def Value.detach : Value → Value
  | .matcher m => .matcher m.detach
  | other => other

/-- What a caller's strategy gave: the value of a result, or of an object that looks like one, cannot reach the engine
at hand either. -/
def Value.detachAnswer : Value → Value
  | .result r => .result { r with value := r.value.detach }
  | .record tag fields => .record tag (fields.map fun (name, value) => (name, value.detach))
  | other => other

/-- Read an object that looks like a result.  Only an object without a value is asked for its messages. -/
def Value.likeResult (answer : Value) : Outcome (Result Value) := do
  match ← answer.attributeOf "value" with
  | .null => return ⟨.null, Message.ofValues (← (← answer.attributeOf "messages").iterate)⟩
  | value =>
    let messages := (answer.attributeOrNull "messages").iterate.toOption.getD []
    return ⟨value, Message.ofValues messages⟩

/-- Read what a strategy gave: a result, or an object that looks like one. -/
def Value.toResult : Value → Outcome (Result Value)
  | .result r => .ok r
  | other => other.likeResult

namespace Strategy

/-- The first letter of a name in lower case. -/
def firstLetter (name : Value) : Outcome String := do
  return Text.lower (String.ofList ((← Suggestion.nameOf name).toList.take 1))

/-- Propose the types with the same first letter. -/
def suggestion (name : Value) (available : List Value) : Outcome String := do
  let first ← firstLetter name
  let letters ← available.mapM fun type => do return (type.text, ← firstLetter type)
  let similar := (letters.filter (·.2 = first)).map (·.1)
  let hint := if similar.isEmpty then ""
    else ". Did you mean: " ++ Text.join ", " (similar.take 3) ++ "?"
  return "Unknown matcher type: " ++ name.text ++ hint

/-- Handle an unknown type. -/
def handle (strategy : Strategy) (r : Registry) (name options : Value) : Outcome Value :=
  match strategy with
  | .ignoreUnknown =>
    let reason : Value := .str ("unknown type " ++ name.text)
    .ok (.result ⟨.matcher (.noop reason),
      [.warning s!"Unknown matcher type '{name.text}' ignored"]⟩)
  | .suggestAlternatives => do
    return .result (.refused (← suggestion name (← r.availableTypes)))
  | .diagnoseUnknown diagnostics => do
    let context := Value.ofFields [("available_types", .list (← r.availableTypes)),
      ("options", options)]
    return .result (← diagnostics.unknownType name context)
  | .named _ handle => (handle.call [name, options]).map Value.detachAnswer
  | .object subject => do return (← (← subject.attributeOf "handle").call [name, options]).detachAnswer

end Strategy

namespace Registry

/-- Build a matcher of a registered type.  Every failure is reported in the result. -/
def build (registered : RegisteredMatcher) (name options : Value) : Result Value :=
  let checked : Outcome Bool :=
    if registered.validation.isNull then .ok true
    else (registered.validation.call [name, options]).map Value.truthy
  match checked with
  | .error reason => .failed reason
  | .ok false => .refused ("Invalid options for matcher type: " ++ name.text)
  | .ok true =>
    match registered.factory.call [options] with
    | .error reason => .failed reason
    | .ok matcher => .success matcher.detach

/-- Make sure that the engine has the template of a type. -/
def ensureTemplate (host : Host) (name path : Value) : Action Engine Unit := do
  match ← Action.ofOutcome ((← get).template? name) with
  | some _ => pure ()
  | none => Engine.loadTemplate host name path {}

/-- Make a matcher of a type that a stylesheet decides. -/
def buildTransform (host : Host) (registered : RegisteredTransform) (name options : Value) :
    Action Registry (Result Value) := do
  if (← get).engine.isNone then
    return .success (.matcher (.unbound name registered.path))
  match ← (withEngine (pure ()) (ensureTemplate host name registered.path)).attempt with
  | .error reason =>
    Action.ofOutcome ((← get).diagnostics.transformFailed registered.path (.failure reason))
  | .ok () =>
    let parameters ← Action.ofOutcome (options.option "parameters")
    let settings := Value.ofFields
      [("parameters", parameters.orElse (.map [])), ("use_cache", .bool registered.caching)]
    match (← get).engine with
    | some engine => Action.ofOutcome (engine.createMatcher name settings)
    | none => return .success (.matcher (.unbound name registered.path))

/-- The warning for a type that no strategy resolved. -/
def unresolved (r : Registry) (name : Value) : Outcome Message := do
  let types ← Value.joinTexts ", " (← r.availableTypes)
  return .warning ("Unknown document matcher type: " ++ name.text ++ ". Available types: " ++ types)

/-- Ask strategies in order.  A failing strategy is passed over; `kept` holds the messages of those that
had no value. -/
def askStrategies (r : Registry) (name options : Value) (kept : List Message) :
    List Strategy → Outcome (Result Value)
  | [] => do return ⟨.null, kept ++ [← r.unresolved name]⟩
  | strategy :: rest =>
    match strategy.handle r name options with
    | .error _ => askStrategies r name options kept rest
    | .ok .null => askStrategies r name options kept rest
    | .ok answer => do
      let result ← answer.toResult
      if result.isSuccess then return result
      else askStrategies r name options (kept ++ result.messages) rest

/-- Make the matcher of a rule. -/
def createMatcher (host : Host) (name options : Value) : Action Registry (Result Value) := do
  let r ← get
  let options := options.orElse (.map [])
  match ← Action.ofOutcome (name.lookIn r.matchers) with
  | some registered => return build registered name options
  | none =>
    match ← Action.ofOutcome (name.lookIn r.transforms) with
    | some registered => buildTransform host registered name options
    | none => Action.ofOutcome (r.askStrategies name options [] r.strategies)

/-- Ask a matcher about an element. -/
def ask (matcher element : Value) : Action Registry Value :=
  withEngine (Action.ofOutcome (matcher.matches element)) (Engine.ask matcher element)

end Registry

end StyleRules
