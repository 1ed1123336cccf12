import StyleRules.Orchestration

/-!
# Answering events

An event names rules, elements, and possibly a configuration file.  Answering it makes a configuration and
runs the rules.  An error after the event was received becomes part of the answer.
-/

namespace StyleRules.Handler

inductive Answer where
  | completed (outcome : RunOutcome)
  | failed (reason : Failure)

def Answer.toValue : Answer → Value
  | .completed outcome => outcome.toValue
  | .failed reason =>
    .ofFields [("statusCode", .int 500), ("error", .str reason.message),
      ("error_type", .str reason.kind)]

/-- The environment variable that names the configuration file. -/
def configVariable : String := "STYLEMATCH_CONFIG_FILE"

/-- The configuration file of an event, or else that of the environment. -/
def configFile (host : Host) (named : Value) : Value :=
  if named.truthy then named
  else match host.valueOf? configVariable with
    | some path => .str path
    | none => .null

/-- Where the configuration comes from: a file whose name ends in `.json`, or a YAML file. -/
def sourcesOf (file : Value) : Outcome ConfigurationSources :=
  if file.truthy then
    match file with
    | .str path => .ok (if Text.endsWith path ".json" then { jsonFile := file } else { yamlFile := file })
    | _ => Outcome.noAttribute
  else .ok {}

/-- Make a configuration and run the rules of an event. -/
def runEvent (host : Host) (now : String) (event : Value) : Outcome RunOutcome := do
  let sources ← sourcesOf (configFile host (← event.option "config_file"))
  let (host, configuration) ← Configuration.create host sources
  let _ ← configuration.get host "logging.level" .null
  let orchestrator ← Orchestrator.create configuration .null
  orchestrator.run host now event

/-- Answer an event.  An event that is no mapping, or whose rules cannot be counted, is refused. -/
def answer (host : Host) (now : String) (event : Value) : Outcome Answer := do
  let _ ← ((← event.option "rules").orElse (.list [])).length
  match runEvent host now event with
  | .ok outcome => return .completed outcome
  | .error reason => if reason.isExit then .error reason else return .failed reason

/-! ## The command line -/

/-- An element with a type and further fields. -/
def sampleElement (type : String) (fields : List (String × Value)) : Value :=
  .ofFields (("type", .str type) :: fields)

/-- The event that is answered when no other is given. -/
def sampleEvent : Value :=
  let bold := sampleElement "bold" [("children", .list [])]
  let run := sampleElement "run" [("children", .list [bold])]
  let heading := sampleElement "paragraph"
    [("styleId", .str "Heading1"), ("styleName", .str "Heading 1"), ("children", .list [run])]
  let rule := sampleElement "paragraph" [("options", .ofFields [("styleName", .str "Heading 1")])]
  .ofFields
    [("rules", .list [rule, sampleElement "bold" [], sampleElement "paragrap" []]),
      ("elements", .list [heading, sampleElement "paragraph" [("styleName", .str "Normal")]])]

/-- Answer the event in the file that the arguments name, or the sample event. -/
def answerArguments (host : Host) (now : String) (arguments : List String) : Outcome Answer := do
  let event ← match arguments with
    | [] => pure sampleEvent
    | path :: _ => do Json.read (← host.read path)
  answer host now event

/-- The text that the command line prints. -/
def printed (answer : Answer) : Outcome String :=
  Json.write { indent := some "  ", lenient := true } answer.toValue

end StyleRules.Handler
