import StyleRules.Action
import StyleRules.Configuration.Defaults
import StyleRules.Configuration.Merge
import StyleRules.Configuration.Transformer
import StyleRules.Configuration.Validation
import StyleRules.Host.Assignments
import StyleRules.Json.Writer
import StyleRules.Yaml.Reader
import StyleRules.Yaml.Writer

/-!
# Configurations

A configuration is a nested mapping: the defaults with one or more sources laid over them, and all references
to environment variables expanded.  Its values are looked up by dotted paths, where an environment variable
of the same name comes first.
-/

namespace StyleRules

/-- A configuration with the validators and transformers that are applied to it. -/
structure Configuration where
  validates : Bool
  schema : Value
  validators : List (Value × Validator)
  transformers : List (Value × Transformer)
  entries : List (Value × Value)
  /-- What the YAML file and the JSON file held, an empty mapping without a file. -/
  yamlSource : Value
  jsonSource : Value

/-- Where a configuration comes from. -/
structure ConfigurationSources where
  assignmentFile : Value := .str ".env"
  yamlFile : Value := .null
  jsonFile : Value := .null
  config : Value := .null
  validates : Value := .bool true
  schema : Value := .null

namespace Configuration

/-- The validators at hand from the start. -/
def basicValidators : List (Value × Validator) :=
  [(.str "string", .basic .text), (.str "number", .basic .number), (.str "boolean", .basic .truth),
    (.str "array", .basic .list), (.str "object", .basic .mapping)]

/-- The name of the transformer that is applied when a configuration is loaded. -/
def loadTransformer : Value := .str "env"

/-- The transformers at hand from the start. -/
def basicTransformers : List (Value × Transformer) :=
  [(loadTransformer, .variable), (.str "path", .path), (.str "json", .json)]

/-- The defaults, with the given switch and schema. -/
def initial (validates : Bool) (schema : Value) : Configuration :=
  ⟨validates, if schema.isNull then defaultSchema else schema, basicValidators, basicTransformers,
    defaults, .map [], .map []⟩

/-! ## Validation -/

/-- Check a value against a written schema. -/
def validateValue (c : Configuration) (value schema : Value) : Outcome Value :=
  Validation.check c.validators (Schema.ofValue schema) value

/-- Check a whole configuration; null stands for this one. -/
def validateConfiguration (c : Configuration) (config : Value) : Outcome Value :=
  if c.schema.truthy then
    c.validateValue (if config.isNull then .map c.entries else config) c.schema
  else .ok (.list [])

/-- The texts of errors that were found. -/
def errorTexts (found : Value) : Outcome (List String) := do
  (← found.iterate).mapM fun
    | .str text => .ok text
    | _ => Outcome.wrongType

/-- Fail with the errors that were found, if there are any. -/
def refuse (found : Value) (reason : List String → Failure) : Outcome Unit := do
  if found.truthy then .error (reason (← errorTexts found))

def defineSchema (schema : Value) (c : Configuration) : Configuration := { c with schema }

def registerValidator (name function : Value) : Action Configuration Unit := do
  if !function.isCallable then throw .validatorNotCallable
  if !name.isKey then throw (.misuse .type)
  modify fun c => { c with validators := Mapping.insert name (.custom function) c.validators }

/-! ## Transformers -/

def registerTransformer (name function : Value) : Action Configuration Unit := do
  if !function.isCallable then throw .transformerNotCallable
  if !name.isKey then throw (.misuse .type)
  modify fun c => { c with transformers := Mapping.insert name (.custom function) c.transformers }

def applyTransformer (c : Configuration) (host : Host) (name value : Value) : Outcome Value := do
  match ← name.lookIn c.transformers with
  | some transformer => transformer.apply host value
  | none =>
    .error (.unknownTransformer
      (Text.quoted ("Unknown configuration transformer: " ++ name.text)))

mutual

/-- Apply a transformer to all texts of a value. -/
def transformTexts (host : Host) (transformer : Transformer) : Value → Outcome Value
  | .str s => transformer.apply host (.str s)
  | .list items => return .list (← transformItems host transformer items)
  | .map entries => return .map (← transformEntries host transformer entries)
  | other => .ok other

/-- Apply a transformer to all texts of items. -/
def transformItems (host : Host) (transformer : Transformer) : List Value → Outcome (List Value)
  | [] => .ok []
  | item :: rest => do
    let first ← transformTexts host transformer item
    return first :: (← transformItems host transformer rest)

/-- Apply a transformer to all texts of the values of entries. -/
def transformEntries (host : Host) (transformer : Transformer) :
    List (Value × Value) → Outcome (List (Value × Value))
  | [] => .ok []
  | (key, value) :: rest => do
    let first ← transformTexts host transformer value
    return (key, first) :: (← transformEntries host transformer rest)

end

/-- The transformer that is applied when a configuration is loaded. -/
def transformerAtLoad (c : Configuration) : Transformer :=
  (Mapping.find? loadTransformer c.transformers).getD .variable

/-! ## Loading -/

/-- An empty value read from YAML counts as an empty mapping. -/
def readYaml (text : String) : Outcome Value := do
  return (← Yaml.read text).orElse (.map [])

/-- Read a text in a named format. -/
def readFormat (text : String) (format : Value) : Outcome Value :=
  match format with
  | .str name =>
    let lowered := Text.lower name
    if lowered = "json" then Json.read text
    else if lowered = "yaml" || lowered = "yml" then readYaml text
    else .error (.unsupportedFormat lowered)
  | _ => Outcome.noAttribute

/-- The text is a configuration, and not the path of one: it has several lines, or begins with a bracket. -/
def isInline (source : String) : Bool :=
  source.toList.contains '\n' ||
    match source.toList.dropWhile Text.isBlank with
    | '{' :: _ | '[' :: _ => true
    | _ => false

/-- Read a configuration or the file at a path. -/
def readSource (host : Host) (source : String) (format : Value) : Outcome Value := do
  if isInline source then readFormat source (format.orElse (.str "json"))
  else
    let path := Path.ofString source
    match if source.toList.contains '\x00' then .ok none else host.file? path with
    | .error reason => .error reason
    | .ok none => .error (.configurationNotFound source)
    | .ok (some text) =>
      let guessed := if path.extension.isEmpty then "json" else path.extension
      readFormat text (format.orElse (.str guessed))

/-- Read a source: a mapping, a configuration, or the path of one. -/
def sourceOf (host : Host) (source format : Value) : Outcome Value :=
  match source with
  | .map entries => .ok (.map entries)
  | .str text => readSource host text format
  | _ => .error .unsuitableSource

/-- The entries of a configuration over the defaults, with all texts transformed. -/
def layOverDefaults (c : Configuration) (host : Host) (config : Value) :
    Outcome (List (Value × Value)) := do
  let merged ← (← merge (.map defaults) config).items
  transformEntries host c.transformerAtLoad merged

/-- Load a source.  The new entries are in place before they are validated. -/
def load (host : Host) (source format : Value) : Action Configuration Unit := do
  let config ← Action.ofOutcome (sourceOf host source format)
  let entries ← Action.ofOutcome ((← get).layOverDefaults host config)
  modify fun c => { c with entries }
  let c ← get
  if c.validates then
    let found ← Action.ofOutcome (c.validateConfiguration .null)
    Action.ofOutcome (refuse found .invalidConfiguration)
  let _ ← Action.ofOutcome (Value.joinTexts ", " (entries.map (·.1)))

/-- Read the file under a path with a reader; without a path there is nothing in it. -/
def readFile (host : Host) (path : Value) (read : String → Outcome Value) : Outcome Value :=
  if path.truthy then
    match path with
    | .str name => do read (← host.read name)
    | _ => Outcome.wrongType
  else .ok (.map [])

/-- Load the assignment file under a path, if a path is given. -/
def loadAssignments (host : Host) (path : Value) : Outcome Host :=
  if path.truthy then
    match path with
    | .str name => Assignments.load host name
    | .int _ | .bool _ => .ok host
    | _ => Outcome.wrongType
  else .ok host

/-- Make a configuration from its sources, with the host after the assignment file was loaded. -/
def create (host : Host) (sources : ConfigurationSources) : Outcome (Host × Configuration) := do
  let host ← loadAssignments host sources.assignmentFile
  let yamlSource ← readFile host sources.yamlFile readYaml
  let jsonSource ← readFile host sources.jsonFile Json.read
  let c := { initial sources.validates.truthy sources.schema with yamlSource, jsonSource }
  let layers := [yamlSource, jsonSource, sources.config.orElse (.map [])]
  if layers.any Value.truthy then
    let merged ← layers.foldlM merge (.map [])
    let (outcome, loaded) := (load host merged .null).perform c
    outcome.map fun () => (host, loaded)
  else return (host, c)

/-! ## Access -/

def pathNames (path : String) : List String := Text.parts '.' path

/-- The environment variable of a dotted path. -/
def variableName (path : String) : String :=
  "STYLEMATCH_" ++ Text.replaceChar '-' '_' (Text.replaceChar '.' '_' (Text.upper path))

/-- The value below a list of names. -/
def lookup : List String → Value → Option Value
  | [], value => some value
  | name :: rest, .map entries => (Mapping.get? name entries).bind (lookup rest)
  | _ :: _, _ => none

/-- The value of a variable, which is written in YAML and has to conform to the schema at the path. -/
def readVariable (c : Configuration) (path text : String) : Outcome Value := do
  let value ← Yaml.read text
  if c.validates then
    let schema ← Schema.under (pathNames path) (c.schema.orElse (.map []))
    refuse (← c.validateValue value schema) (.invalidVariable (variableName path))
  return value

/-- The value at a dotted path: that of its environment variable, or else that of the configuration. -/
def get (c : Configuration) (host : Host) (path : String) (default : Value) : Outcome Value :=
  match host.valueOf? (variableName path) with
  | some text =>
    if text.isEmpty then .ok ((lookup (pathNames path) (.map c.entries)).getD default)
    else c.readVariable path text
  | none => .ok ((lookup (pathNames path) (.map c.entries)).getD default)

/-- The value at a path given as a value, which has to be a text. -/
def getAt (c : Configuration) (host : Host) (path default : Value) : Outcome Value :=
  match path with
  | .str text => c.get host text default
  | _ => Outcome.noAttribute

/-- Set the value below a list of names; whatever is no mapping on the way is replaced by one. -/
def setBelow (value : Value) : List String → List (Value × Value) → List (Value × Value)
  | [], entries => entries
  | [name], entries => Mapping.insert (.str name) value entries
  | name :: rest, entries =>
    let inner := match Mapping.get? name entries with
      | some (.map inner) => inner
      | _ => []
    Mapping.insert (.str name) (.map (setBelow value rest inner)) entries

/-- Set the value at a dotted path. -/
def set (path : String) (value : Value) (c : Configuration) : Configuration :=
  { c with entries := setBelow value (pathNames path) c.entries }

/-- The part that registries are set up from. -/
def registryPart (c : Configuration) (host : Host) : Outcome Value := do
  return .ofFields [("matchers", ← c.get host "matchers" (.map [])),
    ("xslt_transforms", ← c.get host "xslt_transforms" (.map [])),
    ("plugins", ← c.get host "plugins" (.list []))]

/-! ## Entries for registries, and export -/

/-- Apply the steps of a template to an entry; a step is a function or the name of a transformer. -/
def applySteps (c : Configuration) (host : Host) (entry : Value) : List Value → Outcome Value
  | [] => .ok entry
  | step :: rest => do
    let changed ←
      if step.isCallable then step.call [entry]
      else
        match step with
        | .str name =>
          match Mapping.get? name c.transformers with
          | some transformer => transformer.apply host entry
          | none => .ok entry
        | _ => .ok entry
    applySteps c host changed rest

/-- Make the entry of a matcher type from a reusable template. -/
def matcherEntry (c : Configuration) (host : Host) (name template options : Value) :
    Outcome Value := do
  let defaults ← ((← template.option "defaultOptions").orElse (.map [])).toEntries
  let given ← (options.orElse (.map [])).toEntries
  let description := (← template.option "description").orElse
    (.str ("Custom matcher: " ++ name.text))
  let entry := Value.ofFields [("type", name), ("factory", ← template.option "factory"),
    ("options", .map (Mapping.insertAll given defaults)),
    ("validation", ← template.option "validation"), ("description", description)]
  let steps := (← template.option "transforms").orElse (.list [])
  c.applySteps host entry (← steps.iterate)

/-- The indentation of exported JSON; numbers stand for blanks. -/
def jsonIndent : Value → Outcome (Option String)
  | .null => .ok none
  | .str s => .ok (some s)
  | .int n => .ok (some (String.ofList (List.replicate n.toNat ' ')))
  | .bool b => .ok (some (if b then " " else ""))
  | _ => Outcome.wrongType

/-- Write the configuration, with or without the entries that are as the defaults. -/
def exportAs (c : Configuration) (format includeDefaults indent : Value) : Outcome String :=
  let shown : Value :=
    .map (if includeDefaults.truthy then c.entries else withoutDefaults defaults c.entries)
  match format with
  | .str name => do
    let lowered := Text.lower name
    if lowered = "json" then
      Json.write { indent := ← jsonIndent indent, lenient := true } shown
    else if lowered = "yaml" || lowered = "yml" then Yaml.write indent shown
    else .error (.unsupportedExport lowered)
  | _ => Outcome.noAttribute

end Configuration

end StyleRules
