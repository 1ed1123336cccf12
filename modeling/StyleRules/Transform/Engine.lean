import StyleRules.Action
import StyleRules.Matcher.Evaluate
import StyleRules.Transform.Evaluate
import StyleRules.Value.Compare
import StyleRules.Xml.Document

/-!
# Transform engine

The engine keeps tables of named processors and named templates.  A transform call finds a template and a
processor, runs the processor over a document, and remembers the output in a bounded cache.  The cache keeps outputs
under the texts of their calls; when it is full, the entry that was inserted first gives way.
-/

namespace StyleRules

/-! ## Cache -/

/-- The latest outputs, in the order of insertion. -/
structure Cache where
  capacity : Nat
  entries : List (String × Value)

namespace Cache

/-- A cache without entries. -/
def empty (capacity : Nat) : Cache := ⟨capacity, []⟩

/-- The output under a key. -/
def find? (cache : Cache) (key : String) : Option Value := cache.entries.lookup key

/-- The number of entries. -/
def size (cache : Cache) : Nat := cache.entries.length

/-- The keys in the order of insertion. -/
def keys (cache : Cache) : List String := cache.entries.map (·.1)

/-- Add an output under a new key; a full cache first drops its oldest entry. -/
def insert (cache : Cache) (key : String) (output : Value) : Cache :=
  let kept := if cache.capacity ≤ cache.size then cache.entries.drop 1 else cache.entries
  { cache with entries := kept ++ [(key, output)] }

/-- Drop all entries. -/
def clear (cache : Cache) : Cache := { cache with entries := [] }

end Cache

/-! ## Tables -/

/-- A named template with the processor that runs it and the defaults of its parameters. -/
structure EngineTemplate where
  name : Value
  body : Value
  processor : Value
  parameters : List (Value × Value)
  namespaces : List (Value × Value)
  version : Value

/-- A processor in the table, with the number of its calls. -/
structure ProcessorEntry where
  processor : Value
  calls : Nat

/-- What callers may know about a registered processor. -/
structure ProcessorInfo where
  name : Value
  displayName : Value
  supports : List Value
  priority : Value

/-- How an engine is set up. -/
structure EngineOptions where
  cacheEnabled : Value := .bool true
  maxCacheSize : Value := .int 100
  defaultProcessor : Value := .str "lxml"
  transformPaths : Value := .null
  processors : Value := .null
  /-- How stylesheets are compiled. -/
  compile : String → Outcome CompiledSheet := Host.bare.compile

/-- How a template is registered. -/
structure TemplateOptions where
  processor : Value := .null
  parameters : Value := .null
  namespaces : Value := .null
  version : Value := .str "1.0"

/-- The tables and the cache of an engine. -/
structure Engine where
  cacheEnabled : Value
  cache : Cache
  defaultProcessor : Value
  searchPath : List Path
  processors : List (Value × ProcessorEntry)
  templates : List (Value × EngineTemplate)
  /-- How stylesheets are compiled. -/
  compile : String → Outcome CompiledSheet := Host.bare.compile

namespace EngineTemplate

def toValue (template : EngineTemplate) : Value :=
  .ofFields [("name", template.name), ("body", template.body), ("processor", template.processor),
    ("parameters", .map template.parameters), ("namespaces", .map template.namespaces),
    ("version", template.version)]

/-- The defaults of the parameters, overridden by given ones. -/
def mergeParameters (template : EngineTemplate) (parameters : Value) :
    Outcome (List (Value × Value)) := do
  return Mapping.insertAll (← parameters.toEntries) template.parameters

end EngineTemplate

namespace ProcessorInfo

def toValue (info : ProcessorInfo) : Value :=
  .ofFields [("name", info.name), ("display_name", info.displayName),
    ("supports", .list info.supports), ("priority", info.priority)]

end ProcessorInfo

namespace Value

/-- A path; only texts are paths. -/
def toPath : Value → Outcome Path
  | .str s => .ok (Path.ofString s)
  | _ => Outcome.wrongType

/-- Let a processor run a template over a document. -/
def runProcessor (compile : String → Outcome CompiledSheet) (processor xml template parameters : Value) :
    Outcome Value :=
  match processor with
  | .processor p =>
    match p.transform with
    | some function => function.call [xml, template, parameters]
    | none => Stylesheet.run compile xml template parameters
  | other => do (← other.attributeOf "transform").call [xml, template, parameters]

end Value

namespace Processor

/-- The processor that runs stylesheets. -/
def stylesheets : Processor Value :=
  ⟨.str "lxml", .str "libxml2-based XSLT (lxml)", [.str "xslt1.0"], .int 10, none⟩

end Processor

namespace Engine

/-! ## Processors -/

/-- The processor name that asks for automatic selection. -/
def autoName : String := "auto"

def registerProcessor (name processor : Value) : Action Engine Unit := do
  let _ ← Action.ofOutcome (processor.functionAt "transform" .processorWithoutTransform)
  if !name.isKey then throw (.misuse .type)
  modify fun e => { e with processors := Mapping.insert name ⟨processor, 0⟩ e.processors }

/-- The processors that the library ships, by name. -/
def backends : List (String × Processor Value) := [("lxml", Processor.stylesheets)]

/-- Register shipped processors by name, one after the other. -/
def enableBackends : List Value → Action Engine Unit
  | [] => pure ()
  | name :: rest => do
    match ← Action.ofOutcome
        (name.lookIn (backends.map fun (known, processor) => (Value.str known, processor))) with
    | some processor =>
      registerProcessor name (.processor processor)
      enableBackends rest
    | none => throw (.unknownBackend name.text (Text.join ", " (backends.map (·.1))))

/-- The information about one registered processor. -/
def infoOf (name : Value) (entry : ProcessorEntry) : Outcome ProcessorInfo := do
  let supports := entry.processor.attributeOrNull "supports"
  return { name, displayName := (entry.processor.attributeOrNull "display_name").orElse name
           supports := ← if supports.truthy then supports.iterate else .ok []
           priority := entry.processor.priority }

/-- The registered processors by descending priority. -/
def processorInfo (e : Engine) : Outcome (List ProcessorInfo) := do
  Value.sortDescending (·.priority) (← e.processors.mapM fun (name, entry) => infoOf name entry)

/-! ## Templates -/

def registerTemplate (name body : Value) (options : TemplateOptions) : Action Engine Unit := do
  let parameters ← Action.ofOutcome (options.parameters.orElse (.map [])).toEntries
  let namespaces ← Action.ofOutcome (options.namespaces.orElse (.map [])).toEntries
  if !name.isKey then throw (.misuse .type)
  modify fun e =>
    let template : EngineTemplate :=
      ⟨name, body, options.processor.orElse e.defaultProcessor, parameters, namespaces,
        options.version⟩
    { e with templates := Mapping.insert name template e.templates }

/-- The text of the first file that a path leads to from one of several places. -/
def firstFile (host : Host) : List Path → Outcome (Option String)
  | [] => .ok none
  | path :: rest => do
    match ← host.file? path with
    | some text => return some text
    | none => firstFile host rest

/-- The text of a template file: a relative path is tried in every directory of the search path. -/
def findFile (e : Engine) (host : Host) (path : Path) : Outcome (Option String) :=
  if path.fromRoot then host.file? path
  else firstFile host (e.searchPath.map (·.below path) ++ [path])

/-- Register the template in a file. -/
def loadTemplate (host : Host) (name path : Value) (options : TemplateOptions) :
    Action Engine Unit := do
  let tidy ← Action.ofOutcome path.toPath
  match ← Action.ofOutcome ((← get).findFile host tidy) with
  | some text => registerTemplate name (.str text) options
  | none => throw (.stylesheetNotFound path.text)

def template? (e : Engine) (name : Value) : Outcome (Option EngineTemplate) :=
  name.lookIn e.templates

/-- Register stylesheets as templates under their own names, one after the other. -/
def registerSheets : List Stylesheet → Action Engine Unit
  | [] => pure ()
  | sheet :: rest => do
    registerTemplate (.str sheet.name) (.str sheet.source) {}
    registerSheets rest

/-- Register the templates that the library ships. -/
def defineCommonTemplates : Action Engine Unit := registerSheets [.style, .complex, .attribute]

/-! ## Setting up -/

/-- The capacity of the cache: a number that is at least one, cut down to an integer. -/
def capacityOf (size : Value) : Outcome Nat :=
  let refused : Outcome Nat := .error (.invalidCacheSize size.quoted)
  match size with
  | .int n => if n < 1 then refused else .ok n.toNat
  | .float x =>
    if Decimal.compareInt? 1 x = some .gt then refused
    else
      match Decimal.truncate? x with
      | some n => .ok n.toNat
      | none => .error (.misuse (if x.isNaN then .value else .overflow))
  | _ => refused

/-- Register processors under their own names, one after the other. -/
def registerAll : List Value → Action Engine Unit
  | [] => pure ()
  | processor :: rest => do
    registerProcessor (← Action.ofOutcome (processor.attributeOf "name")) processor
    registerAll rest

/-- Set up an engine. -/
def create (options : EngineOptions) : Outcome Engine := do
  let capacity ← capacityOf options.maxCacheSize
  let paths ← (options.transformPaths.orElse (.list [.str "./transforms"])).iterate
  let engine : Engine :=
    { cacheEnabled := options.cacheEnabled, cache := .empty capacity
      defaultProcessor := options.defaultProcessor, searchPath := ← paths.mapM Value.toPath
      processors := [], templates := [], compile := options.compile }
  let processors ← (options.processors.orElse (.list [])).iterate
  let (outcome, ready) := (registerAll processors).perform engine
  outcome.map fun _ => ready

/-! ## Transforming -/

/-- The text that stands for a call in the cache. -/
def cacheKey (xml name parameters : Value) : Outcome String := do
  let written ← Json.write { sortKeys := true, lenient := true } parameters
  return xml.text ++ "|" ++ name.text ++ "|" ++ written

/-- The processors that support a version of the transform language. -/
def supporting (wanted : String) :
    List (Value × ProcessorEntry) → Outcome (List (Value × ProcessorEntry))
  | [] => .ok []
  | (name, entry) :: rest => do
    let supports := entry.processor.attributeOrNull "supports"
    let supported ← if supports.truthy then supports.contains (.str wanted) else .ok false
    let others ← supporting wanted rest
    return if supported then (name, entry) :: others else others

/-- The first of the entries with the highest priority. -/
def highest (best : Value × ProcessorEntry) :
    List (Value × ProcessorEntry) → Outcome (Value × ProcessorEntry)
  | [] => .ok best
  | entry :: rest => do
    let isHigher ← best.2.processor.priority.less entry.2.processor.priority
    highest (if isHigher then entry else best) rest

/-- Find the processor of a template, unless another one is asked for. -/
def resolve (e : Engine) (template : EngineTemplate) (asked : Value) :
    Outcome (Option (Value × ProcessorEntry)) := do
  let name := asked.orElse template.processor
  if name.isText autoName then
    match ← supporting ("xslt" ++ template.version.text) e.processors with
    | [] => return none
    | first :: rest => return some (← highest first rest)
  else return (← name.lookIn e.processors).map fun entry => (name, entry)

/-- What a transform call is going to run, and the text that stands for it in the cache. -/
structure Job where
  template : EngineTemplate
  processorName : Value
  processor : Value
  key : String
  compile : String → Outcome CompiledSheet

/-- Find template and processor of a call.  A missing one is reported in the result of the call. -/
def plan (e : Engine) (xml name parameters asked : Value) : Outcome (Except Failure Job) := do
  match ← e.template? name with
  | none => return .error (.templateNotFound name.text)
  | some template =>
    match ← e.resolve template asked with
    | none => return .error (.processorNotFound (asked.orElse template.processor).text)
    | some (processorName, entry) =>
      return .ok ⟨template, processorName, entry.processor, ← cacheKey xml name parameters, e.compile⟩

def countCall (name : Value) (e : Engine) : Engine :=
  { e with processors := e.processors.map fun (known, entry) =>
      if known.eq name then (known, { entry with calls := entry.calls + 1 }) else (known, entry) }

def runJob (job : Job) (xml parameters : Value) : Action Engine Value := do
  let merged ← Action.ofOutcome (job.template.mergeParameters parameters)
  modify (countCall job.processorName)
  Action.ofOutcome (job.processor.runProcessor job.compile xml job.template.body (.map merged))

/-- Run a template over a document.  Failures of the processor are reported in the result. -/
def transform (xml name parameters asked useCache : Value) : Action Engine (Result Value) := do
  let e ← get
  let given := parameters.orElse (.map [])
  match ← Action.ofOutcome (e.plan xml name given asked) with
  | .error reason => return .failed reason
  | .ok job =>
    let caching := e.cacheEnabled.truthy && useCache.truthy
    match if caching then e.cache.find? job.key else none with
    | some output => return .success output
    | none =>
      match ← (runJob job xml given).attempt with
      | .error reason => return .failed reason
      | .ok output =>
        if caching then modify fun e => { e with cache := e.cache.insert job.key output }
        return .success output

/-- Make a matcher of a template. -/
def createMatcher (e : Engine) (name options : Value) : Outcome (Result Value) := do
  match ← e.template? name with
  | none => return .failed (.templateNotFound name.text)
  | some _ => return .success (.matcher (← Matcher.ofTransform name options))

/-- Drop the remembered outputs. -/
def clearCache : Action Engine Unit := modify fun e => { e with cache := e.cache.clear }

/-- Decide an element by a template; whatever fails is a non-match. -/
def accepts (name : Value) (parameters : List (Value × Value)) (useCache element : Value) :
    Action Engine Bool := do
  match Xml.ofElement element with
  | .error _ => return false
  | .ok xml =>
    match ← (transform (.str xml) name (.map parameters) .null useCache).attempt with
    | .error _ => return false
    | .ok result => return !result.value.isNull && Verdict.ofOutput result.value

/-- Ask a matcher about an element, with the engine at hand. -/
def ask (matcher element : Value) : Action Engine Value :=
  match matcher with
  | .matcher (.transform name parameters useCache) => do
    return .bool (← accepts name parameters useCache element)
  | other => Action.ofOutcome (other.matches element)

end Engine

end StyleRules
