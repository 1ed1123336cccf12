import StyleRules.Proofs.Configuration.Loading
import StyleRules.Proofs.Orchestration.Evaluating

/-!
# Rules do not interfere

All rules of a run share a registry, an engine with a table of templates that fills while rules are compiled,
and a bounded cache.  Still the verdict on a rule is the one that the rule gets when it is compiled and
evaluated on its own, with nothing remembered.  Matchers are pure predicates: what a configuration names in other
modules is given by its answers, and what a stylesheet compiles to by its outputs.
-/

namespace StyleRules

namespace Engine

variable {host : Host} {transforms : List (Value × RegisteredTransform)} {start e : Engine}

theorem Plain.runsSheets (plain : Plain start) : RunsSheets start := by
  refine ⟨plain.stylesheets, ?_⟩
  intro name template found
  obtain ⟨known, member⟩ := Mapping.mem_of_find? found
  exact plain.noDefaults _ member

theorem ensured_noDefaults {name : String} {path : Value} {template : EngineTemplate}
    (runsSheets : RunsSheets start) (there : ensured host start name path = some template) :
    template.parameters = [] := by
  rw [ensured] at there
  cases known : Mapping.find? (.str name) start.templates with
  | some old =>
      rw [known, Option.some_or] at there
      exact runsSheets.templates name template (known.trans there)
  | none =>
      rw [known, Option.none_or, filed] at there
      split at there
      · cases there
        rfl
      · cases there

theorem Grown.runsSheets (grown : Grown host transforms start e) (runsSheets : RunsSheets start) :
    RunsSheets e := by
  refine ⟨?_, ?_⟩
  · rw [grown.rest]
    exact runsSheets.processors
  · intro name template found
    rcases grown.templates name with same | ⟨registered, _, same⟩
    · exact runsSheets.templates name template (same.symm.trans found)
    · exact ensured_noDefaults runsSheets (same.symm.trans found)

end Engine

namespace Registry

variable {host : Host} {start first second : Registry} {name : String} {result : Result Value}

theorem Ready.sameTemplate {firstEngine secondEngine : Engine} (readyFirst : Ready host start first name)
    (readySecond : Ready host start second name) (boundFirst : first.engine = some firstEngine)
    (boundSecond : second.engine = some secondEngine) :
    Mapping.find? (.str name) firstEngine.templates =
      Mapping.find? (.str name) secondEngine.templates := by
  obtain ⟨registered, before, _, _, found, engine, isFirst, ensured, present⟩ := readyFirst
  obtain ⟨other, later, _, _, otherFound, otherEngine, isSecond, otherEnsured, otherPresent⟩ :=
    readySecond
  rw [boundFirst] at isFirst
  rw [boundSecond] at isSecond
  rw [engine] at otherEngine
  rw [found] at otherFound
  cases isFirst
  cases isSecond
  cases otherEngine
  cases otherFound
  rw [present, otherPresent, ← ensured, ← otherEnsured]

end Registry

/-- What a run says about a rule: whether it was compiled, and the paths that it matches. -/
def RuleOutcome.verdict (outcome : RuleOutcome) : Bool × List (List Nat) :=
  (outcome.compiled, outcome.matched)

namespace Orchestrator

open Registry Engine

variable {host : Host} {start last : Registry} {rules : List Value}
  {walked : List (List Nat × Value)}

/-- The calls of stylesheets by which rules decide elements: rules without a registered function, with the
parameters that they give. -/
def StylesheetCalls (start : Registry) (rules : List Value) (walked : List (List Nat × Value)) :
    Engine.Calls := fun xml name parameters =>
  ∃ rule ∈ rules, ∃ options entries,
    rule.option "type" = .ok (.str name) ∧ rule.option "options" = .ok options ∧
      Mapping.find? (.str name) start.matchers = none ∧
        (Mapping.find? (.str name) start.transforms).isSome ∧
          options.orElse (.map []) = .map entries ∧
            (ruleParameters entries).toEntries = .ok parameters ∧
              ∃ entry ∈ walked, Xml.ofElement entry.2 = .ok xml

theorem CompiledAlone.covers {rule : Value} {compiled : CompiledRule} {entry : List Nat × Value}
    (alone : CompiledAlone host start last rule compiled)
    (detached : ∀ strategy ∈ start.strategies, strategy.Detached) (isRule : rule ∈ rules)
    (isWalked : entry ∈ walked) :
    Covers (StylesheetCalls start rules walked) compiled.result.value entry.2 := by
  obtain ⟨name, options, isNamed, given, made, _⟩ := alone
  intro template parameters useCache bound
  obtain ⟨rfl, notDirect, registered, _, entries, found, _, isEntries, copied, _⟩ :=
    createMatcher_engineMatcher detached made ⟨useCache, bound⟩
  refine ⟨name, rfl, ?_⟩
  intro xml written
  have isTransform : (Mapping.find? (.str name) start.transforms).isSome = true := by
    rw [found]
    rfl
  exact ⟨rule, isRule, options, entries, isNamed, given, notDirect, isTransform, isEntries, copied,
    entry, isWalked, written⟩

/-! ## Whole runs -/

variable {o : Orchestrator} {now : String} {event elements context : Value} {outcome : RunOutcome}

/-- The calls of stylesheets in a run. -/
def RunCalls (o : Orchestrator) (host : Host) (rules : List Value) (elements : Value) : Engine.Calls :=
  fun xml name parameters =>
    ∃ start trees, o.buildRegistry host = .ok start ∧ Tree.forest elements = .ok trees ∧
      StylesheetCalls start rules (Tree.walk trees) xml name parameters

theorem RunCalls.mono {others : List Value} (subset : others ⊆ rules) {xml name : String}
    {parameters : List (Value × Value)} (isCall : RunCalls o host others elements xml name parameters) :
    RunCalls o host rules elements xml name parameters := by
  obtain ⟨start, trees, built, isForest, rule, member, isCall⟩ := isCall
  exact ⟨start, trees, built, isForest, rule, subset member, isCall⟩

/-- What is asked of a run: all types are set up by the configuration, every rule names its type by a text, the
parameters of stylesheets are plain, and the keys of their calls tell different work apart. -/
structure Orderly (o : Orchestrator) (host : Host) (rules : List Value) (elements : Value) : Prop where
  noPlugins : o.plugins = []
  noRegistrations : o.registrations = []
  named : ∀ rule ∈ rules, ∃ name, rule.option "type" = .ok (.str name)
  plain : ∀ xml name parameters, RunCalls o host rules elements xml name parameters →
    PlainParameters parameters
  separate : KeysSeparate (RunCalls o host rules elements)

theorem Orderly.mono {others : List Value} (orderly : Orderly o host rules elements)
    (subset : others ⊆ rules) : Orderly o host others elements := by
  refine ⟨orderly.noPlugins, orderly.noRegistrations, ?_, ?_, ?_⟩
  · intro rule member
    exact orderly.named rule (subset member)
  · intro xml name parameters isCall
    exact orderly.plain xml name parameters (isCall.mono subset)
  · exact orderly.separate.mono fun _ _ _ isCall => isCall.mono subset

theorem Orderly.admissible {trees : List Tree} {e : Engine} (orderly : Orderly o host rules elements)
    (built : o.buildRegistry host = .ok start) (isForest : Tree.forest elements = .ok trees)
    (compiling : Compiling host start last) (bound : last.engine = some e) :
    e.cache.entries = [] ∧ Admissible e (StylesheetCalls start rules (Tree.walk trees)) := by
  have inRun (xml name : String) (parameters : List (Value × Value))
      (isCall : StylesheetCalls start rules (Tree.walk trees) xml name parameters) :
      RunCalls o host rules elements xml name parameters :=
    ⟨start, trees, built, isForest, isCall⟩
  rcases compiling with ⟨noEngine, rfl⟩ | ⟨before, _, engine, rfl, grown⟩
  · rw [noEngine] at bound
    cases bound
  · cases bound
    have plain := plain_buildRegistry orderly.noPlugins orderly.noRegistrations built engine
    have runsSheets := grown.runsSheets plain.runsSheets
    refine ⟨?_, fun _ name _ _ => runsSheets.runsSheet name, orderly.separate.mono inRun, ?_⟩
    · rw [grown.rest]
      exact plain.noEntries
    · intro xml name parameters isCall
      exact orderly.plain xml name parameters (inRun xml name parameters isCall)

/-- The text of a stylesheet that shows its parameter `flag`. -/
def flagSource : String :=
  "<xsl:stylesheet version=\"1.0\" xmlns:xsl=\"http://www.w3.org/1999/XSL/Transform\">" ++
    "<xsl:param name=\"flag\"/>" ++
    "<xsl:template match=\"/\"><result><xsl:value-of select=\"$flag\"/></result></xsl:template>" ++
      "</xsl:stylesheet>"

/-- Compile that stylesheet. -/
def compileFlag (source : String) : Outcome CompiledSheet :=
  if source = flagSource then
    .ok fun text =>
      match Xml.read? text with
      | some _ => .ok fun given => .ok (Stylesheet.resultDocument ((given "flag").getD ""))
      | none => .error .malformedXml
  else .error .malformedXml

/-- A host with the file of the stylesheet. -/
def flagHost : Host :=
  { Host.bare with files := [(["flag.xsl"], flagSource)], compile := compileFlag }

def flagTransforms : Value := .ofFields [("flag", .ofFields [("path", .str "flag.xsl")])]

/-- A configuration whose type `flag` is decided by that stylesheet. -/
def flagConfiguration : Configuration :=
  { Configuration.initial false .null with
    entries :=
      [(.str "transforms", .ofFields [("processors", .list [.str "lxml"])]),
        (.str "xslt_transforms", flagTransforms)] }

def flagOrchestrator : Orchestrator := ⟨flagConfiguration, [], []⟩

def flagEngine : Engine :=
  { cacheEnabled := .bool true, cache := .empty 100, defaultProcessor := .str "lxml"
    searchPath := [Path.ofString "./transforms"]
    processors := [(.str "lxml", ⟨.processor Processor.stylesheets, 0⟩)], templates := []
    compile := compileFlag }

def flagRegistry : Registry :=
  { Registry.create (some flagEngine) Diagnostics.standard true with
    transforms := [(.str "flag", ⟨.str "flag.xsl", .int 0, .str "xslt", true⟩)] }

theorem get_flag {path : String} {names : List String} (default : Value)
    (isPath : Configuration.pathNames path = names) :
    flagOrchestrator.configuration.get flagHost path default =
      .ok ((Configuration.lookup names (.map flagConfiguration.entries)).getD default) :=
  Configuration.get_unset default rfl isPath

theorem buildEngine_flag : flagOrchestrator.buildEngine flagHost = .ok (some flagEngine) := by
  unfold buildEngine
  simp only [@get_flag "transforms.enabled" ["transforms", "enabled"] _ rfl,
    @get_flag "transforms.cache_enabled" ["transforms", "cache_enabled"] _ rfl,
    @get_flag "transforms.max_cache_size" ["transforms", "max_cache_size"] _ rfl,
    @get_flag "transforms.default_processor" ["transforms", "default_processor"] _ rfl,
    @get_flag "transforms.transform_paths" ["transforms", "transform_paths"] _ rfl,
    @get_flag "transforms.processors" ["transforms", "processors"] _ rfl,
    @get_flag "transforms.common_templates" ["transforms", "common_templates"] _ rfl]
  rfl

theorem registryPart_flag : flagOrchestrator.configuration.registryPart flagHost =
    .ok (.ofFields [("matchers", .map []), ("xslt_transforms", flagTransforms),
      ("plugins", .list [])]) := by
  unfold Configuration.registryPart
  simp only [@get_flag "matchers" ["matchers"] _ rfl,
    @get_flag "xslt_transforms" ["xslt_transforms"] _ rfl, @get_flag "plugins" ["plugins"] _ rfl]
  rfl

set_option maxRecDepth 10000 in
theorem buildRegistry_flag : flagOrchestrator.buildRegistry flagHost = .ok flagRegistry := by
  rw [buildRegistry, buildBy, buildEngine_flag]
  unfold setUpBy
  simp only [registryPart_flag,
    @get_flag "error_handling.fallback_strategy" ["error_handling", "fallback_strategy"] _ rfl]
  rfl

theorem limit_flag :
    flagOrchestrator.configuration.get flagHost "error_handling.max_errors" (.int 100) =
      .ok (.int 100) := by
  rw [@get_flag "error_handling.max_errors" ["error_handling", "max_errors"] _ rfl]
  rfl

end Orchestrator

end StyleRules
