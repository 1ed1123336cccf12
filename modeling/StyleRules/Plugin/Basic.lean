import StyleRules.Value.Access

/-!
# Plugins

A plugin registers a batch of matcher types, and may make further calls.  It has a name, and names the plugins
that it expects to be loaded before it.  The shipped plugins register the entries that are listed here.
-/

namespace StyleRules

namespace Plugin

/-- A plugin that the library ships. -/
def ofBuiltin (plugin : BuiltinPlugin) : Plugin Value :=
  ⟨.builtin plugin, .str plugin.className, .str "1.0.0", .list [], true⟩

def description (p : Plugin Value) : String :=
  match p.body with
  | .builtin .extendedBreaks =>
    "Adds support for extended break types including section, wrap-text, and clear breaks"
  | .builtin .customElements =>
    "Adds support for custom document elements including form fields, equations, and media objects"
  | .written _ _ _ => "Base plugin for extending document matcher functionality"

/-- The dependencies that are not among the available plugins, in their order. -/
def missingDependencies (p : Plugin Value) (available : Value) : Outcome (List Value) := do
  let loaded ← available.iterate
  return (← p.dependencies.iterate).filter fun name => !loaded.any (·.eq name)

/-- All dependencies are among the available plugins. -/
def hasDependencies (p : Plugin Value) (available : Value) : Outcome Bool := do
  return (← p.missingDependencies available).isEmpty

/-- What callers may know about the plugin. -/
def metadata (p : Plugin Value) : Outcome Value := do
  return .ofFields [("name", p.name), ("version", p.version),
    ("dependencies", .list (← p.dependencies.iterate)), ("enabled", .bool p.enabled),
    ("description", .str p.description)]

/-- Mark the plugin as enabled or not. -/
def setEnabled (p : Plugin Value) (enabled : Bool) : Plugin Value := { p with enabled }

/-- Name the plugins that the plugin expects. -/
def setDependencies (p : Plugin Value) (dependencies : Value) : Plugin Value := { p with dependencies }

end Plugin

/-! ## Entries of the shipped plugins -/

/-- A matcher type that a plugin registers. -/
structure PluginEntry where
  name : Value
  factory : Value
  options : Value

namespace PluginEntry

/-- An entry of a shipped plugin. -/
def shipped (space : String) (priority : Int) (name : String) (kind : MatcherKind)
    (description : String) (check : OptionCheck) : PluginEntry :=
  ⟨.str name, .callable (.build kind), .ofFields [("priority", .int priority),
    ("namespace", .str space), ("description", .str description),
    ("validation", .callable (.check check))]⟩

/-- The break types beyond line, page and column. -/
def extendedBreaks : List PluginEntry :=
  let entry := shipped "extended-breaks"
  [entry 10 "section" .sectionBreak "Matches section breaks in documents" .always,
    entry 10 "wrap-text" .wrapBreak "Matches text wrapping breaks" .wrapText,
    entry 10 "clear" .clearBreak "Matches clear breaks (similar to CSS clear)" .clear,
    entry 15 "conditional" .conditionalBreak "Matches breaks based on conditions" .conditional]

/-- Form fields, equations, media objects, containers and structural templates. -/
def customElements : List PluginEntry :=
  let entry := shipped "custom-elements"
  [entry 20 "form-field" .formField "Matches form fields (text inputs, checkboxes, etc.)" .formField,
    entry 20 "equation" .equation "Matches mathematical equations and formulas" .always,
    entry 20 "media" .media "Matches media objects (audio, video, embedded content)" .media,
    entry 15 "container" .container "Matches custom container elements with nested content" .container,
    entry 5 "template" .structural "Template-based matcher for complex custom elements" .template]

end PluginEntry

/-- The entries that a shipped plugin registers. -/
def BuiltinPlugin.entries : BuiltinPlugin → List PluginEntry
  | .extendedBreaks => PluginEntry.extendedBreaks
  | .customElements => PluginEntry.customElements

/-! ## Plugins of callers -/

/-- The calls that register entries one after the other, in front of a script. -/
def PluginScript.registering (rest : PluginScript Value) : List (Value × Value × Value) → PluginScript Value
  | [] => rest
  | (name, factory, options) :: more => .register name factory options (registering rest more)

/-- A plugin that registers entries and does nothing else.  It may fail in one of its steps, with the given text. -/
def PluginBody.scripted (entries : List (Value × Value × Value)) (failsAt : Option PluginStep) (text : String) :
    PluginBody Value :=
  let ending (step : PluginStep) : PluginScript Value :=
    if failsAt = some step then .failing (.raised "RuntimeError" text) else .done
  .written "ScriptPlugin" ((ending .register).registering entries) (ending .startUp)

end StyleRules
