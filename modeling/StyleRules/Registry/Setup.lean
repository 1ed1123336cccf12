import StyleRules.Registry.Basic

/-!
# Setting up a registry from a configuration

A configuration lists matchers, transforms and plugins.  Functions and plugins may be given as references to what
modules offer.  An entry that cannot be applied is skipped, and reported in the setup messages; only what asks for
the end of the process ends the setup.
-/

namespace StyleRules.Registry

/-- Add setup messages. -/
def report (result : Outcome (Result Value)) : Action Registry Unit := do
  let found ← Action.ofOutcome result
  modify fun r => { r with setupMessages := r.setupMessages ++ found.messages }

/-- A factory given as a reference stands for what the reference names. -/
def factoryOf (host : Host) : Value → Outcome Value
  | .str reference => host.importObject reference
  | factory => .ok factory

/-- Register the matcher that a configuration entry describes, by factory or by template. -/
def loadMatcher (host : Host) (name entry : Value) : Action Registry Unit := do
  let factory ← Action.ofOutcome (entry.option "factory")
  let template ← Action.ofOutcome (entry.option "template")
  let options ← Action.ofOutcome (entry.option "options")
  if !factory.isNull then register name (← Action.ofOutcome (factoryOf host factory)) options
  else if template.truthy then register name (.callable (.fromStyleTemplate template)) options

/-- Register the transform that a configuration entry describes. -/
def loadTransform (name entry : Value) : Action Registry Unit := do
  match entry with
  | .map _ =>
    let path ← Action.ofOutcome (entry.option "path")
    if path.truthy then registerTransform name path (← Action.ofOutcome (entry.option "options"))
    else throw .transformWithoutPath
  | _ => throw .transformWithoutPath

/-- The plugins that the library ships, by the names that configurations use. -/
def shippedPlugins : List (String × BuiltinPlugin) :=
  [("extended-breaks", .extendedBreaks), ("custom-elements", .customElements)]

/-- A plugin given by name or by a reference to its class. -/
def pluginOf (host : Host) : Value → Outcome Value
  | .str name =>
    match shippedPlugins.lookup name with
    | some plugin => .ok (.plugin (Plugin.ofBuiltin plugin))
    | none => do host.instantiate (← host.importObject name)
  | plugin => .ok plugin

def pluginName : Value → Value
  | .str name => .str name
  | plugin => (plugin.attribute? "name").getD (.str plugin.quoted)

/-- Load one entry.  An error is worded by the diagnostics and reported, and the batch goes on. -/
def loadOrReport (load : Action Registry Unit)
    (wording : Diagnostics → Failure → Outcome (Result Value)) : Action Registry Unit := do
  match ← load.attempt with
  | .ok () => pure ()
  | .error reason =>
    if reason.isExit then throw reason else report (wording (← get).diagnostics reason)

/-- Load the matcher entries of a configuration. -/
def loadMatchers (host : Host) : List (Value × Value) → Action Registry Unit
  | [] => pure ()
  | (name, entry) :: rest => do
    loadOrReport (loadMatcher host name entry) fun diagnostics reason =>
      diagnostics.rejectedOptions name (.list [.str reason.message]) .null
    loadMatchers host rest

/-- Load the transform entries of a configuration. -/
def loadTransforms : List (Value × Value) → Action Registry Unit
  | [] => pure ()
  | (name, entry) :: rest => do
    loadOrReport (loadTransform name entry) fun diagnostics reason =>
      diagnostics.transformFailed name (.failure reason)
    loadTransforms rest

/-- Load the plugin that a reference names. -/
def loadPlugin (host : Host) (reference : Value) : Action Registry Unit := do
  registerPlugin (← Action.ofOutcome (pluginOf host reference))

def loadPlugins (host : Host) : List Value → Action Registry Unit
  | [] => pure ()
  | reference :: rest => do
    loadOrReport (loadPlugin host reference) fun diagnostics reason =>
      diagnostics.pluginFailed (pluginName reference) (.failure reason)
    loadPlugins host rest

/-- Apply a configuration: its matchers, its transforms, and then its plugins. -/
def loadConfiguration (host : Host) (config : Value) : Action Registry Unit := do
  let config := config.orElse (.map [])
  let matchers ← Action.ofOutcome (config.option "matchers")
  loadMatchers host (← Action.ofOutcome (matchers.orElse (.map [])).items)
  let transforms ← Action.ofOutcome (config.option "xslt_transforms")
  loadTransforms (← Action.ofOutcome (transforms.orElse (.map [])).items)
  let plugins ← Action.ofOutcome (config.option "plugins")
  loadPlugins host (← Action.ofOutcome (plugins.orElse (.list [])).iterate)

end StyleRules.Registry
