import StyleRules.Registry.Basic

/-!
# The modules of the library

Configurations refer to functions, matchers and plugins as `module:attribute`.  The catalogue lists the modules of
the library itself and what they offer, so that a host can be made that knows these modules and no others.
-/

namespace StyleRules

/-- Something that a module offers, with the name it is shown under. -/
structure CatalogueItem where
  member : String
  shown : String
  value : Value

namespace Catalogue

/-- A class of matchers that are built from arguments. -/
def matcherClass (name : String) (kind : MatcherKind) : CatalogueItem :=
  ⟨name, name, .callable (.build kind)⟩

/-- A function or class that cannot stand for a matcher type or a plugin. -/
def definition (name : String) : CatalogueItem := ⟨name, name, .callable .method⟩

/-- A class whose objects are neither matchers nor plugins. -/
def plainClass (name : String) : CatalogueItem :=
  ⟨name, name, .callable (.constant (.opaqueObject name))⟩

/-- A plugin that the library ships. -/
def pluginClass (plugin : BuiltinPlugin) : CatalogueItem :=
  ⟨plugin.className, plugin.className, .callable (.buildPlugin plugin)⟩

def matcherObject (name : String) (matcher : Matcher Value) : CatalogueItem :=
  ⟨name, matcher.className, .matcher matcher⟩

def text (name content : String) : CatalogueItem := ⟨name, "str", .str content⟩

def table (name : String) (keys : List String) : CatalogueItem :=
  ⟨name, "dict", .map (keys.map fun key => (.str key, .opaqueObject "object"))⟩

/-- A sequence of texts of the given class. -/
def sequence (name shown : String) (items : List String) : CatalogueItem :=
  ⟨name, shown, .list (items.map .str)⟩

def logger : CatalogueItem := ⟨"logger", "Logger", .opaqueObject "Logger"⟩

def resultClasses : List CatalogueItem := [definition "Message", plainClass "Result"]

def basicMatchers : List CatalogueItem :=
  [definition "BaseMatcher", matcherClass "NoOpMatcher" .noop,
    matcherClass "ConditionalMatcher" .conditional]

def strategies : List CatalogueItem :=
  [definition "FallbackStrategy", plainClass "IgnoreUnknownStrategy",
    definition "SuggestAlternativesStrategy", definition "DiagnosticsStrategy"]

/-- Access to document elements. -/
def elementFunctions : List CatalogueItem :=
  [definition "get_field", definition "get_children", definition "iter_fields"]

def documentMatchers : List CatalogueItem :=
  [definition "equal_to", definition "starts_with",
    table "STYLE_NAME_OPERATORS" ["equalTo", "startsWith"], definition "StyleNameMatcher",
    matcherClass "ElementMatcher" .element, matcherClass "BreakMatcher" .plainBreak,
    matcherClass "HighlightMatcher" .highlight, matcherClass "paragraph" .paragraph,
    matcherClass "run" .run, matcherClass "table" .table, matcherClass "highlight" .highlightOptions,
    matcherObject "line_break" (BuiltinTypes.breakOf "line"),
    matcherObject "page_break" (BuiltinTypes.breakOf "page"),
    matcherObject "column_break" (BuiltinTypes.breakOf "column"),
    matcherObject "bold" (BuiltinTypes.elementOf "bold"),
    matcherObject "italic" (BuiltinTypes.elementOf "italic"),
    matcherObject "underline" (BuiltinTypes.elementOf "underline"),
    matcherObject "strikethrough" (BuiltinTypes.elementOf "strikethrough"),
    matcherObject "all_caps" (BuiltinTypes.elementOf "allCaps"),
    matcherObject "small_caps" (BuiltinTypes.elementOf "smallCaps"),
    matcherObject "comment_reference" (BuiltinTypes.elementOf "commentReference"),
    definition "get_field", definition "BaseMatcher"]

/-- Conversion to XML and back. -/
def conversions : List CatalogueItem :=
  [definition "element_to_xml", definition "parse_match_result"]

def transformClasses : List CatalogueItem :=
  [definition "TransformTemplate", matcherClass "UnboundXsltMatcher" .unbound,
    matcherClass "XsltMatcher" .transform, plainClass "XsltProcessor"]

def pluginTable : CatalogueItem := table "PLUGIN_REGISTRY" ["extended-breaks", "custom-elements"]

/-- The modules with what they offer. -/
def modules : List (String × List CatalogueItem) :=
  [("stylematch",
      [definition "MatcherConfiguration", table "ERROR_CATEGORIES" ["UNKNOWN_TYPE"],
        plainClass "MatcherErrorHandler", definition "levenshtein_distance", definition "similarity",
        definition "CallableStrategy", matcherClass "TemplateMatcher" .styleTemplate,
        plainClass "MatchOrchestrator", pluginTable, definition "BasePlugin",
        pluginClass .customElements, pluginClass .extendedBreaks, definition "MatcherRegistry",
        table "BACKENDS" ["lxml"], plainClass "XsltProcessor", sequence "__all__" "list" []] ++
      strategies ++ basicMatchers ++ resultClasses),
    ("stylematch.config_loader",
      [logger, text "ENV_PREFIX" "STYLEMATCH_",
        sequence "FALLBACK_MODES" "list" ["ignore", "suggest-alternatives", "diagnose"],
        table "DEFAULT_CONFIGURATION" ["matchers"], table "DEFAULT_SCHEMA" ["type"],
        definition "merge_configurations", definition "MatcherConfiguration",
        definition "load_dotenv"]),
    ("stylematch.diagnostics",
      [logger, definition "ErrorCategory", table "ERROR_CATEGORIES" ["UNKNOWN_TYPE"],
        table "CATEGORY_KEYWORDS" ["break"], definition "MatcherError", definition "HandledError",
        definition "WarningHandler", definition "SuggestionProvider",
        definition "levenshtein_distance", definition "similarity", definition "fuzzy_matches",
        definition "category_matches", plainClass "MatcherErrorHandler",
        matcherClass "NoOpMatcher" .noop] ++ resultClasses),
    ("stylematch.elements", definition "walk" :: elementFunctions),
    ("stylematch.fallback",
      [plainClass "MatcherErrorHandler", matcherClass "NoOpMatcher" .noop, plainClass "Result",
        definition "CallableStrategy"] ++ strategies),
    ("stylematch.orchestration",
      [logger, definition "CompiledRule", definition "RuntimeRegistration",
        plainClass "MatchOrchestrator", plainClass "MatcherConfiguration",
        plainClass "MatcherErrorHandler", definition "MatcherRegistry", plainClass "XsltProcessor",
        definition "walk"] ++ resultClasses),
    ("stylematch.registry",
      [logger, definition "RegisteredMatcher", definition "RegisteredTransform",
        definition "import_object", definition "MatcherRegistry", plainClass "MatcherErrorHandler",
        table "BUILTIN_MATCHERS" (BuiltinTypes.all.map (·.1)),
        matcherClass "TemplateMatcher" .styleTemplate, pluginTable,
        matcherClass "UnboundXsltMatcher" .unbound, plainClass "XsltProcessor"] ++
      strategies ++ resultClasses),
    ("stylematch.results",
      [text "WARNING" Message.warningKind, text "ERROR" Message.errorKind, definition "success",
        definition "warning", definition "error"] ++ resultClasses),
    ("stylematch.transforms",
      [definition "CallableProcessor", definition "TransformProcessor",
        plainClass "LxmlXsltProcessor", table "BACKENDS" ["lxml"], sequence "__all__" "list" []] ++
      conversions ++ transformClasses),
    ("stylematch.transforms.base",
      [definition "TransformProcessor", definition "CallableProcessor"]),
    ("stylematch.transforms.lxml_backend",
      [logger, plainClass "LxmlXsltProcessor", definition "TransformProcessor"]),
    ("stylematch.transforms.xml_converter", conversions ++ elementFunctions),
    ("stylematch.transforms.xslt_processor",
      [logger, text "AUTO_PROCESSOR" "auto",
        text "STYLE_MATCHER_XSLT" Stylesheet.style.source,
        text "COMPLEX_MATCHER_XSLT" Stylesheet.complex.source,
        text "ATTRIBUTE_MATCHER_XSLT" Stylesheet.attribute.source, definition "BaseMatcher",
        plainClass "Result"] ++ conversions ++ transformClasses),
    ("stylematch.matchers",
      [table "BUILTIN_MATCHERS" (BuiltinTypes.all.map (·.1)),
        matcherClass "TemplateMatcher" .styleTemplate, definition "apply_template",
        definition "evaluate_condition", sequence "__all__" "list" []] ++ basicMatchers),
    ("stylematch.matchers.base", logger :: basicMatchers),
    ("stylematch.matchers.document", documentMatchers),
    ("stylematch.matchers.template",
      [logger, definition "evaluate_condition", definition "apply_template",
        matcherClass "TemplateMatcher" .styleTemplate, definition "get_field",
        definition "BaseMatcher"]),
    ("stylematch.plugins",
      [definition "BasePlugin", pluginClass .customElements, pluginClass .extendedBreaks,
        matcherClass "StructuralTemplateMatcher" .structural,
        matcherClass "ConditionalBreakMatcher" .conditionalBreak, pluginTable,
        sequence "__all__" "list" []]),
    ("stylematch.plugins.base", [definition "BasePlugin"]),
    ("stylematch.plugins.custom_elements",
      [logger, text "NAMESPACE" "custom-elements",
        sequence "FIELD_TYPES" "tuple" ["text", "checkbox", "dropdown", "date", "number"],
        sequence "MEDIA_TYPES" "tuple" ["image", "video", "audio", "embed"],
        sequence "MEDIA_ELEMENT_TYPES" "tuple" ["media", "image", "video", "audio"],
        sequence "EQUATION_ELEMENT_TYPES" "tuple" ["equation", "math"],
        matcherClass "FormFieldMatcher" .formField, matcherClass "EquationMatcher" .equation,
        matcherClass "MediaMatcher" .media, matcherClass "CustomContainerMatcher" .container,
        matcherClass "StructuralTemplateMatcher" .structural, pluginClass .customElements,
        definition "BasePlugin", definition "BaseMatcher", definition "get_field",
        definition "get_children"]),
    ("stylematch.plugins.extended_breaks",
      [text "NAMESPACE" "extended-breaks", sequence "WRAP_SIDES" "tuple" ["left", "right", "both"],
        sequence "CLEAR_VALUES" "tuple" ["left", "right", "both", "none"],
        matcherClass "SectionBreakMatcher" .sectionBreak,
        matcherClass "WrapTextBreakMatcher" .wrapBreak, matcherClass "ClearBreakMatcher" .clearBreak,
        matcherClass "ConditionalBreakMatcher" .conditionalBreak, pluginClass .extendedBreaks,
        definition "BasePlugin", definition "BaseMatcher",
        matcherClass "ConditionalMatcher" .conditional, definition "get_field"])]

def isModule (name : String) : Bool := modules.any fun entry => entry.1 = name

/-- The modules that contain other modules. -/
def isPackage (name : String) : Bool := modules.any fun entry => Text.startsWith entry.1 (name ++ ".")

/-- The failure to find a module: the outermost of the modules on the way that is missing. -/
def missingModule (name : String) : Failure :=
  go "" (Text.parts '.' name)
where
  /-- Go along the parts of the name behind the module `parent`. -/
  go (parent : String) : List String → Failure
    | [] => .noSuchModule (Text.quoted name)
    | part :: rest =>
      let here := if parent.isEmpty then part else parent ++ "." ++ part
      if isModule here then go here rest
      else if parent.isEmpty || isPackage parent then .noSuchModule (Text.quoted here)
      else .noSuchModule (Text.quoted here ++ "; " ++ Text.quoted parent ++ " is not a package")

/-- A member of a module: what it offers, or a module inside it. -/
def memberOf (moduleName member : String) (items : List CatalogueItem) : Outcome CatalogueItem :=
  match items.find? fun item => item.member = member with
  | some item => .ok item
  | none =>
    let inner := moduleName ++ "." ++ member
    if isModule inner then .ok ⟨member, inner, .opaqueObject "module"⟩ else Outcome.noAttribute

/-- What a module offers under a name.  A name of a module that starts with a point is relative to nothing. -/
def find (moduleName member : String) : Outcome CatalogueItem :=
  if Text.startsWith moduleName "." then Outcome.wrongType
  else
    match modules.lookup moduleName with
    | some items => memberOf moduleName member items
    | none => .error (missingModule moduleName)

/-- Surroundings with the modules of the library, and without a library that compiles stylesheets. -/
def surroundings (directory : List String) (files : List (List String × String))
    (environment : List (String × String)) : Host where
  directory
  files
  environment
  object moduleName member := (find moduleName member).map (·.value)
  instantiate subject := subject.call []
  compile := Host.bare.compile

end Catalogue

end StyleRules
