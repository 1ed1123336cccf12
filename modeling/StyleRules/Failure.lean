import StyleRules.Text.Search

/-!
# Causes of failure

Every operation that can fail names its cause.  A cause has a kind, the class name under which callers
see it, and a text.  The uses of a value that its type does not allow share one wording.
-/

namespace StyleRules

/-- How a value was used although its type does not allow it. -/
inductive Misuse where
  /-- An attribute or method that the value does not have. -/
  | attribute
  /-- An operation on a value of the wrong type. -/
  | type
  /-- A value that cannot be converted. -/
  | value
  /-- A number too large to convert. -/
  | overflow
  /-- A position outside a sequence. -/
  | index
  deriving Repr, DecidableEq

/-- Why a text is not JSON, with the position of the first offending character. -/
structure JsonFault where
  reason : String
  line : Nat
  column : Nat
  position : Nat
  deriving Repr, DecidableEq

/-- Why an operation failed. -/
inductive Failure where
  | misuse (kind : Misuse)
  /-- An error raised by a caller's function: its class name and its text. -/
  | raised (kind text : String)
  /-- Code that a reference names, or a plugin, asked for the end of the process; that is no error. -/
  | exit (text : String)
  /-- A key that a mapping does not have, as quoted text. -/
  | missingKey (quoted : String)
  | unknownStyleOperator (name : String)
  | pluginWithoutRegister
  | strategyWithoutHandle
  | errorStrategyWithoutHandle
  | handlerWithoutHandle
  | providerWithoutProvide
  | processorWithoutTransform
  | unknownFallbackMode (name : String)
  | unknownBackend (name available : String)
  | invalidCacheSize (quoted : String)
  | templateNotFound (name : String)
  | processorNotFound (name : String)
  | stylesheetNotFound (path : String)
  | transformWithoutPath
  /-- The text that a warning handler gave for rejected options. -/
  | rejectedOptions (text : String)
  | malformedReference (path : String)
  | noSuchModule (quoted : String)
  /-- A file that does not exist, with its quoted path. -/
  | noSuchFile (quoted : String)
  | isDirectory (quoted : String)
  | notDirectory (quoted : String)
  | pathTooLong (quoted : String)
  | malformedXml
  /-- A text with characters that XML cannot hold. -/
  | unwritableText
  | malformedYaml
  | malformedPattern
  | malformedJson (fault : JsonFault)
  | unsuitableSource
  | configurationNotFound (path : String)
  | unsupportedFormat (name : String)
  | unsupportedExport (name : String)
  | invalidConfiguration (errors : List String)
  | invalidVariable (name : String) (errors : List String)
  | validatorNotCallable
  | transformerNotCallable
  | unknownTransformer (quoted : String)
  | strictMode (rules : List String)
  deriving Repr, DecidableEq

namespace Failure

/-- The wording shared by all misuses. -/
def misuseText : String := "unsupported use of a value"

/-- The class name of the failure. -/
def kind : Failure → String
  | .misuse .attribute => "AttributeError"
  | .misuse .type => "TypeError"
  | .misuse .value => "ValueError"
  | .misuse .overflow => "OverflowError"
  | .misuse .index => "IndexError"
  | .raised kind _ => kind
  | .exit _ => "SystemExit"
  | .missingKey _ | .unknownTransformer _ => "KeyError"
  | .pluginWithoutRegister | .strategyWithoutHandle | .errorStrategyWithoutHandle
  | .handlerWithoutHandle | .providerWithoutProvide | .processorWithoutTransform
  | .unsuitableSource | .validatorNotCallable | .transformerNotCallable => "TypeError"
  | .unknownStyleOperator _ | .unknownFallbackMode _ | .unknownBackend _ _ | .invalidCacheSize _
  | .transformWithoutPath | .rejectedOptions _ | .malformedReference _ | .unsupportedFormat _
  | .unsupportedExport _ | .invalidConfiguration _ | .invalidVariable _ _ | .strictMode _
  | .unwritableText => "ValueError"
  | .templateNotFound _ | .processorNotFound _ => "LookupError"
  | .stylesheetNotFound _ | .noSuchFile _ | .configurationNotFound _ => "FileNotFoundError"
  | .isDirectory _ => "IsADirectoryError"
  | .notDirectory _ => "NotADirectoryError"
  | .pathTooLong _ => "OSError"
  | .noSuchModule _ => "ModuleNotFoundError"
  | .malformedXml => "LxmlError"
  | .malformedYaml => "YAMLError"
  | .malformedPattern => "re.error"
  | .malformedJson _ => "JSONDecodeError"

/-- The text of the failure. -/
def message : Failure → String
  | .misuse _ => misuseText
  | .raised _ text | .exit text => text
  | .missingKey quoted => quoted
  | .unknownStyleOperator name =>
    s!"Unknown style name operator '{name}'. Available operators: equalTo, startsWith"
  | .pluginWithoutRegister => "Plugin must have a register function"
  | .strategyWithoutHandle => "Fallback strategy must have a handle function"
  | .errorStrategyWithoutHandle => "Error strategy must have a handle function"
  | .handlerWithoutHandle => "Warning handler must have a handle function"
  | .providerWithoutProvide => "Suggestion provider must have a provide function"
  | .processorWithoutTransform => "XSLT processor must have a transform function"
  | .unknownFallbackMode name =>
    s!"Unknown fallback mode '{name}'. Available modes: diagnose, ignore, suggest-alternatives"
  | .unknownBackend name available =>
    s!"Unknown transform backend '{name}'. Available backends: {available}"
  | .invalidCacheSize quoted => s!"max_cache_size must be a positive integer, got {quoted}"
  | .templateNotFound name => s!"XSLT template not found: {name}"
  | .processorNotFound name => s!"XSLT processor not found: {name}"
  | .stylesheetNotFound path => s!"XSLT template not found: {path}"
  | .transformWithoutPath => "transform entry needs a 'path'"
  | .rejectedOptions text => text
  | .malformedReference path => s!"Expected 'module:attribute', got '{path}'"
  | .noSuchModule quoted => "No module named " ++ quoted
  | .noSuchFile quoted => s!"[Errno 2] No such file or directory: {quoted}"
  | .isDirectory quoted => s!"[Errno 21] Is a directory: {quoted}"
  | .notDirectory quoted => s!"[Errno 20] Not a directory: {quoted}"
  | .pathTooLong quoted => s!"[Errno 36] File name too long: {quoted}"
  | .malformedXml => "malformed XML or stylesheet"
  | .unwritableText =>
    "All strings must be XML compatible: Unicode or ASCII, no NULL bytes or control characters"
  | .malformedYaml => "malformed YAML"
  | .malformedPattern => "malformed pattern"
  | .malformedJson fault =>
    s!"{fault.reason}: line {fault.line} column {fault.column} (char {fault.position})"
  | .unsuitableSource =>
    "Configuration source must be a dict, a file path or a configuration string"
  | .configurationNotFound path => s!"Configuration file not found: {path}"
  | .unsupportedFormat name => s!"Unsupported configuration format: {name}"
  | .unsupportedExport name => s!"Unsupported export format: {name}"
  | .invalidConfiguration errors =>
    "Configuration validation failed:\n" ++ Text.join "\n" errors
  | .invalidVariable name errors => s!"Invalid value for {name}: " ++ Text.join "; " errors
  | .validatorNotCallable => "Validator must be a function"
  | .transformerNotCallable => "Transformer must be a function"
  | .unknownTransformer quoted => quoted
  | .strictMode rules => "Rules failed to compile in strict mode: " ++ Text.join ", " rules

/-- The process is to end, so those who handle errors do not handle this. -/
def isExit : Failure → Bool
  | .exit _ => true
  | _ => false

/-- The text of the failure, or its class name when it has none. -/
def describe (failure : Failure) : String :=
  if failure.message.isEmpty then failure.kind else failure.message

end Failure

/-- The outcome of an operation that may fail. -/
abbrev Outcome (α : Type) := Except Failure α

namespace Outcome

/-- Fail because an attribute is missing. -/
def noAttribute {α : Type} : Outcome α := .error (.misuse .attribute)

/-- Fail because a value has the wrong type. -/
def wrongType {α : Type} : Outcome α := .error (.misuse .type)

instance {α : Type} [DecidableEq α] : DecidableEq (Outcome α)
  | .ok first, .ok second => decidable_of_iff (first = second) ⟨congrArg _, Except.ok.inj⟩
  | .error first, .error second => decidable_of_iff (first = second) ⟨congrArg _, Except.error.inj⟩
  | .ok _, .error _ => isFalse nofun
  | .error _, .ok _ => isFalse nofun

theorem ok_bind {α β : Type} (value : α) (next : α → Outcome β) :
    (Except.ok value >>= next) = next value :=
  rfl

/-- A composed operation succeeds when both parts do. -/
theorem bind_ok {α β : Type} {first : Outcome α} {next : α → Outcome β} {result : β}
    (succeeded : first >>= next = .ok result) :
    ∃ value, first = .ok value ∧ next value = .ok result := by
  cases first with
  | error reason => cases succeeded
  | ok value => exact ⟨value, rfl, succeeded⟩

end Outcome

end StyleRules
