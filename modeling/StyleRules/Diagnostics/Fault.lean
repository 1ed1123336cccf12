import StyleRules.Callable.Apply

/-!
# Faults

Every failure that callers hear of belongs to a category with a code, a severity and a description.  A fault is a
categorised failure as warning handlers see it: what it is about, the details, and the value that caused it.
-/

namespace StyleRules

/-! ## Categories -/

/-- What a failure is about. -/
inductive FaultCategory where
  | unknownType
  | invalidOptions
  | validationFailed
  | plugin
  | transform
  | dependency
  deriving Repr, DecidableEq

namespace FaultCategory

def all : List FaultCategory :=
  [.unknownType, .invalidOptions, .validationFailed, .plugin, .transform, .dependency]

def name : FaultCategory → String
  | .unknownType => "UNKNOWN_TYPE"
  | .invalidOptions => "INVALID_OPTIONS"
  | .validationFailed => "VALIDATION_FAILED"
  | .plugin => "PLUGIN_ERROR"
  | .transform => "XSLT_ERROR"
  | .dependency => "DEPENDENCY_ERROR"

/-- The code under which warning handlers claim the category. -/
def code : FaultCategory → String
  | .unknownType => "MATCHER_001"
  | .invalidOptions => "MATCHER_002"
  | .validationFailed => "MATCHER_003"
  | .plugin => "MATCHER_004"
  | .transform => "MATCHER_005"
  | .dependency => "MATCHER_006"

def severity : FaultCategory → String
  | .unknownType => "warning"
  | _ => "error"

/-- What the category means. -/
def description : FaultCategory → String
  | .unknownType => "Unknown matcher type encountered"
  | .invalidOptions => "Invalid options provided for matcher"
  | .validationFailed => "Matcher validation failed"
  | .plugin => "Plugin encountered an error"
  | .transform => "XSLT transformation error"
  | .dependency => "Plugin dependency error"

end FaultCategory

/-! ## Categorised failures -/

/-- A categorised failure. -/
structure Fault where
  category : FaultCategory
  context : Value
  unknownType : Value := .null
  matcherType : Value := .null
  details : String := ""
  validationErrors : List Value := []
  cause : Value := .null

namespace Fault

/-- The fault as the attribute object that warning handlers are given. -/
def toValue (fault : Fault) : Value :=
  .record 0 [("category", .str fault.category.name), ("context", fault.context),
    ("unknown_type", fault.unknownType), ("matcher_type", fault.matcherType),
    ("details", .str fault.details), ("validation_errors", .list fault.validationErrors),
    ("cause", fault.cause), ("code", .str fault.category.code)]

end Fault

/-- The cause of a message made from a value; null is no cause. -/
def Cause.ofValue : Value → Option Cause
  | .null => none
  | .failure reason => some (.failure reason)
  | other => some (.object other.className)

namespace Value

/-- The text of a cause; a default replaces the empty text. -/
def causeText (cause : Value) (default : String) : String :=
  if cause.text.isEmpty then default else cause.text

end Value

end StyleRules
