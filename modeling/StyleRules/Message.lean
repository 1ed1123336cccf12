import StyleRules.Failure

/-!
# Messages

A message tells the caller what went wrong while a value was produced.  Its kind is normally `warning` or
`error`, but callers' strategies may use other words.
-/

namespace StyleRules

/-- What an error message was made from: a failure, or another object known by its class name. -/
inductive Cause where
  | failure (reason : Failure)
  | object (className : String)
  deriving Repr, DecidableEq

/-- The class name of the cause. -/
def Cause.kind : Cause → String
  | .failure reason => reason.kind
  | .object className => className

/-- A diagnostic attached to a result. -/
structure Message where
  kind : String
  text : String
  cause : Option Cause
  deriving Repr, DecidableEq

namespace Message

def warningKind : String := "warning"

def errorKind : String := "error"

def warning (text : String) : Message := ⟨warningKind, text, none⟩

def errorText (text : String) : Message := ⟨errorKind, text, none⟩

/-- The error message of a failure. -/
def error (reason : Failure) : Message :=
  ⟨errorKind, reason.describe, some (.failure reason)⟩

def isWarning (m : Message) : Bool := m.kind = warningKind

def isError (m : Message) : Bool := m.kind = errorKind

end Message

end StyleRules
