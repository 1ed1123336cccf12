import StyleRules.Diagnostics.Fault
import StyleRules.Value.Access

/-!
# Reports

A report counts the errors and warnings of a batch of records and lists every record with its code, severity
and time.  A record without a time gets the time of the report.
-/

namespace StyleRules

structure ReportDetail where
  kind : Value
  text : Value
  code : Value
  severity : Value
  timestamp : Value

structure Report where
  timestamp : String
  context : Value
  details : List ReportDetail

namespace ReportDetail

def isError (detail : ReportDetail) : Bool := detail.kind.isText Message.errorKind

/-- The record is a critical error. -/
def isCritical (detail : ReportDetail) : Bool :=
  detail.isError && detail.severity.isText "critical"

/-- The entries of a record; a message has its kind and its text. -/
def entriesOf : Value → Value
  | .message m => .ofFields [("type", .str m.kind), ("message", .str m.text)]
  | other => other

/-- Read a record; it has to be a message or a mapping. -/
def ofValue (now : String) (record : Value) : Outcome ReportDetail := do
  let entries := entriesOf record
  let kind ← entries.option "type"
  let severity ← entries.option "severity"
  let usual := if kind.isText Message.errorKind then "error" else "warning"
  let timestamp := match (← entries.option "timestamp").orElse (.str now) with
    | .moment m => .str (m.textWith "T")
    | other => other
  return { kind, text := ← entries.option "message"
           code := (← entries.option "code").orElse (.str "UNKNOWN")
           severity := severity.orElse (.str usual), timestamp }

def toValue (detail : ReportDetail) : Value :=
  .ofFields [("type", detail.kind), ("message", detail.text), ("code", detail.code),
    ("severity", detail.severity), ("timestamp", detail.timestamp)]

end ReportDetail

namespace Report

/-- Make the report of a batch of records. -/
def ofRecords (now : String) (records : List Value) (context : Value) : Outcome Report := do
  return ⟨now, context.orElse (.map []), ← records.mapM (ReportDetail.ofValue now)⟩

/-- Make the report of a sequence of records. -/
def ofValue (now : String) (records context : Value) : Outcome Report := do
  ofRecords now (← records.iterate) context

def totalErrors (report : Report) : Nat := (report.details.filter (·.isError)).length

/-- The number of records that are not errors. -/
def totalWarnings (report : Report) : Nat := (report.details.filter (!·.isError)).length

def criticalErrors (report : Report) : Nat := (report.details.filter (·.isCritical)).length

def toValue (report : Report) : Value :=
  .ofFields [("timestamp", .str report.timestamp), ("context", report.context),
    ("summary", .ofFields [("total_errors", .int report.totalErrors),
      ("total_warnings", .int report.totalWarnings),
      ("critical_errors", .int report.criticalErrors)]),
    ("details", .list (report.details.map (·.toValue))), ("suggestions", .list [])]

end Report

end StyleRules
