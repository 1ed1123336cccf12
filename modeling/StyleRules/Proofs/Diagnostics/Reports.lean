import StyleRules.Diagnostics.Report
import StyleRules.Proofs.Lists

/-!
# Reports of messages

A report of messages has one detail for each of them, with its kind and its text.  It counts the messages by their
kinds, so the two counts add up to the number of details.
-/

namespace StyleRules

/-- What a report says about a message. -/
def ReportDetail.ofMessage (now : String) (message : Message) : ReportDetail where
  kind := .str message.kind
  text := .str message.text
  code := .str "UNKNOWN"
  severity := .str (if message.isError then "error" else "warning")
  timestamp := .str now

theorem ReportDetail.isText_errorKind (message : Message) :
    (Value.str message.kind).isText Message.errorKind = message.isError := by
  rw [Value.isText, Message.isError]

theorem ReportDetail.ofValue_message (now : String) (message : Message) :
    ofValue now (.message message) = .ok (ofMessage now message) := by
  rw [ofMessage, ← isText_errorKind]
  rfl

theorem ReportDetail.isError_ofMessage (now : String) (message : Message) :
    (ofMessage now message).isError = message.isError :=
  isText_errorKind message

namespace Report

variable {now : String} {messages : List Message} {context : Value}

def ofMessages (now : String) (messages : List Message) (context : Value) : Report :=
  ⟨now, context.orElse (.map []), messages.map (ReportDetail.ofMessage now)⟩

theorem ofRecords_messages (now : String) (messages : List Message) (context : Value) :
    ofRecords now (messages.map .message) context = .ok (ofMessages now messages context) := by
  have read : (messages.map Value.message).mapM (ReportDetail.ofValue now) =
      .ok (messages.map (ReportDetail.ofMessage now)) := by
    rw [List.mapM_map]
    exact mapM_eq_pure_map fun message _ => ReportDetail.ofValue_message now message
  rw [ofRecords, read]
  rfl

theorem totalErrors_ofMessages : (ofMessages now messages context).totalErrors = messages.countP (·.isError) := by
  rw [totalErrors, ← List.countP_eq_length_filter, ofMessages, List.countP_map]
  refine List.countP_congr fun message _ => ?_
  rw [Function.comp_apply, ReportDetail.isError_ofMessage]

/-- All that is no error counts as a warning. -/
theorem totalWarnings_ofMessages :
    (ofMessages now messages context).totalWarnings = messages.countP (!·.isError) := by
  rw [totalWarnings, ← List.countP_eq_length_filter, ofMessages, List.countP_map]
  refine List.countP_congr fun message _ => ?_
  rw [Function.comp_apply, ReportDetail.isError_ofMessage]

theorem totals_ofMessages :
    (ofMessages now messages context).totalErrors + (ofMessages now messages context).totalWarnings =
      messages.length := by
  rw [totalErrors_ofMessages, totalWarnings_ofMessages, List.length_eq_countP_add_countP (·.isError)]
  simp

end Report

end StyleRules
