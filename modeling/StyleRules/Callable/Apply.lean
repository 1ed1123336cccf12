import StyleRules.Json.Writer
import StyleRules.Matcher.Build
import StyleRules.Plugin.Basic

/-!
# Applying functions

A function is applied to a list of arguments.  Functions that callers wrote see the data of their arguments; the
simple ones look at the arguments they need and fail when those are missing, and the functions of the library take a
fixed number of arguments.
-/

namespace StyleRules

mutual

/-- What a caller's function sees of a value. -/
def Value.datum : Value → Datum
  | .null => .null
  | .bool b => .bool b
  | .int n => .int n
  | .float x => .float x
  | .str s => .str s
  | .bytes b => .bytes b
  | .date d => .date d
  | .moment m => .moment m
  | .list items => .list (Value.data items)
  | .map entries => .map (Value.dataEntries entries)
  | .record tag fields => .record tag (Value.dataFields fields)
  | .failure reason => .failure reason
  | .message m => .message m
  | .result ⟨value, messages⟩ => .result value.datum messages
  | .callable function => .object (Value.callable function).className
  | .matcher m => .object m.className
  | .plugin p => .object p.body.className
  | .processor p => .object p.className
  | .opaqueObject className => .object className
termination_by structural subject => subject

def Value.data : List Value → List Datum
  | [] => []
  | v :: rest => v.datum :: Value.data rest
termination_by structural subject => subject

def Value.dataEntries : List (Value × Value) → List (Datum × Datum)
  | [] => []
  | (key, v) :: rest => (key.datum, v.datum) :: Value.dataEntries rest
termination_by structural subject => subject

def Value.dataFields : List (String × Value) → List (String × Datum)
  | [] => []
  | (name, v) :: rest => (name, v.datum) :: Value.dataFields rest
termination_by structural subject => subject

end

mutual

/-- The value that a caller's function computes with. -/
def Datum.value : Datum → Value
  | .null => .null
  | .bool b => .bool b
  | .int n => .int n
  | .float x => .float x
  | .str s => .str s
  | .bytes b => .bytes b
  | .date d => .date d
  | .moment m => .moment m
  | .list items => .list (Datum.values items)
  | .map entries => .map (Datum.entryValues entries)
  | .record tag fields => .record tag (Datum.fieldValues fields)
  | .failure reason => .failure reason
  | .message m => .message m
  | .result value messages => .result ⟨value.value, messages⟩
  | .object className => .opaqueObject className

def Datum.values : List Datum → List Value
  | [] => []
  | d :: rest => d.value :: Datum.values rest

def Datum.entryValues : List (Datum × Datum) → List (Value × Value)
  | [] => []
  | (key, d) :: rest => (key.value, d.value) :: Datum.entryValues rest

def Datum.fieldValues : List (String × Datum) → List (String × Value)
  | [] => []
  | (name, d) :: rest => (name, d.value) :: Datum.fieldValues rest

end

namespace Callable

/-- The outcome of a warning handler: a text with severity, recovery and suggestions. -/
def handledFault (text code severity : String) (recoverable recovery : Value)
    (suggestions validationErrors : Value) : Value :=
  .record 0 [("message", .str text), ("code", .str code), ("severity", .str severity),
    ("recoverable", recoverable), ("suggestions", suggestions), ("validation_errors", validationErrors),
    ("recovery", recovery)]

/-- Apply a function to arguments. -/
def apply (function : Callable Value) (args : List Value) : Outcome Value :=
  match function with
  | .constant value => .ok value
  | .failing reason => .error reason
  | .argument index =>
    let position := if index < 0 then index + args.length else index
    if position < 0 then .error (.misuse .index) else argument position.toNat
  | .field name => do (← argument 0).fieldAt name
  | .withEntry key value => do
    let entries ← (← argument 0).toEntries
    if key.isKey then return .map (Mapping.insert key value entries) else Outcome.wrongType
  | .written answer => answer (Value.data args)
  | .build kind => do return .matcher (← Matcher.build kind args)
  | .fromStyleTemplate template =>
    match args with
    | [options] => do return .matcher (← Matcher.build .styleTemplate [template, options])
    | _ => Outcome.wrongType
  | .check rule =>
    match args with
    | [_, options] => do return .bool (← rule.accepts options)
    | _ => Outcome.wrongType
  | .buildPlugin plugin =>
    match args with
    | [] => .ok (.plugin (Plugin.ofBuiltin plugin))
    | _ => Outcome.wrongType
  | .method => Outcome.wrongType
where
  /-- The argument at a position. -/
  argument (index : Nat) : Outcome Value :=
    match args[index]? with
    | some found => .ok found
    | none => .error (.misuse .index)

end Callable

end StyleRules
