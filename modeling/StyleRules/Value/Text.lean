import StyleRules.Decimal.Text
import StyleRules.Text.Classes
import StyleRules.Value.Basic

/-!
# Values as text

The plain text of a value, and its quoted text in which texts stand between quotes and control characters
are escaped.  Inside lists and mappings every value is quoted.
-/

namespace StyleRules

namespace Text

/-- Write a number in hexadecimal with at least `width` digits. -/
def hexText (width n : Nat) : String :=
  let digits := String.ofList (Nat.toDigits 16 n)
  String.ofList (List.replicate (width - digits.length) '0') ++ digits

def quotedChar (quote c : Char) : String :=
  if c = quote || c = '\\' then String.ofList ['\\', c]
  else if c = '\n' then "\\n"
  else if c = '\r' then "\\r"
  else if c = '\t' then "\\t"
  else if isPrintable c then String.ofList [c]
  else if c.toNat < 0x100 then "\\x" ++ hexText 2 c.toNat
  else if c.toNat < 0x10000 then "\\u" ++ hexText 4 c.toNat
  else "\\U" ++ hexText 8 c.toNat

/-- The quote that surrounds a text: single, unless the text holds single quotes and no double ones. -/
def quoteFor (chars : List Char) : Char :=
  if chars.contains '\'' && !chars.contains '"' then '"' else '\''

/-- A text between quotes. -/
def quoted (s : String) : String :=
  let quote := quoteFor s.toList
  let mark := String.ofList [quote]
  mark ++ String.join (s.toList.map (quotedChar quote)) ++ mark

/-- Bytes between quotes, the printable ASCII ones as characters. -/
def quotedBytes (bytes : List UInt8) : String :=
  let chars := bytes.map fun b => Char.ofNat b.toNat
  let quote := quoteFor chars
  let mark := String.ofList [quote]
  let one (c : Char) : String :=
    if c.toNat < 128 then quotedChar quote c else "\\x" ++ hexText 2 c.toNat
  "b" ++ mark ++ String.join (chars.map one) ++ mark

end Text

/-- An offset from universal time as quoted text. -/
def Moment.quotedOffset (offset : Int) : String :=
  if offset = 0 then "datetime.timezone.utc"
  else
    let days := Int.fdiv offset 86400
    let seconds := Int.fmod offset 86400
    let parts := (if days = 0 then [] else [s!"days={days}"]) ++
      (if seconds = 0 then [] else [s!"seconds={seconds}"])
    "datetime.timezone(datetime.timedelta(" ++ Text.join ", " parts ++ "))"

/-- A moment as quoted text: zero seconds and microseconds at the end are left out. -/
def Moment.quoted (m : Moment) : String :=
  let tail := if m.micro ≠ 0 then [m.second, m.micro] else if m.second ≠ 0 then [m.second] else []
  let numbers := [m.date.year, m.date.month, m.date.day, m.hour, m.minute] ++ tail
  let zone := (m.offset.map fun offset => ["tzinfo=" ++ Moment.quotedOffset offset]).getD []
  "datetime.datetime(" ++ Text.join ", " (numbers.map toString ++ zone) ++ ")"

namespace Matcher

def className {α : Type} : Matcher α → String
  | .noop _ => "NoOpMatcher"
  | .conditional false _ _ => "ConditionalMatcher"
  | .conditional true _ _ => "ConditionalBreakMatcher"
  | .element _ _ _ _ => "ElementMatcher"
  | .plainBreak _ => "BreakMatcher"
  | .highlight _ => "HighlightMatcher"
  | .styleTemplate _ _ => "TemplateMatcher"
  | .sectionBreak _ _ => "SectionBreakMatcher"
  | .wrapBreak _ _ => "WrapTextBreakMatcher"
  | .clearBreak _ => "ClearBreakMatcher"
  | .formField _ _ _ _ => "FormFieldMatcher"
  | .equation _ _ => "EquationMatcher"
  | .media _ _ _ => "MediaMatcher"
  | .container _ _ _ _ => "CustomContainerMatcher"
  | .structural _ _ => "StructuralTemplateMatcher"
  | .unbound _ _ => "UnboundXsltMatcher"
  | .transform _ _ _ | .detached _ _ _ => "XsltMatcher"
  | .scripted _ => "Scripted"

end Matcher

namespace BuiltinPlugin

/-- The class name, which is also the name of the plugin. -/
def className : BuiltinPlugin → String
  | .extendedBreaks => "ExtendedBreakPlugin"
  | .customElements => "CustomElementPlugin"

end BuiltinPlugin

def PluginBody.className {α : Type} : PluginBody α → String
  | .builtin plugin => plugin.className
  | .written className _ _ => className

def Processor.className {α : Type} (p : Processor α) : String :=
  if p.transform.isSome then "CallableProcessor" else "LxmlXsltProcessor"

namespace Value

def className : Value → String
  | .null => "NoneType"
  | .bool _ => "bool"
  | .int _ => "int"
  | .float _ => "float"
  | .str _ => "str"
  | .bytes _ => "bytes"
  | .date _ => "date"
  | .moment _ => "datetime"
  | .list _ => "list"
  | .map _ => "dict"
  | .record _ _ => "Obj"
  | .failure reason => reason.kind
  | .message _ => "Message"
  | .result _ => "Result"
  | .callable _ => "function"
  | .matcher m => m.className
  | .plugin p => p.body.className
  | .processor p => p.className
  | .opaqueObject name => name

def floatText (x : Float) : String := Decimal.floatText "nan" "inf" x

/-- The quoted text of a failure: its class name, and its text between parentheses. -/
def quotedFailure : Failure → String
  | .missingKey key => "KeyError(" ++ key ++ ")"
  | reason => reason.kind ++ "(" ++ Text.quoted reason.message ++ ")"

/-- The quoted text of a message, with its fields. -/
def quotedMessage (m : Message) : String :=
  let cause := match m.cause with
    | none => "None"
    | some (.failure reason) => quotedFailure reason
    | some (.object name) => "<" ++ name ++ ">"
  "Message(type=" ++ Text.quoted m.kind ++ ", message=" ++ Text.quoted m.text ++ ", error=" ++ cause ++ ")"

mutual

/-- The quoted text of a value. -/
def quoted : Value → String
  | .null => "None"
  | .bool b => if b then "True" else "False"
  | .int n => toString n
  | .float x => floatText x
  | .str s => Text.quoted s
  | .bytes b => Text.quotedBytes b
  | .date d => s!"datetime.date({d.year}, {d.month}, {d.day})"
  | .moment m => m.quoted
  | .list items => "[" ++ Text.join ", " (quotedItems items) ++ "]"
  | .map entries => "\x7b" ++ Text.join ", " (quotedEntries entries) ++ "\x7d"
  | .matcher (.noop reason) => "NoOpMatcher(reason=" ++ quoted reason ++ ")"
  | .failure reason => quotedFailure reason
  | .message m => quotedMessage m
  | .result ⟨value, messages⟩ =>
    "Result(value=" ++ quoted value ++ ", messages=[" ++
      Text.join ", " (messages.map quotedMessage) ++ "])"
  | v => "<" ++ v.className ++ ">"

def quotedItems : List Value → List String
  | [] => []
  | v :: rest => quoted v :: quotedItems rest

def quotedEntries : List (Value × Value) → List String
  | [] => []
  | (k, v) :: rest => (quoted k ++ ": " ++ quoted v) :: quotedEntries rest

end

/-- The plain text of a value. -/
def text : Value → String
  | .str s => s
  | .date d => d.text
  | .moment m => m.textWith " "
  | .failure reason => reason.message
  | v => quoted v

end Value

/-- The failure that a caller's function raises: its kind and the text that its arguments give. -/
def Failure.ofArguments (kind : String) (args : List Value) : Failure :=
  let all := match args with
    | [] => ""
    | [v] => v.text
    | _ => "(" ++ Text.join ", " (Value.quotedItems args) ++ ")"
  match kind, args with
  | "KeyError", [v] => .missingKey v.quoted
  | "OSError", [.int code, text] =>
    let kind := ((osKinds.find? (·.1 = code)).map (·.2)).getD "OSError"
    .raised kind s!"[Errno {code}] {text.text}"
  | "OSError", [code, text] => .raised "OSError" s!"[Errno {code.text}] {text.text}"
  | "OSError", [.int code, text, path] =>
    let kind := ((osKinds.find? (·.1 = code)).map (·.2)).getD "OSError"
    .raised kind s!"[Errno {code}] {text.text}: {path.quoted}"
  | _, _ => .raised kind all
where
  /-- The kinds of operating system errors by their number. -/
  osKinds : List (Int × String) :=
    [(1, "PermissionError"), (2, "FileNotFoundError"), (3, "ProcessLookupError"),
      (4, "InterruptedError"), (10, "ChildProcessError"), (11, "BlockingIOError"),
      (13, "PermissionError"), (17, "FileExistsError"), (20, "NotADirectoryError"),
      (21, "IsADirectoryError"), (32, "BrokenPipeError"), (103, "ConnectionAbortedError"),
      (104, "ConnectionResetError"), (108, "BrokenPipeError"), (110, "TimeoutError"),
      (111, "ConnectionRefusedError"), (114, "BlockingIOError"), (115, "BlockingIOError")]

end StyleRules
