import StyleRules.Value.Mapping
import StyleRules.Value.Text

/-!
# Reading parts of values

Fields are read from mappings by key and from all other values by attribute.  Options are read from
mappings only.  Sequences are lists, the keys of mappings, the characters of texts and the numbers of byte
strings.
-/

namespace StyleRules

namespace Message

/-- The attributes of a message. -/
def fields (m : Message) : List (String × Value) :=
  [("type", .str m.kind), ("message", .str m.text),
    ("error", match m.cause with
      | none => .null
      | some (.failure reason) => .failure reason
      | some (.object name) => .opaqueObject name)]

end Message

namespace Plugin

/-- The attributes of a plugin that are not functions. -/
def fields (p : Plugin Value) : List (String × Value) :=
  [("name", p.name), ("version", p.version), ("dependencies", p.dependencies),
    ("enabled", .bool p.enabled)]

/-- The functions of a plugin. -/
def methods : List String :=
  ["register", "initialize", "get_description", "check_dependencies", "missing_dependencies",
    "get_metadata", "enable", "disable", "validate_configuration"]

end Plugin

namespace Processor

/-- The attributes of a processor that are not functions. -/
def fields (p : Processor Value) : List (String × Value) :=
  [("name", p.name), ("display_name", p.displayName), ("supports", .list p.supports),
    ("priority", p.priority)]

end Processor

namespace Value

/-- The methods that every value has, and its class. -/
def commonMethods : List String :=
  ["__class__", "__delattr__", "__dir__", "__eq__", "__format__", "__ge__", "__getattribute__",
    "__getstate__", "__gt__", "__hash__", "__init__", "__init_subclass__", "__le__", "__lt__", "__ne__",
    "__new__", "__reduce__", "__reduce_ex__", "__repr__", "__setattr__", "__sizeof__", "__str__",
    "__subclasshook__"]

/-- The methods that texts and byte strings share. -/
def stringMethods : List String :=
  ["capitalize", "center", "count", "endswith", "expandtabs", "find", "index", "isalnum", "isalpha",
    "isascii", "isdigit", "islower", "isspace", "istitle", "isupper", "join", "ljust", "lower", "lstrip",
    "maketrans", "partition", "removeprefix", "removesuffix", "replace", "rfind", "rindex", "rjust",
    "rpartition", "rsplit", "rstrip", "split", "splitlines", "startswith", "strip", "swapcase", "title",
    "translate", "upper", "zfill", "__getnewargs__", "__mod__", "__rmod__"]

/-- The operators of sequences. -/
def sequenceMethods : List String :=
  ["__add__", "__contains__", "__getitem__", "__iter__", "__len__", "__mul__", "__rmul__"]

/-- The methods that integers and doubles share. -/
def numberMethods : List String :=
  ["as_integer_ratio", "conjugate", "is_integer", "__abs__", "__add__", "__bool__", "__ceil__",
    "__divmod__", "__float__", "__floor__", "__floordiv__", "__getnewargs__", "__int__", "__mod__",
    "__mul__", "__neg__", "__pos__", "__pow__", "__radd__", "__rdivmod__", "__rfloordiv__", "__rmod__",
    "__rmul__", "__round__", "__rpow__", "__rsub__", "__rtruediv__", "__sub__", "__truediv__",
    "__trunc__"]

/-- The methods that the values of one type have besides the common ones. -/
def ownMethods : Value → List String
  | .str _ =>
    ["casefold", "encode", "format", "format_map", "isdecimal", "isidentifier", "isnumeric",
      "isprintable"] ++ stringMethods ++ sequenceMethods
  | .bytes _ =>
    ["decode", "fromhex", "hex", "__buffer__", "__bytes__"] ++ stringMethods ++ sequenceMethods
  | .list _ =>
    ["append", "clear", "copy", "count", "extend", "index", "insert", "pop", "remove", "reverse", "sort",
      "__class_getitem__", "__delitem__", "__iadd__", "__imul__", "__reversed__", "__setitem__"] ++
      sequenceMethods
  | .map _ =>
    ["clear", "copy", "fromkeys", "get", "items", "keys", "pop", "popitem", "setdefault", "update",
      "values", "__class_getitem__", "__contains__", "__delitem__", "__getitem__", "__ior__", "__iter__",
      "__len__", "__or__", "__reversed__", "__ror__", "__setitem__"]
  | .bool _ | .int _ =>
    ["bit_count", "bit_length", "from_bytes", "to_bytes", "__and__", "__index__", "__invert__",
      "__lshift__", "__or__", "__rand__", "__rlshift__", "__ror__", "__rrshift__", "__rshift__",
      "__rxor__", "__xor__"] ++ numberMethods
  | .float _ => ["fromhex", "hex", "__getformat__"] ++ numberMethods
  | .plugin _ => Plugin.methods
  | .processor _ => ["transform"]
  | .matcher _ => ["matches"]
  | _ => []

/-- The attributes of a value that are not functions; what cannot be a key has no function for its hash. -/
def dataAttributes (v : Value) : List (String × Value) :=
  let known : List (String × Value) :=
    match v with
    | .record _ fields => fields
    | .message m => m.fields
    | .result r => [("value", r.value), ("messages", .list (r.messages.map .message))]
    | .plugin p => p.fields
    | .processor p => p.fields
    | .bool b =>
      let n : Value := .int (if b then 1 else 0)
      [("real", n), ("imag", .int 0), ("numerator", n), ("denominator", .int 1)]
    | .int n => [("real", .int n), ("imag", .int 0), ("numerator", .int n), ("denominator", .int 1)]
    | .float x => [("real", .float x), ("imag", .float 0.0)]
    | .date d => [("year", .int d.year), ("month", .int d.month), ("day", .int d.day)]
    | .moment m =>
      [("year", .int m.date.year), ("month", .int m.date.month), ("day", .int m.date.day),
        ("hour", .int m.hour), ("minute", .int m.minute), ("second", .int m.second),
        ("microsecond", .int m.micro)]
    | _ => []
  if v.isKey then known else known ++ [("__hash__", .null)]

/-- The attribute of a value that is not a mapping.  What the interpreter keeps about objects for itself (their
documentation, their module, and the table of their attributes) is left out. -/
def attribute? (v : Value) (name : String) : Option Value :=
  match v.dataAttributes.lookup name with
  | some found => some found
  | none =>
    if v.ownMethods.contains name || commonMethods.contains name then some (.callable .method) else none

def attributeOf (v : Value) (name : String) : Outcome Value :=
  match v.attribute? name with
  | some found => .ok found
  | none => Outcome.noAttribute

/-- An attribute, null when it is missing. -/
def attributeOrNull (v : Value) (name : String) : Value := (v.attribute? name).getD .null

/-- The attribute `priority`, zero when it is missing or empty. -/
def priority (v : Value) : Value := (v.attributeOrNull "priority").orElse (.int 0)

/-- The field of an element; nothing when it has none. -/
def field? (element : Value) (name : String) : Option Value :=
  match element with
  | .null => none
  | .map entries => Mapping.get? name entries
  | v => v.attribute? name

/-- The field of an element, null when it has none. -/
def field (element : Value) (name : String) : Value :=
  (element.field? name).getD .null

/-- The field of an element under a name that may be any value, with a default. -/
def fieldOr (element name default : Value) : Outcome Value :=
  match element with
  | .null => .ok default
  | .map entries =>
    if name.isKey then .ok ((Mapping.find? name entries).getD default) else Outcome.wrongType
  | v =>
    match name with
    | .str s => .ok ((v.attribute? s).getD default)
    | _ => Outcome.wrongType

/-- The field of an element under a name that may be any value, null when it has none. -/
def fieldAt (element name : Value) : Outcome Value := element.fieldOr name .null

/-- The entry of a mapping under a text key, null when it has none; other values have no entries. -/
def option (options : Value) (name : String) : Outcome Value :=
  match options with
  | .map entries => .ok ((Mapping.get? name entries).getD .null)
  | _ => Outcome.noAttribute

/-- The entry of a mapping, with a default. -/
def optionOr (options : Value) (name : String) (default : Value) : Outcome Value :=
  match options with
  | .map entries => .ok ((Mapping.get? name entries).getD default)
  | _ => Outcome.noAttribute

/-- The entry of a mapping by subscription: it has to be there. -/
def entry (v key : Value) : Outcome Value :=
  match v with
  | .map entries =>
    if !key.isKey then Outcome.wrongType
    else
      match Mapping.find? key entries with
      | some found => .ok found
      | none => .error (.missingKey key.quoted)
  | _ => Outcome.wrongType

/-- Iterate over a sequence. -/
def iterate : Value → Outcome (List Value)
  | .list items => .ok items
  | .map entries => .ok (entries.map (·.1))
  | .str s => .ok (s.toList.map fun c => .str (String.ofList [c]))
  | .bytes b => .ok (b.map fun byte => .int byte.toNat)
  | _ => Outcome.wrongType

def length : Value → Outcome Nat
  | .list items => .ok items.length
  | .map entries => .ok entries.length
  | .str s => .ok s.length
  | .bytes b => .ok b.length
  | _ => Outcome.wrongType

/-- The container has the value: as an item, a key or a part of a text. -/
def contains (container x : Value) : Outcome Bool :=
  match container with
  | .list items => .ok (items.any (·.eq x))
  | .map entries => if x.isKey then .ok (Mapping.has x entries) else Outcome.wrongType
  | .str s =>
    match x with
    | .str needle => .ok (Text.occursIn needle s)
    | _ => Outcome.wrongType
  | .bytes b =>
    match x with
    | .int n =>
      if 0 ≤ n ∧ n < 256 then .ok (b.any fun byte => (byte.toNat : Int) = n)
      else .error (.misuse .value)
    | _ => Outcome.wrongType
  | _ => Outcome.wrongType

/-- The entries of a mapping; other values have none to iterate over. -/
def items : Value → Outcome (List (Value × Value))
  | .map entries => .ok entries
  | _ => Outcome.noAttribute

def isMapping : Value → Bool
  | .map _ => true
  | _ => false

/-- The value can be called. -/
def isCallable : Value → Bool
  | .callable _ | .matcher _ => true
  | _ => false

/-- The function under an attribute; what has none is refused for the given reason. -/
def functionAt (subject : Value) (name : String) (reason : Failure) : Outcome Value :=
  match subject.attribute? name with
  | some function => if function.isCallable then .ok function else .error reason
  | none => .error reason

/-- Look up a key in a table; what cannot be a key cannot be looked up. -/
def lookIn {α : Type} (key : Value) (table : List (Value × α)) : Outcome (Option α) :=
  if key.isKey then .ok (Mapping.find? key table) else Outcome.wrongType

/-- The text that a value is; other values are refused. -/
def onlyText : Value → Outcome String
  | .str s => .ok s
  | _ => Outcome.wrongType

/-- Join texts with a separator; every item has to be a text. -/
def joinTexts (separator : String) (items : List Value) : Outcome String := do
  return Text.join separator (← items.mapM onlyText)

/-- Copy pairs into a mapping, one after the other. -/
def copyPairs (entries : List (Value × Value)) : List Value → Outcome (List (Value × Value))
  | [] => .ok entries
  | item :: rest =>
    match item.iterate with
    | .ok [key, value] =>
      if key.isKey then copyPairs (Mapping.insert key value entries) rest else Outcome.wrongType
    | .ok _ => .error (.misuse .value)
    | .error reason => .error reason

/-- Copy a mapping, or a sequence of pairs; other values cannot be copied into a mapping. -/
def toEntries : Value → Outcome (List (Value × Value))
  | .map entries => .ok entries
  | v => do copyPairs [] (← v.iterate)

end Value

end StyleRules
