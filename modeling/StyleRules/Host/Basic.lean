import StyleRules.Host.Path
import StyleRules.Value.Text

/-!
# Surroundings

A host is what the library sees of its surroundings: the working directory, the text files, the environment
variables, the modules that references name, and the library that runs stylesheets.
-/

namespace StyleRules

/-- What a stylesheet does once it is compiled: it reads a document, and gives the output for the values of its
parameters. -/
abbrev CompiledSheet := String → Outcome ((String → Option String) → Outcome String)

/-- The surroundings of a run. -/
structure Host where
  /-- The working directory, as steps from the root. -/
  directory : List String
  /-- The files: their steps from the root, and their texts. -/
  files : List (List String × String)
  environment : List (String × String)
  /-- What a module offers under a name.  Importing the module may fail, and may end the process. -/
  object : (moduleName member : String) → Outcome Value
  /-- What an object gives when it is called without arguments, as the classes of plugins are. -/
  instantiate : Value → Outcome Value
  /-- Compile the text of a stylesheet. -/
  compile : String → Outcome CompiledSheet

/-- Why a path leads nowhere. -/
inductive Obstacle where
  | missing
  | blocked
  | tooLong
  /-- The path holds a character that no path can hold. -/
  | invalid
  deriving Repr, DecidableEq

/-- Where a path leads. -/
inductive Place where
  | directory
  | file (text : String)
  deriving Repr, DecidableEq

/-- Line ends of any system become line feeds. -/
def Text.unifyLineEnds : List Char → List Char
  | '\r' :: '\n' :: rest => '\n' :: unifyLineEnds rest
  | '\r' :: rest => '\n' :: unifyLineEnds rest
  | c :: rest => c :: unifyLineEnds rest
  | [] => []

namespace Host

/-- Surroundings without files and variables, where no module is found and no stylesheet can be compiled. -/
def bare : Host where
  directory := []
  files := []
  environment := []
  object moduleName _ := .error (.noSuchModule (Text.quoted moduleName))
  instantiate _ := Outcome.wrongType
  compile _ := .error .malformedXml

/-- The object that a reference of the form `module:attribute` names. -/
def importObject (host : Host) (reference : String) : Outcome Value :=
  match Text.cut? [':'] reference.toList with
  | some (before, after) =>
    if before.isEmpty || after.isEmpty then .error (.malformedReference reference)
    else host.object (String.ofList before) (String.ofList after)
  | none => .error (.malformedReference reference)

def isDirectory (host : Host) (place : List String) : Bool :=
  place.isPrefixOf host.directory ||
    host.files.any fun file => place.isPrefixOf file.1.dropLast

/-- The text of the file at a place. -/
def textAt? (host : Host) (place : List String) : Option String :=
  (host.files.lookup place).map fun text => String.ofList (Text.unifyLineEnds text.toList)

/-- Walk along the steps of a path from a directory. -/
def walk (host : Host) (place : List String) : List String → Except Obstacle Place
  | [] => .ok .directory
  | step :: rest =>
    if Path.isIdle step then walk host place rest
    else if step.utf8ByteSize > 255 then .error .tooLong
    else
      let next := Path.step place step
      if host.isDirectory next then walk host next rest
      else
        match host.textAt? next with
        | none => .error .missing
        | some text => if rest.isEmpty then .ok (.file text) else .error .blocked

/-- Find out where a path leads.  The empty path leads nowhere. -/
def find (host : Host) (path : String) : Except Obstacle Place :=
  if path.toList.contains '\x00' then .error .invalid
  else if path.isEmpty then .error .missing
  else if path.utf8ByteSize ≥ 4096 then .error .tooLong
  else host.walk (if Text.startsWith path "/" then [] else host.directory) (Text.parts '/' path)

/-- Read the file at a path. -/
def read (host : Host) (path : String) : Outcome String :=
  match host.find path with
  | .ok (.file text) => .ok text
  | .ok .directory => .error (.isDirectory (Text.quoted path))
  | .error .missing => .error (.noSuchFile (Text.quoted path))
  | .error .blocked => .error (.notDirectory (Text.quoted path))
  | .error .tooLong => .error (.pathTooLong (Text.quoted path))
  | .error .invalid => .error (.misuse .value)

/-- The text of the file at a path in tidy form, if there is one. -/
def file? (host : Host) (path : Path) : Outcome (Option String) :=
  match host.find path.text with
  | .ok (.file text) => .ok (some text)
  | .error .tooLong => .error (.pathTooLong (Text.quoted path.text))
  | _ => .ok none

def valueOf? (host : Host) (name : String) : Option String := host.environment.lookup name

def setVariable (name value : String) (host : Host) : Host :=
  { host with environment := (name, value) :: host.environment.filter fun entry => entry.1 ≠ name }

def unsetVariable (name : String) (host : Host) : Host :=
  { host with environment := host.environment.filter fun entry => entry.1 ≠ name }

end Host

end StyleRules
