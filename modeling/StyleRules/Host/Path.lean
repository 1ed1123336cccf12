import StyleRules.Text.Search

/-!
# Paths

A path is a sequence of steps from the root or from the working directory.  In its tidy form it has no empty
steps and no steps that stay where they are.
-/

namespace StyleRules

/-- A path in tidy form. -/
structure Path where
  fromRoot : Bool
  steps : List String
  deriving Repr, DecidableEq

namespace Path

/-- The step leads nowhere. -/
def isIdle (step : String) : Bool := step.isEmpty || step = "."

/-- Read a path. -/
def ofString (s : String) : Path :=
  ⟨Text.startsWith s "/", (Text.parts '/' s).filter (!isIdle ·)⟩

/-- The path of a file below a directory; a path from the root stays as it is. -/
def below (base path : Path) : Path :=
  if path.fromRoot then path else ⟨base.fromRoot, base.steps ++ path.steps⟩

def text (path : Path) : String :=
  let steps := Text.join "/" path.steps
  if path.fromRoot then "/" ++ steps else if path.steps.isEmpty then "." else steps

/-- Take one step in a tidy list of directories. -/
def step (place : List String) (name : String) : List String :=
  if name = ".." then place.dropLast else place ++ [name]

/-- The place that a path names when every directory exists, as steps from the root. -/
def resolve (directory : List String) (path : Path) : List String :=
  path.steps.foldl step (if path.fromRoot then [] else directory)

/-- The characters behind the last full stop; the stop has to be neither first nor last. -/
def extensionOf (chars : List Char) : List Char :=
  let reversed := chars.reverse
  let ending := reversed.takeWhile (· ≠ '.')
  let stem := (reversed.dropWhile (· ≠ '.')).drop 1
  if ending.isEmpty || stem.isEmpty then [] else ending.reverse

/-- The extension of the last step, without its full stop. -/
def extension (path : Path) : String :=
  match path.steps.getLast? with
  | some name => String.ofList (extensionOf name.toList)
  | none => ""

end Path

end StyleRules
