/-!
# Searching texts

Substring search on lists of characters: where a text first occurs in another, and what surrounds it.
-/

namespace StyleRules.Text

/-- The rest of a text after `start`, when it begins with it. -/
def dropStart? : List Char → List Char → Option (List Char)
  | [], chars => some chars
  | _ :: _, [] => none
  | a :: start, c :: chars => if a = c then dropStart? start chars else none

/-- The text before and after the first occurrence of `needle`. -/
def cut? (needle : List Char) : List Char → Option (List Char × List Char)
  | [] => if needle.isEmpty then some ([], []) else none
  | c :: chars =>
    match dropStart? needle (c :: chars) with
    | some rest => some ([], rest)
    | none => (cut? needle chars).map fun (before, after) => (c :: before, after)

/-- The position of the first occurrence of `needle`. -/
def find? (needle text : String) : Option Nat :=
  (cut? needle.toList text.toList).map (·.1.length)

/-- The text `needle` occurs in `text`. -/
def occursIn (needle text : String) : Bool :=
  (cut? needle.toList text.toList).isSome

/-- The text begins with `start`. -/
def startsWith (text start : String) : Bool :=
  (dropStart? start.toList text.toList).isSome

/-- The text ends with `finish`. -/
def endsWith (text finish : String) : Bool :=
  (dropStart? finish.toList.reverse text.toList.reverse).isSome

/-- Put a separator between texts. -/
def join (separator : String) : List String → String
  | [] => ""
  | [s] => s
  | s :: t :: rest => s ++ separator ++ join separator (t :: rest)

/-- The parts of a text between the occurrences of one character. -/
def parts (mark : Char) (s : String) : List String :=
  go [] s.toList
where
  /-- Collect the parts; `part` holds the current one, last character first. -/
  go (part : List Char) : List Char → List String
    | [] => [String.ofList part.reverse]
    | c :: rest =>
      if c = mark then String.ofList part.reverse :: go [] rest else go (c :: part) rest

def replaceChar (old new : Char) (s : String) : String :=
  String.ofList (s.toList.map fun c => if c = old then new else c)

/-- The code points of a text order it: compare the first difference, a proper beginning is less. -/
def less (s t : String) : Bool :=
  go s.toList t.toList
where
  /-- Compare character by character. -/
  go : List Char → List Char → Bool
    | _, [] => false
    | [], _ :: _ => true
    | a :: as, b :: bs => if a.toNat < b.toNat then true else if a = b then go as bs else false

end StyleRules.Text
