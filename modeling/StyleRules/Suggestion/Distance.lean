/-!
# Edit distance

The distance of two texts is the number of insertions, deletions and substitutions of single characters
that turn one into the other.  It is computed row by row: a row holds, for every beginning of the first text,
its distance to the beginning of the second text read so far.
-/

namespace StyleRules.Text

/-- Continue a row behind the entry `left`; `corner` is the entry above `left`. -/
def continueRow (c : Char) : List Char → Nat → Nat → List Nat → List Nat
  | a :: chars, corner, left, above :: row =>
    let here := if a = c then corner else 1 + min corner (min left above)
    here :: continueRow c chars above here row
  | _, _, _, _ => []

/-- The row after one more character of the second text. -/
def nextRow (chars : List Char) (c : Char) : List Nat → List Nat
  | [] => []
  | first :: row => (first + 1) :: continueRow c chars first (first + 1) row

/-- The row before any character of the second text. -/
def firstRow (chars : List Char) : List Nat := List.range (chars.length + 1)

/-- The row after the whole second text. -/
def lastRow (chars others : List Char) : List Nat :=
  others.foldl (fun row c => nextRow chars c row) (firstRow chars)

/-- The least number of single-character edits that turn one text into the other. -/
def distance (s t : String) : Nat :=
  (lastRow s.toList t.toList).getLastD 0

/-- Two texts, the longer one first; of two equally long ones the second comes first. -/
def longerFirst (s t : String) : String × String :=
  if t.length < s.length then (s, t) else (t, s)

/-- The share of the longer text that the distance leaves; 1 for two empty texts. -/
def similarity (s t : String) : Float :=
  let (longer, shorter) := longerFirst s t
  if longer.length = 0 then 1.0
  else (longer.length - distance longer shorter : Nat).toFloat / longer.length.toFloat

/-- The similarity of the texts is more than one half: the distance is less than half of the longer length. -/
def isSimilar (s t : String) : Bool :=
  let (longer, shorter) := longerFirst s t
  longer.length = 0 || 2 * distance longer shorter < longer.length

end StyleRules.Text
