/-!
# Sets of characters as ranges of code points

Character classes are written as texts of hexadecimal ranges separated by blanks and line ends, such as
`aa b5 c0-d6`, and read into lists.  A case run adds a step and a shift to a range.
-/

namespace StyleRules.Text

/-- The code points from `lo` to `hi`, both included. -/
structure Range where
  lo : Nat
  hi : Nat
  deriving Repr, DecidableEq

/-- Every `step`-th code point from `lo` to `hi`, moved by `shift`. -/
structure CaseRun where
  lo : Nat
  hi : Nat
  step : Nat
  shift : Int
  deriving Repr, DecidableEq

/-- The value of a hexadecimal digit; other characters count as zero. -/
def hexDigit (c : Char) : Nat :=
  if '0' ≤ c ∧ c ≤ '9' then c.toNat - '0'.toNat
  else if 'a' ≤ c ∧ c ≤ 'f' then c.toNat - 'a'.toNat + 10
  else if 'A' ≤ c ∧ c ≤ 'F' then c.toNat - 'A'.toNat + 10
  else 0

/-- Read a hexadecimal number. -/
def readHex (digits : List Char) : Nat :=
  digits.foldl (fun total c => 16 * total + hexDigit c) 0

def readDecimal (digits : List Char) : Nat :=
  digits.foldl (fun total c => 10 * total + (c.toNat - '0'.toNat)) 0

/-- Cut a list of characters at every occurrence of one character. -/
def splitOn (mark : Char) : List Char → List (List Char)
  | [] => [[]]
  | c :: rest =>
    match splitOn mark rest with
    | [] => [[c]]
    | part :: parts => if c = mark then [] :: part :: parts else (c :: part) :: parts

/-- The entries of a table, which stand between blanks and line ends. -/
def tableEntries (table : String) : List (List Char) :=
  ((splitOn '\n' table.toList).flatMap (splitOn ' ')).filter (!·.isEmpty)

/-- Read one range: `lo-hi`, or a single code point. -/
def Range.read (chars : List Char) : Range :=
  match splitOn '-' chars with
  | [lo, hi] => ⟨readHex lo, readHex hi⟩
  | _ => ⟨readHex chars, readHex chars⟩

/-- Read a table of ranges. -/
def Range.readAll (table : String) : List Range :=
  (tableEntries table).map Range.read

/-- A code point lies in one of the ranges. -/
def inRanges (ranges : List Range) (c : Char) : Bool :=
  ranges.any fun range => range.lo ≤ c.toNat && c.toNat ≤ range.hi

/-- Read one case run, `lo-hi/step+shift` or `lo-hi/step-shift`. -/
def CaseRun.read (chars : List Char) : CaseRun :=
  match splitOn '/' chars with
  | [range, move] =>
    let bounds := Range.read range
    match splitOn '+' move, splitOn '-' move with
    | [step, shift], _ => ⟨bounds.lo, bounds.hi, readDecimal step, readDecimal shift⟩
    | _, [step, shift] => ⟨bounds.lo, bounds.hi, readDecimal step, -(readDecimal shift : Int)⟩
    | _, _ => ⟨bounds.lo, bounds.hi, 1, 0⟩
  | _ => ⟨0, 0, 1, 0⟩

/-- Read a table of case runs. -/
def CaseRun.readAll (table : String) : List CaseRun :=
  (tableEntries table).map CaseRun.read

/-- Read a table of expansions `code=code+code`. -/
def CaseRun.readExpansions (table : String) : List (Nat × List Nat) :=
  (tableEntries table).filterMap fun entry =>
    match splitOn '=' entry with
    | [source, images] => some (readHex source, (splitOn '+' images).map readHex)
    | _ => none

/-- The shifted code point, when the run moves this one. -/
def CaseRun.image? (run : CaseRun) (code : Nat) : Option Nat :=
  if run.lo ≤ code ∧ code ≤ run.hi ∧ (code - run.lo) % run.step = 0 then
    some ((code : Int) + run.shift).toNat
  else none

/-- The code point that the run moves to this one, if there is one. -/
def CaseRun.source? (run : CaseRun) (code : Nat) : Option Nat :=
  let source := (code : Int) - run.shift
  if run.lo ≤ source ∧ source ≤ run.hi ∧ (source - run.lo) % run.step = 0 then some source.toNat
  else none

end StyleRules.Text
