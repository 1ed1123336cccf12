import StyleRules.Text.Search

/-!
# Dates and moments

A moment is a date with a time of day, down to microseconds, and optionally an offset from universal time
in seconds.
-/

namespace StyleRules

/-- A day of the calendar. -/
structure Date where
  year : Nat
  month : Nat
  day : Nat
  deriving Repr, DecidableEq

/-- A day and a time. -/
structure Moment where
  date : Date
  hour : Nat
  minute : Nat
  second : Nat
  micro : Nat
  offset : Option Int
  deriving Repr, DecidableEq

/-- The year has a twenty-ninth of February. -/
def isLeapYear (year : Nat) : Bool :=
  year % 4 = 0 && (year % 100 ≠ 0 || year % 400 = 0)

def daysInMonth (year month : Nat) : Nat :=
  match month with
  | 2 => if isLeapYear year then 29 else 28
  | 4 | 6 | 9 | 11 => 30
  | _ => 31

namespace Date

/-- The day exists in the calendar of the years 1 to 9999. -/
def isValid (d : Date) : Bool :=
  1 ≤ d.year && d.year ≤ 9999 && 1 ≤ d.month && d.month ≤ 12 && 1 ≤ d.day &&
    d.day ≤ daysInMonth d.year d.month

/-- Write a number with at least `width` digits. -/
def padded (width n : Nat) : String :=
  let digits := toString n
  String.ofList (List.replicate (width - digits.length) '0') ++ digits

/-- The day as `yyyy-mm-dd`. -/
def text (d : Date) : String :=
  padded 4 d.year ++ "-" ++ padded 2 d.month ++ "-" ++ padded 2 d.day

/-- The number of days since the first day of year 1. -/
def number (d : Date) : Nat :=
  let y := d.year - 1
  let before := (List.range (d.month - 1)).foldl (fun days m => days + daysInMonth d.year (m + 1)) 0
  365 * y + y / 4 - y / 100 + y / 400 + before + d.day

end Date

namespace Moment

/-- An offset as `+hh:mm`, with seconds only when they are not zero. -/
def offsetText (offset : Int) : String :=
  let size := offset.natAbs
  let seconds := size % 60
  (if offset < 0 then "-" else "+") ++ Date.padded 2 (size / 3600) ++ ":" ++
    Date.padded 2 (size / 60 % 60) ++ (if seconds = 0 then "" else ":" ++ Date.padded 2 seconds)

/-- The moment with the given mark between date and time. -/
def textWith (mark : String) (m : Moment) : String :=
  m.date.text ++ mark ++ Date.padded 2 m.hour ++ ":" ++ Date.padded 2 m.minute ++ ":" ++
    Date.padded 2 m.second ++ (if m.micro = 0 then "" else "." ++ Date.padded 6 m.micro) ++
    (m.offset.map offsetText).getD ""

/-- Microseconds since the beginning of year 1, in universal time when the offset is known. -/
def instant (m : Moment) : Int :=
  let seconds : Int :=
    (m.date.number : Int) * 86400 + m.hour * 3600 + m.minute * 60 + m.second - m.offset.getD 0
  seconds * 1000000 + m.micro

/-- The moment is valid when its date and time of day are. -/
def isValid (m : Moment) : Bool :=
  m.date.isValid && m.hour < 24 && m.minute < 60 && m.second < 60 && m.micro < 1000000

end Moment

end StyleRules
