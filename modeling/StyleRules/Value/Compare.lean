import StyleRules.Decimal.Binary
import StyleRules.Value.Basic

/-!
# Equality and order of values

Numbers are equal when they have the same value, whether they are truth values, integers or doubles.
Mappings are equal when they have the same entries in any order.  Attribute objects are only equal to
themselves.  Texts, numbers, lists, byte strings and dates are ordered among themselves.  Sorting is stable and fails
when two of the keys cannot be compared.
-/

namespace StyleRules

/-- The exact value of a number. -/
inductive Number where
  | int (n : Int)
  | float (x : Float)

namespace Number

/-- How two numbers compare; NaN compares with nothing. -/
def compare? : Number → Number → Option Ordering
  | .int a, .int b => some (compare a b)
  | .int a, .float y => Decimal.compareInt? a y
  | .float x, .int b => (Decimal.compareInt? b x).map Ordering.swap
  | .float x, .float y =>
    if x < y then some .lt else if x == y then some .eq else if y < x then some .gt else none

end Number

namespace Value

/-- The value as a number; truth values count as 0 and 1. -/
def number? : Value → Option Number
  | .bool b => some (.int (if b then 1 else 0))
  | .int n => some (.int n)
  | .float x => some (.float x)
  | _ => none

mutual

/-- The values are equal. -/
def eq : Value → Value → Bool
  | .null, .null => true
  | .str s, .str t => s = t
  | .bytes b, .bytes c => b = c
  | .date d, .date e => d = e
  | .moment m, .moment n => m.offset.isSome = n.offset.isSome && m.instant = n.instant
  | .list xs, .list ys => eqItems xs ys
  | .map xs, .map ys => xs.length = ys.length && eqEntries xs ys
  | .record tag _, .record tag' _ => tag = tag'
  | a, b =>
    match a.number?, b.number? with
    | some x, some y => x.compare? y = some .eq
    | _, _ => false

def eqItems : List Value → List Value → Bool
  | [], [] => true
  | x :: xs, y :: ys => eq x y && eqItems xs ys
  | _, _ => false

/-- Every entry of the first list has an equal entry in the second. -/
def eqEntries : List (Value × Value) → List (Value × Value) → Bool
  | [], _ => true
  | (k, v) :: rest, ys => ys.any (fun entry => eq k entry.1 && eq v entry.2) && eqEntries rest ys

end

/-- The value can be a key of a mapping. -/
def isKey : Value → Bool
  | .list _ | .map _ | .message _ | .result _ => false
  | _ => true

/-- The value is the given text. -/
def isText (v : Value) (s : String) : Bool :=
  match v with
  | .str t => t = s
  | _ => false

mutual

/-- The first value is less than the second. -/
def less : Value → Value → Outcome Bool
  | .str s, .str t => .ok (Text.less s t)
  | .bytes b, .bytes c => .ok (decide (b.map (·.toNat) < c.map (·.toNat)))
  | .date d, .date e => .ok (d.number < e.number)
  | .moment m, .moment n =>
    if m.offset.isSome = n.offset.isSome then .ok (m.instant < n.instant) else Outcome.wrongType
  | .list xs, .list ys => lessItems xs ys
  | a, b =>
    match a.number?, b.number? with
    | some x, some y => .ok (x.compare? y = some .lt)
    | _, _ => Outcome.wrongType

/-- Compare the first items that differ; a proper beginning is less. -/
def lessItems : List Value → List Value → Outcome Bool
  | _, [] => .ok false
  | [], _ :: _ => .ok true
  | x :: xs, y :: ys => if eq x y then lessItems xs ys else less x y

end

/-- The values can be compared. -/
def comparable (a b : Value) : Bool :=
  match less a b with
  | .ok _ => true
  | .error _ => false

/-! ## Sorting -/

variable {α : Type}

/-- The first key is less than the second, where both can be compared. -/
def isLess (a b : Value) : Bool :=
  match less a b with
  | .ok answer => answer
  | .error _ => false

/-- All pairs of the keys can be compared. -/
def allComparable : List Value → Bool
  | [] => true
  | key :: rest => rest.all (fun other => comparable key other) && allComparable rest

/-- Put an item behind the items whose keys are not greater than its own. -/
def insertAscending (key : α → Value) (item : α) : List α → List α
  | [] => [item]
  | x :: rest =>
    if isLess (key item) (key x) then item :: x :: rest
    else x :: insertAscending key item rest

/-- Put an item behind the items whose keys are not less than its own. -/
def insertDescending (key : α → Value) (item : α) : List α → List α
  | [] => [item]
  | x :: rest =>
    if isLess (key x) (key item) then item :: x :: rest
    else x :: insertDescending key item rest

/-- Sort by ascending keys; items with equal keys keep their order. -/
def sortAscending (key : α → Value) (items : List α) : Outcome (List α) :=
  if allComparable (items.map key) then
    .ok (items.foldl (fun sorted item => insertAscending key item sorted) [])
  else Outcome.wrongType

/-- Sort by descending keys; items with equal keys keep their order. -/
def sortDescending (key : α → Value) (items : List α) : Outcome (List α) :=
  if allComparable (items.map key) then
    .ok (items.foldl (fun sorted item => insertDescending key item sorted) [])
  else Outcome.wrongType

end Value

end StyleRules
