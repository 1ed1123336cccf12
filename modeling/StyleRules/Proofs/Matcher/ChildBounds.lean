import StyleRules.Proofs.Matcher.Shapes
import StyleRules.Proofs.Registry.ShippedTypes
import StyleRules.Proofs.Value.Ranking

/-!
# Bounds for the number of children

A container can be asked to have at least and at most so many children.  The bounds are kept unless one of them is not
looked at: an upper bound of zero counts as none, and without a field for children nothing is counted.
-/

namespace StyleRules

namespace Value

/-- A bound is a number, and null when there is none. -/
def ofBound : Option Nat → Value
  | none => .null
  | some n => .int n

theorem ofBound_truthy {bound : Option Nat} : (ofBound bound).truthy = true ↔ ∃ n ∈ bound, 0 < n := by
  cases bound with
  | none => simp [ofBound, truthy]
  | some n => simp [ofBound, truthy, Nat.pos_iff_ne_zero]

theorem int_less_int (m n : Nat) : (Value.int m).less (.int n) = .ok (decide (m < n)) := by
  rw [less_of_isInteger ⟨m, rfl⟩ ⟨n, rfl⟩]
  simp [integer, number?]

theorem length_children {element : Value} {items : List Value} {count : Nat}
    (areChildren : element.children = .ok items) (counted : (element.field "children").length = .ok count) :
    count = items.length := by
  rw [children, childrenOf] at areChildren
  split at areChildren
  · cases found : element.field "children" <;> rw [found] at areChildren counted <;> cases areChildren <;>
      cases counted <;> simp [String.length_toList]
  · rename_i empty
    cases found : element.field "children" <;> rw [found] at empty counted <;> cases areChildren <;>
      cases counted <;> simpa [truthy] using empty

end Value

namespace Matcher

open Outcome

variable {element options children : Value} {least most : Option Nat} {m : Matcher Value}
  {bounds : List (Value × Value)} {items : List Value}

theorem boundHolds_eq_true {bound : Value} {broken : Value → Outcome Bool} :
    boundHolds bound children broken = .ok true ↔
      (bound.truthy = true → ∃ count, children.length = .ok count ∧ broken (.int count) = .ok false) := by
  rw [boundHolds]
  split
  · rename_i isBound
    rw [forall_prop_of_true isBound]
    cases children.length with
    | error reason =>
        constructor
        · rintro ⟨⟩
        · rintro ⟨_, ⟨⟩, _⟩
    | ok count =>
        rw [ok_bind]
        cases verdict : broken (.int count) with
        | error reason =>
            constructor
            · rintro ⟨⟩
            · rintro ⟨_, ⟨⟩, holds⟩
              cases verdict.symm.trans holds
        | ok isBroken => cases isBroken <;> simp [verdict]
  · rename_i noBound
    exact iff_of_true rfl fun isBound => absurd isBound noBound

/-- The number lies between the bounds that there are. -/
def Within (least most : Option Nat) (count : Nat) : Prop := (∀ n ∈ least, n ≤ count) ∧ ∀ n ∈ most, count ≤ n

theorem atLeast_eq_true (areChildren : element.children = .ok items)
    (holds : atLeast (.ofBound least) (element.field "children") = .ok true) : ∀ n ∈ least, n ≤ items.length := by
  rintro n ⟨⟩
  by_cases positive : 0 < n
  · obtain ⟨count, counted, notLess⟩ := boundHolds_eq_true.mp holds (Value.ofBound_truthy.mpr ⟨n, rfl, positive⟩)
    rw [Value.ofBound, Value.int_less_int] at notLess
    have enough : ¬count < n := by simpa using notLess
    rw [← Value.length_children areChildren counted]
    omega
  · omega

theorem atMost_eq_true (areChildren : element.children = .ok items)
    (holds : atMost (.ofBound most) (element.field "children") = .ok true) :
    ∀ n ∈ most, 0 < n → items.length ≤ n := by
  rintro n ⟨⟩ positive
  obtain ⟨count, counted, notLess⟩ := boundHolds_eq_true.mp holds (Value.ofBound_truthy.mpr ⟨n, rfl, positive⟩)
  rw [Value.ofBound, Value.int_less_int] at notLess
  have few : ¬n < count := by simpa using notLess
  rw [← Value.length_children areChildren counted]
  omega

/-- What is checked of the number of children when the field for them is not null. -/
theorem childCountAgrees_eq_true {bounds : Value} {entries : List (Value × Value)} (isMapping : bounds = .map entries)
    (present : (element.field "children").isNull = false) :
    childCountAgrees bounds element = .ok true ↔
      atLeast (bounds.field "minCount") (element.field "children") = .ok true ∧
        atMost (bounds.field "maxCount") (element.field "children") = .ok true := by
  by_cases given : bounds.truthy = true
  · rw [childCountAgrees_eq isMapping given present, check_holds_iff]
  · obtain rfl : entries = [] := by simpa [isMapping, Value.truthy] using given
    subst isMapping
    exact iff_of_true rfl ⟨rfl, rfl⟩

/-- A bound excludes the number of children, but it is not looked at. -/
def BoundOverlooked (least most : Option Nat) (element : Value) (items : List Value) : Prop :=
  ((element.field "children").isNull = true ∧ ∃ n ∈ least, 0 < n) ∨ (most = some 0 ∧ items ≠ [])

theorem within_of_not_overlooked (areChildren : element.children = .ok items)
    (agrees : childCountAgrees (.map bounds) element = .ok true)
    (hasLeast : (Value.map bounds).field "minCount" = .ofBound least)
    (hasMost : (Value.map bounds).field "maxCount" = .ofBound most)
    (asked : ¬BoundOverlooked least most element items) : Within least most items.length := by
  obtain ⟨lowerAsked, upperAsked⟩ := not_or.mp asked
  cases present : (element.field "children").isNull with
  | true =>
      obtain rfl : items = [] := Except.ok.inj (areChildren.symm.trans (Value.children_of_isNull present))
      refine ⟨fun n isLeast => ?_, fun n _ => Nat.zero_le n⟩
      exact Nat.le_of_not_lt fun positive => lowerAsked ⟨present, n, isLeast, positive⟩
  | false =>
      rw [childCountAgrees_eq_true rfl present, hasLeast, hasMost] at agrees
      refine ⟨atLeast_eq_true areChildren agrees.1, fun n isMost => ?_⟩
      cases n with
      | succ n => exact atMost_eq_true areChildren agrees.2 _ isMost n.succ_pos
      | zero =>
          have noItems : items = [] := Decidable.not_not.mp fun hasItems => upperAsked ⟨isMost, hasItems⟩
          simp [noItems]

theorem not_within_of_overlooked (areChildren : element.children = .ok items)
    (overlooked : BoundOverlooked least most element items) : ¬Within least most items.length := by
  rintro ⟨enough, few⟩
  rcases overlooked with ⟨isNull, n, isLeast, positive⟩ | ⟨rfl, hasItems⟩
  · obtain rfl : items = [] := Except.ok.inj (areChildren.symm.trans (Value.children_of_isNull isNull))
    exact absurd (enough n isLeast) (Nat.not_le_of_lt positive)
  · exact hasItems (List.length_eq_zero_iff.mp (Nat.le_zero.mp (few 0 rfl)))

/-- A container that is matched has a number of children between the bounds, exactly unless one of them is
overlooked. -/
theorem container_child_bounds_iff (built : build .container [options] = .ok m)
    (areBounds : (options.orElse (.map [])).field "children" = .map bounds)
    (hasLeast : (Value.map bounds).field "minCount" = .ofBound least)
    (hasMost : (Value.map bounds).field "maxCount" = .ofBound most)
    (matched : m.matches element = .ok (.bool true)) (areChildren : element.children = .ok items) :
    Within least most items.length ↔ ¬BoundOverlooked least most element items := by
  cases build_container options m built
  rw [areBounds, Matcher.matches, answer_holds_iff, containerAgrees_eq_true] at matched
  obtain ⟨_, _, _, _, agrees⟩ := matched
  exact ⟨fun within overlooked => not_within_of_overlooked areChildren overlooked within,
    within_of_not_overlooked areChildren agrees hasLeast hasMost⟩

/-- The options of a note with bounds for the number of children. -/
def noteOptions (bounds : List (String × Value)) : Value :=
  .ofFields [("className", .str "note"), ("children", .ofFields bounds)]

/-- A note with further fields. -/
def noteWith (fields : List (String × Value)) : Value :=
  .ofFields ([("type", .str "div"), ("className", .str "note")] ++ fields)

theorem container_child_bounds_note :
    let note := noteWith [("children", .list [.null])]
    ∃ m, build .container [noteOptions [("minCount", .int 1), ("maxCount", .int 2)]] = .ok m ∧
      m.matches note = .ok (.bool true) ∧ note.children = .ok [.null] ∧ Within (some 1) (some 2) 1 := by
  intro note
  have built : build .container [noteOptions [("minCount", .int 1), ("maxCount", .int 2)]] =
      .ok (.container .null (.str "note") (.map []) (.ofFields [("minCount", .int 1), ("maxCount", .int 2)])) := rfl
  have areChildren : note.children = .ok [.null] := rfl
  have notOverlooked : ¬BoundOverlooked (some 1) (some 2) note [.null] := by
    rintro (⟨isNull, _⟩ | ⟨isZero, _⟩)
    · cases isNull
    · cases isZero
  exact ⟨_, built, rfl, areChildren,
    (container_child_bounds_iff built rfl rfl rfl rfl areChildren).mpr notOverlooked⟩

/-- A note with a child is matched although no child is allowed, and one without the field for children although a
child is asked for. -/
theorem container_child_bounds_overlooked :
    let childless := noteWith []
    let note := noteWith [("children", .list [.ofFields []])]
    (∃ m, build .container [noteOptions [("maxCount", .int 0)]] = .ok m ∧ m.matches note = .ok (.bool true) ∧
      note.children = .ok [.ofFields []] ∧ ¬Within none (some 0) [Value.ofFields []].length) ∧
    ∃ m, build .container [noteOptions [("minCount", .int 1)]] = .ok m ∧ m.matches childless = .ok (.bool true) ∧
      childless.children = .ok [] ∧ ¬Within (some 1) none ([] : List Value).length := by
  refine ⟨⟨_, rfl, rfl, rfl, ?_⟩, _, rfl, rfl, rfl, ?_⟩
  · simp [Within]
  · simp [Within]

end Matcher

end StyleRules
