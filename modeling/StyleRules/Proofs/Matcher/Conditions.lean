import StyleRules.Proofs.Matcher.Fitting

/-!
# Conditions of style templates

The conditions of a style template are asked one after the other, until one does not hold or fails.  The verdict is
that of an unordered conjunction: it depends only on which conditions there are, and further conditions can only turn
a match into a non-match.
-/

namespace StyleRules

namespace Outcome

/-- The first outcome that is not true, and true if there is none. -/
def conjunction : List (Outcome Bool) → Outcome Bool
  | [] => .ok true
  | .ok true :: rest => conjunction rest
  | other :: _ => other

/-- The outcome is true; a failure is not. -/
def isTrue : Outcome Bool → Bool
  | .ok answer => answer
  | .error _ => false

end Outcome

namespace Condition

/-- What a condition says of an element, with functions that answer in any way. -/
def outcome (answers : Answers) (element options : Value) : Condition Value → Outcome Bool
  | .property name expected => do return (← element.fieldAt name).eq expected
  | .attribute name expected => do
      let attributes := element.field "attributes"
      if attributes.truthy then return (← attributes.fieldAt name).eq expected else return false
  | .custom evaluator =>
      if evaluator.isCallable then do return (← answers evaluator [element, options]).truthy else .ok false
  | .unconstrained => .ok true
  | .malformed reason => .error reason

end Condition

namespace StyleTemplate

variable {answers : Answers} {template : StyleTemplate Value} {others : List (Condition Value)} {element options : Value}

/-- Whether an element satisfies the template, with functions that answer in any way. -/
def verdict (answers : Answers) (template : StyleTemplate Value) (element options : Value) : Bool :=
  element.fieldAgrees "type" template.elementType && element.fieldAgrees "styleId" template.styleId &&
    element.fieldAgrees "styleName" template.styleName &&
    (Outcome.conjunction (template.conditions.map (Condition.outcome answers element options))).isTrue

end StyleTemplate

end StyleRules
