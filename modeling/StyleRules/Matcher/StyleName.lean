import StyleRules.Text.Case
import StyleRules.Text.Search

/-!
# Style name constraints

A style name is compared with an operand without regard to case, either as a whole or at its beginning.
-/

namespace StyleRules

/-- How a style name is compared. -/
inductive StyleOperator where
  | equalTo
  | startsWith
  deriving Repr, DecidableEq

structure StyleName where
  operand : String
  operator : StyleOperator
  deriving Repr, DecidableEq

namespace StyleOperator

/-- The name under which rules refer to the operator. -/
def name : StyleOperator → String
  | .equalTo => "equalTo"
  | .startsWith => "startsWith"

/-- Look up an operator by name. -/
def ofName? (name : String) : Option StyleOperator :=
  if name = "equalTo" then some .equalTo
  else if name = "startsWith" then some .startsWith
  else none

end StyleOperator

/-- A style name satisfies the constraint; the empty name never does. -/
def StyleName.accepts (constraint : StyleName) (name : String) : Bool :=
  if name.isEmpty then false
  else
    match constraint.operator with
    | .equalTo => Text.upper constraint.operand = Text.upper name
    | .startsWith => Text.startsWith (Text.upper name) (Text.upper constraint.operand)

end StyleRules
