import StyleRules.Proofs.Matcher.Fitting

/-!
# The shape that strict templates fix

A strict matcher asks at each template node with child templates for one child per template, and each child has to
match its template.  It does not ask this of elements without a field for children.  So an element that is matched
has the whole shape of the template exactly if no such element stands where there are child templates.
-/

namespace StyleRules

theorem Value.children_of_isNull {element : Value} (isNull : (element.field "children").isNull = true) :
    element.children = .ok [] := by
  rw [children]
  cases field : element.field "children" <;> rw [field] at isNull <;> first | rfl | cases isNull

namespace Template

/-- At every node with child templates the element has one child for each of them, which the strict matcher of the
child template matches, and so on below.  Elements without a field for children may be excused. -/
inductive Shapes (excuses : Bool) : Template Value → Value → Prop
  | childless {template element} (noTemplates : template.childTemplates = []) : Shapes excuses template element
  | excused {template element} (mayLack : excuses = true) (isNull : (element.field "children").isNull = true) :
      Shapes excuses template element
  | parent {template element elements} (areChildren : element.children = .ok elements)
      (sameCount : elements.length = template.childTemplates.length)
      (matched : ∀ (index : Nat) (child under), template.childTemplates[index]? = some child →
        elements[index]? = some under → (Matcher.structural (some child) true).matches under = .ok (.bool true))
      (below : ∀ (index : Nat) (child under), template.childTemplates[index]? = some child →
        elements[index]? = some under → Shapes excuses child under) :
      Shapes excuses template element

/-- Somewhere an element without a field for children stands where there are child templates. -/
inductive Overlooks : Template Value → Value → Prop
  | here {template element} (templates : template.childTemplates ≠ [])
      (isNull : (element.field "children").isNull = true) : Overlooks template element
  | further {template element elements child under} {index : Nat} (areChildren : element.children = .ok elements)
      (isTemplate : template.childTemplates[index]? = some child) (isElement : elements[index]? = some under)
      (overlooks : Overlooks child under) : Overlooks template element

variable {template : Template Value} {element : Value}

/-- What fits a strict template has its shape, up to the elements that are excused. -/
theorem Fits.shapes (fits : template.Fits Value.call true element) : template.Shapes true element := by
  induction fits with
  | childless => exact .childless rfl
  | lacking _ isNull => exact .excused rfl isNull
  | @parent _ _ _ children _ _ elements _ areChildren sameCount each ih =>
      have member {index : Nat} {child : Template Value} {under : Value} (isTemplate : children[index]? = some child)
          (isElement : elements[index]? = some under) : (child, under) ∈ children.zip elements :=
        List.mem_of_getElem? (List.getElem?_zip_eq_some.mpr ⟨isTemplate, isElement⟩)
      refine .parent areChildren (sameCount rfl) ?_ fun _ _ _ isTemplate isElement => ih _ (member isTemplate isElement)
      intro index child under isTemplate isElement
      exact (matches_structural_iff child true under).mpr (each _ (member isTemplate isElement))

theorem Shapes.not_overlooks (shapes : template.Shapes false element) : ¬template.Overlooks element := by
  intro overlooks
  induction overlooks with
  | here templates isNull =>
      cases shapes with
      | childless noTemplates => exact templates noTemplates
      | excused mayLack => cases mayLack
      | parent areChildren sameCount =>
          -- no field means no children, but there are templates to count against
          rw [Value.children_of_isNull isNull] at areChildren
          cases areChildren
          exact templates (List.length_eq_zero_iff.mp sameCount.symm)
  | further areChildren isTemplate isElement _ ih =>
      cases shapes with
      | childless noTemplates =>
          rw [noTemplates] at isTemplate
          cases isTemplate
      | excused mayLack => cases mayLack
      | parent areSame _ _ below =>
          cases areChildren.symm.trans areSame
          exact ih (below _ _ _ isTemplate isElement)

theorem Shapes.unexcused (shapes : template.Shapes true element) (sees : ¬template.Overlooks element) :
    template.Shapes false element := by
  induction shapes with
  | childless noTemplates => exact .childless noTemplates
  | @excused template element _ isNull =>
      by_cases noTemplates : template.childTemplates = []
      · exact .childless noTemplates
      · exact absurd (.here noTemplates isNull) sees
  | parent areChildren sameCount matched _ ih =>
      refine .parent areChildren sameCount matched fun index child under isTemplate isElement => ?_
      exact ih index child under isTemplate isElement fun overlooks =>
        sees (.further areChildren isTemplate isElement overlooks)

/-- A strict matcher fixes the shape of the elements that it matches, exactly if none of them lacks the field for the
children that its template has templates for. -/
theorem strict_shapes_iff
    (matched : (Matcher.structural (some template) true).matches element = .ok (.bool true)) :
    template.Shapes true element ∧ (template.Shapes false element ↔ ¬template.Overlooks element) := by
  have shapes : template.Shapes true element := ((matches_structural_iff template true element).mp matched).shapes
  exact ⟨shapes, Shapes.not_overlooks, shapes.unexcused⟩

theorem headedTable_not_overlooks : ¬headedTable.Overlooks headedElement := by
  intro overlooks
  cases overlooks with
  | here _ isNull => cases isNull
  | @further _ _ elements child under index areChildren isTemplate isElement overlooks =>
      -- the only template below is that of the row, which has none for children
      cases index with
      | succ index => cases isTemplate
      | zero =>
          cases isTemplate
          cases overlooks with
          | here templates => exact templates rfl
          | further _ isTemplate => cases isTemplate

theorem headedTable_shapes :
    (Matcher.structural (some headedTable) true).matches headedElement = .ok (.bool true) ∧
      headedTable.Shapes false headedElement := by
  have matched : (Matcher.structural (some headedTable) true).matches headedElement = .ok (.bool true) := rfl
  exact ⟨matched, (strict_shapes_iff matched).2.mpr headedTable_not_overlooks⟩

/-- Tables with one row. -/
def rowTable : Template Value :=
  .node (.str "table") [] [] [.node (.str "tableRow") [] [] [] true none] true none

/-- A strict matcher of tables with one row matches a table that has no rows, as it has no field for them. -/
theorem rowTable_overlooks :
    let element := Value.ofFields [("type", .str "table")]
    Matcher.build .structural [.ofFields [("template", .ofFields
        [("type", .str "table"), ("children", .list [.ofFields [("type", .str "tableRow")]])])]] =
        .ok (.structural (some rowTable) true) ∧
      (Matcher.structural (some rowTable) true).matches element = .ok (.bool true) ∧
        ¬rowTable.Shapes false element := by
  have read : Template.ofValue (.ofFields
      [("type", .str "table"), ("children", .list [.ofFields [("type", .str "tableRow")]])]) = rowTable := by
    simp [rowTable, Value.ofFields, ofValue, ofItems, constraints?, Mapping.get?, Mapping.find?, Value.eq,
      Value.truthy, Value.isCallable]
  refine ⟨by rw [← read]; rfl, rfl, fun shapes => ?_⟩
  exact shapes.not_overlooks (.here (by simp [rowTable, childTemplates]) rfl)

end Template

end StyleRules
