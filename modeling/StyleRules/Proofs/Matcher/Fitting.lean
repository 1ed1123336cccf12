import StyleRules.Matcher.Build
import StyleRules.Matcher.Evaluate

/-!
# Elements of the shape of a template

An element fits a structural template when its type, its fields and its attributes are as the template expects, when
its children fit the child templates position by position, and when the function of the template accepts it.  Fitting
is said here for functions that answer in any way at all.  A matcher matches exactly the elements that fit its
template with the answers of the functions at hand, and what fits strictly also fits leniently.
-/

namespace StyleRules

/-- What functions answer when they are called; an answer may be a failure. -/
abbrev Answers := Value → List Value → Outcome Value

/-! ## Induction on templates -/

namespace Template

@[elab_as_elim]
theorem induct {α : Type} {motive : Template α → Prop} (malformed : motive .malformed)
    (node : ∀ elementType properties attributes children countable custom,
      (∀ child ∈ children, motive child) →
        motive (.node elementType properties attributes children countable custom))
    (template : Template α) : motive template :=
  match template with
  | .malformed => malformed
  | .node elementType properties attributes children countable custom =>
      node elementType properties attributes children countable custom fun child _ => induct malformed node child
termination_by sizeOf template

/-- The templates for the children. -/
def childTemplates {α : Type} : Template α → List (Template α)
  | .node _ _ _ children _ _ => children
  | .malformed => []

end Template

/-! ## Fitting -/

namespace Value

/-- The attributes of an element; an empty map counts as none. -/
def attributeMap (element : Value) : Value := (element.field "attributes").orElse .null

end Value

namespace Expected

/-- A value is as expected. -/
def Admits (answers : Answers) (strict : Bool) : Expected Value → Value → Prop
  | .absent, actual => strict = true → actual.isNull = true
  | .pattern source, actual =>
      actual.isNull = false ∧ ∃ readable, source = some readable ∧ readable.occurs actual.text = true
  | .oneOf choices, actual => choices.contains actual = .ok true
  | .test function, actual => (answers function [actual]).accepted = true
  | .literal value, actual => actual.eq value = true

/-- The fields that constraints name can be read, and they are as expected. -/
def FieldsFit (answers : Answers) (strict : Bool) (constraints : List (Value × Expected Value))
    (subject : Value) : Prop :=
  ∀ constraint ∈ constraints, ∃ actual, subject.fieldAt constraint.1 = .ok actual ∧
    constraint.2.Admits answers strict actual

end Expected

namespace Template

open Expected (FieldsFit)

/-- An element by itself, without its children, is as a template expects. -/
structure HeadFits (answers : Answers) (strict : Bool) (elementType : Value)
    (properties attributes : List (Value × Expected Value)) (custom : Option Value) (element : Value) : Prop where
  sameType : element.fieldAgrees "type" elementType = true
  properties : FieldsFit answers strict properties element
  hasAttributes : attributes ≠ [] → strict = true → (element.field "attributes").truthy = true
  attributes : FieldsFit answers strict attributes element.attributeMap
  accepted : ∀ test, custom = some test → (answers test [element]).accepted = true

/-- An element fits a template.  Children are compared with child templates as far as both go; when the template is
strict there has to be one child for each template. -/
inductive Fits (answers : Answers) (strict : Bool) : Template Value → Value → Prop
  /-- The template has no child templates. -/
  | childless {elementType properties attributes custom element}
      (head : HeadFits answers strict elementType properties attributes custom element) :
      Fits answers strict (.node elementType properties attributes [] true custom) element
  /-- The element has no field for children. -/
  | lacking {elementType properties attributes children countable custom element}
      (head : HeadFits answers strict elementType properties attributes custom element)
      (isNull : (element.field "children").isNull = true) :
      Fits answers strict (.node elementType properties attributes children countable custom) element
  | parent {elementType properties attributes children custom element elements}
      (head : HeadFits answers strict elementType properties attributes custom element)
      (areChildren : element.children = .ok elements)
      (sameCount : strict = true → elements.length = children.length)
      (each : ∀ pair ∈ children.zip elements, Fits answers strict pair.1 pair.2) :
      Fits answers strict (.node elementType properties attributes children true custom) element

variable {answers : Answers} {strict countable : Bool} {elementType element : Value}
  {properties attributes : List (Value × Expected Value)} {children : List (Template Value)}
  {custom : Option Value} {template : Template Value}

/-! ## What matchers match -/

theorem accepts_iff_admits (strict : Bool) (expected : Expected Value) (actual : Value) :
    Expected.accepts strict expected actual = true ↔ expected.Admits Value.call strict actual := by
  cases expected with
  | absent => cases strict <;> simp [Expected.accepts, Expected.Admits]
  | pattern source => cases source <;> simp [Expected.accepts, Expected.Admits]
  | oneOf choices =>
      rw [Expected.accepts, Expected.Admits]
      cases choices.contains actual <;> simp
  | test function => rw [Expected.accepts, Expected.Admits]
  | literal value => rw [Expected.accepts, Expected.Admits]

theorem fieldsAccepted_iff (strict : Bool) (constraints : List (Value × Expected Value)) (subject : Value) :
    fieldsAccepted strict constraints subject = true ↔ FieldsFit Value.call strict constraints subject := by
  induction constraints with
  | nil => simp [fieldsAccepted, FieldsFit]
  | cons constraint rest ih =>
      obtain ⟨name, expected⟩ := constraint
      rw [fieldsAccepted, Bool.and_eq_true, ih, FieldsFit, FieldsFit, List.forall_mem_cons]
      refine and_congr_left fun _ => ?_
      cases subject.fieldAt name with
      | error reason => simp
      | ok actual => simp [accepts_iff_admits]

theorem childrenAccepted_iff (strict : Bool) (templates : List (Template Value)) (elements : List Value) :
    childrenAccepted strict templates elements = true ↔
      ∀ pair ∈ templates.zip elements, accepts strict pair.1 pair.2 = true := by
  induction templates generalizing elements with
  | nil => simp [childrenAccepted]
  | cons template templates ih =>
      cases elements with
      | nil => simp [childrenAccepted]
      | cons element elements =>
          rw [childrenAccepted, Bool.and_eq_true, ih, List.zip_cons_cons, List.forall_mem_cons]

theorem customAccepts_iff (custom : Option Value) (element : Value) :
    customAccepts custom element = true ↔ ∀ test, custom = some test → (test.call [element]).accepted = true := by
  cases custom <;> simp [customAccepts]

theorem attributesAccepted_iff :
    (attributes.isEmpty || ((element.field "attributes").truthy || !strict) &&
        fieldsAccepted strict attributes element.attributeMap) = true ↔
      (attributes ≠ [] → strict = true → (element.field "attributes").truthy = true) ∧
        FieldsFit Value.call strict attributes element.attributeMap := by
  rw [← fieldsAccepted_iff]
  cases attributes with
  | nil => simp [fieldsAccepted]
  | cons constraint rest => cases strict <;> simp

/-- Children do not have to be compared, or they can be compared and are related to their templates. -/
def Compared (related : Template Value → Value → Prop) (strict countable : Bool) (children : List (Template Value))
    (element : Value) : Prop :=
  countable = true ∧ children = [] ∨ (element.field "children").isNull = true ∨
    countable = true ∧ ∃ elements, element.children = .ok elements ∧
      (strict = true → elements.length = children.length) ∧ ∀ pair ∈ children.zip elements, related pair.1 pair.2

theorem compared_iff :
    (countable && children.isEmpty || (element.field "children").isNull || countable &&
        match element.children with
        | .ok elements => (!strict || elements.length = children.length) && childrenAccepted strict children elements
        | .error _ => false) = true ↔
      Compared (accepts strict · · = true) strict countable children element := by
  rw [Compared]
  cases element.children with
  | error reason => simp
  | ok elements => cases strict <;> simp [childrenAccepted_iff, or_assoc]

theorem accepts_node_iff :
    accepts strict (.node elementType properties attributes children countable custom) element = true ↔
      HeadFits Value.call strict elementType properties attributes custom element ∧
        Compared (accepts strict · · = true) strict countable children element := by
  rw [accepts, Bool.and_eq_true, Bool.and_eq_true, Bool.and_eq_true, Bool.and_eq_true]
  refine (and_congr (and_congr (and_congr (and_congr Iff.rfl (fieldsAccepted_iff strict properties element))
    attributesAccepted_iff) compared_iff) (customAccepts_iff custom element)).trans ?_
  constructor
  · rintro ⟨⟨⟨⟨sameType, fields⟩, given, fit⟩, compared⟩, accepted⟩
    exact ⟨⟨sameType, fields, given, fit, accepted⟩, compared⟩
  · rintro ⟨head, compared⟩
    exact ⟨⟨⟨⟨head.sameType, head.properties⟩, head.hasAttributes, head.attributes⟩, compared⟩, head.accepted⟩

/-- With the answers of the functions at hand, a template accepts the elements that fit it. -/
theorem accepts_iff_fits (strict : Bool) (template : Template Value) (element : Value) :
    accepts strict template element = true ↔ template.Fits Value.call strict element := by
  induction template using induct generalizing element with
  | malformed =>
      refine iff_of_false ?_ nofun
      rw [accepts]
      exact Bool.false_ne_true
  | node elementType properties attributes children countable custom ih =>
      have each (elements : List Value) :
          (∀ pair ∈ children.zip elements, accepts strict pair.1 pair.2 = true) ↔
            ∀ pair ∈ children.zip elements, Fits Value.call strict pair.1 pair.2 :=
        forall₂_congr fun pair member => ih pair.1 (List.of_mem_zip member).1 pair.2
      rw [accepts_node_iff]
      constructor
      · rintro ⟨head, ⟨rfl, rfl⟩ | isNull | ⟨rfl, elements, areChildren, sameCount, accepted⟩⟩
        · exact .childless head
        · exact .lacking head isNull
        · exact .parent head areChildren sameCount ((each elements).mp accepted)
      · intro fits
        cases fits with
        | childless head => exact ⟨head, .inl ⟨rfl, rfl⟩⟩
        | lacking head isNull => exact ⟨head, .inr (.inl isNull)⟩
        | parent head areChildren sameCount fit =>
            exact ⟨head, .inr (.inr ⟨rfl, _, areChildren, sameCount, (each _).mpr fit⟩)⟩

/-- A matcher matches the elements that fit its template. -/
theorem matches_structural_iff (template : Template Value) (strict : Bool) (element : Value) :
    (Matcher.structural (some template) strict).matches element = .ok (.bool true) ↔
      template.Fits Value.call strict element := by
  rw [Matcher.matches, acceptsOption, ← accepts_iff_fits, Except.ok.injEq, Value.bool.injEq]

end Template

/-! ## Strict and lenient templates -/

section Lenient

open Expected (FieldsFit)
open Template (HeadFits Fits)

variable {answers : Answers} {elementType element subject : Value} {expected : Expected Value} {actual : Value}
  {constraints properties attributes : List (Value × Expected Value)} {custom : Option Value}
  {template : Template Value}

theorem Expected.Admits.lenient (admits : expected.Admits answers true actual) :
    expected.Admits answers false actual := by
  cases expected with
  | absent => exact nofun
  | _ => exact admits

theorem Expected.FieldsFit.lenient (fits : FieldsFit answers true constraints subject) :
    FieldsFit answers false constraints subject := by
  intro constraint member
  obtain ⟨actual, found, admits⟩ := fits constraint member
  exact ⟨actual, found, admits.lenient⟩

theorem Template.HeadFits.lenient
    (head : HeadFits answers true elementType properties attributes custom element) :
    HeadFits answers false elementType properties attributes custom element where
  sameType := head.sameType
  properties := head.properties.lenient
  hasAttributes := fun _ => nofun
  attributes := head.attributes.lenient
  accepted := head.accepted

/-- The lenient comparison takes the same way through template and element, and asks for less at each node. -/
theorem Template.Fits.lenient (fits : template.Fits answers true element) : template.Fits answers false element := by
  induction fits with
  | childless head => exact .childless head.lenient
  | lacking head isNull => exact .lacking head.lenient isNull
  | parent head areChildren _ _ ih => exact .parent head.lenient areChildren nofun ih

/-- What the strict matcher of a template matches, its lenient matcher matches as well, and this does not depend on
what the functions of the template are: with any answers, what fits strictly also fits leniently. -/
theorem Matcher.matches_lenient_of_strict (template : Template Value) (element : Value) :
    ((Matcher.structural (some template) true).matches element = .ok (.bool true) →
        (Matcher.structural (some template) false).matches element = .ok (.bool true)) ∧
      ∀ answers : Answers, template.Fits answers true element → template.Fits answers false element := by
  have lenient (answers : Answers) (fits : template.Fits answers true element) :
      template.Fits answers false element := fits.lenient
  refine ⟨fun matched => ?_, lenient⟩
  rw [Template.matches_structural_iff] at matched ⊢
  exact lenient Value.call matched

end Lenient

/-- Tables without a style, left-aligned or centred, whose first row is a heading. -/
def headedTable : Template Value :=
  .node (.str "table") [(.str "styleId", .absent), (.str "align", .oneOf (.list [.str "left", .str "center"]))] []
    [.node (.str "row") [] [] [] true (some (.callable (.field (.str "heading"))))] true none

def headedSource : Value :=
  .ofFields [("type", .str "table"),
    ("properties", .ofFields
      [("styleId", .null), ("align", .ofFields [("oneOf", .list [.str "left", .str "center"])])]),
    ("children", .list [.ofFields
      [("type", .str "row"), ("customMatcher", .callable (.field (.str "heading")))]])]

theorem build_headedSource (strict : Bool) :
    Matcher.build .structural [.ofFields [("template", headedSource), ("strict", .bool strict)]] =
      .ok (.structural (some headedTable) strict) := by
  have read : Template.ofValue headedSource = headedTable := by
    simp [headedSource, headedTable, Value.ofFields, Template.ofValue, Template.ofItems, Template.constraints?,
      Mapping.get?, Mapping.find?, Value.eq, Value.truthy, Value.isCallable, Expected.ofValue, Value.isNull]
  rw [← read]
  cases strict <;> rfl

def headedElement : Value :=
  .ofFields [("type", .str "table"), ("align", .str "center"),
    ("children", .list [.ofFields [("type", .str "row"), ("heading", .bool true)]])]

theorem headedTable_lenient_of_strict :
    (∀ strict, Matcher.build .structural [.ofFields [("template", headedSource), ("strict", .bool strict)]] =
        .ok (.structural (some headedTable) strict)) ∧
      (Matcher.structural (some headedTable) true).matches headedElement = .ok (.bool true) ∧
        (Matcher.structural (some headedTable) false).matches headedElement = .ok (.bool true) :=
  ⟨build_headedSource, rfl, (Matcher.matches_lenient_of_strict headedTable headedElement).1 rfl⟩

end StyleRules
