import StyleRules.Proofs.Element.Walking
import StyleRules.Proofs.Matcher.Fitting

/-!
# What templates cannot see

A template without functions of whole elements looks at the type of an element, at the fields and attributes that it
names, at the number of its children, and below at the children that it has templates for.  Two elements that agree on
all this are told apart by neither the strict nor the lenient matcher.
-/

namespace StyleRules

namespace Value

variable {element item : Value}

theorem ChildrenListed.children_eq (listed : element.ChildrenListed) :
    element.children = .ok element.listedChildren := by
  cases listed with
  | childless noField =>
      rw [children, listedChildren, noField]
      rfl
  | @parent _ items isList =>
      rw [children, listedChildren, isList]
      cases items <;> rfl

theorem ChildrenListed.of_mem (listed : element.ChildrenListed) (member : item ∈ element.listedChildren) :
    item.ChildrenListed := by
  cases listed with
  | childless noField =>
      rw [listedChildren, noField] at member
      cases member
  | parent isList further =>
      rw [listedChildren, isList] at member
      exact further item member

end Value

namespace Template

open Expected (FieldsFit)

/-- No node of the template has a function that is given the whole element.  Functions of single fields may occur. -/
inductive SeesNoWhole : Template Value → Prop
  | malformed : SeesNoWhole .malformed
  | node {elementType properties attributes children countable}
      (below : ∀ child ∈ children, SeesNoWhole child) :
      SeesNoWhole (.node elementType properties attributes children countable none)

/-- Two elements agree on their types, on the fields and attributes that constraints name, and on whether they have
attributes at all. -/
structure HeadsAlike (properties attributes : List (Value × Expected Value)) (first second : Value) : Prop where
  sameType : first.field "type" = second.field "type"
  sameFields : ∀ constraint ∈ properties, first.fieldAt constraint.1 = second.fieldAt constraint.1
  sameMap : (first.field "attributes").truthy = (second.field "attributes").truthy
  sameAttributes : ∀ constraint ∈ attributes,
    first.attributeMap.fieldAt constraint.1 = second.attributeMap.fieldAt constraint.1

/-- Two elements agree on what the template mentions.  Child templates that cannot be counted are child templates all
the same. -/
inductive Alike : Template Value → Value → Value → Prop
  | malformed {first second} : Alike .malformed first second
  | node {elementType properties attributes children countable custom first second}
      (heads : HeadsAlike properties attributes first second)
      (sameChildren : children ≠ [] ∨ countable = false →
        (first.field "children").isNull = (second.field "children").isNull ∧
          first.listedChildren.length = second.listedChildren.length)
      (further : ∀ (index : Nat) (child left right), children[index]? = some child →
        first.listedChildren[index]? = some left → second.listedChildren[index]? = some right →
          Alike child left right) :
      Alike (.node elementType properties attributes children countable custom) first second

variable {answers : Answers} {strict countable : Bool} {elementType first second : Value}
  {constraints properties attributes : List (Value × Expected Value)} {template : Template Value}

theorem HeadsAlike.symm (heads : HeadsAlike properties attributes first second) :
    HeadsAlike properties attributes second first where
  sameType := heads.sameType.symm
  sameFields := fun constraint member => (heads.sameFields constraint member).symm
  sameMap := heads.sameMap.symm
  sameAttributes := fun constraint member => (heads.sameAttributes constraint member).symm

theorem Alike.symm (alike : template.Alike first second) : template.Alike second first := by
  induction alike with
  | malformed => exact .malformed
  | node heads sameChildren _ ih =>
      refine .node heads.symm (fun asks => ?_) fun index child left right isChild isLeft isRight => ?_
      · exact ⟨(sameChildren asks).1.symm, (sameChildren asks).2.symm⟩
      · exact ih index child right left isChild isRight isLeft

theorem fieldsFit_of_same (fits : FieldsFit answers strict constraints first)
    (same : ∀ constraint ∈ constraints, first.fieldAt constraint.1 = second.fieldAt constraint.1) :
    FieldsFit answers strict constraints second := by
  intro constraint member
  rw [← same constraint member]
  exact fits constraint member

theorem HeadFits.of_alike (head : HeadFits answers strict elementType properties attributes none first)
    (heads : HeadsAlike properties attributes first second) :
    HeadFits answers strict elementType properties attributes none second where
  sameType := by
    have agrees := head.sameType
    rwa [Value.fieldAgrees, Value.fieldIs, heads.sameType] at agrees
  properties := fieldsFit_of_same head.properties heads.sameFields
  hasAttributes := heads.sameMap ▸ head.hasAttributes
  attributes := fieldsFit_of_same head.attributes heads.sameAttributes
  accepted := nofun

/-- What fits a template cannot be told from an element that agrees with it on what the template mentions. -/
theorem Fits.of_alike (fits : template.Fits answers strict first) (seesNoWhole : template.SeesNoWhole)
    (firstListed : first.ChildrenListed) (secondListed : second.ChildrenListed)
    (alike : template.Alike first second) : template.Fits answers strict second := by
  induction fits generalizing second with
  | childless head =>
      cases seesNoWhole
      cases alike with
      | node heads => exact .childless (head.of_alike heads)
  | @lacking _ _ _ children countable _ _ head isNull =>
      cases seesNoWhole
      cases alike with
      | node heads sameChildren =>
          by_cases asks : children ≠ [] ∨ countable = false
          · exact .lacking (head.of_alike heads) ((sameChildren asks).1 ▸ isNull)
          · -- without child templates it does not matter whether there are children
            simp only [not_or, ne_eq, not_not, Bool.not_eq_false] at asks
            obtain ⟨rfl, rfl⟩ := asks
            exact .childless (head.of_alike heads)
  | @parent _ _ _ children _ first elements head areChildren sameCount _ ih =>
      cases seesNoWhole with
      | node below =>
      cases alike with
      | node heads sameChildren further =>
          have sameHead := head.of_alike heads
          by_cases noTemplates : children = []
          · subst noTemplates
            exact .childless sameHead
          cases areChildren.symm.trans firstListed.children_eq
          have sameLength := (sameChildren (.inl noTemplates)).2
          refine .parent sameHead secondListed.children_eq (fun isStrict => ?_) fun ⟨child, right⟩ member => ?_
          · exact sameLength.symm.trans (sameCount isStrict)
          · -- the position of the child holds a child of the first element as well, as there are equally many
            obtain ⟨index, isPair⟩ := List.mem_iff_getElem?.mp member
            obtain ⟨isChild, isRight⟩ := List.getElem?_zip_eq_some.mp isPair
            have within : index < first.listedChildren.length := by
              rw [sameLength]
              exact (List.getElem?_eq_some_iff.mp isRight).1
            have isLeft := List.getElem?_eq_getElem within
            have leftMember : (child, first.listedChildren[index]) ∈ children.zip first.listedChildren :=
              List.mem_of_getElem? (List.getElem?_zip_eq_some.mpr ⟨isChild, isLeft⟩)
            exact ih _ leftMember (below child (List.mem_of_getElem? isChild))
              (firstListed.of_mem (List.getElem_mem within)) (secondListed.of_mem (List.mem_of_getElem? isRight))
              (further index child _ right isChild isLeft isRight)

/-- Elements that agree on what a template mentions get the same answer from its matcher. -/
theorem matches_eq_of_alike (strict : Bool) (seesNoWhole : template.SeesNoWhole)
    (firstListed : first.ChildrenListed) (secondListed : second.ChildrenListed)
    (alike : template.Alike first second) :
    (Matcher.structural (some template) strict).matches first =
      (Matcher.structural (some template) strict).matches second := by
  have sameAnswer : accepts strict template first = accepts strict template second := by
    rw [Bool.eq_iff_iff, accepts_iff_fits, accepts_iff_fits]
    exact ⟨fun fits => fits.of_alike seesNoWhole firstListed secondListed alike,
      fun fits => fits.of_alike seesNoWhole secondListed firstListed alike.symm⟩
  rw [Matcher.matches, Matcher.matches, acceptsOption, acceptsOption, sameAnswer]

/-- Left-aligned figures without a language that hold an image. -/
def plainFigure : Template Value :=
  .node (.str "figure") [(.str "align", .literal (.str "left"))] [(.str "lang", .absent)]
    [.node (.str "image") [] [] [] true none] true none

/-- A figure with an image; the width, the identifier and the source are not mentioned by `plainFigure`. -/
def figureOf (width : Int) (identifier source : String) : Value :=
  .ofFields [("type", .str "figure"), ("align", .str "left"), ("width", .int width),
    ("attributes", .ofFields [("id", .str identifier)]),
    ("children", .list [.ofFields [("type", .str "image"), ("src", .str source)]])]

theorem childrenListed_figureOf (width : Int) (identifier source : String) :
    (figureOf width identifier source).ChildrenListed :=
  .parent rfl (List.forall_mem_singleton.mpr (.childless rfl))

theorem seesNoWhole_plainFigure : plainFigure.SeesNoWhole :=
  .node (List.forall_mem_singleton.mpr (.node nofun))

theorem alike_figureOf (width otherWidth : Int) (identifier otherIdentifier source otherSource : String) :
    plainFigure.Alike (figureOf width identifier source) (figureOf otherWidth otherIdentifier otherSource) := by
  refine .node ⟨rfl, List.forall_mem_singleton.mpr rfl, rfl, List.forall_mem_singleton.mpr rfl⟩
    (fun _ => ⟨rfl, rfl⟩) ?_
  intro index child left right isChild isLeft isRight
  cases index with
  | succ index => cases isChild
  | zero =>
      cases isChild
      cases isLeft
      cases isRight
      exact .node ⟨rfl, nofun, rfl, nofun⟩ (fun asks => by simp at asks) nofun

theorem plainFigure_matches_alike :
    plainFigure.SeesNoWhole ∧ (figureOf 5 "a" "a.png").ChildrenListed ∧ (figureOf 7 "b" "b.png").ChildrenListed ∧
      plainFigure.Alike (figureOf 5 "a" "a.png") (figureOf 7 "b" "b.png") ∧
        (Matcher.structural (some plainFigure) true).matches (figureOf 5 "a" "a.png") = .ok (.bool true) ∧
          (Matcher.structural (some plainFigure) true).matches (figureOf 5 "a" "a.png") =
            (Matcher.structural (some plainFigure) true).matches (figureOf 7 "b" "b.png") := by
  have firstListed := childrenListed_figureOf 5 "a" "a.png"
  have secondListed := childrenListed_figureOf 7 "b" "b.png"
  have alike := alike_figureOf 5 7 "a" "b" "a.png" "b.png"
  exact ⟨seesNoWhole_plainFigure, firstListed, secondListed, alike, rfl,
    matches_eq_of_alike true seesNoWhole_plainFigure firstListed secondListed alike⟩

end Template

end StyleRules
