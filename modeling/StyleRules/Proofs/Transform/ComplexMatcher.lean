import StyleRules.Proofs.Json.Texts
import StyleRules.Proofs.Transform.StockQueries

/-!
# The matcher of elements by type, children and text

The stylesheet decides by exclusion: an element is refused when its type is another one, when it has too few or too
many children, or when it has a text or none against what was asked for.  An element without a formatted type has no
type to differ from the one asked for, and so it is not refused for its type.
-/

namespace StyleRules

/-! ## Numbers of children -/

namespace Amount

theorem dropWhile_isSpace {chars : List Char} (digits : ∀ c ∈ chars, c.isDigit = true) :
    chars.dropWhile isSpace = chars := by
  cases chars with
  | nil => rfl
  | cons c rest =>
      have isDigit := digits c List.mem_cons_self
      have notSpace : isSpace c = false := by
        rw [Bool.eq_false_iff]
        intro space
        simp only [isSpace, Bool.or_eq_true, decide_eq_true_eq] at space
        rcases space with ((rfl | rfl) | rfl) | rfl <;> exact absurd isDigit (by decide)
      rw [List.dropWhile_cons, notSpace]
      rfl

theorem readUnsigned?_toDigits (n : Nat) : readUnsigned? false (Nat.toDigits 10 n) = some (.ofNat n) := by
  have digits : ∀ c ∈ Nat.toDigits 10 n, c.isDigit = true := fun c member =>
    Nat.isDigit_of_mem_toDigits (by decide) (by decide) member
  have whole : (Nat.toDigits 10 n).takeWhile Char.isDigit = Nat.toDigits 10 n :=
    List.takeWhile_eq_self_iff.mpr digits
  have nothing : (Nat.toDigits 10 n).dropWhile Char.isDigit = [] := List.dropWhile_eq_nil_iff.mpr digits
  have nonempty : (Nat.toDigits 10 n).isEmpty = false := List.isEmpty_eq_false_iff.mpr Nat.toDigits_ne_nil
  simp [readUnsigned?, whole, nothing, nonempty, power?, Json.readDecimal_toDigits, ofNat]

/-- A natural number is read back from its text. -/
theorem read?_nat (n : Nat) : read? (toString (n : Int)) = some (.ofNat n) := by
  have digits : ∀ c ∈ Nat.toDigits 10 n, c.isDigit = true := fun c member =>
    Nat.isDigit_of_mem_toDigits (by decide) (by decide) member
  have reversed : ∀ c ∈ (Nat.toDigits 10 n).reverse, c.isDigit = true := fun c member =>
    digits c (List.mem_reverse.mp member)
  have noSign : ∀ rest, Nat.toDigits 10 n ≠ '-' :: rest := by
    intro rest spelled
    exact absurd (digits '-' (by simp [spelled])) (by decide)
  rw [read?, show ((n : Int) = Int.ofNat n) from rfl, Json.toList_ofNat, dropWhile_isSpace digits,
    dropWhile_isSpace reversed, List.reverse_reverse]
  split
  · rename_i spelled
    exact absurd spelled (noSign _)
  · exact readUnsigned?_toDigits n

theorem isLess_ofNat (m n : Nat) : (ofNat m).isLess (.ofNat n) = decide (m < n) := by
  simp [isLess, aligned, signed, ofNat]

end Amount

/-! ## Comparisons and tests -/

namespace XPath

open Xml (Node plainly)

variable {root : Node} {values : Variables} {item : Item} {attributes : List (String × String)} {content : List Node}

/-- Items differ from a text when the text of one of them does. -/
theorem holds_different_items (found : List Item) (s : String) :
    Relation.different.holds (.items found) (.text s) = true ↔ ∃ item ∈ found, item.text ≠ s := by
  have plain (item : Item) : Relation.different.ofPlain (.text item.text) (.text s) = true ↔ item.text ≠ s := by
    change (!decide (item.text = s)) = true ↔ _
    simp
  simp [Relation.holds, plain]

theorem holds_different_attribute (name : Xml.Name) (found : Option String) (s : String) :
    Relation.different.holds (.items (found.toList.map (.attribute name))) (.text s) = true ↔
      ∃ actual ∈ found, actual ≠ s := by
  rw [holds_different_items]
  cases found <;> simp [Item.text]

theorem holds_less_counts (m n : Nat) :
    Relation.less.holds (.number (some (.ofNat m))) (.number (some (.ofNat n))) = decide (m < n) :=
  Amount.isLess_ofNat m n

theorem holds_greater_counts (m n : Nat) :
    Relation.greater.holds (.number (some (.ofNat m))) (.number (some (.ofNat n))) = decide (n < m) :=
  Amount.isLess_ofNat n m

theorem toNumber_text_nat (n : Nat) : (Object.text (toString (n : Int))).toNumber = some (.ofNat n) :=
  Amount.read?_nat n

theorem toTruth_both (first second : Expr) : ((Expr.both first second).eval root values item).toTruth =
    ((first.eval root values item).toTruth && (second.eval root values item).toTruth) := rfl

theorem toTruth_negation (of : Expr) :
    ((Expr.negation of).eval root values item).toTruth = !(of.eval root values item).toTruth := rfl

theorem eval_root : (Expr.child .document "element").eval (rootElement attributes content) values item =
    .items [.node (rootElement attributes content)] := by
  simp [Expr.eval, Object.toItems, Item.childrenNamed, Item.children, rootElement, Node.isElement, Xml.Name.isPlain,
    Xml.Name.plain]

section Own

variable {name : String}
  (isElement : values.lookup name = some (.items [.node (rootElement attributes content)]))

include isElement

theorem eval_ownAttribute (distinct : (attributes.map (·.1)).Nodup) (label : String) :
    (Expr.attribute (.named name) label).eval root values item =
      .items ((attributes.lookup label).toList.map (.attribute (.plain label))) := by
  rw [Expr.eval, Expr.eval, isElement, ← filter_isAttribute distinct label]
  simp [Object.toItems, Item.attributes, Node.attributes, rootElement]

theorem eval_ownPart (label : String) : (Expr.child (.named name) label).eval root values item =
    .items ((content.filter (Node.isElement label)).map .node) := by
  rw [Expr.eval, Expr.eval, isElement]
  simp [Object.toItems, Item.childrenNamed, Item.children, Node.content, rootElement]

end Own

end XPath

/-! ## Running the stylesheet -/

namespace Stylesheet

open XPath
open Xml (Node)

variable {attributes : List (String × String)} {content : List Node} {elementType hasText : String}
  {least most count : Nat}

/-- What the variables and parameters of the stylesheet stand for. -/
structure ComplexValues (root : Node) (count : Nat) (elementType : String) (least most : Nat) (hasText : String)
    (values : Variables) : Prop where
  element : values.lookup "element" = some (.items [.node root])
  childCount : values.lookup "childCount" = some (.number (some (.ofNat count)))
  elementType : values.lookup "elementType" = some (.text elementType)
  minChildren : values.lookup "minChildren" = some (.text (toString (least : Int)))
  maxChildren : values.lookup "maxChildren" = some (.text (toString (most : Int)))
  hasText : values.lookup "hasText" = some (.text hasText)

section Cases

variable {root : Node} {values : Variables} {item : Item}
  (given : ComplexValues (rootElement attributes content) count elementType least most hasText values)

include given

/-- A root without the attribute has no type that differs. -/
theorem typeDiffers_iff (distinct : (attributes.map (·.1)).Nodup) (someType : elementType ≠ "") :
    ((Expr.both (.named "elementType")
      (.compare .different (.attribute (.named "element") "type") (.named "elementType"))).eval root values
        item).toTruth = true ↔ ∃ actual ∈ attributes.lookup "type", actual ≠ elementType := by
  have named : (Expr.named "elementType").eval root values item = .text elementType := by
    rw [Expr.eval, given.elementType]
    rfl
  have isGiven : (Object.text elementType).toTruth = true := by simpa [Object.toTruth] using someType
  rw [toTruth_both, named, isGiven, Bool.true_and, ← holds_different_attribute (.plain "type"), Expr.eval, named,
    eval_ownAttribute given.element distinct, Object.toTruth]

theorem countExcluded_iff :
    ((Expr.either (.compare .less (.named "childCount") (.toNumber (.named "minChildren")))
      (.compare .greater (.named "childCount") (.toNumber (.named "maxChildren")))).eval root values
        item).toTruth = true ↔ count < least ∨ most < count := by
  simp only [Expr.eval, given.childCount, given.minChildren, given.maxChildren, Option.getD_some, toNumber_text_nat,
    holds_less_counts, holds_greater_counts, Object.toTruth, Bool.or_eq_true, decide_eq_true_eq]

theorem textMissing_iff :
    ((Expr.both (.compare .equal (.named "hasText") (.literal "true"))
      (.negation (.child (.named "element") "text"))).eval root values item).toTruth = true ↔
        hasText = "true" ∧ content.filter (Node.isElement "text") = [] := by
  rw [toTruth_both, toTruth_negation, eval_ownPart given.element]
  simp [Expr.eval, given.hasText, Object.toTruth, holds_equal_texts]

theorem textExcluded_iff :
    ((Expr.both (.compare .equal (.named "hasText") (.literal "false"))
      (.child (.named "element") "text")).eval root values item).toTruth = true ↔
        hasText = "false" ∧ content.filter (Node.isElement "text") ≠ [] := by
  rw [toTruth_both, eval_ownPart given.element]
  simp [Expr.eval, given.hasText, Object.toTruth, holds_equal_texts]

/-- The stylesheet refuses a type that differs, a number of children outside the bounds, and a text against what was
asked for. -/
theorem complexCases_run (distinct : (attributes.map (·.1)).Nodup) (someType : elementType ≠ "") :
    complexCases.run root values =
      if ∃ actual ∈ attributes.lookup "type", actual ≠ elementType then "false"
      else if count < least ∨ most < count then "false"
      else if hasText = "true" ∧ content.filter (Node.isElement "text") = [] then "false"
      else if hasText = "false" ∧ content.filter (Node.isElement "text") ≠ [] then "false"
      else "true" := by
  simp only [complexCases, Cases.run, Instructions.run, ResultContent.run, typeDiffers_iff given distinct someType,
    countExcluded_iff given, textMissing_iff given, textExcluded_iff given]

end Cases

/-- The elements inside the parts for children. -/
def childElements (content : List Node) : List Node :=
  (content.filter (Node.isElement "children")).flatMap (Node.elements "element")

theorem length_childElements (parts : List Node) :
    ((parts.map Item.node).flatMap (Item.childrenNamed "element")).length =
      (parts.flatMap (Node.elements "element")).length := by
  induction parts with
  | nil => rfl
  | cons part others ih =>
      simp only [List.map_cons, List.flatMap_cons, List.length_append, ih]
      simp [Item.childrenNamed, Item.children, Node.elements]

/-- The texts of the parameters, as far as they were given. -/
structure ComplexGiven (given : SheetParameters) (elementType : String) (least most : Nat) (hasText : String) :
    Prop where
  elementType : given.lookup "elementType" = some elementType
  minChildren : given.lookup "minChildren" = some (toString (least : Int))
  maxChildren : given.lookup "maxChildren" = some (toString (most : Int))
  hasText : (given.lookup "hasText").getD "" = hasText

theorem value_number {given : SheetParameters} {name shown : String} (isGiven : given.lookup name = some shown)
    (root : Node) (default : Nat) :
    SheetParameter.value given root ⟨name, some (.number default)⟩ = .text shown := by
  rw [SheetParameter.value, isGiven]

theorem resultText_complex {parameters : SheetParameters}
    (given : ComplexGiven parameters elementType least most hasText) (attributes : List (String × String))
    (content : List Node) :
    ∃ values, ComplexValues (rootElement attributes content) (childElements content).length elementType
        least most hasText values ∧
      Stylesheet.complex.resultText (rootElement attributes content) parameters =
        complexCases.run (rootElement attributes content) values := by
  have count (values : Variables)
      (isElement : values.lookup "element" = some (.items [.node (rootElement attributes content)])) :
      (Expr.count (.child (.child (.named "element") "children") "element")).eval
        (rootElement attributes content) values (.document (rootElement attributes content)) =
          .number (some (.ofNat (childElements content).length)) := by
    rw [Expr.eval, Expr.eval, eval_ownPart isElement]
    simp only [Object.toItems, length_childElements]
    rfl
  refine ⟨_, ⟨?_, ?_, ?_, ?_, ?_, ?_⟩, rfl⟩
  · simp [List.lookup_cons, eval_root]
  · rw [List.lookup_cons_self, count]
    simp [eval_root]
  · simp [List.lookup_cons, program, complexProgram, value_plain, given.elementType]
  · simp [List.lookup_cons, program, complexProgram, value_number given.minChildren]
  · simp [List.lookup_cons, program, complexProgram, value_number given.maxChildren]
  · simp [List.lookup_cons, program, complexProgram, value_plain, given.hasText]

/-! ## Elements -/

open Xml (Shows Showable attributesPart textPart childrenPart)

theorem filter_children (attributes text : Value) (nodes : List Node) :
    (attributesPart attributes ++ textPart text ++ childrenPart nodes).filter (Node.isElement "children") =
      childrenPart nodes := by
  have noAttributes : (attributesPart attributes).filter (Node.isElement "children") = [] := by
    unfold attributesPart
    split <;> simp [Node.isElement, Xml.Name.isPlain, Xml.Name.plain]
  have noText : (textPart text).filter (Node.isElement "children") = [] := by
    unfold textPart
    split <;> simp [Xml.textElement, Node.isElement, Xml.Name.isPlain, Xml.Name.plain]
  have all : (childrenPart nodes).filter (Node.isElement "children") = childrenPart nodes := by
    unfold childrenPart
    split <;> simp [Node.isElement, Xml.Name.isPlain, Xml.Name.plain]
  simp only [List.filter_append, noAttributes, noText, all, List.nil_append]

theorem filter_text (attributes text : Value) (nodes : List Node) :
    (attributesPart attributes ++ textPart text ++ childrenPart nodes).filter (Node.isElement "text") =
      textPart text := by
  have noAttributes : (attributesPart attributes).filter (Node.isElement "text") = [] := by
    unfold attributesPart
    split <;> simp [Node.isElement, Xml.Name.isPlain, Xml.Name.plain]
  have all : (textPart text).filter (Node.isElement "text") = textPart text := by
    unfold textPart
    split <;> simp [Xml.textElement, Node.isElement, Xml.Name.isPlain, Xml.Name.plain]
  have noChildren : (childrenPart nodes).filter (Node.isElement "text") = [] := by
    unfold childrenPart
    split <;> simp [Node.isElement, Xml.Name.isPlain, Xml.Name.plain]
  simp only [List.filter_append, noAttributes, noChildren, all, List.nil_append, List.append_nil]

theorem textPart_eq_nil_iff (text : Value) : textPart text = [] ↔ text.truthy = false := by
  unfold textPart
  cases text.truthy <;> simp

/-- The nodes that show the children are the elements that are counted. -/
theorem childElements_parts (attributes text : Value) {children : List Value} {nodes : List Node}
    (each : List.Forall₂ Shows nodes children) :
    (childElements (attributesPart attributes ++ textPart text ++ childrenPart nodes)).length = children.length := by
  have elements : Node.elements "element" (.element (.plain "children") [] nodes) = nodes := by
    refine List.filter_eq_self.mpr fun node member => ?_
    obtain ⟨child, _, shows⟩ := exists_of_forall₂ each node member
    cases shows
    rfl
  rw [childElements, filter_children, childrenPart, ← each.length_eq]
  split
  · simp_all
  · simp [elements]

theorem children_of_areChildren {element : Value} {items : List Value}
    (areChildren : Xml.AreChildren (element.field "children") items) : element.children = .ok items := by
  rw [Value.children, Value.childrenOf]
  rcases areChildren with isList | ⟨isFalse, rfl⟩
  · rw [isList]
    cases items <;> rfl
  · rw [isFalse]
    rfl

/-- Over the document of an element, the stylesheet decides by the element's formatted type, its children and its
text. -/
theorem complex_decides {root : Node} {element : Value} (shows : Shows root element) (showable : Showable element)
    {parameters : SheetParameters} (given : ComplexGiven parameters elementType least most hasText)
    (someType : elementType ≠ "") :
    ∃ answer items, element.children = .ok items ∧
      Stylesheet.complex.resultText root parameters = truthText answer ∧
        (answer = true ↔ (∀ actual ∈ element.formatted "type", actual = elementType) ∧
          (least ≤ items.length ∧ items.length ≤ most) ∧
            (hasText = "true" → (element.field "text").truthy = true) ∧
              (hasText = "false" → (element.field "text").truthy = false)) := by
  cases shows with
  | @element entries children nodes areChildren each =>
      cases showable with
      | mapping fields attributes text _ _ =>
          have shown : Xml.ShowableEntries (Xml.plainFields entries) := fields.filter _
          obtain ⟨values, isGiven, ran⟩ := resultText_complex given (Xml.scalarTexts (Xml.plainFields entries))
            (attributesPart ((Value.map entries).field "attributes") ++ textPart ((Value.map entries).field "text") ++
              childrenPart nodes)
          rw [complexCases_run isGiven shown.nodup_scalarTexts someType, Xml.lookup_formatted fields rfl, filter_text,
            childElements_parts _ _ each] at ran
          simp only [ne_eq, textPart_eq_nil_iff] at ran
          have counted := children_of_areChildren areChildren
          generalize (Value.map entries).field "text" = text at ran ⊢
          split_ifs at ran with differs outside missing excluded
          · refine ⟨false, children, counted, ran, iff_of_false nofun ?_⟩
            rintro ⟨sameType, _⟩
            obtain ⟨actual, isType, different⟩ := differs
            exact different (sameType actual isType)
          · refine ⟨false, children, counted, ran, iff_of_false nofun ?_⟩
            rintro ⟨_, inside, _⟩
            omega
          · refine ⟨false, children, counted, ran, iff_of_false nofun ?_⟩
            rintro ⟨_, _, present, _⟩
            exact absurd (present missing.1) (by simp [missing.2])
          · refine ⟨false, children, counted, ran, iff_of_false nofun ?_⟩
            rintro ⟨_, _, _, absent⟩
            exact excluded.2 (absent excluded.1)
          · refine ⟨true, children, counted, ran, iff_of_true rfl ⟨?_, by omega, ?_, ?_⟩⟩
            · exact fun actual isType => Decidable.not_not.mp fun different => differs ⟨actual, isType, different⟩
            · exact fun isAsked => Bool.eq_true_of_not_eq_false fun absent => missing ⟨isAsked, absent⟩
            · exact fun isAsked => Decidable.not_not.mp fun present => excluded ⟨isAsked, present⟩

theorem ofSource?_complex : ofSource? Stylesheet.complex.source = some .complex := by
  have notStyle : Stylesheet.style.source ≠ Stylesheet.complex.source :=
    written_ne rfl rfl (n := 22) (by decide) (by decide)
  simp [ofSource?, all, notStyle]

end Stylesheet

/-! ## The matcher -/

namespace Engine

open Xml (Showable)

variable {e base : Engine} {q : Query} {element : Value} {elementType : String} {least most : Nat}
  {hasText : Option Bool}

/-- The parameters of the matcher; whether there is a text may be left open. -/
def complexFields (elementType : String) (least most : Nat) (hasText : Option Bool) : List (String × Value) :=
  [("elementType", .str elementType), ("minChildren", .int least), ("maxChildren", .int most)] ++
    (hasText.map fun wanted => ("hasText", .str (Stylesheet.truthText wanted))).toList

def complexParameters (elementType : String) (least most : Nat) (hasText : Option Bool) : List (Value × Value) :=
  (complexFields elementType least most hasText).map fun (name, value) => (.str name, value)

/-- The number of children and the text are as asked for. -/
def FitsInside (element : Value) (items : List Value) (least most : Nat) (hasText : Option Bool) : Prop :=
  (least ≤ items.length ∧ items.length ≤ most) ∧ ∀ wanted ∈ hasText, (element.field "text").truthy = wanted

theorem flat_complexParameters : Json.Flat (complexParameters elementType least most hasText) := by
  refine Json.flat_fields ?_ ?_
  · cases hasText <;> simp [complexFields]
  · cases hasText <;> simp [complexFields, Json.IsPlainScalar, Value.IsText]

/-- A query to the matcher with these parameters in any order, about an element that XML can show. -/
structure IsComplex (q : Query) (elementType : String) (least most : Nat) (hasText : Option Bool) : Prop where
  sheet : q.sheet = .complex
  showable : Showable q.element
  parameters : q.parameters.Perm (complexParameters elementType least most hasText)

theorem IsComplex.sound (isComplex : IsComplex q elementType least most hasText) : q.Sound where
  stock := by simp [isComplex.sheet, stockSheets]
  showable := isComplex.showable
  flat := flat_complexParameters.perm isComplex.parameters

theorem isWritable_of_isContent {s : String} (isContent : Xml.IsContent s) : SheetParameters.isWritable s = true :=
  List.all_eq_true.mpr fun c member => (Bool.and_eq_true_iff.mp (isContent c member)).1

theorem textOf_int (n : Int) : SheetParameters.textOf (.int n) = toString n := rfl

theorem textOf_str (s : String) : SheetParameters.textOf (.str s) = s := rfl

theorem isWritable_textOf_int (n : Int) : SheetParameters.isWritable (SheetParameters.textOf (.int n)) = true :=
  isWritable_of_isContent (Xml.isContent_of_isPlainText (isPlainText_int n))

/-- The texts of the parameters. -/
def complexTexts (elementType : String) (least most : Nat) (hasText : Option Bool) : SheetParameters :=
  (complexFields elementType least most hasText).map fun (name, value) => (name, SheetParameters.textOf value)

theorem ofEntries_writable (isWritable : SheetParameters.isWritable elementType = true) :
    SheetParameters.ofEntries (complexParameters elementType least most hasText) =
      .ok (complexTexts elementType least most hasText) := by
  have truths (b : Bool) : SheetParameters.isWritable (Stylesheet.truthText b) = true := by cases b <;> rfl
  have names : ∀ name ∈ ["elementType", "minChildren", "maxChildren", "hasText"],
      SheetParameters.isWritable name = true := by decide
  refine SheetParameters.ofEntries_named ?_ ?_ ?_
  · cases hasText <;> simp [complexFields, Value.isNull]
  · cases hasText <;> simp [complexFields, names]
  · cases hasText <;> simp [complexFields, textOf_str, isWritable, isWritable_textOf_int, truths]

theorem isBound_complexTexts : ∀ entry ∈ complexTexts elementType least most hasText,
    SheetParameters.isBound entry.1 = true := by
  have names : ∀ name ∈ ["elementType", "minChildren", "maxChildren", "hasText"],
      SheetParameters.isBound name = true := by decide
  cases hasText <;> simp [complexTexts, complexFields, names]

theorem ofEntries_unwritable (unwritable : SheetParameters.isWritable elementType = false) :
    SheetParameters.ofEntries (complexParameters elementType least most hasText) = .error .unwritableText := by
  have refused : SheetParameters.textGiven (.str "elementType", .str elementType) = .error .unwritableText :=
    if_neg (by simpa [SheetParameters.textOf, Value.text] using unwritable)
  simp [SheetParameters.ofEntries, complexParameters, complexFields, Value.isNull, refused, bind, Except.bind]

theorem given_complexTexts : Stylesheet.ComplexGiven (complexTexts elementType least most hasText) elementType least
    most ((hasText.map Stylesheet.truthText).getD "") := by
  cases hasText <;> constructor <;>
    simp [complexTexts, complexFields, textOf_str, textOf_int, List.lookup_cons]

/-- A formatted value is one that XML can hold. -/
theorem isWritable_formatted (showable : Showable element) {label shown : String}
    (isPlain : Xml.Outline.isStructural (.str label) = false) (formatted : element.formatted label = some shown) :
    SheetParameters.isWritable shown = true := by
  cases showable with
  | @mapping entries _ fields _ _ _ _ =>
      have among : Xml.ShowableEntries (Xml.plainFields entries) := fields.filter _
      rw [← Xml.lookup_formatted fields isPlain] at formatted
      exact isWritable_of_isContent (among.areContent _ (mem_of_lookup formatted))

/-- The element is as asked for, up to its type: it may also have none, if XML can hold the one asked for. -/
def ComplexFits (element : Value) (items : List Value) (elementType : String) (least most : Nat)
    (hasText : Option Bool) : Prop :=
  (element.formatted "type" = some elementType ∨
    element.formatted "type" = none ∧ SheetParameters.isWritable elementType = true) ∧
      FitsInside element items least most hasText

theorem textFits_iff (hasText : Option Bool) (present : Bool) :
    (((hasText.map Stylesheet.truthText).getD "" = "true" → present = true) ∧
      ((hasText.map Stylesheet.truthText).getD "" = "false" → present = false)) ↔
        ∀ wanted ∈ hasText, present = wanted := by
  cases hasText with
  | none => simp
  | some wanted => cases wanted <;> simp [Stylesheet.truthText]

theorem HasStock.complexAccepts (stock : HasStock e) (isComplex : IsComplex q elementType least most hasText)
    (someType : elementType ≠ "") :
    ∃ items, q.element.children = .ok items ∧ (e.freshAccepts q.sheet.name q.parameters q.element = true ↔
      ComplexFits q.element items elementType least most hasText) := by
  have showable := isComplex.showable
  have recognised : Stylesheet.ofSource? q.sheet.source = some q.sheet := by
    rw [isComplex.sheet, Stylesheet.ofSource?_complex]
  have given : Stylesheet.ComplexGiven (complexTexts elementType least most hasText) elementType least most _ :=
    given_complexTexts
  obtain ⟨root, written, read, shows, _⟩ := Xml.exists_document showable
  obtain ⟨answer, items, counted, decides, agrees⟩ := Stylesheet.complex_decides shows showable given someType
  refine ⟨items, counted, ?_⟩
  rw [stock.queryAccepts isComplex.sound recognised written read, isComplex.sheet,
    answerOf_perm _ root isComplex.sound.flat.distinct isComplex.parameters]
  cases isWritable : SheetParameters.isWritable elementType with
  | false =>
      rw [ofEntries_unwritable isWritable]
      refine iff_of_false nofun ?_
      rintro ⟨sameType | ⟨_, writable⟩, _⟩
      · rw [isWritable_formatted showable rfl sameType] at isWritable
        cases isWritable
      · rw [writable] at isWritable
        cases isWritable
  | true =>
      have sameType : (∀ actual ∈ q.element.formatted "type", actual = elementType) ↔
          (q.element.formatted "type" = some elementType ∨ q.element.formatted "type" = none ∧
            SheetParameters.isWritable elementType = true) := by
        cases q.element.formatted "type" <;> simp [isWritable]
      rw [ofEntries_writable isWritable, answerOf_bound isBound_complexTexts decides, agrees, sameType, textFits_iff]
      rfl

/-- Whatever matchers of the common templates were asked before, the matcher answers that an element fits exactly if
it has the type asked for, or none, and its children and its text are as asked for. -/
theorem complex_matcher_agrees_iff (base : Engine) (stock : HasStock base) (noEntries : base.cache.entries = [])
    (history : List Query) (sound : ∀ other ∈ history, other.Sound)
    (isComplex : IsComplex q elementType least most hasText) (someType : elementType ≠ "") :
    ∃ answer items, q.element.children = .ok items ∧
      (q.ask.perform (afterQueries history base)).1 = .ok (.bool answer) ∧
        (answer = true ↔ ComplexFits q.element items elementType least most hasText) := by
  obtain ⟨items, counted, accepts⟩ := stock.complexAccepts isComplex someType
  exact ⟨_, items, counted, Query.answered stock noEntries (List.forall_mem_cons.mpr ⟨isComplex.sound, sound⟩), accepts⟩

def complexQuery (element : Value) (elementType : String) (least most : Nat) (hasText : Option Bool) : Query :=
  ⟨.complex, element, complexParameters elementType least most hasText, .bool true⟩

theorem isComplex_complexQuery (showable : Showable element) :
    IsComplex (complexQuery element elementType least most hasText) elementType least most hasText :=
  ⟨rfl, showable, .refl _⟩

/-- The marked title has the type, one child and a text, and what was answered for another type does not matter. -/
theorem complex_matcher_agrees_markedTitle :
    let other := complexQuery Xml.markedTitle "table" 0 9 none
    ((complexQuery Xml.markedTitle "para\ngraph" 1 1 (some true)).ask.perform
      (afterQueries [other] stockEngine)).1 = .ok (.bool true) := by
  intro other
  have isOther : IsComplex other "table" 0 9 none := isComplex_complexQuery Xml.showable_markedTitle
  have isComplex : IsComplex (complexQuery Xml.markedTitle "para\ngraph" 1 1 (some true)) _ 1 1 (some true) :=
    isComplex_complexQuery Xml.showable_markedTitle
  obtain ⟨answer, items, counted, asked, agrees⟩ := complex_matcher_agrees_iff stockEngine (hasStock_setUp rfl) rfl
    [other] (List.forall_mem_singleton.mpr isOther.sound) isComplex (by decide)
  have isTrue : answer = true := by
    cases counted
    refine agrees.mpr ⟨.inl rfl, ⟨Nat.le_refl 1, Nat.le_refl 1⟩, ?_⟩
    rintro wanted ⟨⟩
    rfl
  rw [asked, isTrue]

theorem showable_empty : Showable (.map []) :=
  @Showable.mapping [] [] ⟨nofun, List.nodup_nil, nofun⟩ nofun nofun (.inr ⟨rfl, rfl⟩) nofun

/-- An element without fields is taken for a table. -/
theorem complex_matcher_typeless :
    let q := complexQuery (.map []) "table" 0 9 none
    IsComplex q "table" 0 9 none ∧ q.element.formatted "type" = none ∧
      (q.ask.perform stockEngine).1 = .ok (.bool true) := by
  intro q
  have stock : HasStock stockEngine := hasStock_setUp rfl
  have isComplex : IsComplex q "table" 0 9 none := isComplex_complexQuery showable_empty
  have asked := Query.answered stock rfl (List.forall_mem_singleton.mpr isComplex.sound)
  obtain ⟨items, counted, accepts⟩ := stock.complexAccepts isComplex (by decide)
  cases counted
  have fits : ComplexFits (.map []) [] "table" 0 9 none :=
    ⟨.inr ⟨rfl, by decide⟩, ⟨Nat.le_refl 0, Nat.zero_le 9⟩, nofun⟩
  refine ⟨isComplex, rfl, asked.trans ?_⟩
  rw [accepts.mpr fits]

end Engine

end StyleRules
