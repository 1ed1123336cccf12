import StyleRules.Proofs.Text.Search
import StyleRules.Proofs.Xml.Elements
import StyleRules.Transform.Evaluate

/-!
# What the stylesheets decide

Run over the document of an element, the stylesheet of styles and that of attributes come to the result that a
direct look at the element gives: at its formatted style, and at its formatted entry of the attribute map.
-/

namespace StyleRules

/-! ## Direct predicates -/

/-- The formatted value of a scalar field. -/
def Value.formatted (element : Value) (name : String) : Option String := (element.field name).scalarText?

/-- The formatted style id is the one asked for, or the formatted style name is related to the one asked for as
the way of comparing says. -/
def StyleAgrees (formatted : String → Option String) (styleId styleName matchType : String) : Prop :=
  (styleId ≠ "" ∧ formatted "styleId" = some styleId) ∨
    (styleName ≠ "" ∧ ∃ actual, formatted "styleName" = some actual ∧
      (matchType = "exact" ∧ actual = styleName ∨
        matchType = "startsWith" ∧ styleName.toList <+: actual.toList ∨
          matchType = "contains" ∧ styleName.toList <:+: actual.toList))

/-- The attribute map has a scalar entry of the name with the formatted value asked for. -/
def AttributeAgrees (element : Value) (label shown : String) : Prop :=
  label ≠ "" ∧ ∃ own value, element.field "attributes" = .map own ∧
    Mapping.find? (.str label) own = some value ∧ value.scalarText? = some shown

namespace Xml

/-! ## Looking up formatted values -/

variable {entries : List (Value × Value)}

theorem lookup_scalarTexts (showable : ShowableEntries entries) (label : String) :
    (scalarTexts entries).lookup label =
      (Mapping.find? (.str label) entries).bind Value.scalarText? := by
  induction entries with
  | nil => rfl
  | cons entry others ih =>
      obtain ⟨key, value⟩ := entry
      obtain ⟨name, rfl, _⟩ := showable.labels key List.mem_cons_self
      have further := ih showable.of_cons
      rw [Mapping.find?_cons_str, scalarTexts_cons]
      by_cases same : name = label
      · subst same
        cases isShown : value.scalarText? with
        | some shown => simp [isShown]
        | none =>
            have absent : Value.str name ∉ Mapping.keys others := (List.nodup_cons.mp showable.distinct).1
            rw [Mapping.str_mem_keys_iff, Option.not_isSome_iff_eq_none] at absent
            rw [absent] at further
            simpa [isShown] using further
      · have different : (label == name) = false := by simpa using Ne.symm same
        rw [if_neg (by simpa using same), ← further]
        cases value.scalarText? <;> simp [List.lookup_cons, different]

theorem find?_plainFields {label : String} (isPlain : Outline.isStructural (.str label) = false)
    (entries : List (Value × Value)) :
    Mapping.find? (.str label) (plainFields entries) = Mapping.find? (.str label) entries := by
  induction entries with
  | nil => rfl
  | cons entry others ih =>
      obtain ⟨key, value⟩ := entry
      rw [Mapping.find?_cons_str, ← ih, plainFields, List.filter_cons]
      by_cases same : key = .str label
      · subst same
        simp [isPlain, Mapping.find?_cons_str]
      · have different : ¬key.eq (.str label) = true := by simpa using same
        rw [if_neg different]
        split
        · rw [Mapping.find?_cons_str, if_neg different, plainFields]
        · rfl

/-- The XML attribute of a scalar field is its formatted value. -/
theorem lookup_formatted (showable : ShowableEntries entries) {label : String}
    (isPlain : Outline.isStructural (.str label) = false) :
    (scalarTexts (plainFields entries)).lookup label = (Value.map entries).formatted label := by
  have fields : ShowableEntries (plainFields entries) := showable.filter _
  rw [lookup_scalarTexts fields, find?_plainFields isPlain, Value.formatted, Value.field, Value.field?,
    Mapping.get?]
  cases Mapping.find? (.str label) entries <;> rfl

end Xml

/-! ## Selecting items -/

namespace XPath

open Xml (Node plainly)

variable {attributes : List (String × String)} {content : List Node} {values : Variables}

/-- The root of a document, with plain names. -/
def rootElement (attributes : List (String × String)) (content : List Node) : Node :=
  .element (.plain "element") (plainly attributes) content

theorem filter_isAttribute (distinct : (attributes.map (·.1)).Nodup) (label : String) :
    ((plainly attributes).map fun entry => Item.attribute entry.1 entry.2).filter (Item.isAttribute label) =
      (attributes.lookup label).toList.map (.attribute (.plain label)) := by
  induction attributes with
  | nil => rfl
  | cons entry others ih =>
      obtain ⟨name, value⟩ := entry
      obtain ⟨absent, distinct⟩ := List.nodup_cons.mp distinct
      have further := ih distinct
      rw [plainly, List.map_cons, List.map_cons, List.filter_cons, ← plainly, further, List.lookup_cons]
      by_cases same : name = label
      · subst same
        have noMore : others.lookup name = none := by
          rw [List.lookup_eq_none_iff]
          intro entry member
          have notName : name ≠ entry.1 := fun isName => absent (List.mem_map.mpr ⟨entry, member, isName.symm⟩)
          simpa using notName
        simp [Item.isAttribute, Xml.Name.isPlain, Xml.Name.plain, noMore]
      · have different : (label == name) = false := by simpa using Ne.symm same
        simp [Item.isAttribute, Xml.Name.isPlain, Xml.Name.plain, same, different]

theorem eval_rootAttribute (distinct : (attributes.map (·.1)).Nodup) (label : String) (item : Item) :
    (Stylesheet.rootAttribute label).eval (rootElement attributes content) values item =
      .items ((attributes.lookup label).toList.map (.attribute (.plain label))) := by
  rw [← filter_isAttribute distinct label]
  simp [Stylesheet.rootAttribute, Expr.eval, Object.toItems, Item.childrenNamed, Item.children, rootElement,
    Node.isElement, Xml.Name.isPlain, Xml.Name.plain, Item.attributes, Node.attributes]

end XPath

/-! ## Running the programs -/

namespace Stylesheet

open XPath

variable {attributes : List (String × String)} {content : List Xml.Node}

def truthText (b : Bool) : String := if b then "true" else "false"

theorem value_plain (given : SheetParameters) (root : Xml.Node) (name : String) :
    SheetParameter.value given root ⟨name, none⟩ = .text ((given.lookup name).getD "") := by
  rw [SheetParameter.value]
  cases given.lookup name <;> rfl

theorem value_literal (given : SheetParameters) (root : Xml.Node) (name default : String) :
    SheetParameter.value given root ⟨name, some (.literal default)⟩ =
      .text ((given.lookup name).getD default) := by
  rw [SheetParameter.value]
  cases given.lookup name <;> rfl

theorem holds_equal_texts (s t : String) : Relation.equal.holds (.text s) (.text t) = decide (s = t) := rfl

/-- Items equal a text when the text of one of them is this text. -/
theorem holds_equal_items (found : List Item) (s : String) :
    Relation.equal.holds (.items found) (.text s) = true ↔ ∃ item ∈ found, item.text = s := by
  have plain (item : Item) : Relation.equal.ofPlain (.text item.text) (.text s) = true ↔ item.text = s :=
    decide_eq_true_iff
  simp [Relation.holds, plain]

theorem holds_equal_attribute (name : Xml.Name) (found : Option String) (s : String) :
    Relation.equal.holds (.items (found.toList.map (.attribute name))) (.text s) = decide (found = some s) := by
  rw [Bool.eq_iff_iff, holds_equal_items, decide_eq_true_iff]
  cases found <;> simp [Item.text]

theorem toText_attribute (name : Xml.Name) (found : Option String) :
    Object.toText (.items (found.toList.map (.attribute name))) = found.getD "" := by
  cases found <;> rfl

/-- A missing style name is compared like an empty one, which no other name agrees with. -/
theorem styleAgrees_iff (formatted : String → Option String) (styleId styleName matchType : String) :
    StyleAgrees formatted styleId styleName matchType ↔
      (styleId ≠ "" ∧ formatted "styleId" = some styleId) ∨ (styleName ≠ "" ∧
        (matchType = "contains" ∧ Text.occursIn styleName ((formatted "styleName").getD "") = true ∨
          matchType = "startsWith" ∧ Text.startsWith ((formatted "styleName").getD "") styleName = true ∨
            matchType = "exact" ∧ formatted "styleName" = some styleName)) := by
  rw [StyleAgrees]
  refine or_congr_right (and_congr_right fun someName => ?_)
  cases formatted "styleName" with
  | some actual =>
      simp only [Option.some.injEq, exists_eq_left', Option.getD_some, Text.occursIn_iff, Text.startsWith_iff]
      tauto
  | none =>
      have someChars : styleName.toList ≠ [] := by simpa using someName
      simp [Text.occursIn_iff, Text.startsWith_iff, someChars]

/-- The stylesheet of styles decides by two attributes of the root. -/
theorem resultText_style (distinct : (attributes.map (·.1)).Nodup) (given : SheetParameters) :
    ∃ answer, Stylesheet.style.resultText (rootElement attributes content) given = truthText answer ∧
      (answer = true ↔ StyleAgrees (fun label => attributes.lookup label)
        ((given.lookup "styleId").getD "") ((given.lookup "styleName").getD "")
        ((given.lookup "matchType").getD "exact")) := by
  generalize isId : (given.lookup "styleId").getD "" = styleId
  generalize isName : (given.lookup "styleName").getD "" = styleName
  generalize isType : (given.lookup "matchType").getD "exact" = matchType
  have evaluated : Stylesheet.style.resultText (rootElement attributes content) given =
      if styleId ≠ "" ∧ attributes.lookup "styleId" = some styleId then "true"
      else if styleName = "" then "false"
      else if matchType = "contains" ∧
          Text.occursIn styleName ((attributes.lookup "styleName").getD "") = true then "true"
      else if matchType = "startsWith" ∧
          Text.startsWith ((attributes.lookup "styleName").getD "") styleName = true then "true"
      else if matchType = "exact" ∧ attributes.lookup "styleName" = some styleName then "true"
      else "false" := by
    simp only [resultText, program, styleProgram, SheetProgram.run, Instructions.run, Cases.run,
      ResultContent.run, Expr.eval, eval_rootAttribute distinct, toText_attribute, List.map_cons, List.map_nil,
      value_plain, value_literal, isId, isName, isType]
    simp [List.lookup_cons, Object.toTruth, Object.toText, holds_equal_texts, holds_equal_attribute]
  rw [evaluated, styleAgrees_iff]
  split_ifs with byId noName contains starts exact
  · exact ⟨true, rfl, by simp [byId]⟩
  · exact ⟨false, rfl, by simp [byId, noName]⟩
  · exact ⟨true, rfl, by simp [noName, contains]⟩
  · exact ⟨true, rfl, by simp [noName, starts]⟩
  · exact ⟨true, rfl, by simp [noName, exact]⟩
  · exact ⟨false, rfl, by simp [byId, noName, contains, starts, exact]⟩

/-- The element `attributes` inside the root has these attributes; without any it may be missing. -/
def ShowsMap (content : List Xml.Node) (own : List (String × String)) : Prop :=
  content.filter (Xml.Node.isElement "attributes") = [.element (.plain "attributes") (Xml.plainly own) []] ∨
    content.filter (Xml.Node.isElement "attributes") = [] ∧ own = []

theorem eval_entriesAskedFor {own : List (String × String)} (shows : ShowsMap content own) {values : Variables}
    {label : String} (isLabel : values.lookup "attribute" = some (.text label)) (item : Item) :
    entriesAskedFor.eval (rootElement attributes content) values item =
      .items ((own.filter (·.1 = label)).map fun entry => .attribute (.plain entry.1) entry.2) := by
  have maps : (Expr.child (.child .document "element") "attributes").eval (rootElement attributes content)
      values item = .items ((content.filter (Xml.Node.isElement "attributes")).map .node) := by
    simp [Expr.eval, Object.toItems, Item.childrenNamed, Item.children, rootElement, Xml.Node.isElement,
      Xml.Name.isPlain, Xml.Name.plain, Xml.Node.content]
  rw [entriesAskedFor, Expr.eval, maps]
  simp only [Object.toItems, Expr.eval, isLabel, Option.getD_some, holds_equal_texts, Object.toTruth]
  rcases shows with shown | ⟨missing, noEntries⟩
  · rw [shown]
    simp [Item.attributes, Xml.Node.attributes, Xml.plainly, List.filter_map, Function.comp_def, Item.name,
      Xml.Name.plain]
    rfl
  · rw [missing, noEntries]
    rfl

/-- The stylesheet of attributes looks for an entry of the element `attributes`. -/
theorem resultText_attribute {own : List (String × String)} (shows : ShowsMap content own)
    (given : SheetParameters) :
    ∃ answer, Stylesheet.attribute.resultText (rootElement attributes content) given = truthText answer ∧
      (answer = true ↔ (given.lookup "attribute").getD "" ≠ "" ∧
        ((given.lookup "attribute").getD "", (given.lookup "value").getD "") ∈ own) := by
  generalize isLabel : (given.lookup "attribute").getD "" = label
  generalize isValue : (given.lookup "value").getD "" = shown
  have evaluated : Stylesheet.attribute.resultText (rootElement attributes content) given =
      if label ≠ "" ∧ (label, shown) ∈ own then "true" else "false" := by
    have isAsked : List.lookup "attribute" [("attribute", Object.text label), ("value", Object.text shown)] =
        some (.text label) := rfl
    have isEntry : Relation.equal.holds
        (.items ((own.filter (·.1 = label)).map fun entry => .attribute (.plain entry.1) entry.2))
        (.text shown) = true ↔ (label, shown) ∈ own := by
      rw [holds_equal_items]
      constructor
      · rintro ⟨item, member, isShown⟩
        obtain ⟨⟨name, value⟩, inOwn, rfl⟩ := List.mem_map.mp member
        obtain ⟨inOwn, isName⟩ := List.mem_filter.mp inOwn
        have sameName : name = label := of_decide_eq_true isName
        have sameValue : value = shown := isShown
        exact sameName ▸ sameValue ▸ inOwn
      · intro member
        exact ⟨_, List.mem_map_of_mem (List.mem_filter.mpr ⟨member, decide_eq_true rfl⟩), rfl⟩
    simp only [resultText, program, attributeProgram, SheetProgram.run, Instructions.run, Cases.run,
      ResultContent.run, Expr.eval, List.map_cons, List.map_nil, value_plain, isLabel, isValue,
      eval_entriesAskedFor shows isAsked]
    simp [List.lookup_cons, Object.toTruth, isEntry]
  rw [evaluated]
  split_ifs with holds
  · exact ⟨true, rfl, by simp [holds]⟩
  · exact ⟨false, rfl, by simpa using holds⟩

/-! ## Elements -/

open Xml (Shows Showable)

variable {element : Value} {root : Xml.Node}

/-- Over the document of an element, the stylesheet of styles decides by the element's formatted style. -/
theorem style_decides (shows : Shows root element) (showable : Showable element) (given : SheetParameters) :
    ∃ answer, Stylesheet.style.resultText root given = truthText answer ∧
      (answer = true ↔ StyleAgrees element.formatted ((given.lookup "styleId").getD "")
        ((given.lookup "styleName").getD "") ((given.lookup "matchType").getD "exact")) := by
  cases shows with
  | @element entries children nodes areChildren each =>
      cases showable with
      | mapping fields attributes text _ _ =>
          have shown : Xml.ShowableEntries (Xml.plainFields entries) := fields.filter _
          obtain ⟨answer, isResult, isAnswer⟩ := resultText_style shown.nodup_scalarTexts given
          refine ⟨answer, isResult, ?_⟩
          rw [isAnswer, StyleAgrees, StyleAgrees, Xml.lookup_formatted fields rfl,
            Xml.lookup_formatted fields rfl]

theorem lookup_eq_some_iff_mem {entries : List (String × String)} (distinct : (entries.map (·.1)).Nodup)
    {label shown : String} : entries.lookup label = some shown ↔ (label, shown) ∈ entries := by
  refine ⟨mem_of_lookup, fun member => ?_⟩
  obtain ⟨before, after, rfl⟩ := List.append_of_mem member
  refine List.lookup_eq_some_iff.mpr ⟨before, after, rfl, ?_⟩
  rw [List.map_append, List.nodup_append] at distinct
  intro entry isBefore
  have different := distinct.2.2 entry.1 (List.mem_map_of_mem isBefore) label (by simp)
  simpa using Ne.symm different

/-- The scalar entries of an attribute map with their formatted values; other values have none. -/
def mapTexts : Value → List (String × String)
  | .map own => Xml.scalarTexts own
  | _ => []

theorem attributeAgrees_iff (showable : Showable element) (label shown : String) :
    AttributeAgrees element label shown ↔
      label ≠ "" ∧ (label, shown) ∈ mapTexts (element.field "attributes") := by
  rw [AttributeAgrees]
  refine and_congr_right fun _ => ?_
  cases showable with
  | @mapping entries _ fields attributes text _ _ =>
      cases isMap : (Value.map entries).field "attributes" with
      | map own =>
          have ownShowable := attributes own isMap
          rw [mapTexts, ← lookup_eq_some_iff_mem ownShowable.nodup_scalarTexts,
            Xml.lookup_scalarTexts ownShowable, Option.bind_eq_some_iff]
          simp
      | _ => simp [mapTexts]

theorem showsMap_parts (attributes text : Value) (nodes : List Xml.Node) :
    ShowsMap (Xml.attributesPart attributes ++ Xml.textPart text ++ Xml.childrenPart nodes)
      (mapTexts attributes) := by
  have noOthers : (Xml.textPart text ++ Xml.childrenPart nodes).filter (Xml.Node.isElement "attributes") =
      [] := by
    rw [Xml.textPart, Xml.childrenPart]
    split <;> split <;> simp [Xml.textElement, Xml.Node.isElement, Xml.Name.isPlain, Xml.Name.plain]
  rw [ShowsMap, List.append_assoc, List.filter_append, noOthers, List.append_nil]
  cases attributes with
  | map own =>
      cases own with
      | nil => exact Or.inr ⟨rfl, rfl⟩
      | cons entry others => exact Or.inl rfl
  | _ => exact Or.inr ⟨rfl, rfl⟩

/-- Over the document of an element, the stylesheet of attributes decides by the element's attribute map. -/
theorem attribute_decides (shows : Shows root element) (showable : Showable element)
    (given : SheetParameters) :
    ∃ answer, Stylesheet.attribute.resultText root given = truthText answer ∧
      (answer = true ↔ AttributeAgrees element ((given.lookup "attribute").getD "")
        ((given.lookup "value").getD "")) := by
  simp only [attributeAgrees_iff showable]
  cases shows with
  | element areChildren each => exact resultText_attribute (showsMap_parts _ _ _) given

/-! ## Recognising stylesheets -/

/-- The first lines of a stylesheet: the opening tag and the first parameter. -/
theorem toList_written {program : SheetProgram} {parameter : SheetParameter} {others : List SheetParameter}
    (parameters : program.parameters = parameter :: others) :
    ∃ rest, program.written.toList = (SheetLine.indented (0,
      "<xsl:stylesheet version=\"1.0\" xmlns:xsl=\"http://www.w3.org/1999/XSL/Transform\">")).toList ++
        (parameter.line.indented.toList ++ rest) := by
  rw [SheetProgram.written, SheetProgram.lines, parameters, String.toList_join]
  exact ⟨_, by simp [List.flatMap_append]; rfl⟩

theorem written_ne {first second : SheetProgram} {parameter other : SheetParameter}
    {others more : List SheetParameter} (parameters : first.parameters = parameter :: others)
    (otherParameters : second.parameters = other :: more) {n : Nat}
    (long : n ≤ parameter.line.indented.toList.length ∧ n ≤ other.line.indented.toList.length)
    (different : parameter.line.indented.toList.take n ≠ other.line.indented.toList.take n) :
    first.written ≠ second.written := by
  intro same
  obtain ⟨rest, spelled⟩ := toList_written parameters
  obtain ⟨rest', spelled'⟩ := toList_written otherParameters
  rw [same, spelled'] at spelled
  have cut := congrArg (List.take n) (List.append_cancel_left spelled)
  rw [List.take_append_of_le_length long.1, List.take_append_of_le_length long.2] at cut
  exact different cut.symm

theorem ofSource?_style : ofSource? Stylesheet.style.source = some .style := by
  simp [ofSource?, all]

theorem ofSource?_attribute : ofSource? Stylesheet.attribute.source = some .attribute := by
  have notStyle : Stylesheet.style.source ≠ Stylesheet.attribute.source :=
    written_ne rfl rfl (n := 22) (by decide) (by decide)
  have notComplex : Stylesheet.complex.source ≠ Stylesheet.attribute.source :=
    written_ne rfl rfl (n := 22) (by decide) (by decide)
  simp [ofSource?, all, notStyle, notComplex]
end Stylesheet

end StyleRules
