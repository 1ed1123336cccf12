import StyleRules.Proofs.Element.Walking
import StyleRules.Proofs.Value.ScalarText
import StyleRules.Proofs.Xml.ReadBack
import StyleRules.Xml.Document

/-!
# The document of an element, read back

An element is written as a document that shows its scalar fields, its attribute map, its text and its children.
Reading the document gives exactly this tree back, whatever characters the values hold: nothing of it is lost
or reordered, and nothing is added.  The names have to be plain names, and the texts ones that XML can hold.
-/

namespace StyleRules.Xml

/-! ## Elements that XML can show -/

/-- A mapping with plain names and with texts that XML can hold. -/
structure ShowableEntries (entries : List (Value × Value)) : Prop where
  labels : ∀ key ∈ Mapping.keys entries, ∃ label, key = .str label ∧ IsLabel label
  distinct : (Mapping.keys entries).Nodup
  content : ∀ key s, (key, Value.str s) ∈ entries → IsContent s

/-- The items of a field of children: those of a list, and none when the field counts as false. -/
def AreChildren (children : Value) (items : List Value) : Prop :=
  children = .list items ∨ children.truthy = false ∧ items = []

/-- A tree of mappings with plain names, with texts that XML can hold. -/
inductive Showable : Value → Prop
  | mapping {entries : List (Value × Value)} {children : List Value} (fields : ShowableEntries entries)
      (attributes : ∀ own, (Value.map entries).field "attributes" = .map own → ShowableEntries own)
      (text : ((Value.map entries).field "text").truthy = true →
        IsContent ((Value.map entries).field "text").text)
      (areChildren : AreChildren ((Value.map entries).field "children") children)
      (each : ∀ child ∈ children, Showable child) : Showable (.map entries)

/-! ## What their documents show -/

/-- The entries with scalar values in order, each with its formatted value. -/
def scalarTexts (entries : List (Value × Value)) : List (String × String) :=
  entries.filterMap fun (name, value) => value.scalarText?.map fun shown => (name.text, shown)

/-- The entries of an element other than its children, its text and its attribute map. -/
def plainFields (entries : List (Value × Value)) : List (Value × Value) :=
  entries.filter fun entry => !Outline.isStructural entry.1

/-- A part for the attribute map, when it is a mapping with entries. -/
def attributesPart : Value → List Node
  | .map (entry :: others) => [.element (.plain "attributes") (plainly (scalarTexts (entry :: others))) []]
  | _ => []

/-- A part for the text, when it counts as true. -/
def textPart (text : Value) : List Node := if text.truthy then [textElement "text" text.text] else []

/-- A part for the children, when there are any. -/
def childrenPart (children : List Node) : List Node :=
  if children.isEmpty then [] else [.element (.plain "children") [] children]

/-- The tree shows the element: an XML element for it, and for all of its children in order. -/
inductive Shows : Node → Value → Prop
  | element {entries : List (Value × Value)} {children : List Value} {nodes : List Node}
      (areChildren : AreChildren ((Value.map entries).field "children") children)
      (each : List.Forall₂ Shows nodes children) :
      Shows (.element (.plain "element") (plainly (scalarTexts (plainFields entries)))
        (attributesPart ((Value.map entries).field "attributes") ++
          textPart ((Value.map entries).field "text") ++ childrenPart nodes)) (.map entries)

/-! ## Formatted values -/

theorem isContent_of_isPlainText {s : String} (plain : IsPlainText s) : IsContent s := by
  intro c member
  obtain ⟨above, below⟩ := plain c member
  exact isContentChar_of_bounds above (by omega)

theorem isContent_scalarText {v : Value} {shown : String} (isShown : v.scalarText? = some shown)
    (isContent : ∀ s, v = .str s → IsContent s) : IsContent shown := by
  cases v with
  | bool b =>
      cases isShown
      cases b <;> exact isContent_of_isPlainText (by decide)
  | int n =>
      cases isShown
      exact isContent_of_isPlainText (isPlainText_int n)
  | float x =>
      cases isShown
      have plain : IsPlainText "nan" ∧ IsPlainText "inf" := by decide
      exact isContent_of_isPlainText (Decimal.isPlainText_floatText plain.1 plain.2 x)
  | str s =>
      cases isShown
      exact isContent _ rfl
  | _ => cases isShown

theorem scalarTexts_cons (label : String) (value : Value) (others : List (Value × Value)) :
    scalarTexts ((.str label, value) :: others) =
      (value.scalarText?.map fun shown => (label, shown)).toList ++ scalarTexts others := by
  cases isShown : value.scalarText? <;> simp [scalarTexts, isShown, Value.text]

namespace ShowableEntries

variable {entries : List (Value × Value)}

theorem of_cons {entry : Value × Value} (showable : ShowableEntries (entry :: entries)) :
    ShowableEntries entries :=
  ⟨fun key member => showable.labels key (List.mem_cons_of_mem _ member), showable.distinct.of_cons,
    fun key s member => showable.content key s (List.mem_cons_of_mem _ member)⟩

theorem filter (showable : ShowableEntries entries) (p : Value × Value → Bool) :
    ShowableEntries (entries.filter p) := by
  have sublist : List.Sublist (entries.filter p) entries := List.filter_sublist
  exact ⟨fun key member => showable.labels key ((sublist.map _).subset member),
    (sublist.map _).nodup showable.distinct,
    fun key s member => showable.content key s (sublist.subset member)⟩

theorem of_mem_scalarTexts (showable : ShowableEntries entries) {label shown : String}
    (member : (label, shown) ∈ scalarTexts entries) :
    ∃ value, (Value.str label, value) ∈ entries ∧ value.scalarText? = some shown ∧ IsLabel label := by
  obtain ⟨⟨key, value⟩, isEntry, shows⟩ := List.mem_filterMap.mp member
  obtain ⟨_, isShown, same⟩ := Option.map_eq_some_iff.mp shows
  obtain ⟨name, isKey, isLabel⟩ := showable.labels key (List.mem_map_of_mem isEntry)
  cases isKey
  cases same
  exact ⟨value, isEntry, isShown, isLabel⟩

theorem areLabels (showable : ShowableEntries entries) :
    ∀ entry ∈ scalarTexts entries, IsLabel entry.1 := by
  intro entry member
  obtain ⟨_, _, _, isLabel⟩ := showable.of_mem_scalarTexts member
  exact isLabel

theorem areContent (showable : ShowableEntries entries) :
    ∀ entry ∈ scalarTexts entries, IsContent entry.2 := by
  intro entry member
  obtain ⟨value, isEntry, isShown, _⟩ := showable.of_mem_scalarTexts member
  exact isContent_scalarText isShown fun s isText => showable.content _ s (isText ▸ isEntry)

theorem nodup_scalarTexts (showable : ShowableEntries entries) :
    ((scalarTexts entries).map (·.1)).Nodup := by
  induction entries with
  | nil => exact List.nodup_nil
  | cons entry others ih =>
      obtain ⟨key, value⟩ := entry
      obtain ⟨label, rfl, _⟩ := showable.labels key List.mem_cons_self
      have further := ih showable.of_cons
      rw [scalarTexts_cons]
      cases value.scalarText? with
      | none => exact further
      | some shown =>
          rw [Option.map_some, Option.toList_some, List.singleton_append, List.map_cons, List.nodup_cons]
          refine ⟨?_, further⟩
          intro member
          obtain ⟨⟨_, _⟩, isOther, rfl⟩ := List.mem_map.mp member
          obtain ⟨_, isEntry, _⟩ := showable.of_cons.of_mem_scalarTexts isOther
          exact (List.nodup_cons.mp showable.distinct).1 (List.mem_map.mpr ⟨_, isEntry, rfl⟩)

/-- The element for a mapping: its scalar entries are attributes that are read back. -/
theorem readable (showable : ShowableEntries entries) {label : String} (isLabel : IsLabel label)
    {content : List Node} (each : ∀ node ∈ content, Readable node) (apart : content.IsChain Apart) :
    Readable (.element (.plain label) (plainly (scalarTexts entries)) content) :=
  .element isLabel showable.areLabels showable.areContent showable.nodup_scalarTexts each apart

end ShowableEntries

/-- The texts among the values of fields. -/
def textValues (fields : List (String × Value)) : List String :=
  fields.filterMap fun field =>
    match field.2 with
    | .str s => some s
    | _ => none

theorem showableEntries_fields {fields : List (String × Value)} (areLabels : ∀ field ∈ fields, IsLabel field.1)
    (distinct : (fields.map (·.1)).Nodup) (content : ∀ s ∈ textValues fields, IsContent s) :
    ShowableEntries (fields.map fun (name, value) => (.str name, value)) := by
  have keys : Mapping.keys (fields.map fun (name, value) => (Value.str name, value)) =
      (fields.map (·.1)).map .str := by
    rw [Mapping.keys, List.map_map, List.map_map]
    rfl
  refine ⟨?_, ?_, ?_⟩
  · rw [keys]
    intro key member
    obtain ⟨name, isName, rfl⟩ := List.mem_map.mp member
    obtain ⟨field, isField, rfl⟩ := List.mem_map.mp isName
    exact ⟨_, rfl, areLabels field isField⟩
  · rw [keys]
    exact distinct.map fun first second same => Value.str.inj same
  · intro key s member
    obtain ⟨⟨name, value⟩, isField, same⟩ := List.mem_map.mp member
    cases same
    exact content s (List.mem_filterMap.mpr ⟨_, isField, rfl⟩)

/-! ## From outlines to nodes -/

theorem labelAll_texts {entries : List (String × String)} (areLabels : ∀ entry ∈ entries, IsLabel entry.1) :
    Spaces.labelAll [] (entries.map fun (name, shown) => (.str name, shown)) =
      .ok (plainly entries, []) := by
  induction entries with
  | nil => rfl
  | cons entry others ih =>
      obtain ⟨name, shown⟩ := entry
      obtain ⟨isLabel, further⟩ := List.forall_mem_cons.mp areLabels
      obtain ⟨first, rest, spelled, starts, _⟩ := isLabel.exists_cons
      have labelled : Spaces.label [] (.str name) = .ok (name, []) := by
        have notBrace := ne_of_isNameStart starts '\x7b' rfl
        rw [Spaces.label, Spaces.textLabel, spelled]
        split
        · rename_i same
          exact absurd (List.cons.inj same).1 notBrace
        · rfl
      rw [List.map_cons, Spaces.labelAll, labelled]
      simp only [bind, Except.bind, ih further]
      rfl

theorem scalarFields_eq {entries : List (Value × Value)} (showable : ShowableEntries entries) :
    Outline.scalarFields entries =
      (scalarTexts (plainFields entries)).map fun (name, shown) => (.str name, shown) := by
  induction entries with
  | nil => rfl
  | cons entry others ih =>
      obtain ⟨key, value⟩ := entry
      obtain ⟨label, rfl, _⟩ := showable.labels key List.mem_cons_self
      have further := ih showable.of_cons
      rw [Outline.scalarFields, plainFields, scalarTexts] at further ⊢
      by_cases structural : Outline.isStructural (.str label) = true
      · simpa [structural] using further
      · cases isShown : value.scalarText? with
        | none => simpa [structural, isShown] using further
        | some shown => simpa [structural, isShown, Value.text] using further

theorem setText_new {name shown : String} {texts : List (String × String)}
    (isNew : name ∉ texts.map (·.1)) :
    Outline.setText name shown texts = texts ++ [(name, shown)] := by
  induction texts with
  | nil => rfl
  | cons entry others ih =>
      rw [List.map_cons, List.mem_cons, not_or] at isNew
      rw [Outline.setText, if_neg (Ne.symm isNew.1), ih isNew.2]
      rfl

theorem foldl_setText {entries : List (Value × Value)} (showable : ShowableEntries entries)
    (before : List (String × String))
    (areNew : ∀ label, Value.str label ∈ Mapping.keys entries → label ∉ before.map (·.1)) :
    entries.foldl (fun shown (name, value) =>
      match value.scalarText? with
      | some text => Outline.setText name.text text shown
      | none => shown) before = before ++ scalarTexts entries := by
  induction entries generalizing before with
  | nil => simp [scalarTexts]
  | cons entry others ih =>
      obtain ⟨key, value⟩ := entry
      obtain ⟨label, rfl, _⟩ := showable.labels key List.mem_cons_self
      have notLater := (List.nodup_cons.mp showable.distinct).1
      rw [List.foldl_cons]
      cases isShown : value.scalarText? with
      | none =>
          simp only [isShown]
          rw [ih showable.of_cons before fun name member => areNew name (List.mem_cons_of_mem _ member)]
          simp [scalarTexts, isShown]
      | some shown =>
          -- The name of this entry is new, and the later names stay new behind it.
          simp only [isShown]
          rw [Value.text, setText_new (areNew label List.mem_cons_self), ih showable.of_cons]
          · simp [scalarTexts, isShown, Value.text]
          · intro name member inBefore
            rw [List.map_append, List.mem_append] at inBefore
            rcases inBefore with inBefore | isLabel
            · exact areNew name (List.mem_cons_of_mem _ member) inBefore
            · have same : name = label := by simpa using isLabel
              exact notLater (same ▸ member)

/-- The names of an attribute map are different, so every scalar entry is shown at its place. -/
theorem attributeTexts_eq {entry : Value × Value} {others : List (Value × Value)}
    (showable : ShowableEntries (entry :: others)) :
    Outline.attributeTexts (.map (entry :: others)) = some (scalarTexts (entry :: others)) :=
  congrArg some (foldl_setText showable [] (by simp))

theorem isLabel_parts : IsLabel "element" ∧ IsLabel "attributes" ∧ IsLabel "text" ∧ IsLabel "children" := by
  decide

theorem attributesNode_eq {attributes : Value}
    (showable : ∀ own, attributes = .map own → ShowableEntries own) :
    Outline.attributesNode [] (Outline.attributeTexts attributes) = .ok (attributesPart attributes, []) := by
  cases attributes with
  | map own =>
      cases own with
      | nil => rfl
      | cons entry others =>
          have shown := showable _ rfl
          rw [attributeTexts_eq shown, Outline.attributesNode, labelAll_texts shown.areLabels]
          rfl
  | _ => rfl

theorem toList_shownText (text : Value) :
    ((Outline.shownText text).map (textElement "text")).toList = textPart text := by
  rw [Outline.shownText, textPart]
  split <;> rfl

/-! ## The parts of an element -/

theorem isChain_of_elements {content : List Node} (elements : ∀ node ∈ content, node.isText = false) :
    content.IsChain Apart := by
  induction content with
  | nil => exact .nil
  | cons node others ih =>
      obtain ⟨first, further⟩ := List.forall_mem_cons.mp elements
      cases others with
      | nil => exact .singleton node
      | cons next more =>
          refine List.isChain_cons_cons.mpr ⟨?_, ih further⟩
          rw [Apart, first]
          rfl

theorem readable_bare {label : String} {content : List Node} (isLabel : IsLabel label)
    (each : ∀ node ∈ content, Readable node) (apart : content.IsChain Apart) :
    Readable (.element (.plain label) [] content) :=
  @Readable.element label [] content isLabel (by simp) (by simp) (by simp) each apart

/-- Nodes that are read back, none of which is a text. -/
def ReadableElements (nodes : List Node) : Prop := ∀ node ∈ nodes, Readable node ∧ node.isText = false

theorem ReadableElements.append {first second : List Node} (areFirst : ReadableElements first)
    (areSecond : ReadableElements second) : ReadableElements (first ++ second) :=
  List.forall_mem_append.mpr ⟨areFirst, areSecond⟩

theorem ReadableElements.singleton {name : Name} {attributes : List (Name × String)} {content : List Node}
    (readable : Readable (.element name attributes content)) :
    ReadableElements [.element name attributes content] :=
  List.forall_mem_singleton.mpr ⟨readable, rfl⟩

theorem ReadableElements.inside {nodes : List Node} (readable : ReadableElements nodes) {label : String}
    (isLabel : IsLabel label) : Readable (.element (.plain label) [] nodes) :=
  readable_bare isLabel (fun node member => (readable node member).1)
    (isChain_of_elements fun node member => (readable node member).2)

theorem readable_attributesPart {attributes : Value}
    (showable : ∀ own, attributes = .map own → ShowableEntries own) :
    ReadableElements (attributesPart attributes) := by
  cases attributes with
  | map own =>
      cases own with
      | nil => simp [attributesPart, ReadableElements]
      | cons entry others =>
          exact .singleton ((showable _ rfl).readable isLabel_parts.2.1 (by simp) .nil)
  | _ => simp [attributesPart, ReadableElements]

theorem readable_textPart {text : Value} (isContent : text.truthy = true → IsContent text.text) :
    ReadableElements (textPart text) := by
  rw [textPart]
  by_cases isTrue : text.truthy = true
  · rw [if_pos isTrue]
    refine .singleton (readable_bare isLabel_parts.2.2.1 ?_ ?_)
    · intro node member
      split at member
      · cases member
      · rename_i notEmpty
        rw [List.mem_singleton.mp member]
        exact .text (by simpa using notEmpty) (isContent isTrue)
    · split
      · exact .nil
      · exact .singleton _
  · rw [if_neg isTrue]
    simp [ReadableElements]

theorem readable_childrenPart {nodes : List Node} (readable : ReadableElements nodes) :
    ReadableElements (childrenPart nodes) := by
  rw [childrenPart]
  split
  · simp [ReadableElements]
  · exact .singleton (readable.inside isLabel_parts.2.2.2)

/-! ## The whole tree -/

theorem AreChildren.ofChildren {children : Value} {items : List Value}
    (areChildren : AreChildren children items) :
    Tree.ofChildren children = Tree.ofItems items := by
  rcases areChildren with rfl | ⟨isFalse, rfl⟩
  · rw [Tree.ofChildren]
  · cases children with
    | list items =>
        cases items with
        | nil => rfl
        | cons item others => cases isFalse
    | map entries =>
        cases entries with
        | nil => rfl
        | cons entry others => cases isFalse
    | _ =>
        rw [Tree.ofChildren, Value.childrenOf, isFalse] <;> first | rfl | (intros; contradiction)

/-- The element is written as a node that shows it and is read back. -/
def Written (element : Value) (node : Node) : Prop :=
  ∃ outline, Outline.ofElement element = .ok outline ∧ outline.toNode [] = .ok (node, []) ∧
    Shows node element ∧ Readable node

theorem exists_written_items {children : List Value} (each : ∀ child ∈ children, ∃ node, Written child node) :
    ∃ trees outlines nodes, Tree.ofItems children = .ok trees ∧ Outline.ofTrees trees = .ok outlines ∧
      Outline.toNodes [] outlines = .ok (nodes, []) ∧ List.Forall₂ Shows nodes children ∧
        ReadableElements nodes := by
  induction children with
  | nil => exact ⟨[], [], [], rfl, rfl, rfl, .nil, by simp [ReadableElements]⟩
  | cons child others ih =>
      obtain ⟨⟨node, outline, made, isNode, shows, readable⟩, further⟩ := List.forall_mem_cons.mp each
      obtain ⟨trees, outlines, nodes, grown, outlined, areNodes, shown, areReadable⟩ := ih further
      obtain ⟨tree, isTree, isOutline⟩ := Outcome.bind_ok made
      refine ⟨tree :: trees, outline :: outlines, node :: nodes, ?_, ?_, ?_, .cons shows shown, ?_⟩
      · rw [Tree.ofItems, isTree]
        simp only [bind, Except.bind, grown]
        rfl
      · rw [Outline.ofTrees, isOutline]
        simp only [bind, Except.bind, outlined]
        rfl
      · rw [Outline.toNodes, isNode]
        simp only [bind, Except.bind, areNodes]
        rfl
      · refine List.forall_mem_cons.mpr ⟨⟨readable, ?_⟩, areReadable⟩
        cases shows
        rfl

theorem exists_written {element : Value} (showable : Showable element) : ∃ node, Written element node := by
  induction showable with
  | @mapping entries children fields attributes text areChildren _ ih =>
      obtain ⟨trees, outlines, nodes, grown, outlined, areNodes, shown, areReadable⟩ :=
        exists_written_items ih
      have plain : ShowableEntries (plainFields entries) := fields.filter _
      refine ⟨_, .node (Outline.scalarFields entries)
        (Outline.attributeTexts ((Value.map entries).field "attributes"))
        (Outline.shownText ((Value.map entries).field "text")) outlines, ?_, ?_, .element areChildren shown, ?_⟩
      · rw [Outline.ofElement, Tree.ofElement_eq_ofChildren, areChildren.ofChildren, grown]
        simp only [bind, Except.bind, pure, Except.pure, Outline.ofTree, Value.publicFields, outlined]
      · have fieldTexts := labelAll_texts plain.areLabels
        rw [← scalarFields_eq fields] at fieldTexts
        rw [Outline.toNode, fieldTexts]
        simp only [bind, Except.bind, attributesNode_eq attributes, areNodes, toList_shownText]
        rfl
      · have parts := ((readable_attributesPart attributes).append (readable_textPart text)).append
          (readable_childrenPart areReadable)
        exact plain.readable isLabel_parts.1 (fun node member => (parts node member).1)
          (isChain_of_elements fun node member => (parts node member).2)

/-- Where no namespace is in use, the root declares none. -/
theorem document_of_toNode {outline : Outline} {name : Name} {attributes : List (Name × String)} {content : List Node}
    (made : outline.toNode [] = .ok (.element name attributes content, [])) :
    outline.document = .ok (.element name attributes content) := by
  have noSpaces : Spaces.declarations [] = [] := by simp [Spaces.declarations]
  rw [Outline.document, made]
  simp only [bind, Except.bind, noSpaces]
  rfl

theorem ofElement_of_document {element : Value} {outline : Outline} {root : Node}
    (isOutline : Outline.ofElement element = .ok outline) (isRoot : outline.document = .ok root) :
    ofElement element = .ok root.write := by
  rw [ofElement, isOutline]
  simp only [bind, Except.bind, isRoot]
  rfl

/-- The document of an element is written from a tree that shows the element, and is read back as this tree. -/
theorem exists_document {element : Value} (showable : Showable element) :
    ∃ root : Node, ofElement element = .ok root.write ∧ read? root.write = some root ∧
      Shows root element ∧ Readable root ∧ root.isText = false := by
  obtain ⟨root, outline, made, isRoot, shows, readable⟩ := exists_written showable
  cases shows with
  | element areChildren each =>
      exact ⟨_, ofElement_of_document made (document_of_toNode isRoot), read?_write readable,
        .element areChildren each, readable, rfl⟩

/-- The document of an element that XML can show is read back as a tree that shows the element. -/
theorem document_shows {element : Value} (showable : Showable element) :
    ∃ document root, ofElement element = .ok document ∧ read? document = some root ∧
      Shows root element := by
  obtain ⟨root, written, read, shows, _⟩ := exists_document showable
  exact ⟨root.write, root, written, read, shows⟩

/-- A title with markup characters and line ends in its values, above an empty run. -/
def markedTitle : Value :=
  .ofFields [("type", .str "para\ngraph"), ("styleId", .str "\"<&>'"), ("level", .int (-2)),
    ("attributes", .ofFields [("lang", .str "a\tb"), ("final", .bool true), ("note", .null)]),
    ("text", .str "1 < 2 ]]> &amp;\n"),
    ("children", .list [.ofFields [("type", .str "run"), ("children", .null)]])]

theorem showable_markedTitle : Showable markedTitle := by
  have run : Showable (.ofFields [("type", .str "run"), ("children", .null)]) := by
    refine @Showable.mapping _ [] (showableEntries_fields (by decide) (by decide) (by decide)) ?_ ?_
      (Or.inr ⟨rfl, rfl⟩) nofun
    · rintro own ⟨⟩
    · rintro ⟨⟩
  refine .mapping (showableEntries_fields (by decide) (by decide) (by decide)) ?_ ?_ (Or.inl rfl)
    (List.forall_mem_singleton.mpr run)
  · rintro own ⟨⟩
    exact showableEntries_fields (by decide) (by decide) (by decide)
  · intro _
    have isContent : IsContent "1 < 2 ]]> &amp;\n" := by decide
    exact isContent

theorem document_shows_markedTitle :
    ∃ document root, ofElement markedTitle = .ok document ∧ read? document = some root ∧
      Shows root markedTitle :=
  document_shows showable_markedTitle

end StyleRules.Xml
