import StyleRules.Proofs.Transform.Asking
import StyleRules.Proofs.Xml.Elements
import StyleRules.Proofs.Xml.RootAttributes

/-!
# Field names that are no XML names

The values of fields are escaped, but their names are written as they come.  A name that is no XML name and that
spells no attribute gives a document that cannot be read, or one whose root has the attributes that it had before.  A
name that spells an attribute in front of its own value adds this attribute to the root.
-/

namespace StyleRules.Xml

/-! ## Names -/

/-- The text is a name as documents have them, possibly with colons. -/
def isXmlName : List Char → Bool
  | [] => false
  | c :: rest => (isNameStart c || c = ':') && rest.all Token.isLabelChar

/-- The name begins with a namespace in braces. -/
def IsExpanded (name : String) : Prop := ∃ rest, name.toList = '\x7b' :: rest ∧ '\x7d' ∈ rest

theorem isXmlName_of_isPlainName {chars : List Char} (plain : isPlainName chars = true) : isXmlName chars = true := by
  cases chars with
  | nil => cases plain
  | cons c rest =>
      rw [isPlainName, Bool.and_eq_true] at plain
      rw [isXmlName, plain.1, Bool.true_or, Bool.true_and, List.all_eq_true]
      intro d member
      rw [Token.isLabelChar, List.all_eq_true.mp plain.2 d member, Bool.true_or]

/-! ## The document with one more field -/

namespace Spaces

theorem labelAll_append {first second : List (Value × String)} {spaces after : Spaces} {all : List (Name × String)}
    (labelled : spaces.labelAll (first ++ second) = .ok (all, after)) :
    ∃ own between further, spaces.labelAll first = .ok (own, between) ∧
      between.labelAll second = .ok (further, after) ∧ all = own ++ further := by
  induction first generalizing spaces all with
  | nil => exact ⟨[], spaces, all, rfl, labelled, rfl⟩
  | cons entry others ih =>
      obtain ⟨name, shown⟩ := entry
      obtain ⟨⟨label, next⟩, isLabel, labelled⟩ := Outcome.bind_ok labelled
      obtain ⟨⟨rest, last⟩, areRest, labelled⟩ := Outcome.bind_ok labelled
      cases labelled
      obtain ⟨own, between, further, areOwn, areFurther, rfl⟩ := ih areRest
      refine ⟨(.plain label, shown) :: own, between, further, ?_, areFurther, rfl⟩
      rw [labelAll, isLabel]
      simp only [bind, Except.bind, areOwn]
      rfl

/-- A name without a namespace in braces is written as it comes. -/
theorem textLabel_as_it_comes {name label : String} {spaces after : Spaces} (asItComes : ¬IsExpanded name)
    (labelled : spaces.textLabel name = .ok (label, after)) : label = name ∧ after = spaces := by
  rw [textLabel] at labelled
  split at labelled
  · rename_i rest isBrace
    have noClosing : '\x7d' ∉ rest.reverse := fun member => asItComes ⟨rest, isBrace, List.mem_reverse.mp member⟩
    rw [cutExpanded, List.dropWhile_eq_nil_iff.mpr (forall_ne_of_notMem noClosing)] at labelled
    cases labelled
  · cases labelled
    exact ⟨rfl, rfl⟩

theorem labelAll_concat {fields : List (Value × String)} {name shown : String} {spaces after : Spaces}
    {all : List (Name × String)} (asItComes : ¬IsExpanded name)
    (labelled : spaces.labelAll (fields ++ [(.str name, shown)]) = .ok (all, after)) :
    ∃ own, spaces.labelAll fields = .ok (own, after) ∧ all = own ++ [(.plain name, shown)] := by
  obtain ⟨own, between, further, areOwn, isFurther, rfl⟩ := labelAll_append labelled
  obtain ⟨⟨label, next⟩, isLabel, labelledLast⟩ := Outcome.bind_ok isFurther
  obtain ⟨rfl, rfl⟩ := textLabel_as_it_comes asItComes isLabel
  cases labelledLast
  exact ⟨own, areOwn, rfl⟩

end Spaces

namespace Outline

variable {fields : List (Value × String)} {attributes : Option (List (String × String))} {text : Option String}
  {children : List Outline}

/-- The nodes inside the element of an outline. -/
def contentOf (spaces : Spaces) (attributes : Option (List (String × String))) (text : Option String)
    (children : List Outline) : Outcome (List Node × Spaces) := do
  let (attributePart, spaces) ← attributesNode spaces attributes
  let (childNodes, spaces) ← toNodes spaces children
  return (attributePart ++ (text.map (textElement "text")).toList ++ childrenPart childNodes, spaces)

theorem toNode_eq (spaces : Spaces) : toNode spaces (.node fields attributes text children) = do
    let (labelled, spaces) ← spaces.labelAll fields
    let (content, spaces) ← contentOf spaces attributes text children
    return (.element (.plain "element") labelled content, spaces) := by
  rw [toNode]
  cases spaces.labelAll fields with
  | error reason => rfl
  | ok labelled =>
      simp only [bind, Except.bind, contentOf]
      cases attributesNode labelled.2 attributes with
      | error reason => rfl
      | ok part =>
          dsimp only
          cases toNodes part.2 children <;> rfl

theorem isElement_contentOf {spaces after : Spaces} {content : List Node}
    (made : contentOf spaces attributes text children = .ok (content, after)) :
    ∀ node ∈ content, node.isText = false := by
  obtain ⟨⟨attributePart, next⟩, isPart, made⟩ := Outcome.bind_ok made
  obtain ⟨⟨childNodes, last⟩, _, made⟩ := Outcome.bind_ok made
  cases made
  refine List.forall_mem_append.mpr ⟨List.forall_mem_append.mpr ⟨?_, ?_⟩, ?_⟩
  · cases attributes with
    | none =>
        cases isPart
        nofun
    | some entries =>
        obtain ⟨_, _, isPart⟩ := Outcome.bind_ok isPart
        cases isPart
        exact List.forall_mem_singleton.mpr rfl
  · cases text with
    | none => nofun
    | some shown => exact List.forall_mem_singleton.mpr rfl
  · rw [childrenPart]
    split
    · nofun
    · exact List.forall_mem_singleton.mpr rfl

/-- A field at the end is written as an attribute at the end; everything else stays as it is. -/
theorem document_concat {name shown : String} {before after : Node} (asItComes : ¬IsExpanded name)
    (isBefore : (Outline.node fields attributes text children).document = .ok before)
    (isAfter : (Outline.node (fields ++ [(.str name, shown)]) attributes text children).document = .ok after) :
    ∃ own content, before = .element (.plain "element") own content ∧
      after = .element (.plain "element") (own ++ [(.plain name, shown)]) content ∧
        ∀ node ∈ content, node.isText = false := by
  rw [document, toNode_eq] at isBefore isAfter
  obtain ⟨⟨node, spaces⟩, made, isBefore⟩ := Outcome.bind_ok isBefore
  obtain ⟨⟨labelled, between⟩, areLabelled, made⟩ := Outcome.bind_ok made
  obtain ⟨⟨content, last⟩, isContent, made⟩ := Outcome.bind_ok made
  cases made
  cases isBefore
  obtain ⟨⟨changed, changedSpaces⟩, changedMade, isAfter⟩ := Outcome.bind_ok isAfter
  obtain ⟨⟨all, reached⟩, areAll, changedMade⟩ := Outcome.bind_ok changedMade
  obtain ⟨own, areOwn, rfl⟩ := Spaces.labelAll_concat asItComes areAll
  obtain ⟨_, isSame, changedMade⟩ := Outcome.bind_ok changedMade
  cases areLabelled.symm.trans areOwn
  cases isContent.symm.trans isSame
  cases changedMade
  cases isAfter
  exact ⟨spaces.declarations ++ labelled, content, rfl, by rw [List.append_assoc], isElement_contentOf isContent⟩

theorem scalarFields_concat {entries : List (Value × Value)} {name shown : String} {value : Value}
    (isScalar : value.scalarText? = some shown) (notStructural : isStructural (.str name) = false) :
    scalarFields (entries ++ [(.str name, value)]) = scalarFields entries ++ [(.str name, shown)] := by
  rw [scalarFields, scalarFields, List.filterMap_append]
  simp [notStructural, isScalar]

theorem field_concat {entries : List (Value × Value)} {name label : String} (value : Value) (different : name ≠ label) :
    (Value.map (entries ++ [(.str name, value)])).field label = (Value.map entries).field label := by
  simp [Value.field, Value.field?, Mapping.get?, Mapping.find?_append, different, Mapping.find?]

theorem ofElement_map (entries : List (Value × Value)) : ofElement (.map entries) = do
    let trees ← Tree.ofChildren ((Value.map entries).field "children")
    let children ← ofTrees trees
    return .node (scalarFields entries) (attributeTexts ((Value.map entries).field "attributes"))
      (shownText ((Value.map entries).field "text")) children := by
  rw [ofElement, Tree.ofElement_eq_ofChildren]
  cases Tree.ofChildren ((Value.map entries).field "children") with
  | error reason => rfl
  | ok trees =>
      simp only [bind, Except.bind, pure, Except.pure, ofTree, Value.publicFields]

end Outline

/-! ## The tag of the root -/

theorem writeAttributes_concat (own : List (Name × String)) (name : Name) (value : String) :
    writeAttributes (own ++ [(name, value)]) =
      writeAttributes own ++ ' ' :: (name.label.toList ++ Token.assigned (escapeAttribute value)) := by
  induction own with
  | nil => simp [writeAttributes, Token.assigned]
  | cons entry others ih =>
      obtain ⟨label, shown⟩ := entry
      rw [List.cons_append, writeAttributes, writeAttributes, ih]
      simp

theorem closed_concat (front : List Char) : Token.Closed (front ++ ['"']) := by
  intro c isLast
  rw [List.getLast?_concat] at isLast
  exact (Option.some.inj isLast).symm

theorem closed_normalizeLineEnds {chars : List Char} (closed : Token.Closed chars) :
    Token.Closed (normalizeLineEnds chars) := by
  rcases List.eq_nil_or_concat chars with rfl | ⟨before, last, rfl⟩
  · exact closed
  · obtain rfl : last = '"' := closed last (by simp)
    rw [List.concat_eq_append, normalizeLineEnds_append (by simp)]
    exact closed_concat _

theorem closed_writeAttributes (own : List (Name × String)) : Token.Closed (writeAttributes own) := by
  rcases List.eq_nil_or_concat own with rfl | ⟨before, ⟨name, value⟩, rfl⟩
  · nofun
  · have ends : writeAttributes (before ++ [(name, value)]) =
        writeAttributes before ++ ' ' :: (name.label.toList ++ '=' :: '"' :: escapeAttribute value) ++ ['"'] := by
      simp [writeAttributes_concat, Token.assigned]
    rw [List.concat_eq_append, ends]
    exact closed_concat _

theorem endsTag_empty : Token.EndsTag " />".toList := by
  refine ⟨fun front back split _ c member isQuote => ?_, true, [],
    Token.attributes?_ended (.inr ⟨rfl, rfl⟩) [' '] rfl []⟩
  have inEnd : c ∈ " />".toList := by
    rw [split]
    exact List.mem_append_left back member
  rcases isQuote with rfl | rfl <;> exact absurd inEnd (by decide)

theorem endsTag_content (rest : List Char) : Token.EndsTag ('>' :: '<' :: rest) := by
  refine ⟨fun front back split noLess c member isQuote => ?_, false, '<' :: rest,
    Token.attributes?_ended (.inl ⟨rfl, rfl⟩) [] rfl ('<' :: rest)⟩
  match front, split with
  | [], _ => cases member
  | [d], split =>
      obtain rfl : d = '>' := (List.cons.inj split).1.symm
      rw [List.mem_singleton.mp member] at isQuote
      exact absurd isQuote (by simp [Token.IsQuote])
  | d :: e :: others, split =>
      obtain rfl : e = '<' := (List.cons.inj (List.cons.inj split).2).1.symm
      exact noLess (by simp)

/-- How the tag of an element ends, and what stands behind it, whatever attributes the element has. -/
theorem exists_ending (name : Name) {content : List Node} (elements : ∀ node ∈ content, node.isText = false) :
    ∃ ending, (∀ own, (Node.element name own content).chars =
        '<' :: (name.label.toList ++ (writeAttributes own ++ ending))) ∧
      Token.EndsTag (normalizeLineEnds ending) ∧ (ending.head? = some ' ' ∨ ending.head? = some '>') := by
  cases content with
  | nil =>
      refine ⟨" />".toList, fun own => ?_, endsTag_empty, .inl rfl⟩
      rw [← List.append_nil (Node.chars _), Node.chars_empty]
      rfl
  | cons first others =>
      refine ⟨'>' :: (Node.contentChars (first :: others) ++ '<' :: '/' :: (name.label.toList ++ ['>'])), fun own => ?_,
        ?_, .inr rfl⟩
      · rw [← List.append_nil (Node.chars _), Node.chars_full _ _ (by simp)]
        rfl
      · obtain ⟨rest, begins⟩ := first.beginsTag (elements first List.mem_cons_self)
          (Node.contentChars others ++ '<' :: '/' :: (name.label.toList ++ ['>']))
        rw [Node.contentChars, List.append_assoc, begins, normalizeLineEnds_cons (by decide),
          normalizeLineEnds_cons (by decide)]
        exact endsTag_content _

section Reading

variable {own : List (Name × String)} {content : List Node} {name shown : String} {before after : Node}

theorem read?_write_tag {name : Name} (isLabel : IsLabel name.label) {ending : List Char} {root : Node}
    (written : (Node.element name own content).chars =
      '<' :: (name.label.toList ++ (writeAttributes own ++ ending)))
    (begins : ending.head? = some ' ' ∨ ending.head? = some '>')
    (read : read? (Node.element name own content).write = some root) :
    ∃ entries empty left rootName rootContent,
      Token.attributes? (normalizeLineEnds (writeAttributes own ++ ending)) = some ((entries, empty), left) ∧
        Bindings.bind? [("xml", Bindings.xmlSpace)] (.element rootName (plainly entries) rootContent) = some root := by
  obtain ⟨stop, more, spelled, isStop⟩ : ∃ stop more, writeAttributes own ++ ending = stop :: more ∧
      (stop = ' ' ∨ stop = '>') := by
    cases own with
    | nil =>
        rcases begins with first | first
        · obtain ⟨more, rfl⟩ := List.head?_eq_some_iff.mp first
          exact ⟨' ', more, rfl, .inl rfl⟩
        · obtain ⟨more, rfl⟩ := List.head?_eq_some_iff.mp first
          exact ⟨'>', more, rfl, .inr rfl⟩
    | cons entry others => exact ⟨' ', _, rfl, .inl rfl⟩
  rw [Node.write, written, spelled] at read
  rw [spelled]
  rcases isStop with rfl | rfl
  · exact read?_first_tag isLabel (by decide) (by decide) (by decide) read
  · exact read?_first_tag isLabel (by decide) (by decide) (by decide) read

theorem normalizeLineEnds_concat {ending : List Char} (noFeed : ending.head? ≠ some '\n') :
    normalizeLineEnds (writeAttributes (own ++ [(.plain name, shown)]) ++ ending) =
      normalizeLineEnds (writeAttributes own) ++ (' ' :: normalizeLineEnds name.toList ++
        (Token.assigned (escapeAttribute shown) ++ normalizeLineEnds ending)) := by
  have noReturn : '\r' ∉ Token.assigned (escapeAttribute shown) := by
    simp [Token.assigned, not_mem_escapeAttribute (show '\r' ∈ ['"', '<', '>', '\r'] by decide)]
  rw [writeAttributes_concat, List.append_assoc, normalizeLineEnds_append (by simp), List.cons_append,
    normalizeLineEnds_cons (by decide), List.append_assoc, normalizeLineEnds_append (by simp [Token.assigned]),
    normalizeLineEnds_append noFeed, normalizeLineEnds_eq noReturn]
  rfl

/-- The root of the document with one more field has the attributes of the root before and further ones behind them:
declarations at most where the name of the field spells no attribute, and an attribute where it spells one. -/
theorem root_with_field (elements : ∀ node ∈ content, node.isText = false)
    (readBefore : read? (Node.element (.plain "element") own content).write = some before)
    (readAfter : read? (Node.element (.plain "element") (own ++ [(.plain name, shown)]) content).write = some after) :
    ∃ added names, Grows added names before after ∧
      (∀ entry ∈ added, isPlainName (splitLabel entry.1).2.toList = true) ∧
      (¬Token.SpellsAttribute (normalizeLineEnds name.toList) →
        ∀ entry ∈ added, Bindings.isDeclaration entry.1 = true) ∧
      (Token.SpellsAttribute (normalizeLineEnds name.toList) → '>' ∉ normalizeLineEnds (writeAttributes own) →
        ∃ entry ∈ added, Bindings.isDeclaration entry.1 = false) := by
  have isLabel : IsLabel (Name.plain "element").label := isLabel_parts.1
  obtain ⟨ending, written, ends, begins⟩ := exists_ending (.plain "element") elements
  have noFeed : ending.head? ≠ some '\n' := by
    rcases begins with first | first <;> simp [first]
  obtain ⟨entries, empty, left, rootName, rootContent, inTag, bound⟩ :=
    read?_write_tag isLabel (written own) begins readBefore
  obtain ⟨all, isEmpty, behind, changedName, changedContent, inChanged, changedBound⟩ :=
    read?_write_tag isLabel (written _) begins readAfter
  rw [normalizeLineEnds_append noFeed] at inTag
  rw [normalizeLineEnds_concat noFeed] at inChanged
  obtain ⟨added, rfl, stops⟩ := Token.attributes?_between (closed_normalizeLineEnds (closed_writeAttributes own)) ends
    inTag inChanged
  obtain ⟨names, grows⟩ := exists_grows bound changedBound
  refine ⟨added, names, grows, ?_, fun spellsNone => ?_, fun spells noGreater => ?_⟩
  · exact fun entry member => Token.attributes?_localParts inChanged entry (List.mem_append_right entries member)
  · rcases stops with ⟨rfl, _⟩ | inField
    · nofun
    · exact Token.declares_of_not_spells ends (not_mem_escapeAttribute (by decide) _)
        (not_mem_escapeAttribute (by decide) _) (not_mem_escapeAttribute (by decide) _)
        (Token.spellsAttribute_blank.not.mpr spellsNone) inField
  · rcases stops with ⟨_, greater⟩ | inField
    · exact absurd greater noGreater
    · exact Token.exists_attribute_of_spells (Token.spellsAttribute_blank.mpr spells) inField

end Reading

/-! ## Elements with one more field -/

/-- The document of the element is read as the tree. -/
def ReadAs (element : Value) (root : Node) : Prop :=
  ∃ document, ofElement element = .ok document ∧ read? document = some root

theorem mem_of_mem_normalizeLineEnds {c : Char} {chars : List Char} (noFeed : c ≠ '\n')
    (member : c ∈ normalizeLineEnds chars) : c ∈ chars := by
  induction chars using normalizeLineEnds.induct with
  | case1 => cases member
  | case2 others ih =>
      rw [normalizeLineEnds, List.mem_cons] at member
      exact List.mem_cons_of_mem _ (List.mem_cons_of_mem _ (ih (member.resolve_left noFeed)))
  | case3 d others notBoth ih =>
      rw [normalizeLineEnds.eq_3 _ _ notBoth, List.mem_cons] at member
      rcases member with isFirst | inOthers
      · split at isFirst
        · exact absurd isFirst noFeed
        · exact isFirst ▸ List.mem_cons_self
      · exact List.mem_cons_of_mem _ (ih inOthers)

theorem greater_notMem_writeAttributes {attributes : List (Name × String)}
    (areLabels : ∀ entry ∈ attributes, IsLabel entry.1.label) : '>' ∉ writeAttributes attributes := by
  induction attributes with
  | nil => nofun
  | cons entry others ih =>
      obtain ⟨name, value⟩ := entry
      obtain ⟨isLabel, further⟩ := List.forall_mem_cons.mp areLabels
      have notInLabel : '>' ∉ name.label.toList := fun member => absurd (isLabel.all_isNameChar _ member) (by decide)
      have notInValue : '>' ∉ escapeAttribute value := not_mem_escapeAttribute (by decide) value
      simp [writeAttributes, notInLabel, notInValue, ih further]

/-- The element that an element with plain names is written as has plain labels. -/
theorem areLabels_of_showable {element : Value} {outline : Outline} {name : Name} {own : List (Name × String)}
    {content : List Node} (showable : Showable element) (isOutline : Outline.ofElement element = .ok outline)
    (isDocument : outline.document = .ok (.element name own content)) : ∀ entry ∈ own, IsLabel entry.1.label := by
  obtain ⟨node, same, isSame, made, _, readable⟩ := exists_written showable
  cases isOutline.symm.trans isSame
  cases readable with
  | text _ _ =>
      rw [Outline.document, made] at isDocument
      cases isDocument
  | element _ areLabels =>
      cases (document_of_toNode made).symm.trans isDocument
      exact plainly_areLabels areLabels

section Field

variable {entries : List (Value × Value)} {name shown : String} {value : Value} {before after : Node}

theorem not_structural (odd : isXmlName name.toList = false) :
    name ≠ "children" ∧ name ≠ "text" ∧ name ≠ "attributes" := by
  refine ⟨?_, ?_, ?_⟩ <;> rintro rfl <;> exact absurd odd (by decide)

/-- The documents without and with the field differ in one attribute. -/
theorem exists_documents (isScalar : value.scalarText? = some shown) (isNew : .str name ∉ Mapping.keys entries)
    (odd : isXmlName name.toList = false) (asItComes : ¬IsExpanded name) (readBefore : ReadAs (.map entries) before)
    (readAfter : ReadAs (.map (Mapping.insert (.str name) value entries)) after) :
    ∃ outline own content, Outline.ofElement (.map entries) = .ok outline ∧
      outline.document = .ok (.element (.plain "element") own content) ∧ (∀ node ∈ content, node.isText = false) ∧
        read? (Node.element (.plain "element") own content).write = some before ∧
        read? (Node.element (.plain "element") (own ++ [(.plain name, shown)]) content).write = some after := by
  obtain ⟨notChildren, notText, notAttributes⟩ := not_structural odd
  have plain : Outline.isStructural (.str name) = false := by
    simp [Outline.isStructural, Value.isText, notChildren, notText, notAttributes]
  rw [Mapping.insert_absent value ⟨name, rfl⟩ isNew] at readAfter
  obtain ⟨document, written, read⟩ := readBefore
  obtain ⟨changed, changedWritten, readChanged⟩ := readAfter
  obtain ⟨outline, isOutline, written⟩ := Outcome.bind_ok written
  obtain ⟨root, isRoot, written⟩ := Outcome.bind_ok written
  cases written
  obtain ⟨changedOutline, isChanged, changedWritten⟩ := Outcome.bind_ok changedWritten
  obtain ⟨changedRoot, isChangedRoot, changedWritten⟩ := Outcome.bind_ok changedWritten
  cases changedWritten
  have outlined := isOutline
  rw [Outline.ofElement_map] at isOutline isChanged
  rw [Outline.scalarFields_concat isScalar plain, Outline.field_concat value notChildren,
    Outline.field_concat value notText, Outline.field_concat value notAttributes] at isChanged
  obtain ⟨trees, areTrees, isOutline⟩ := Outcome.bind_ok isOutline
  obtain ⟨children, areChildren, isOutline⟩ := Outcome.bind_ok isOutline
  cases isOutline
  obtain ⟨_, sameTrees, isChanged⟩ := Outcome.bind_ok isChanged
  cases areTrees.symm.trans sameTrees
  obtain ⟨_, sameChildren, isChanged⟩ := Outcome.bind_ok isChanged
  cases areChildren.symm.trans sameChildren
  cases isChanged
  obtain ⟨own, content, rfl, rfl, elements⟩ := Outline.document_concat asItComes isRoot isChangedRoot
  exact ⟨_, own, content, outlined, isRoot, elements, read, readChanged⟩

/-- Compiled stylesheets refuse a text that is no document, as the common ones do. -/
def RefusesMalformed (compile : String → Outcome CompiledSheet) : Prop :=
  ∀ source sheet, compile source = .ok sheet → ∀ document, read? document = none →
    ∃ reason, sheet document = .error reason

/-- What is no document is transformed by no stylesheet. -/
theorem exists_failure_unread {compile : String → Outcome CompiledSheet} (refuses : RefusesMalformed compile)
    {document : String} (noRoot : read? document = none) (template parameters : Value) :
    ∃ reason, Stylesheet.run compile (.str document) template parameters = .error reason := by
  have unread {sheet : LoadedSheet} (loaded : LoadedSheet.ofTemplate compile template = .ok sheet) :
      ∃ reason, sheet.onDocument (.str document) = .error reason := by
    unfold LoadedSheet.ofTemplate at loaded
    split at loaded
    · cases loaded
    · cases template with
      | str source =>
          dsimp only at loaded
          split at loaded
          · cases loaded
            exact ⟨_, by rw [LoadedSheet.onDocument, noRoot]⟩
          · cases compiled : compile source with
            | error reason =>
                rw [compiled] at loaded
                cases loaded
            | ok work =>
                rw [compiled] at loaded
                cases loaded
                obtain ⟨reason, refused⟩ := refuses source work compiled document noRoot
                exact ⟨reason, by rw [LoadedSheet.onDocument, refused]; rfl⟩
      | _ => cases loaded
  rw [Stylesheet.run]
  cases loaded : LoadedSheet.ofTemplate compile template with
  | error reason => exact ⟨reason, rfl⟩
  | ok sheet =>
      obtain ⟨reason, failed⟩ := unread loaded
      rw [Outcome.ok_bind, failed]
      exact ⟨reason, rfl⟩

/-- The template is run by the processor for stylesheets, and these refuse what is no document. -/
structure RunByStylesheets (e : Engine) (type : String) : Prop where
  backend : ∀ xml given job, e.plan xml (.str type) given .null = .ok (.ok job) →
    job.processor = .processor Processor.stylesheets
  refuses : RefusesMalformed e.compile

/-- A stylesheet is not run over an element whose document cannot be written or read, and so it does not match. -/
theorem freshAccepts_unread {e : Engine} {type : String} (byStylesheets : RunByStylesheets e type) {element : Value}
    (unread : ∀ root, ¬ReadAs element root) (parameters : List (Value × Value)) :
    e.freshAccepts type parameters element = false := by
  rw [Engine.freshAccepts]
  cases written : ofElement element with
  | error reason => rfl
  | ok document =>
      have noRoot : read? document = none := by
        rw [Option.eq_none_iff_forall_not_mem]
        exact fun root read => unread root ⟨document, written, read⟩
      dsimp only
      cases planned : e.plan (.str document) (.str type) ((Value.map parameters).orElse (.map [])) .null with
      | error reason => simp only [Engine.freshResult, planned, bind, Except.bind]
      | ok planOrRefusal =>
          cases planOrRefusal with
          | error reason =>
              simp only [Engine.freshResult, planned, bind, Except.bind]
              rfl
          | ok job =>
              obtain ⟨reason, fails⟩ : ∃ reason, job.output (.str document) ((Value.map parameters).orElse (.map [])) =
                  .error reason := by
                obtain ⟨_, _, _, isCompile⟩ := Engine.plan_eq_job_iff.mp planned
                rw [Engine.Job.output, byStylesheets.backend _ _ _ planned, isCompile]
                cases job.template.mergeParameters ((Value.map parameters).orElse (.map [])) with
                | error reason => exact ⟨reason, rfl⟩
                | ok merged => exact exists_failure_unread byStylesheets.refuses noRoot job.template.body (.map merged)
              rw [Engine.freshResult_job planned, Engine.Job.result, fails]
              rfl

/-- A field that is added under a name that is no XML name leaves the attributes of the root under all other names as
they are, unless its name spells an attribute; and then it changes them.  Without a document that can be read there
is no match. -/
theorem field_name_injects_iff (isScalar : value.scalarText? = some shown)
    (isNew : .str name ∉ Mapping.keys entries) (odd : isXmlName name.toList = false) (asItComes : ¬IsExpanded name) :
    let changed := Value.map (Mapping.insert (.str name) value entries)
    (∀ (e : Engine) (type : String) (parameters : List (Value × Value)), RunByStylesheets e type →
      (∀ after, ¬ReadAs changed after) → e.freshAccepts type parameters changed = false) ∧
    ∀ before after, ReadAs (.map entries) before → ReadAs changed after →
      (¬Token.SpellsAttribute (normalizeLineEnds name.toList) → SameElsewhere name before after) ∧
      (Showable (.map entries) → Token.SpellsAttribute (normalizeLineEnds name.toList) →
        ¬SameElsewhere name before after) := by
  intro changed
  refine ⟨fun e type parameters byStylesheets unread => freshAccepts_unread byStylesheets unread parameters, ?_⟩
  intro before after readBefore readAfter
  obtain ⟨outline, own, content, isOutline, isDocument, elements, read, readChanged⟩ :=
    exists_documents isScalar isNew odd asItComes readBefore readAfter
  obtain ⟨added, names, grows, localParts, declare, shows⟩ := root_with_field elements read readChanged
  refine ⟨fun spellsNone => grows.sameElsewhere (declare spellsNone), fun showable spells => ?_⟩
  refine grows.not_sameElsewhere (fun entry member isName => ?_) (shows spells ?_)
  · have isXml := isXmlName_of_isPlainName (localParts entry member)
    rw [isName, odd] at isXml
    cases isXml
  · intro member
    have inTag := mem_of_mem_normalizeLineEnds (by decide) member
    exact greater_notMem_writeAttributes (areLabels_of_showable showable isOutline isDocument) inTag

end Field

/-- An element that is written like a tree that can be read is read as this tree. -/
theorem Readable.readAs {name : Name} {attributes : List (Name × String)} {content : List Node}
    (readable : Readable (.element name attributes content)) (written : List (Name × String))
    (same : (Node.element name written content).write = (Node.element name attributes content).write)
    {element : Value} {outline : Outline} (isOutline : Outline.ofElement element = .ok outline)
    (made : outline.toNode [] = .ok (.element name written content, [])) :
    ReadAs element (.element name attributes content) :=
  ⟨_, ofElement_of_document isOutline (document_of_toNode made), by rw [same, read?_write readable]⟩

def quotation : List (String × Value) := [("type", .str "quotation"), ("text", .str "a < b")]

/-- A name that spells the left side of a quotation and leaves its own value to the right one. -/
def leftName : String := "left=\"1\" right"

/-- The field adds a left side to the quotation. -/
theorem field_name_injects_left : ∃ before after, ReadAs (.ofFields quotation) before ∧
    ReadAs (.map (Mapping.insert (.str leftName) (.int 2) (quotation.map fun (name, value) => (.str name, value))))
      after ∧ ¬SameElsewhere leftName before after := by
  have isText : Readable (textElement "text" "a < b") :=
    readable_bare (by decide) (List.forall_mem_singleton.mpr (.text (by decide) (by decide))) (.singleton _)
  have isBefore : Readable (.element (.plain "element") (plainly [("type", "quotation")])
      [textElement "text" "a < b"]) :=
    .element (by decide) (by decide) (by decide) (by decide) (List.forall_mem_singleton.mpr isText) (.singleton _)
  have isAfter : Readable (.element (.plain "element") (plainly [("type", "quotation"), ("left", "1"), ("right", "2")])
      [textElement "text" "a < b"]) :=
    .element (by decide) (by decide) (by decide) (by decide) (List.forall_mem_singleton.mpr isText) (.singleton _)
  have readBefore : ReadAs (.ofFields quotation) _ := isBefore.readAs _ rfl rfl rfl
  have readAfter : ReadAs (.map (Mapping.insert (.str leftName) (.int 2)
      (quotation.map fun (name, value) => (.str name, value)))) _ :=
    isAfter.readAs [(.plain "type", "quotation"), (.plain leftName, "2")] rfl rfl rfl
  have showable : Showable (.ofFields quotation) := by
    have shown := @showableEntries_fields quotation (by decide) (by decide) (by decide)
    refine @Showable.mapping _ [] shown nofun ?_ (.inr ⟨rfl, rfl⟩) nofun
    intro _
    have isContent : IsContent "a < b" := by decide
    exact isContent
  have asItComes : ¬IsExpanded leftName := by
    rintro ⟨rest, isBrace, _⟩
    cases isBrace
  have spells : Token.SpellsAttribute (normalizeLineEnds leftName.toList) :=
    @Token.SpellsAttribute.here _ _ "left" rfl (by decide)
  have isNew : .str leftName ∉ Mapping.keys (quotation.map fun (name, value) => (Value.str name, value)) := by
    simp [Mapping.keys, quotation, leftName]
  exact ⟨_, _, readBefore, readAfter,
    ((field_name_injects_iff rfl isNew (by decide) asItComes).2 _ _ readBefore readAfter).2 showable spells⟩

def unstyled : List (String × Value) := [("type", .str "paragraph")]

/-- A name that spells another attribute and then the one that the style is read from. -/
def styleName : String := "x=\"1\" styleId"

/-- The field gives the paragraph a style. -/
theorem field_name_injects_style : isXmlName styleName.toList = false ∧
    ∃ before after, ReadAs (.ofFields unstyled) before ∧
      ReadAs (.map (Mapping.insert (.str styleName) (.str "Heading1")
        (unstyled.map fun (name, value) => (.str name, value)))) after ∧
      before.valueOf? "" "styleId" = none ∧ after.valueOf? "" "styleId" = some "Heading1" ∧
      ¬SameElsewhere styleName before after := by
  have isBefore : Readable (.element (.plain "element") (plainly [("type", "paragraph")]) []) :=
    .element (by decide) (by decide) (by decide) (by decide) nofun .nil
  have isAfter : Readable (.element (.plain "element")
      (plainly [("type", "paragraph"), ("x", "1"), ("styleId", "Heading1")]) []) :=
    .element (by decide) (by decide) (by decide) (by decide) nofun .nil
  have readBefore : ReadAs (.ofFields unstyled) _ := isBefore.readAs _ rfl rfl rfl
  have readAfter : ReadAs (.map (Mapping.insert (.str styleName) (.str "Heading1")
      (unstyled.map fun (name, value) => (.str name, value)))) _ :=
    isAfter.readAs [(.plain "type", "paragraph"), (.plain styleName, "Heading1")] rfl rfl rfl
  refine ⟨by decide, _, _, readBefore, readAfter, rfl, rfl, ?_⟩
  intro same
  have equal := same "" "styleId" (by decide)
  cases equal

end StyleRules.Xml
