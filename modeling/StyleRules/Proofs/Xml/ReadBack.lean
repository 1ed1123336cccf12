import Mathlib.Data.List.Chain
import Mathlib.Data.List.TakeWhile
import StyleRules.Proofs.Lists
import StyleRules.Proofs.Xml.Tokens

/-!
# Reading documents that were written

A tree is written node by node, and reading the document gives the tree back: the tokens are those of the nodes
in order, and putting them together restores every element with its attributes and content.  The tree must be
one that a document can show.  Its names are plain, no element has two attributes of one name, its texts hold
characters that a document can hold, and no text is empty or stands beside another text.
-/

namespace StyleRules.Xml

open Token (labelled tagEnd)

/-! ## Trees that a document shows -/

def Node.isText : Node → Bool
  | .text _ => true
  | .element _ _ _ => false

/-- One of two nodes side by side is an element. -/
def Apart (first second : Node) : Prop := (first.isText && second.isText) = false

/-- Attributes with plain names. -/
def plainly (attributes : List (String × String)) : List (Name × String) :=
  attributes.map fun (label, value) => (.plain label, value)

/-- A tree that a document shows as it is. -/
inductive Readable : Node → Prop
  | text {s : String} (nonempty : s ≠ "") (isContent : IsContent s) : Readable (.text s)
  | element {label : String} {attributes : List (String × String)} {content : List Node}
      (isLabel : IsLabel label) (areLabels : ∀ entry ∈ attributes, IsLabel entry.1)
      (areContent : ∀ entry ∈ attributes, IsContent entry.2)
      (distinct : (attributes.map (·.1)).Nodup) (readable : ∀ node ∈ content, Readable node)
      (apart : content.IsChain Apart) : Readable (.element (.plain label) (plainly attributes) content)

@[simp]
theorem labelled_plainly (attributes : List (String × String)) :
    labelled (plainly attributes) = attributes := by
  rw [labelled, plainly, List.map_map]
  exact List.map_id attributes

theorem plainly_areLabels {attributes : List (String × String)}
    (areLabels : ∀ entry ∈ attributes, IsLabel entry.1) :
    ∀ entry ∈ plainly attributes, IsLabel entry.1.label := by
  intro entry member
  obtain ⟨shown, isShown, rfl⟩ := List.mem_map.mp member
  exact areLabels shown isShown

/-! ## The tokens of a tree -/

mutual

/-- The tokens that a node is written as. -/
def Node.tokens : Node → List Token
  | .text s => [.text s.toList]
  | .element name attributes content =>
    if content.isEmpty then [.opening name.label (labelled attributes) true]
    else
      .opening name.label (labelled attributes) false ::
        (Node.contentTokens content ++ [.closing name.label])

def Node.contentTokens : List Node → List Token
  | [] => []
  | node :: rest => node.tokens ++ Node.contentTokens rest

end

theorem Token.all?_step {token : Token} {chars rest : List Char} (read : next? chars = some (token, rest))
    (shorter : rest.length < chars.length) : all? chars = (all? rest).map (token :: ·) := by
  have nonempty : chars.isEmpty = false := by
    cases chars with
    | nil => simp at shorter
    | cons c others => rfl
  rw [all?, nonempty, if_neg (by simp), read]
  exact if_pos shorter

/-- The characters begin with a tag. -/
def BeginsTag (chars : List Char) : Prop := ∃ rest, chars = '<' :: rest

theorem Node.beginsTag {node : Node} (isElement : node.isText = false) (rest : List Char) :
    BeginsTag (node.chars ++ rest) := by
  cases node with
  | text s => cases isElement
  | element name attributes content =>
      rw [Node.chars]
      split <;> exact ⟨_, rfl⟩

/-- The tokens in front of a rest are those of the node; behind a text the rest begins with a tag. -/
def Tokenized (node : Node) : Prop :=
  ∀ rest, (node.isText = true → BeginsTag rest) →
    Token.all? (node.chars ++ rest) = (Token.all? rest).map (node.tokens ++ ·)

theorem contentTokenized {content : List Node} (each : ∀ node ∈ content, Tokenized node)
    (apart : content.IsChain Apart) {rest : List Char} (begins : BeginsTag rest) :
    Token.all? (Node.contentChars content ++ rest) =
      (Token.all? rest).map (Node.contentTokens content ++ ·) := by
  induction content with
  | nil => simp [Node.contentChars, Node.contentTokens]
  | cons node others ih =>
      obtain ⟨first, further⟩ := List.forall_mem_cons.mp each
      have behindText : node.isText = true → BeginsTag (Node.contentChars others ++ rest) := by
        intro isText
        cases others with
        | nil => exact begins
        | cons next more =>
            have isElement : next.isText = false := by
              have together := (List.isChain_cons_cons.mp apart).1
              rwa [Apart, isText, Bool.true_and] at together
            rw [Node.contentChars, List.append_assoc]
            exact next.beginsTag isElement _
      rw [Node.contentChars, List.append_assoc, first _ behindText, ih further apart.tail, Option.map_map,
        Node.contentTokens]
      congr 1
      funext tokens
      simp

theorem Node.chars_empty (name : Name) (attributes : List (Name × String)) (rest : List Char) :
    (Node.element name attributes []).chars ++ rest =
      '<' :: (name.label.toList ++ (writeAttributes attributes ++ tagEnd true rest)) := by
  simp [Node.chars, tagEnd]

theorem Node.chars_full {content : List Node} (name : Name) (attributes : List (Name × String))
    (nonempty : content ≠ []) (rest : List Char) :
    (Node.element name attributes content).chars ++ rest =
      '<' :: (name.label.toList ++ (writeAttributes attributes ++ tagEnd false
        (Node.contentChars content ++ '<' :: '/' :: (name.label.toList ++ '>' :: rest)))) := by
  simp [Node.chars, tagEnd, nonempty]

/-- Every node of a tree that a document shows is cut into its tokens. -/
theorem Readable.tokenized {node : Node} (readable : Readable node) : Tokenized node := by
  induction readable with
  | @text s nonempty _ =>
      intro rest begins
      obtain ⟨more, rfl⟩ := begins rfl
      have shorter := List.length_pos_iff.mpr (escapeText_ne_nil nonempty)
      rw [Node.chars, Token.all?_step (Token.next?_text nonempty more) (by rw [List.length_append]; omega)]
      rfl
  | @element label attributes content isLabel areLabels _ _ _ apart ih =>
      intro rest _
      have opening := Token.next?_opening isLabel (plainly_areLabels areLabels)
      by_cases isEmpty : content = []
      · subst isEmpty
        rw [Node.chars_empty, Name.plain, Token.all?_step (opening true rest) (by simp [tagEnd]; omega)]
        rfl
      · have closing := Token.next?_closing isLabel rest
        rw [Node.chars_full _ _ isEmpty, Name.plain,
          Token.all?_step (opening false _) (by simp [tagEnd]; omega),
          contentTokenized ih apart ⟨_, rfl⟩, Token.all?_step closing (by simp; omega),
          Node.tokens, if_neg (by simpa using isEmpty), Option.map_map, Option.map_map]
        congr 1
        funext tokens
        simp

/-! ## Putting tokens together -/

/-- Nodes that stand apart are added to an element as they are. -/
theorem foldl_add {content : List Node} (apart : content.IsChain Apart) (element : OpenElement)
    (apartBefore : ∀ first ∈ content.head?, ∀ last ∈ element.content.head?, Apart last first) :
    content.foldl (fun element node => element.add node) element =
      { element with content := content.reverse ++ element.content } := by
  induction content generalizing element with
  | nil => rfl
  | cons node others ih =>
      have added : element.add node = { element with content := node :: element.content } := by
        cases node with
        | element name attributes content => rfl
        | text s =>
            cases before : element.content with
            | nil => simp [OpenElement.add, before]
            | cons last more =>
                cases last with
                | element name attributes content => simp [OpenElement.add, before]
                | text t =>
                    have together := apartBefore _ rfl (.text t) (by rw [before]; rfl)
                    cases together
      rw [List.foldl_cons, added, ih apart.tail]
      · simp
      · intro first isFirst last isLast
        cases isLast
        cases others with
        | nil => cases isFirst
        | cons next more =>
            cases isFirst
            exact (List.isChain_cons_cons.mp apart).1

/-- Putting the tokens of a node together inside an element adds the node. -/
def Assembled (node : Node) : Prop :=
  ∀ root inner outer rest, assemble root (inner :: outer) (node.tokens ++ rest) =
    assemble root (inner.add node :: outer) rest

theorem contentAssembled {content : List Node} (each : ∀ node ∈ content, Assembled node)
    (root : Option Node) (inner : OpenElement) (outer : List OpenElement) (rest : List Token) :
    assemble root (inner :: outer) (Node.contentTokens content ++ rest) =
      assemble root (content.foldl (fun element node => element.add node) inner :: outer) rest := by
  induction content generalizing inner with
  | nil => rfl
  | cons node others ih =>
      obtain ⟨first, further⟩ := List.forall_mem_cons.mp each
      rw [Node.contentTokens, List.append_assoc, first, ih further]
      rfl

/-- The tokens of an element put the element at its place. -/
theorem assemble_element {label : String} {attributes : List (String × String)} {content : List Node}
    (each : ∀ node ∈ content, Assembled node) (apart : content.IsChain Apart) {root : Option Node}
    {opened : List OpenElement} (mayOpen : (opened.isEmpty && root.isSome) = false) (rest : List Token) :
    assemble root opened ((Node.element (.plain label) (plainly attributes) content).tokens ++ rest) =
      assemble.place root opened ⟨label, attributes, content.reverse⟩ rest := by
  rw [Node.tokens, labelled_plainly, Name.plain]
  by_cases isEmpty : content = []
  · subst isEmpty
    rw [List.isEmpty_nil, if_pos rfl, List.singleton_append, assemble, mayOpen]
    rfl
  · rw [if_neg (by simpa using isEmpty), List.cons_append, assemble, mayOpen, List.append_assoc]
    simp only [Bool.false_eq_true, if_false]
    rw [contentAssembled each, foldl_add apart _ (by simp), List.append_nil, List.singleton_append, assemble,
      if_pos rfl]

theorem OpenElement.finish_reverse (label : String) (attributes : List (String × String))
    (content : List Node) : finish ⟨label, attributes, content.reverse⟩ =
      .element (.plain label) (plainly attributes) content := by
  rw [finish, List.reverse_reverse]
  rfl

theorem Readable.assembled {node : Node} (readable : Readable node) : Assembled node := by
  induction readable with
  | @text s nonempty _ =>
      intro root inner outer rest
      have hasChars : s.toList.isEmpty = false := by simpa using nonempty
      rw [Node.tokens, List.singleton_append, assemble, hasChars, String.ofList_toList]
      rfl
  | @element label attributes content _ _ _ _ _ apart ih =>
      intro root inner outer rest
      rw [assemble_element ih apart rfl, assemble.place, OpenElement.finish_reverse]

/-! ## Namespaces -/

theorem IsLabel.splitLabel {label : String} (isLabel : IsLabel label) : splitLabel label = ("", label) :=
  splitLabel_of_notMem fun member => absurd (isLabel.all_isNameChar _ member) (by decide)

theorem IsLabel.declares_nothing {label : String} (isLabel : IsLabel label) (value : String) :
    Bindings.declared? label value = some [] ∧ Bindings.isDeclaration label = false := by
  have notPrefix : ("" : String) ≠ "xmlns" := by decide
  constructor
  · simp [Bindings.declared?, isLabel.splitLabel, isLabel.2]
  · simp [Bindings.isDeclaration, isLabel.splitLabel, isLabel.2]

theorem distinct_plain {labels : List String} (areLabels : ∀ label ∈ labels, IsLabel label)
    (nodup : labels.Nodup) : Bindings.distinct (labels.map .plain) = true := by
  induction labels with
  | nil => rfl
  | cons label others ih =>
      obtain ⟨isLabel, further⟩ := List.forall_mem_cons.mp areLabels
      obtain ⟨notIn, nodup⟩ := List.nodup_cons.mp nodup
      rw [List.map_cons, Bindings.distinct, ih further nodup, Bool.and_true, List.all_eq_true]
      intro name member
      obtain ⟨other, isOther, rfl⟩ := List.mem_map.mp member
      have different : other ≠ label := by
        rintro rfl
        exact notIn isOther
      simp [Name.plain, Name.localPart, (further other isOther).splitLabel, isLabel.splitLabel, different]

theorem applyAll?_eq {bindings : Bindings} {content : List Node}
    (each : ∀ node ∈ content, Bindings.bind? bindings node = some node) :
    Bindings.applyAll? bindings content = some content := by
  induction content with
  | nil => rfl
  | cons node others ih =>
      obtain ⟨first, further⟩ := List.forall_mem_cons.mp each
      rw [Bindings.applyAll?, first, ih further]
      rfl

section Plain

variable {attributes : List (String × String)}

theorem plainly_declared (areLabels : ∀ entry ∈ attributes, IsLabel entry.1) :
    (plainly attributes).mapM (fun entry => Bindings.declared? entry.1.label entry.2) =
      some ((plainly attributes).map fun _ => []) :=
  mapM_eq_pure_map fun entry member =>
    ((plainly_areLabels areLabels entry member).declares_nothing entry.2).1

theorem plainly_shown (areLabels : ∀ entry ∈ attributes, IsLabel entry.1) :
    (plainly attributes).filter (fun entry => !Bindings.isDeclaration entry.1.label) =
      plainly attributes := by
  rw [List.filter_eq_self]
  intro entry member
  rw [((plainly_areLabels areLabels entry member).declares_nothing entry.2).2]
  rfl

theorem plainly_named (areLabels : ∀ entry ∈ attributes, IsLabel entry.1) (bindings : Bindings) :
    (plainly attributes).mapM (fun entry => Bindings.attributeName? bindings entry.1.label) =
      some ((attributes.map (·.1)).map .plain) := by
  have names : (plainly attributes).map (·.1) = (attributes.map (·.1)).map .plain := by
    rw [plainly, List.map_map, List.map_map]
    rfl
  rw [← names]
  refine mapM_eq_pure_map fun entry member => ?_
  have isLabel := plainly_areLabels areLabels entry member
  obtain ⟨_, _, rfl⟩ := List.mem_map.mp member
  rw [Bindings.attributeName?, isLabel.splitLabel]
  rfl

theorem plainly_zip (attributes : List (String × String)) :
    ((attributes.map (·.1)).map .plain).zip ((plainly attributes).map (·.2)) = plainly attributes := by
  rw [plainly, List.map_map, List.map_map, List.zip_map']
  rfl

end Plain

/-- Names without prefixes stay as they are. -/
theorem Readable.bind? {node : Node} (readable : Readable node) {bindings : Bindings}
    (noDefault : bindings.lookup "" = none) : Bindings.bind? bindings node = some node := by
  induction readable with
  | text _ _ => rfl
  | @element label attributes content isLabel areLabels _ nodup _ _ ih =>
      have nothing : ((plainly attributes).map fun _ => ([] : Bindings)).flatten = [] := by simp
      have labels : (plainly attributes).map (·.1.label) = attributes.map (·.1) := by
        rw [plainly, List.map_map]
        rfl
      have distinct : (Bindings.distinctLabels (attributes.map (·.1)) &&
          Bindings.distinct ((attributes.map (·.1)).map .plain)) = true := by
        rw [Bindings.distinctLabels, distinct_plain (by simpa using areLabels) nodup]
        simpa using nodup
      have ownName : Bindings.elementName? bindings label = some (.plain label) := by
        rw [Bindings.elementName?, isLabel.splitLabel]
        simp only [noDefault]
        rfl
      -- No attribute is a declaration, so that the content is read with the same bindings.
      rw [Bindings.bind?]
      simp only [bind, Option.bind, plainly_declared areLabels, nothing, List.nil_append,
        plainly_shown areLabels, plainly_named areLabels, labels]
      rw [if_pos distinct]
      simp only [Name.plain] at ownName ⊢
      simp only [ownName, applyAll?_eq ih, pure]
      exact congrArg (fun shown => some (Node.element ⟨_, _⟩ shown content)) (plainly_zip attributes)

/-! ## Documents -/

theorem isContentChar_escapeTextChar {c : Char} (isContent : isContentChar c = true) :
    ∀ d ∈ escapeTextChar c, isContentChar d = true := by
  have references : IsContent "&amp;" ∧ IsContent "&lt;" ∧ IsContent "&gt;" := by decide
  rw [escapeTextChar]
  split_ifs
  · exact references.1
  · exact references.2.1
  · exact references.2.2
  · exact List.forall_mem_singleton.mpr isContent

theorem isContentChar_escapeText {s : String} (isContent : IsContent s) :
    ∀ c ∈ escapeText s, isContentChar c = true := by
  intro c member
  obtain ⟨d, inText, member⟩ := List.mem_flatMap.mp member
  exact isContentChar_escapeTextChar (isContent d inText) c member

theorem isContentChar_escapeAttributeChar {c : Char} (isContent : isContentChar c = true) :
    ∀ d ∈ escapeAttributeChar c, isContentChar d = true := by
  have references : IsContent "&quot;" ∧ IsContent "&#13;" ∧ IsContent "&#10;" ∧ IsContent "&#09;" := by decide
  rw [escapeAttributeChar]
  split_ifs
  · exact references.1
  · exact references.2.1
  · exact references.2.2.1
  · exact references.2.2.2
  · exact isContentChar_escapeTextChar isContent

theorem isContentChar_escapeAttribute {s : String} (isContent : IsContent s) :
    ∀ c ∈ escapeAttribute s, isContentChar c = true := by
  intro c member
  obtain ⟨d, inText, member⟩ := List.mem_flatMap.mp member
  exact isContentChar_escapeAttributeChar (isContent d inText) c member

theorem IsLabel.isContent {label : String} (isLabel : IsLabel label) : IsContent label :=
  fun c member => isContentChar_of_isNameChar (isLabel.all_isNameChar c member)

theorem isContentChar_writeAttributes {attributes : List (String × String)}
    (areLabels : ∀ entry ∈ attributes, IsLabel entry.1) (areContent : ∀ entry ∈ attributes, IsContent entry.2) :
    ∀ c ∈ writeAttributes (plainly attributes), isContentChar c = true := by
  induction attributes with
  | nil => simp [plainly, writeAttributes]
  | cons entry others ih =>
      obtain ⟨label, value⟩ := entry
      obtain ⟨isLabel, furtherLabels⟩ := List.forall_mem_cons.mp areLabels
      obtain ⟨isContent, furtherContent⟩ := List.forall_mem_cons.mp areContent
      have blank : isContentChar ' ' = true := by decide
      have equals : IsContent "=\"" := by decide
      have quote : isContentChar '"' = true := by decide
      intro c member
      rw [plainly, List.map_cons, writeAttributes] at member
      simp only [List.mem_append, List.mem_cons, List.not_mem_nil, or_false, Name.plain] at member
      rcases member with ((((isBlank | inLabel) | inMark) | inValue) | inQuote) | inOthers
      · rw [isBlank, blank]
      · exact isLabel.isContent c inLabel
      · exact equals c inMark
      · exact isContentChar_escapeAttribute isContent c inValue
      · rw [inQuote, quote]
      · exact ih furtherLabels furtherContent c inOthers

theorem isContentChar_contentChars {content : List Node}
    (each : ∀ node ∈ content, ∀ c ∈ node.chars, isContentChar c = true) :
    ∀ c ∈ Node.contentChars content, isContentChar c = true := by
  induction content with
  | nil => simp [Node.contentChars]
  | cons node others ih =>
      obtain ⟨first, further⟩ := List.forall_mem_cons.mp each
      rw [Node.contentChars]
      exact List.forall_mem_append.mpr ⟨first, ih further⟩

/-- A document holds characters that are read as they are written. -/
theorem Readable.isContent {node : Node} (readable : Readable node) :
    ∀ c ∈ node.chars, isContentChar c = true := by
  induction readable with
  | @text s _ isContent =>
      rw [Node.chars]
      exact isContentChar_escapeText isContent
  | @element label attributes content isLabel areLabels areContent _ _ _ ih =>
      have less : isContentChar '<' = true := by decide
      have greater : isContentChar '>' = true := by decide
      have inTag := isContentChar_writeAttributes areLabels areContent
      intro c member
      rw [Node.chars] at member
      split at member
      · have closing : IsContent " />" := by decide
        simp only [List.mem_append, List.mem_cons, Name.plain] at member
        rcases member with ((isLess | inLabel) | inAttributes) | inClosing
        · rw [isLess, less]
        · exact isLabel.isContent c inLabel
        · exact inTag c inAttributes
        · exact closing c inClosing
      · have closing : IsContent "</" := by decide
        simp only [List.mem_append, List.mem_cons, List.not_mem_nil, or_false, Name.plain] at member
        rcases member with
          ((((((isLess | inLabel) | inAttributes) | isGreater) | inContent) | inClosing) | inLabel) | isGreater
        · rw [isLess, less]
        · exact isLabel.isContent c inLabel
        · exact inTag c inAttributes
        · rw [isGreater, greater]
        · exact isContentChar_contentChars ih c inContent
        · exact closing c inClosing
        · exact isLabel.isContent c inLabel
        · rw [isGreater, greater]

theorem normalizeLineEnds_eq {chars : List Char} (noReturn : '\r' ∉ chars) :
    normalizeLineEnds chars = chars := by
  induction chars with
  | nil => rfl
  | cons c others ih =>
      obtain ⟨notFirst, notOthers⟩ := not_or.mp (fun isIn => noReturn (List.mem_cons.mpr isIn))
      rw [normalizeLineEnds, ih notOthers, if_neg (Ne.symm notFirst)]
      rintro rest same
      exact absurd same.symm notFirst

/-- A document that begins with the tag of a plain name has no declaration in front. -/
theorem dropDeclaration?_tag {first : Char} (starts : isNameStart first = true) (rest : List Char) :
    dropDeclaration? ('<' :: first :: rest) = some ('<' :: first :: rest) := by
  have notQuestion := ne_of_isNameStart starts '?' rfl
  simp [dropDeclaration?, Text.dropStart?, Ne.symm notQuestion]

theorem Readable.cut {node : Node} (readable : Readable node) (isElement : node.isText = false) :
    Token.all? node.chars = some node.tokens := by
  have inFront := readable.tokenized [] (fun isText => by rw [isElement] at isText; cases isText)
  have nothing : Token.all? [] = some [] := by simp [Token.all?]
  rw [List.append_nil, nothing] at inFront
  simpa using inFront

/-- Putting the tokens of an element together outside all elements makes it the root. -/
theorem Readable.assemble_root {node : Node} (readable : Readable node) (isElement : node.isText = false)
    (rest : List Token) : assemble none [] (node.tokens ++ rest) = assemble (some node) [] rest := by
  cases readable with
  | text _ _ => cases isElement
  | element _ _ _ _ each apart =>
      rw [assemble_element (fun node member => (each node member).assembled) apart rfl, assemble.place,
        OpenElement.finish_reverse]

/-- Reading the document that an element is written as gives the element back. -/
theorem read?_write {name : Name} {attributes : List (Name × String)} {content : List Node}
    (readable : Readable (.element name attributes content)) :
    read? (Node.element name attributes content).write = some (.element name attributes content) := by
  have isContent := readable.isContent
  have bound : Bindings.bind? [("xml", Bindings.xmlSpace)] (.element name attributes content) =
    some (.element name attributes content) := readable.bind? rfl
  have cutUp := readable.cut rfl
  have assembled : assemble none [] (Node.element name attributes content).tokens =
      some (.element name attributes content) := by
    have atRoot := readable.assemble_root rfl []
    rw [List.append_nil, assemble] at atRoot
    exact atRoot
  cases readable with
  | @element label attributes _ isLabel _ _ _ each apart =>
      obtain ⟨first, inner, spelled, starts, _⟩ := isLabel.exists_cons
      obtain ⟨rest, begins⟩ :
          ∃ rest, (Node.element (.plain label) (plainly attributes) content).chars =
            '<' :: first :: rest := by
        rw [Node.chars, Name.plain, spelled]
        split <;> exact ⟨_, rfl⟩
      have noReturn : '\r' ∉ '<' :: first :: rest := by
        intro member
        rw [← begins] at member
        exact absurd (isContent _ member) (by decide)
      have allowed : ('<' :: first :: rest).all isXmlChar = true := by
        rw [List.all_eq_true, ← begins]
        intro c member
        exact (Bool.and_eq_true_iff.mp (isContent c member)).1
      rw [begins] at cutUp
      rw [read?, Node.write, String.toList_ofList, begins]
      change (if ('<' :: first :: rest).all isXmlChar then do
          let chars ← dropDeclaration? (normalizeLineEnds ('<' :: first :: rest))
          let root ← assemble none [] (← Token.all? chars)
          Bindings.bind? [("xml", Bindings.xmlSpace)] root
        else none) = _
      simp only [allowed, if_true, normalizeLineEnds_eq noReturn, dropDeclaration?_tag starts, bind,
        Option.bind, cutUp, assembled]
      exact bound

end StyleRules.Xml
