import Mathlib.Data.List.TakeWhile
import StyleRules.Proofs.Lists
import StyleRules.Proofs.Text.Search
import StyleRules.Xml.Reader
import StyleRules.Xml.Writer

/-!
# Reading tokens that were written

Markup is written with escapes and read with references.  Every character of an attribute value or of a text is
read back from its escape, and so the tags and texts of a written document are the tokens that it is cut into.
-/

namespace StyleRules.Xml

/-! ## Characters of names -/

/-- A character that is read as it is written, also where line ends are made uniform. -/
def isContentChar (c : Char) : Bool := isXmlChar c && c ≠ '\r'

/-- A text that a document can hold without a change. -/
def IsContent (s : String) : Prop := ∀ c ∈ s.toList, isContentChar c = true

/-- A plain name that declares no namespace. -/
def IsLabel (label : String) : Prop := isPlainName label.toList = true ∧ label ≠ "xmlns"

instance : DecidablePred IsContent := fun s => List.decidableBAll _ s.toList

instance (label : String) : Decidable (IsLabel label) :=
  inferInstanceAs (Decidable (isPlainName label.toList = true ∧ label ≠ "xmlns"))

theorem isNameChar_of_isNameStart {c : Char} (starts : isNameStart c = true) : isNameChar c = true := by
  simp [isNameChar, starts]

theorem isContentChar_of_bounds {c : Char} (above : 0x20 ≤ c.toNat)
    (outside : c.toNat ≠ 0xfffe ∧ c.toNat ≠ 0xffff) : isContentChar c = true := by
  have valid : c.toNat < 0xd800 ∨ 0xdfff < c.toNat ∧ c.toNat < 0x110000 := c.valid
  have notReturn : c ≠ '\r' := by
    rintro rfl
    exact absurd above (by decide)
  simp only [isContentChar, isXmlChar, within, notReturn, Bool.and_eq_true, Bool.or_eq_true,
    decide_eq_true_eq, ne_eq, not_false_eq_true, and_true]
  omega

theorem isContentChar_of_isNameChar {c : Char} (inName : isNameChar c = true) :
    isContentChar c = true := by
  have none : ∀ n ∈ List.range 32 ++ [0xfffe, 0xffff], isNameChar (Char.ofNat n) = false := by decide
  have notIn : c.toNat ∉ List.range 32 ++ [0xfffe, 0xffff] := by
    intro member
    have outside := none _ member
    rw [Char.ofNat_toNat, inName] at outside
    cases outside
  simp only [List.mem_append, List.mem_range, List.mem_cons, List.not_mem_nil] at notIn
  exact isContentChar_of_bounds (by omega) (by omega)

theorem ne_of_isNameStart {c : Char} (starts : isNameStart c = true) (other : Char)
    (notStart : isNameStart other = false) : c ≠ other := by
  rintro rfl
  rw [starts] at notStart
  cases notStart

theorem IsLabel.exists_cons {label : String} (isLabel : IsLabel label) :
    ∃ first rest, label.toList = first :: rest ∧ isNameStart first = true ∧
      rest.all isNameChar = true := by
  obtain ⟨isName, _⟩ := isLabel
  cases spelled : label.toList with
  | nil =>
      rw [spelled] at isName
      cases isName
  | cons first rest =>
      rw [spelled, isPlainName, Bool.and_eq_true] at isName
      exact ⟨first, rest, rfl, isName⟩

theorem IsLabel.all_isNameChar {label : String} (isLabel : IsLabel label) :
    ∀ c ∈ label.toList, isNameChar c = true := by
  obtain ⟨first, rest, spelled, starts, inner⟩ := isLabel.exists_cons
  rw [spelled]
  exact List.forall_mem_cons.mpr ⟨isNameChar_of_isNameStart starts, List.all_eq_true.mp inner⟩

theorem splitLabel_of_notMem {label : String} (noColon : ':' ∉ label.toList) : splitLabel label = ("", label) := by
  have noneOf := forall_ne_of_notMem noColon
  rw [splitLabel, List.span_eq_takeWhile_dropWhile, List.takeWhile_eq_self_iff.mpr noneOf,
    List.dropWhile_eq_nil_iff.mpr noneOf]

theorem splitLabel_colon {before : List Char} (noColon : ':' ∉ before) (part : List Char) :
    splitLabel (String.ofList (before ++ ':' :: part)) = (String.ofList before, String.ofList part) := by
  have noneOf := forall_ne_of_notMem noColon
  rw [splitLabel, String.toList_ofList, List.span_eq_takeWhile_dropWhile, List.takeWhile_append_of_pos noneOf,
    List.dropWhile_append_of_pos noneOf]
  simp

/-! ## Escapes -/

theorem escapeTextChar_ne_nil (c : Char) : escapeTextChar c ≠ [] := by
  rw [escapeTextChar]
  split_ifs <;> simp

theorem escapeAttributeChar_ne_nil (c : Char) : escapeAttributeChar c ≠ [] := by
  rw [escapeAttributeChar]
  split_ifs <;> simp [escapeTextChar_ne_nil]

theorem not_mem_escapeText {c : Char} (isMark : c = '<' ∨ c = '>') (s : String) :
    c ∉ escapeText s := by
  rw [escapeText, List.mem_flatMap]
  rintro ⟨d, _, member⟩
  rw [escapeTextChar] at member
  split_ifs at member with isAmp isLess isGreater
  · rcases isMark with rfl | rfl <;> exact absurd member (by decide)
  · rcases isMark with rfl | rfl <;> exact absurd member (by decide)
  · rcases isMark with rfl | rfl <;> exact absurd member (by decide)
  · rw [List.mem_singleton] at member
    subst member
    exact isMark.elim isLess isGreater

theorem not_mem_escapeAttribute {c : Char} (isMark : c ∈ ['"', '<', '>', '\r']) (s : String) :
    c ∉ escapeAttribute s := by
  have inReference {escaped : String}
      (none : (['"', '<', '>', '\r'].all fun mark => !escaped.toList.contains mark) = true) : c ∉ escaped.toList := by
    simpa using List.all_eq_true.mp none c isMark
  rw [escapeAttribute, List.mem_flatMap]
  rintro ⟨d, _, member⟩
  rw [escapeAttributeChar, escapeTextChar] at member
  split_ifs at member with isQuote isReturn isFeed isTab isAmp isLess isGreater
  · exact inReference (by decide) member
  · exact inReference (by decide) member
  · exact inReference (by decide) member
  · exact inReference (by decide) member
  · exact inReference (by decide) member
  · exact inReference (by decide) member
  · exact inReference (by decide) member
  · rw [List.mem_singleton.mp member] at isMark
    simp [isQuote, isReturn, isLess, isGreater] at isMark

theorem escapeText_ne_nil {s : String} (nonempty : s ≠ "") : escapeText s ≠ [] := by
  intro isEmpty
  rw [escapeText, List.flatMap_eq_nil_iff] at isEmpty
  have noChars : s.toList = [] := List.eq_nil_iff_forall_not_mem.mpr fun c member =>
    escapeTextChar_ne_nil c (isEmpty c member)
  exact nonempty (String.toList_eq_nil_iff.mp noChars)

namespace Token

/-! ## Runs of characters -/

section Run

variable {ends : Char → Bool} {blank : Bool} {escape : Char → List Char}

/-- The escape of a character is read back as this character. -/
def Reads (ends : Char → Bool) (blank : Bool) (written : List Char) (c : Char) : Prop :=
  ∀ fuel rest, run?.go ends blank (fuel + 1) (written ++ rest) =
    (run?.go ends blank fuel rest).map fun (chars, left) => (c :: chars, left)

theorem reads_reference (name : List Char) {c : Char} (noEnd : ends '&' = false)
    (closed : name.all (· ≠ ';') = true) (isName : referenced? name = some c) :
    Reads ends blank ('&' :: name ++ [';']) c := by
  intro fuel rest
  have before : (name ++ ';' :: rest).takeWhile (· ≠ ';') = name := by
    rw [List.takeWhile_append_of_pos (List.all_eq_true.mp closed)]
    simp
  have behind : (name ++ ';' :: rest).dropWhile (· ≠ ';') = ';' :: rest := by
    rw [List.dropWhile_append_of_pos (List.all_eq_true.mp closed)]
    simp
  have split : ('&' :: name ++ [';']) ++ rest = '&' :: (name ++ ';' :: rest) := by simp
  rw [split, run?.go, noEnd, if_neg (by simp), if_pos rfl, before, behind, isName]

theorem reads_self {c : Char} (noEnd : ends c = false) (notMark : c ≠ '&')
    (notSpace : (blank && isXmlSpace c) = true → c = ' ') : Reads ends blank [c] c := by
  intro fuel rest
  have shown : (if blank && isXmlSpace c then ' ' else c) = c := by
    split
    · rename_i isSpace
      exact (notSpace isSpace).symm
    · rfl
  rw [List.singleton_append, run?.go, noEnd, if_neg (by simp), if_neg notMark]
  simp only [shown]

theorem go_flatMap {chars : List Char} (each : ∀ c ∈ chars, Reads ends blank (escape c) c) {stop : Char}
    (isEnd : ends stop = true) (rest : List Char) {fuel : Nat} (enough : chars.length < fuel) :
    run?.go ends blank fuel (chars.flatMap escape ++ stop :: rest) = some (chars, stop :: rest) := by
  induction chars generalizing fuel with
  | nil =>
      cases fuel with
      | zero => simp at enough
      | succ fuel => simp [run?.go, isEnd]
  | cons c others ih =>
      obtain ⟨first, further⟩ := List.forall_mem_cons.mp each
      cases fuel with
      | zero => simp at enough
      | succ fuel =>
          rw [List.flatMap_cons, List.append_assoc, first, ih further (by simpa using enough)]
          rfl

theorem run?_flatMap {chars : List Char} (each : ∀ c ∈ chars, Reads ends blank (escape c) c)
    (nonempty : ∀ c, escape c ≠ []) (stop : Char) (isEnd : ends stop = true) (rest : List Char) :
    run? ends blank (chars.flatMap escape ++ stop :: rest) = some (chars, stop :: rest) := by
  have longer : chars.length ≤ (chars.flatMap escape).length := by
    induction chars with
    | nil => simp
    | cons c others ih =>
        have := List.length_pos_iff.mpr (nonempty c)
        have := ih (fun c member => each c (List.mem_cons_of_mem _ member))
        simp only [List.flatMap_cons, List.length_append, List.length_cons]
        omega
  exact go_flatMap each isEnd rest (by rw [List.length_append, List.length_cons]; omega)

end Run

theorem reads_escapeTextChar {ends : Char → Bool} {blank : Bool} {c : Char} (noMark : ends '&' = false)
    (noEnd : c ≠ '<' → ends c = false) (notSpace : (blank && isXmlSpace c) = true → c = ' ') :
    Reads ends blank (escapeTextChar c) c := by
  rw [escapeTextChar]
  split_ifs with isAmp isLess isGreater
  · subst isAmp
    exact reads_reference "amp".toList noMark (by decide) (by decide)
  · subst isLess
    exact reads_reference "lt".toList noMark (by decide) (by decide)
  · subst isGreater
    exact reads_reference "gt".toList noMark (by decide) (by decide)
  · exact reads_self (noEnd isLess) isAmp notSpace

theorem reads_escapeAttributeChar (c : Char) :
    Reads (fun c => c = '"' || c = '<') true (escapeAttributeChar c) c := by
  rw [escapeAttributeChar]
  split_ifs with isQuote isReturn isFeed isTab
  · subst isQuote
    exact reads_reference "quot".toList rfl (by decide) (by decide)
  · subst isReturn
    exact reads_reference "#13".toList rfl (by decide) (by decide)
  · subst isFeed
    exact reads_reference "#10".toList rfl (by decide) (by decide)
  · subst isTab
    exact reads_reference "#09".toList rfl (by decide) (by decide)
  · refine reads_escapeTextChar rfl ?_ ?_
    · intro notLess
      simp [isQuote, notLess]
    · simp [isXmlSpace, isReturn, isFeed, isTab]

/-! ## Tags -/

variable {label : String} {rest : List Char}

theorem skipSpace_of_isNameStart {c : Char} (starts : isNameStart c = true) (rest : List Char) :
    skipSpace (c :: rest) = c :: rest := by
  have notSpace : isXmlSpace c = false := by
    simp [isXmlSpace, ne_of_isNameStart starts ' ' rfl, ne_of_isNameStart starts '\t' rfl,
      ne_of_isNameStart starts '\n' rfl, ne_of_isNameStart starts '\r' rfl]
  rw [skipSpace, List.dropWhile_cons, notSpace]
  rfl

/-- A label is read up to a character that cannot stand in a name. -/
theorem label?_append (isLabel : IsLabel label) {stop : Char} (noName : isNameChar stop = false)
    (noColon : stop ≠ ':') (rest : List Char) :
    label? (label.toList ++ stop :: rest) = some (label, stop :: rest) := by
  obtain ⟨first, others, spelled, starts, inner⟩ := isLabel.exists_cons
  have taken : takeName (label.toList ++ stop :: rest) = (label.toList, stop :: rest) := by
    rw [spelled, List.cons_append, takeName, if_pos starts,
      List.takeWhile_append_of_pos (List.all_eq_true.mp inner),
      List.dropWhile_append_of_pos (List.all_eq_true.mp inner)]
    simp [noName]
  rw [label?, taken, spelled]
  split
  · rename_i empty
    cases empty
  · rename_i same
    cases same
    exact absurd rfl noColon
  · rename_i same
    cases same
    rw [← spelled, String.ofList_toList]

theorem quotedValue?_escape (value : String) (rest : List Char) :
    quotedValue? ('"' :: (escapeAttribute value ++ '"' :: rest)) = some (value, rest) := by
  have read := run?_flatMap (fun c (_ : c ∈ value.toList) => reads_escapeAttributeChar c)
    escapeAttributeChar_ne_nil '"' rfl rest
  rw [quotedValue?, if_pos (by decide), escapeAttribute, read]
  simp

theorem attribute?_write (isLabel : IsLabel label) (value : String) (rest : List Char) :
    attribute? (label.toList ++ '=' :: '"' :: (escapeAttribute value ++ '"' :: rest)) =
      some ((label, value), rest) := by
  have opened : skipSpace ('"' :: (escapeAttribute value ++ '"' :: rest)) =
    '"' :: (escapeAttribute value ++ '"' :: rest) := rfl
  have equals : skipSpace ('=' :: '"' :: (escapeAttribute value ++ '"' :: rest)) =
    '=' :: '"' :: (escapeAttribute value ++ '"' :: rest) := rfl
  rw [attribute?, label?_append isLabel rfl (by decide)]
  simp only [bind, Option.bind, equals, opened, quotedValue?_escape]
  rfl

theorem skipSpace_append_blanks {blanks : List Char} (areBlank : blanks.all isXmlSpace = true) (rest : List Char) :
    skipSpace (blanks ++ rest) = skipSpace rest :=
  List.dropWhile_append_of_pos (List.all_eq_true.mp areBlank)

theorem attributes?_step (blanks : List Char) (areBlank : blanks.all isXmlSpace = true) (nonempty : blanks ≠ [])
    {first : Char} (starts : isNameStart first = true) {inner rest : List Char} {entry : String × String}
    (read : attribute? (first :: inner) = some (entry, rest)) (shorter : rest.length ≤ inner.length) :
    attributes? (blanks ++ first :: inner) =
      (attributes? rest).map fun ((others, empty), left) => ((entry :: others, empty), left) := by
  have skipped : skipSpace (blanks ++ first :: inner) = first :: inner := by
    rw [skipSpace_append_blanks areBlank, skipSpace_of_isNameStart starts]
  have someBlank := List.length_pos_iff.mpr nonempty
  rw [attributes?, skipped]
  split
  · rename_i same
    cases same
    cases starts
  · rename_i same
    cases same
    cases starts
  · rw [if_pos (by rw [List.length_append]; omega), read]
    simp only [List.length_append, List.length_cons]
    rw [if_pos (by omega)]

/-- The attributes as they are read, before namespaces are looked up. -/
def labelled (attributes : List (Name × String)) : List (String × String) :=
  attributes.map fun (name, value) => (name.label, value)

/-- The end of a start tag, or of the tag of an empty element. -/
def tagEnd (empty : Bool) (rest : List Char) : List Char :=
  if empty then ' ' :: '/' :: '>' :: rest else '>' :: rest

theorem attributes?_write {attributes : List (Name × String)}
    (areLabels : ∀ entry ∈ attributes, IsLabel entry.1.label) (empty : Bool) (rest : List Char) :
    attributes? (writeAttributes attributes ++ tagEnd empty rest) =
      some ((labelled attributes, empty), rest) := by
  induction attributes with
  | nil =>
      cases empty with
      | false =>
          have ended : skipSpace ('>' :: rest) = '>' :: rest := rfl
          rw [writeAttributes, List.nil_append, tagEnd, if_neg (by simp), attributes?, ended]
          rfl
      | true =>
          have ended : skipSpace (' ' :: '/' :: '>' :: rest) = '/' :: '>' :: rest := rfl
          rw [writeAttributes, List.nil_append, tagEnd, if_pos rfl, attributes?, ended]
          rfl
  | cons entry others ih =>
      obtain ⟨name, value⟩ := entry
      obtain ⟨isLabel, further⟩ := List.forall_mem_cons.mp areLabels
      obtain ⟨first, inner, spelled, starts, _⟩ := isLabel.exists_cons
      have written : writeAttributes ((name, value) :: others) ++ tagEnd empty rest =
          ' ' :: (name.label.toList ++ '=' :: '"' ::
            (escapeAttribute value ++ '"' :: (writeAttributes others ++ tagEnd empty rest))) := by
        simp [writeAttributes]
      have read := attribute?_write isLabel value (writeAttributes others ++ tagEnd empty rest)
      rw [spelled, List.cons_append] at read
      rw [written, spelled, List.cons_append, ← List.singleton_append,
        attributes?_step [' '] rfl (by simp) starts read (by simp; omega), ih further]
      rfl

/-! ## Markup -/

/-- A start tag is its label and what is read as its attributes. -/
theorem next?_tag (isLabel : IsLabel label) {stop : Char} {more : List Char} (noName : isNameChar stop = false)
    (noColon : stop ≠ ':') : next? ('<' :: (label.toList ++ stop :: more)) =
      (attributes? (stop :: more)).map fun found => (.opening label found.1.1 found.1.2, found.2) := by
  have read := label?_append isLabel noName noColon more
  obtain ⟨first, inner, spelled, starts, _⟩ := isLabel.exists_cons
  have isTag (chars : List Char) : markup? (first :: chars) = tag? (first :: chars) := by
    have notBang := ne_of_isNameStart starts '!' rfl
    have notQuestion := ne_of_isNameStart starts '?' rfl
    simp [markup?, Text.dropStart?, Ne.symm notBang, notQuestion]
  have notClosing (chars : List Char) : tag? (first :: chars) = do
      let named ← label? (first :: chars)
      let tagged ← attributes? named.2
      return (.opening named.1 tagged.1.1 tagged.1.2, tagged.2) := by
    have notSlash := ne_of_isNameStart starts '/' rfl
    simp [tag?, notSlash]
  rw [next?]
  rw [spelled, List.cons_append] at read ⊢
  rw [isTag, notClosing, read]
  simp only [bind, Option.bind]
  cases attributes? (stop :: more) <;> rfl

theorem next?_opening {attributes : List (Name × String)} (isLabel : IsLabel label)
    (areLabels : ∀ entry ∈ attributes, IsLabel entry.1.label) (empty : Bool) (rest : List Char) :
    next? ('<' :: (label.toList ++ (writeAttributes attributes ++ tagEnd empty rest))) =
      some (.opening label (labelled attributes) empty, rest) := by
  obtain ⟨stop, more, spelledEnd, noName, noColon⟩ :
      ∃ stop more, writeAttributes attributes ++ tagEnd empty rest = stop :: more ∧
        isNameChar stop = false ∧ stop ≠ ':' := by
    cases attributes with
    | nil =>
        cases empty
        · exact ⟨'>', _, rfl, rfl, by decide⟩
        · exact ⟨' ', _, rfl, rfl, by decide⟩
    | cons entry others => exact ⟨' ', _, rfl, rfl, by decide⟩
  rw [spelledEnd, next?_tag isLabel noName noColon, ← spelledEnd, attributes?_write areLabels]
  rfl

theorem next?_closing (isLabel : IsLabel label) (rest : List Char) :
    next? ('<' :: '/' :: (label.toList ++ '>' :: rest)) = some (.closing label, rest) := by
  have isTag : markup? ('/' :: (label.toList ++ '>' :: rest)) =
      tag? ('/' :: (label.toList ++ '>' :: rest)) := by
    simp [markup?, Text.dropStart?]
  have ended : skipSpace ('>' :: rest) = '>' :: rest := rfl
  rw [next?, isTag, tag?, label?_append isLabel rfl (by decide)]
  simp only [bind, Option.bind, ended]
  rfl

/-! ## Texts -/

/-- A text in front of a tag is read back; no closing mark of a section stands in it. -/
theorem next?_text {s : String} (nonempty : s ≠ "") (rest : List Char) :
    next? (escapeText s ++ '<' :: rest) = some (.text s.toList, '<' :: rest) := by
  have noLess : ∀ c ∈ escapeText s, decide (c ≠ '<') = true := forall_ne_of_notMem (not_mem_escapeText (.inl rfl) s)
  have before : (escapeText s ++ '<' :: rest).takeWhile (· ≠ '<') = escapeText s := by
    rw [List.takeWhile_append_of_pos noLess]
    simp
  have noSectionEnd : Text.cut? "]]>".toList (escapeText s) = none :=
    Text.cut?_eq_none_of_notMem (c := '>') (by decide) (not_mem_escapeText (Or.inr rfl) s)
  have read : run? (· = '<') false (escapeText s ++ '<' :: rest) = some (s.toList, '<' :: rest) := by
    refine run?_flatMap ?_ escapeTextChar_ne_nil '<' rfl rest
    intro c _
    exact reads_escapeTextChar rfl (fun notLess => by simpa using notLess) (by simp)
  obtain ⟨first, others, spelled⟩ := List.exists_cons_of_ne_nil (escapeText_ne_nil nonempty)
  have notLess : first ≠ '<' := by
    have := noLess first (by rw [spelled]; exact List.mem_cons_self)
    simpa using this
  rw [spelled, List.cons_append] at before read ⊢
  rw [next?]
  · rw [read, before, ← spelled, noSectionEnd]
    rfl
  · rintro others same
    exact notLess (List.cons.inj same).1

end Token

end StyleRules.Xml
