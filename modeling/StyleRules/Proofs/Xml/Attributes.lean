import StyleRules.Proofs.Xml.Tokens

/-!
# Reading attributes of any spelling

A reader that succeeds has taken some characters from the front, and would have read the same from them whatever
stands behind.  For an attribute these characters end with its closing quote and hold no opening bracket.  So where a
tag is spelled by pieces, each of which ends with a quote, no attribute reaches from one piece into the next one.
-/

namespace StyleRules.Xml.Token

variable {α : Type} {chars rest : List Char}

/-- The reader takes these characters, whatever stands behind them. -/
def Takes (reader : List Char → Option (α × List Char)) (taken : List Char) (value : α) : Prop :=
  ∀ rest, reader (taken ++ rest) = some (value, rest)

/-! ## White space -/

theorem exists_skipSpace (chars : List Char) :
    ∃ space, chars = space ++ skipSpace chars ∧ space.all isXmlSpace = true :=
  ⟨chars.takeWhile isXmlSpace, (List.takeWhile_append_dropWhile).symm, List.all_takeWhile⟩

theorem skipSpace_append_of_ne_nil (rest : List Char) (notAll : skipSpace chars ≠ []) :
    skipSpace (chars ++ rest) = skipSpace chars ++ rest := by
  unfold skipSpace at notAll ⊢
  rw [List.dropWhile_append, if_neg (by simpa using notAll)]

theorem skipSpace_append_of_eq_nil (rest : List Char) (all : skipSpace chars = []) :
    skipSpace (chars ++ rest) = skipSpace rest := by
  unfold skipSpace at all ⊢
  rw [List.dropWhile_append, if_pos (by simpa using all)]

/-! ## Labels -/

theorem takeName_append {c : Char} (noName : isNameChar c = false) (chars rest : List Char) :
    takeName (chars ++ c :: rest) = ((takeName chars).1, (takeName chars).2 ++ c :: rest) := by
  have noStart : isNameStart c = false := by
    rw [Bool.eq_false_iff]
    intro starts
    rw [isNameChar_of_isNameStart starts] at noName
    cases noName
  cases chars with
  | nil => simp [takeName, noStart]
  | cons d others =>
      obtain ⟨taken, left⟩ := takeWhile_stop noName others rest
      rw [List.cons_append, takeName, takeName, taken, left]
      split <;> rfl

theorem label?_plain {first rest : List Char} (taken : takeName chars = (first, rest)) (nonempty : first ≠ [])
    (noColon : ∀ more, rest ≠ ':' :: more) : label? chars = some (String.ofList first, rest) := by
  rw [label?, taken]
  split
  · rename_i same
    exact absurd (Prod.mk.inj same).1 nonempty
  · rename_i same
    exact absurd (Prod.mk.inj same).2 (noColon _)
  · rename_i same
    cases same
    rfl

theorem label?_prefixed {first inner : List Char} (taken : takeName chars = (first, ':' :: inner))
    (nonempty : first ≠ []) : label? chars =
      if (takeName inner).1 = [] then none
      else some (String.ofList (first ++ ':' :: (takeName inner).1), (takeName inner).2) := by
  rw [label?, taken]
  split
  · rename_i same
    exact absurd (Prod.mk.inj same).1 nonempty
  · rename_i same
    cases same
    cases takeName inner with
    | mk second left => cases second <;> rfl
  · rename_i noColon same
    cases same
    exact (noColon _ rfl).elim

/-- A label is read up to a character that can stand in none. -/
theorem label?_stop {c : Char} (noName : isNameChar c = false) (noColon : c ≠ ':') (chars rest : List Char) :
    label? (chars ++ c :: rest) = (label? chars).map fun found => (found.1, found.2 ++ c :: rest) := by
  have takenBehind := takeName_append noName chars rest
  cases taken : takeName chars with
  | mk first left =>
      rw [taken] at takenBehind
      by_cases empty : first = []
      · rw [label?, label?, takenBehind, taken, empty]
        rfl
      by_cases colon : ∃ inner, left = ':' :: inner
      · obtain ⟨inner, rfl⟩ := colon
        replace takenBehind : takeName (chars ++ c :: rest) = (first, ':' :: (inner ++ c :: rest)) := takenBehind
        rw [label?_prefixed taken empty, label?_prefixed takenBehind empty, takeName_append noName]
        split <;> rfl
      · have noColonBehind : ∀ more, left ++ c :: rest ≠ ':' :: more := by
          intro more same
          cases left with
          | nil => exact noColon (List.cons.inj same).1
          | cons d others => exact colon ⟨others, by rw [(List.cons.inj same).1]⟩
        rw [label?_plain taken empty fun more same => colon ⟨more, same⟩, label?_plain takenBehind empty noColonBehind]
        rfl

theorem takeName_split (chars : List Char) :
    chars = (takeName chars).1 ++ (takeName chars).2 ∧ ∀ c ∈ (takeName chars).1, isNameChar c = true := by
  cases chars with
  | nil => simp [takeName]
  | cons c others =>
      rw [takeName]
      split
      · rename_i starts
        refine ⟨by simp, List.forall_mem_cons.mpr ⟨isNameChar_of_isNameStart starts, ?_⟩⟩
        exact fun d member => List.all_eq_true.mp List.all_takeWhile d member
      · simp

/-- A character of a name, or the colon between two. -/
def isLabelChar (c : Char) : Bool := isNameChar c || c = ':'

theorem label?_split {label : String} (read : label? chars = some (label, rest)) :
    chars = label.toList ++ rest ∧ label.toList ≠ [] ∧ ∀ c ∈ label.toList, isLabelChar c = true := by
  have ofName {c : Char} (inName : isNameChar c = true) : isLabelChar c = true := by simp [isLabelChar, inName]
  obtain ⟨spelled, inFirst⟩ := takeName_split chars
  cases taken : takeName chars with
  | mk first left =>
      rw [taken] at spelled inFirst
      by_cases empty : first = []
      · rw [label?, taken, empty] at read
        cases read
      by_cases colon : ∃ inner, left = ':' :: inner
      · obtain ⟨inner, rfl⟩ := colon
        obtain ⟨innerSpelled, inSecond⟩ := takeName_split inner
        rw [label?_prefixed taken empty] at read
        split at read
        · cases read
        · cases read
          rw [String.toList_ofList]
          refine ⟨?_, by simp, fun c member => ?_⟩
          · rw [spelled, List.append_assoc, List.cons_append, ← innerSpelled]
          · rcases List.mem_append.mp member with inName | inRest
            · exact ofName (inFirst c inName)
            · rcases List.mem_cons.mp inRest with rfl | inName
              · rfl
              · exact ofName (inSecond c inName)
      · rw [label?_plain taken empty fun more same => colon ⟨more, same⟩] at read
        cases read
        rw [String.toList_ofList]
        exact ⟨spelled, empty, fun c member => ofName (inFirst c member)⟩

theorem isPlainName_takeName (nonempty : (takeName chars).1 ≠ []) : isPlainName (takeName chars).1 = true := by
  cases chars with
  | nil => exact absurd rfl nonempty
  | cons c others =>
      rw [takeName] at nonempty ⊢
      split
      · rename_i starts
        rw [isPlainName, starts, List.all_takeWhile]
        rfl
      · rename_i noStart
        rw [if_neg noStart] at nonempty
        exact absurd rfl nonempty

theorem label?_localPart {label : String} (read : label? chars = some (label, rest)) :
    isPlainName (splitLabel label).2.toList = true := by
  have noColon : ':' ∉ (takeName chars).1 := fun member => absurd ((takeName_split chars).2 _ member) (by decide)
  cases taken : takeName chars with
  | mk first left =>
      rw [taken] at noColon
      by_cases empty : first = []
      · rw [label?, taken, empty] at read
        cases read
      by_cases colon : ∃ inner, left = ':' :: inner
      · obtain ⟨inner, rfl⟩ := colon
        rw [label?_prefixed taken empty] at read
        split at read
        · cases read
        · rename_i nonempty
          cases read
          rw [splitLabel_colon noColon, String.toList_ofList]
          exact isPlainName_takeName nonempty
      · rw [label?_plain taken empty fun more same => colon ⟨more, same⟩] at read
        cases read
        rw [splitLabel_of_notMem (by rwa [String.toList_ofList]), String.toList_ofList]
        have isFirst : (takeName chars).1 = first := by rw [taken]
        exact isFirst ▸ isPlainName_takeName (isFirst ▸ empty)

/-- What was read as a label is read as one in front of any character that can stand in none. -/
theorem label?_again {c d : Char} {label : String} {more : List Char} (read : label? chars = some (label, c :: more))
    (noName : isNameChar c = false) (noColon : c ≠ ':') (stops : isNameChar d = false) (notColon : d ≠ ':')
    (rest : List Char) : label? (label.toList ++ d :: rest) = some (label, d :: rest) := by
  have front := read
  rw [(label?_split read).1, label?_stop noName noColon] at front
  obtain ⟨⟨found, left⟩, alone, same⟩ := Option.map_eq_some_iff.mp front
  have nothing : left = [] := by simpa using congrArg Prod.snd same
  have isLabel : found = label := congrArg Prod.fst same
  rw [label?_stop stops notColon, alone, nothing, isLabel]
  rfl

/-! ## Values -/

/-- The name of a reference holds no opening bracket. -/
theorem less_notMem_referenced? {name : List Char} {c : Char} (isName : referenced? name = some c) : '<' ∉ name := by
  intro member
  rw [referenced?.eq_def] at isName
  split at isName
  · rename_i digits
    split at isName
    · rename_i areDigits
      rw [Bool.and_eq_true] at areDigits
      have inDigits : '<' ∈ digits := by simpa using member
      exact absurd (List.all_eq_true.mp areDigits.2 '<' inDigits) (by decide)
    · cases isName
  · rename_i digits _
    split at isName
    · rename_i areDigits
      rw [Bool.and_eq_true] at areDigits
      have inDigits : '<' ∈ digits := by simpa using member
      exact absurd (List.all_eq_true.mp areDigits.2 '<' inDigits) (by decide)
    · cases isName
  · split_ifs at isName with isAmp isLess isGreater isQuote isApostrophe
    · rw [isAmp] at member
      exact absurd member (by decide)
    · rw [isLess] at member
      exact absurd member (by decide)
    · rw [isGreater] at member
      exact absurd member (by decide)
    · rw [isQuote] at member
      exact absurd member (by decide)
    · rw [isApostrophe] at member
      exact absurd member (by decide)

section Run

variable {ends : Char → Bool} {blank : Bool} {stop : Char} {value : List Char}

/-- A run takes what stands in front of the character that ends it. -/
theorem go_takes (less : ends '<' = true) {fuel : Nat}
    (read : run?.go ends blank fuel chars = some (value, stop :: rest)) :
    ∃ taken, chars = taken ++ stop :: rest ∧ ends stop = true ∧ '<' ∉ taken ∧
      ∀ enough more, taken.length < enough →
        run?.go ends blank enough (taken ++ stop :: more) = some (value, stop :: more) := by
  induction fuel generalizing chars value with
  | zero => cases chars <;> cases read
  | succ fuel ih =>
      cases chars with
      | nil => cases read
      | cons c others =>
          rw [run?.go] at read
          by_cases isEnd : ends c = true
          · rw [if_pos isEnd] at read
            cases read
            refine ⟨[], rfl, isEnd, List.not_mem_nil, fun enough more positive => ?_⟩
            cases enough with
            | zero => cases positive
            | succ enough => rw [List.nil_append, run?.go, if_pos isEnd]
          rw [if_neg isEnd] at read
          have noEnd : ends c = false := by simpa using isEnd
          have notLess : c ≠ '<' := by
            rintro rfl
            exact isEnd less
          by_cases isMark : c = '&'
          · subst isMark
            rw [if_pos rfl] at read
            split at read
            · rename_i found mark behind isName ended
              obtain ⟨⟨inner, left⟩, readInner, same⟩ := Option.map_eq_some_iff.mp read
              cases same
              obtain ⟨taken, split, stops, noLess, again⟩ := ih readInner
              have isSemicolon : mark = ';' := by
                have ends := List.head?_dropWhile_not (· ≠ ';') others
                rw [ended] at ends
                simpa using ends
              subst isSemicolon
              have spelled : others = others.takeWhile (· ≠ ';') ++ ';' :: (taken ++ stop :: rest) := by
                rw [← split, ← ended, List.takeWhile_append_dropWhile]
              have closed : (others.takeWhile (· ≠ ';')).all (· ≠ ';') = true := List.all_takeWhile
              have reads : Reads ends blank _ found := reads_reference _ noEnd closed isName
              generalize others.takeWhile (· ≠ ';') = name at spelled isName reads
              refine ⟨'&' :: (name ++ ';' :: taken), ?_, stops, ?_, fun enough more long => ?_⟩
              · rw [spelled]
                simp
              · simp [noLess, less_notMem_referenced? isName]
              · cases enough with
                | zero => cases long
                | succ enough =>
                    have again := again enough more (by simp at long; omega)
                    have read := reads enough (taken ++ stop :: more)
                    rw [again] at read
                    simpa using read
            · cases read
          · rw [if_neg isMark] at read
            obtain ⟨⟨inner, left⟩, readInner, same⟩ := Option.map_eq_some_iff.mp read
            cases same
            obtain ⟨taken, split, stops, noLess, again⟩ := ih readInner
            refine ⟨c :: taken, by rw [split]; rfl, stops, ?_, fun enough more long => ?_⟩
            · simp [notLess.symm, noLess]
            · cases enough with
              | zero => cases long
              | succ enough =>
                  rw [List.cons_append, run?.go, if_neg isEnd, if_neg isMark,
                    again enough more (by simpa using long)]
                  rfl

end Run

def IsQuote (c : Char) : Prop := c = '"' ∨ c = '\''

/-- The characters end with a quote that stands in them before, and none of them opens markup. -/
structure Quoted (taken : List Char) : Prop where
  closed : ∃ before quote, taken = before ++ [quote] ∧ IsQuote quote ∧ quote ∈ before
  noLess : '<' ∉ taken

theorem quotedValue?_takes {value : String} (read : quotedValue? chars = some (value, rest)) :
    ∃ taken, chars = taken ++ rest ∧ Takes quotedValue? taken value ∧ Quoted taken ∧ skipSpace taken = taken := by
  cases chars with
  | nil => cases read
  | cons quote inner =>
      rw [quotedValue?] at read
      split at read
      · rename_i isQuote
        split at read
        · rename_i shown stop left isRun
          split at read
          · rename_i closes
            cases read
            subst closes
            obtain ⟨taken, split, _, noLess, again⟩ := go_takes (by simp) isRun
            have quoteNotLess : stop ≠ '<' := by
              rintro rfl
              simp at isQuote
            have isMark : IsQuote stop := by simpa [IsQuote] using isQuote
            refine ⟨stop :: (taken ++ [stop]), by simp [split], fun more => ?_, ⟨?_, ?_⟩, ?_⟩
            · have read : run? (fun c => c = stop || c = '<') true (taken ++ stop :: more) =
                  some (shown, stop :: more) := again _ more (by simp)
              rw [List.cons_append, List.append_assoc, List.singleton_append, quotedValue?, if_pos isQuote, read]
              simp
            · exact ⟨stop :: taken, stop, rfl, isMark, List.mem_cons_self⟩
            · simp [noLess, quoteNotLess.symm]
            · rcases isMark with rfl | rfl <;> rfl
          · cases read
        · cases read
      · cases read

theorem attribute?_iff {entry : String × String} : attribute? chars = some (entry, rest) ↔
    ∃ behind more, label? chars = some (entry.1, behind) ∧ skipSpace behind = '=' :: more ∧
      quotedValue? (skipSpace more) = some (entry.2, rest) := by
  constructor
  · intro read
    obtain ⟨⟨label, behind⟩, isLabel, read⟩ := Option.bind_eq_some_iff.mp read
    dsimp only at read
    split at read
    · rename_i more isSign
      obtain ⟨⟨value, left⟩, isValue, same⟩ := Option.bind_eq_some_iff.mp read
      cases same
      exact ⟨behind, more, isLabel, isSign, isValue⟩
    · cases read
  · rintro ⟨behind, more, isLabel, isSign, isValue⟩
    rw [attribute?, isLabel]
    simp only [bind, Option.bind, isSign, isValue]
    rfl

theorem isNameChar_of_isXmlSpace {c : Char} (space : isXmlSpace c = true) : isNameChar c = false ∧ c ≠ ':' := by
  simp only [isXmlSpace, Bool.or_eq_true, decide_eq_true_eq] at space
  rcases space with ((rfl | rfl) | rfl) | rfl <;> decide

theorem less_notMem_blanks {blanks : List Char} (areBlank : blanks.all isXmlSpace = true) : '<' ∉ blanks :=
  fun member => absurd (List.all_eq_true.mp areBlank '<' member) (by decide)

/-- An attribute takes its label and its value, and the blanks and the sign between them. -/
theorem attribute?_takes {entry : String × String} (read : attribute? chars = some (entry, rest)) :
    ∃ taken, chars = taken ++ rest ∧ Takes attribute? taken entry ∧ Quoted taken := by
  obtain ⟨behind, more, isLabel, isSign, isValue⟩ := attribute?_iff.mp read
  obtain ⟨first, firstSplit, firstBlank⟩ := exists_skipSpace behind
  obtain ⟨second, secondSplit, secondBlank⟩ := exists_skipSpace more
  obtain ⟨value, valueSplit, valueAgain, quoted, valueStarts⟩ := quotedValue?_takes isValue
  obtain ⟨labelSplit, _, inLabel⟩ := label?_split isLabel
  rw [isSign] at firstSplit
  rw [valueSplit] at secondSplit
  -- the label ends where the blanks or the sign begin, and these cannot stand in a label
  obtain ⟨stop, others, begins, noName, noColon⟩ : ∃ stop others, first ++ ['='] = stop :: others ∧
      isNameChar stop = false ∧ stop ≠ ':' := by
    cases first with
    | nil => exact ⟨'=', [], rfl, by decide, by decide⟩
    | cons c blanks => exact ⟨c, _, rfl, isNameChar_of_isXmlSpace (List.all_eq_true.mp firstBlank c List.mem_cons_self)⟩
  have spelledBehind (more : List Char) : first ++ '=' :: more = stop :: (others ++ more) := by
    rw [← List.cons_append, ← begins, List.append_assoc, List.singleton_append]
  refine ⟨entry.1.toList ++ (first ++ '=' :: (second ++ value)), ?_, fun tail => ?_, ?_, ?_⟩
  · rw [labelSplit, firstSplit, secondSplit]
    simp
  · rw [firstSplit, spelledBehind] at isLabel
    have again := label?_again isLabel noName noColon noName noColon (others ++ (second ++ (value ++ tail)))
    refine attribute?_iff.mpr ⟨first ++ '=' :: (second ++ (value ++ tail)), second ++ (value ++ tail), ?_, ?_, ?_⟩
    · rw [spelledBehind]
      simpa [spelledBehind] using again
    · rw [skipSpace_append_blanks firstBlank]
      rfl
    · obtain ⟨_, _, isQuoted, _, _⟩ := quoted.closed
      rw [skipSpace_append_blanks secondBlank, skipSpace_append_of_ne_nil tail (by rw [valueStarts, isQuoted]; simp),
        valueStarts]
      exact valueAgain tail
  · obtain ⟨before, quote, isQuoted, isQuote, isIn⟩ := quoted.closed
    refine ⟨entry.1.toList ++ (first ++ '=' :: (second ++ before)), quote, by rw [isQuoted]; simp, isQuote, ?_⟩
    simp [isIn]
  · have notInLabel : '<' ∉ entry.1.toList := fun member => absurd (inLabel '<' member) (by decide)
    simp [notInLabel, less_notMem_blanks firstBlank, less_notMem_blanks secondBlank, quoted.noLess]

theorem attribute?_front {front more : List Char} {entry : String × String}
    (read : attribute? (front ++ rest) = some (entry, more ++ rest)) : attribute? front = some (entry, more) := by
  obtain ⟨spelled, split, takes, _⟩ := attribute?_takes read
  rw [← List.append_assoc] at split
  rw [List.append_cancel_right split]
  exact takes more

/-! ## The attributes of a tag -/

def prepend (entries : List (String × String)) (found : (List (String × String) × Bool) × List Char) :
    (List (String × String) × Bool) × List Char :=
  ((entries ++ found.1.1, found.1.2), found.2)

/-- The characters spell attributes in front of whatever attributes stand behind them. -/
def Adds (taken : List Char) (entries : List (String × String)) : Prop :=
  ∀ rest, attributes? (taken ++ rest) = (attributes? rest).map (prepend entries)

theorem Adds.nil : Adds [] [] := by
  intro rest
  have same : prepend [] = id := rfl
  rw [same, Option.map_id]
  rfl

theorem Adds.append {taken more : List Char} {entries others : List (String × String)} (first : Adds taken entries)
    (second : Adds more others) : Adds (taken ++ more) (entries ++ others) := by
  intro rest
  rw [List.append_assoc, first, second, Option.map_map]
  congr 1
  funext found
  simp [prepend]

theorem starts_of_label? {label : String} (read : label? chars = some (label, rest)) :
    ∃ first others, chars = first :: others ∧ isNameStart first = true := by
  cases chars with
  | nil => cases read
  | cons first others =>
      refine ⟨first, others, rfl, ?_⟩
      by_contra noStart
      rw [label?, takeName, if_neg noStart] at read
      cases read

theorem adds_attribute {blanks spelled : List Char} {entry : String × String}
    (areBlank : blanks.all isXmlSpace = true) (nonempty : blanks ≠ []) (takes : Takes attribute? spelled entry) :
    Adds (blanks ++ spelled) [entry] := by
  intro rest
  obtain ⟨_, _, isLabel, _⟩ := attribute?_iff.mp (takes [])
  rw [List.append_nil] at isLabel
  obtain ⟨first, others, rfl, starts⟩ := starts_of_label? isLabel
  have read : attribute? (first :: (others ++ rest)) = some (entry, rest) := takes rest
  rw [List.append_assoc, List.cons_append, attributes?_step blanks areBlank nonempty starts read (by simp)]
  rfl

/-- How the attributes of a tag are read: the tag ends, or one attribute is read and then the others. -/
inductive ReadsTag (chars : List Char) : List (String × String) → Bool → List Char → Prop
  | ended (taken : List Char) {left : List Char} {empty : Bool} (split : chars = taken ++ left)
      (noLabel : label? (skipSpace chars) = none) (greater : '>' ∈ taken) (noQuote : '"' ∉ taken)
      (again : Takes attributes? taken ([], empty)) : ReadsTag chars [] empty left
  | added (taken : List Char) {rest left : List Char} {entry : String × String}
      {others : List (String × String)} {empty : Bool} (split : chars = taken ++ rest)
      (read : attribute? (skipSpace chars) = some (entry, rest)) (quoted : Quoted taken)
      (adds : Adds taken [entry]) (further : attributes? rest = some ((others, empty), left)) :
      ReadsTag chars (entry :: others) empty left

theorem attributes?_ended {ending : List Char} {empty : Bool} (isEnd : ending = ['>'] ∧ empty = false ∨
    ending = ['/', '>'] ∧ empty = true) (blanks : List Char) (areBlank : blanks.all isXmlSpace = true) :
    Takes attributes? (blanks ++ ending) ([], empty) := by
  intro rest
  have skipped (c : Char) (noSpace : isXmlSpace c = false) (others : List Char) :
      skipSpace (blanks ++ c :: others) = c :: others := by
    rw [skipSpace_append_blanks areBlank, skipSpace, List.dropWhile_cons_of_neg (by simp [noSpace])]
  rcases isEnd with ⟨rfl, rfl⟩ | ⟨rfl, rfl⟩
  · rw [List.append_assoc, List.singleton_append, attributes?, skipped '>' rfl]
    rfl
  · rw [List.append_assoc, List.cons_append, List.singleton_append, attributes?, skipped '/' rfl]
    rfl

theorem attributes?_reads {entries : List (String × String)} {empty : Bool} {left : List Char}
    (read : attributes? chars = some ((entries, empty), left)) : ReadsTag chars entries empty left := by
  obtain ⟨blanks, split, areBlank⟩ := exists_skipSpace chars
  have noQuote : '"' ∉ blanks := fun member => absurd (List.all_eq_true.mp areBlank _ member) (by decide)
  rw [attributes?] at read
  split at read
  · rename_i skipped
    cases read
    refine .ended (blanks ++ ['>']) ?_ (by rw [skipped]; rfl) (by simp) (by simp [noQuote])
      (attributes?_ended (.inl ⟨rfl, rfl⟩) blanks areBlank)
    rw [List.append_assoc, List.singleton_append, ← skipped]
    exact split
  · rename_i skipped
    cases read
    refine .ended (blanks ++ ['/', '>']) ?_ (by rw [skipped]; rfl) (by simp) (by simp [noQuote])
      (attributes?_ended (.inr ⟨rfl, rfl⟩) blanks areBlank)
    rw [List.append_assoc, List.cons_append, List.singleton_append, ← skipped]
    exact split
  · split at read
    · rename_i shorter
      split at read
      · cases read
      · rename_i entry rest isAttribute
        split at read
        · obtain ⟨⟨⟨others, isEmpty⟩, behind⟩, further, same⟩ := Option.map_eq_some_iff.mp read
          cases same
          obtain ⟨spelled, spelledSplit, takes, quoted⟩ := attribute?_takes isAttribute
          have nonempty : blanks ≠ [] := by
            rintro rfl
            rw [List.nil_append] at split
            rw [← split] at shorter
            exact Nat.lt_irrefl _ shorter
          refine .added (blanks ++ spelled) ?_ isAttribute ?_ (adds_attribute areBlank nonempty takes)
            further
          · rw [List.append_assoc, ← spelledSplit]
            exact split
          · obtain ⟨before, quote, isQuoted, isQuote, isIn⟩ := quoted.closed
            refine ⟨⟨blanks ++ before, quote, by rw [isQuoted]; simp, isQuote, by simp [isIn]⟩, ?_⟩
            simp [less_notMem_blanks areBlank, quoted.noLess]
        · cases read
    · cases read

theorem attributes?_localParts {entries : List (String × String)} {empty : Bool} {left : List Char}
    (read : attributes? chars = some ((entries, empty), left)) :
    ∀ entry ∈ entries, isPlainName (splitLabel entry.1).2.toList = true := by
  induction entries generalizing chars with
  | nil => nofun
  | cons entry others ih =>
      cases attributes?_reads read with
      | added _ _ isAttribute _ _ further =>
          obtain ⟨_, _, isLabel, _⟩ := attribute?_iff.mp isAttribute
          exact List.forall_mem_cons.mpr ⟨label?_localPart isLabel, ih further⟩

/-! ## Tags that are spelled by pieces -/

/-- The characters end the tag in front of which they stand, and no quote stands in them before the next tag. -/
structure EndsTag (ending : List Char) : Prop where
  noQuote : ∀ front back, ending = front ++ back → '<' ∉ front → ∀ c ∈ front, ¬IsQuote c
  ended : ∃ empty left, attributes? ending = some (([], empty), left)

/-- The characters are none, or end with the quote that written values end with. -/
def Closed (chars : List Char) : Prop := ∀ c ∈ chars.getLast?, c = '"'

variable {own ending taken : List Char} {entries : List (String × String)} {empty : Bool} {left : List Char}

theorem Quoted.exists_quote {front back : List Char} (quoted : Quoted (front ++ back)) (nonempty : back ≠ []) :
    ∃ quote ∈ back, IsQuote quote := by
  obtain ⟨before, quote, closed, isQuote, _⟩ := quoted.closed
  have isLast : back.getLast? = some quote := by
    rw [← List.getLast?_append_of_ne_nil front nonempty, closed, List.getLast?_concat]
  exact ⟨quote, List.mem_of_getLast? isLast, isQuote⟩

/-- What ends with a quote does not reach into the end of the tag. -/
theorem Quoted.cut (quoted : Quoted taken) (ends : EndsTag ending) (split : own ++ ending = taken ++ rest) :
    ∃ more, own = taken ++ more ∧ rest = more ++ ending := by
  rcases append_eq_append_cases split with cut | ⟨reached, nonempty, rfl, isEnding⟩
  · exact cut
  · obtain ⟨quote, member, isQuote⟩ := quoted.exists_quote nonempty
    have noLess : '<' ∉ reached := fun inReached => quoted.noLess (List.mem_append_right own inReached)
    exact absurd isQuote (ends.noQuote reached rest isEnding noLess quote member)

/-- The tag ends in characters that end with a quote, or these spell attributes in front of all others. -/
theorem stops_or_adds (closed : Closed own) (ends : EndsTag ending)
    (read : attributes? (own ++ ending) = some ((entries, empty), left)) :
    (∃ more, '>' ∈ own ∧ ∀ rest, attributes? (own ++ rest) = some ((entries, empty), more ++ rest)) ∨
      Adds own entries := by
  induction entries generalizing own with
  | nil =>
      cases attributes?_reads read with
      | ended taken split _ greater noQuote again =>
          by_cases nothing : own = []
          · subst nothing
            exact .inr .nil
          · have quoteIn : '"' ∈ own := by
              obtain ⟨last, isLast⟩ := List.getLast?_isSome.mpr nothing |> Option.isSome_iff_exists.mp
              rw [closed last isLast] at isLast
              exact List.mem_of_getLast? isLast
            rcases append_eq_append_cases split with ⟨more, rfl, _⟩ | ⟨reached, _, rfl, _⟩
            · refine .inl ⟨more, List.mem_append_left more greater, fun rest => ?_⟩
              rw [List.append_assoc]
              exact again _
            · exact absurd (List.mem_append_left reached quoteIn) noQuote
  | cons entry others ih =>
      cases attributes?_reads read with
      | added taken split _ quoted adds further =>
          obtain ⟨more, rfl, rfl⟩ := quoted.cut ends split
          have closedMore : Closed more := by
            intro c isLast
            exact closed c (by rw [List.getLast?_append, isLast]; rfl)
          rcases ih closedMore further with ⟨behind, greater, stops⟩ | addsMore
          · refine .inl ⟨behind, List.mem_append_right taken greater, fun rest => ?_⟩
            rw [List.append_assoc, adds, stops]
            rfl
          · exact .inr (adds.append addsMore)

/-- What stands between the attributes and the end of the tag adds further attributes, or the
tag ends in front of it. -/
theorem attributes?_between (closed : Closed own) (ends : EndsTag ending)
    (read : attributes? (own ++ ending) = some ((entries, empty), left)) {all : List (String × String)}
    {isEmpty : Bool} {behind : List Char} (readAll : attributes? (own ++ rest) = some ((all, isEmpty), behind)) :
    ∃ added, all = entries ++ added ∧
      (added = [] ∧ '>' ∈ own ∨ attributes? rest = some ((added, isEmpty), behind)) := by
  rcases stops_or_adds closed ends read with ⟨more, greater, stops⟩ | adds
  · rw [stops] at readAll
    cases readAll
    exact ⟨[], by simp, .inl ⟨rfl, greater⟩⟩
  · rw [adds] at readAll
    obtain ⟨⟨⟨added, _⟩, _⟩, inRest, same⟩ := Option.map_eq_some_iff.mp readAll
    cases same
    exact ⟨added, rfl, .inr inRest⟩

/-! ## Attributes of any name -/

/-- Read as attributes, the characters come to a label that declares no namespace. -/
inductive SpellsAttribute : List Char → Prop
  | here {chars rest : List Char} {label : String} (isLabel : label? (skipSpace chars) = some (label, rest))
      (free : Bindings.isDeclaration label = false) : SpellsAttribute chars
  | behind {chars rest : List Char} {entry : String × String} (read : attribute? (skipSpace chars) = some (entry, rest))
      (further : SpellsAttribute rest) : SpellsAttribute chars

theorem spellsAttribute_blank : SpellsAttribute (' ' :: chars) ↔ SpellsAttribute chars := by
  have same : skipSpace (' ' :: chars) = skipSpace chars := rfl
  constructor
  · rintro (⟨isLabel, free⟩ | ⟨read, further⟩)
    · exact .here (same ▸ isLabel) free
    · exact .behind (same ▸ read) further
  · rintro (⟨isLabel, free⟩ | ⟨read, further⟩)
    · exact .here (same ▸ isLabel) free
    · exact .behind (same ▸ read) further

/-- An attribute that ends inside a value without quotes leaves no tag that can be read. -/
theorem attributes?_value_eq_none {value : List Char} (ends : EndsTag ending) (noQuote : '"' ∉ value)
    (noLess : '<' ∉ value) (noGreater : '>' ∉ value) : attributes? (value ++ '"' :: ending) = none := by
  rw [Option.eq_none_iff_forall_not_mem]
  rintro ⟨⟨entries, empty⟩, left⟩ read
  induction entries generalizing value with
  | nil =>
      cases attributes?_reads read with
      | ended taken split _ greater notIn =>
          rcases append_eq_append_cases split with ⟨more, rfl, _⟩ | ⟨reached, nonempty, rfl, isEnding⟩
          · exact noGreater (List.mem_append_left more greater)
          · obtain ⟨c, others, rfl⟩ := List.exists_cons_of_ne_nil nonempty
            rw [(List.cons.inj isEnding).1] at notIn
            simp at notIn
  | cons entry others ih =>
      cases attributes?_reads read with
      | added taken split _ quoted _ further =>
          obtain ⟨more, isValue, rfl⟩ := quoted.cut ends ((List.append_assoc value ['"'] ending).trans split)
          rcases append_singleton_cases isValue with ⟨inner, rfl, rfl⟩ | ⟨rfl, rfl⟩
          · rw [List.append_assoc] at further
            exact ih (fun member => noQuote (List.mem_append_right _ member))
              (fun member => noLess (List.mem_append_right _ member))
              (fun member => noGreater (List.mem_append_right _ member)) further
          · -- no quote stands in the value in front of the closing one
            obtain ⟨before, quote, closed, _, isIn⟩ := quoted.closed
            obtain ⟨rfl, isQuote⟩ := List.append_inj' closed rfl
            rw [← (List.cons.inj isQuote).1] at isIn
            exact noQuote isIn

/-- The value of a field between its quotes, behind the sign. -/
def assigned (value : List Char) : List Char := '=' :: '"' :: (value ++ ['"'])

theorem skipSpace_assigned (spelled value rest : List Char) : skipSpace (spelled ++ (assigned value ++ rest)) =
    skipSpace spelled ++ (assigned value ++ rest) := by
  by_cases blank : skipSpace spelled = []
  · rw [skipSpace_append_of_eq_nil _ blank, blank]
    rfl
  · exact skipSpace_append_of_ne_nil _ blank

theorem label?_assigned (spelled value rest : List Char) : label? (spelled ++ (assigned value ++ rest)) =
    (label? spelled).map fun found => (found.1, found.2 ++ (assigned value ++ rest)) :=
  label?_stop (by decide) (by decide) spelled _

section Field

variable {spelled value : List Char}

/-- Where the name of a field spells no attribute, the field adds declarations at most. -/
theorem declares_of_not_spells (ends : EndsTag ending) (noQuote : '"' ∉ value) (noLess : '<' ∉ value)
    (noGreater : '>' ∉ value) (spellsNone : ¬SpellsAttribute spelled)
    (read : attributes? (spelled ++ (assigned value ++ ending)) = some ((entries, empty), left)) :
    ∀ entry ∈ entries, Bindings.isDeclaration entry.1 = true := by
  induction entries generalizing spelled with
  | nil => nofun
  | cons entry others ih =>
      cases attributes?_reads read with
      | added taken split isAttribute quoted _ further =>
          rw [skipSpace_assigned] at isAttribute
          obtain ⟨_, _, isLabel, _⟩ := attribute?_iff.mp isAttribute
          rw [label?_assigned] at isLabel
          obtain ⟨⟨label, behind⟩, inName, same⟩ := Option.map_eq_some_iff.mp isLabel
          have declares : Bindings.isDeclaration entry.1 = true := by
            rw [← congrArg Prod.fst same, ← Bool.not_eq_false]
            exact fun free => spellsNone (.here inName free)
          refine List.forall_mem_cons.mpr ⟨declares, ?_⟩
          obtain ⟨more, isField, rfl⟩ := quoted.cut ends (by rw [← split, List.append_assoc])
          rcases append_eq_append_cases isField with ⟨behindName, rfl, rfl⟩ | ⟨reached, nonempty, rfl, isAssigned⟩
          · -- the attribute ends inside the name, and what is left of the name spells none either
            rw [List.append_assoc] at further isAttribute
            exact ih (fun spells => spellsNone (.behind (attribute?_front isAttribute) spells)) further
          · -- the attribute ends inside the value or with it
            obtain ⟨sign, others, rfl⟩ := List.exists_cons_of_ne_nil nonempty
            obtain ⟨rfl, inQuotes⟩ := List.cons.inj isAssigned
            cases others with
            | nil =>
                obtain ⟨quote, member, isQuote⟩ := quoted.exists_quote nonempty
                rw [List.mem_singleton.mp member] at isQuote
                exact absurd isQuote (by simp [IsQuote])
            | cons quote inValue =>
                rcases append_singleton_cases (List.cons.inj inQuotes).2 with ⟨behindQuote, rfl, rfl⟩ | ⟨_, rfl⟩
                · rw [List.append_assoc] at further
                  have unread := attributes?_value_eq_none ends (fun member => noQuote (List.mem_append_right _ member))
                    (fun member => noLess (List.mem_append_right _ member))
                    (fun member => noGreater (List.mem_append_right _ member))
                  exact absurd further (by rw [List.singleton_append, unread]; nofun)
                · obtain ⟨_, _, ended⟩ := ends.ended
                  rw [List.nil_append, ended] at further
                  cases further
                  nofun

theorem attribute?_assigned {front behind : List Char} {entry : String × String}
    (read : attribute? (skipSpace front) = some (entry, behind)) (value rest : List Char) :
    attribute? (skipSpace (front ++ (assigned value ++ rest))) = some (entry, behind ++ (assigned value ++ rest)) := by
  obtain ⟨taken, split, takes, _⟩ := attribute?_takes read
  rw [skipSpace_assigned, split, List.append_assoc]
  exact takes _

/-- Where the name of a field spells an attribute, the field adds one that is no declaration. -/
theorem exists_attribute_of_spells (spells : SpellsAttribute spelled)
    (read : attributes? (spelled ++ (assigned value ++ rest)) = some ((entries, empty), left)) :
    ∃ entry ∈ entries, Bindings.isDeclaration entry.1 = false := by
  induction spells generalizing entries with
  | @here chars behind label isLabel free =>
      have inField : label? (skipSpace (chars ++ (assigned value ++ rest))) =
          some (label, behind ++ (assigned value ++ rest)) := by
        rw [skipSpace_assigned, label?_assigned, isLabel]
        rfl
      cases attributes?_reads read with
      | ended _ _ noLabel =>
          rw [inField] at noLabel
          cases noLabel
      | added _ _ isAttribute =>
          obtain ⟨_, _, isOwn, _⟩ := attribute?_iff.mp isAttribute
          rw [inField] at isOwn
          cases isOwn
          exact ⟨_, List.mem_cons_self, free⟩
  | @behind chars behindFirst first isFirst _ ih =>
      have inField := attribute?_assigned isFirst value rest
      cases attributes?_reads read with
      | ended _ _ noLabel =>
          obtain ⟨_, _, isLabel, _⟩ := attribute?_iff.mp inField
          rw [isLabel] at noLabel
          cases noLabel
      | added _ _ isAttribute _ _ further =>
          rw [inField] at isAttribute
          cases isAttribute
          obtain ⟨entry, member, free⟩ := ih further
          exact ⟨entry, List.mem_cons_of_mem _ member, free⟩

end Field

end StyleRules.Xml.Token
