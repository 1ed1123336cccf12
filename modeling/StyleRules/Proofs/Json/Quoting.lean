import StyleRules.Proofs.Json.ReadBack
import StyleRules.Proofs.Lists
import StyleRules.Proofs.Value.TextOrder

/-!
# Quotes in written JSON

Backslashes and bars stand inside of the text literals of a JSON text, and nowhere else.  A scan that starts between
literals ends between literals, and one that starts inside of a literal ends inside of one.  So no JSON text is the
end of another one behind a bar: the scan of the longer text is inside of a literal there.
-/

namespace StyleRules.Json

/-- Where a scan stands: between text literals, inside of one, or inside of one and behind a backslash. -/
inductive Place where
  | between
  | inside
  | escaped
  deriving DecidableEq

namespace Place

/-- The place behind a character; between literals there are no backslashes and no bars. -/
def step : Place → Char → Option Place
  | between, c => if c = '"' then some inside else if c = '\\' ∨ c = '|' then none else some between
  | inside, c => some (if c = '"' then between else if c = '\\' then escaped else inside)
  | escaped, _ => some inside

/-- The place behind several characters, if they can be scanned. -/
def scan (place : Place) (chars : List Char) : Option Place := chars.foldlM step place

@[simp]
theorem scan_cons (place : Place) (c : Char) (rest : List Char) :
    place.scan (c :: rest) = (place.step c).bind (scan · rest) := rfl

theorem scan_append (place : Place) (front rest : List Char) :
    place.scan (front ++ rest) = (place.scan front).bind (scan · rest) := List.foldlM_append

/-- A scan inside of a literal stays there as long as there are no quotes and no backslashes. -/
theorem scan_inside {chars : List Char} (plain : ∀ c ∈ chars, c ≠ '"' ∧ c ≠ '\\') :
    inside.scan chars = some inside := by
  induction chars with
  | nil => rfl
  | cons c rest ih =>
      obtain ⟨⟨notQuote, notBackslash⟩, others⟩ := List.forall_mem_cons.mp plain
      simp [step, notQuote, notBackslash, ih others]

/-! ## Opposed scans -/

/-- One of the scans is between literals, and the other one is inside of a literal. -/
def Opposed (place other : Place) : Prop :=
  place = between ∧ other = inside ∨ place = inside ∧ other = between

/-- A quote turns both scans over; a backslash can only be read by one of them. -/
theorem Opposed.step {place other next otherNext : Place} {c : Char} (opposed : Opposed place other)
    (reads : place.step c = some next) (otherReads : other.step c = some otherNext) : Opposed next otherNext := by
  wlog isBetween : place = between ∧ other = inside generalizing place other next otherNext
  · have turned : other = between ∧ place = inside := (opposed.resolve_left isBetween).symm
    exact (this (.inl turned) otherReads reads turned).symm.imp And.symm And.symm
  · obtain ⟨rfl, rfl⟩ := isBetween
    by_cases isQuote : c = '"'
    · subst isQuote
      cases reads
      cases otherReads
      exact .inr ⟨rfl, rfl⟩
    · by_cases isBackslash : c = '\\'
      · simp [Place.step, isBackslash] at reads
      · simp only [Place.step, isQuote, isBackslash, if_false, false_or, Option.some.injEq] at reads otherReads
        split at reads
        · cases reads
        · cases reads
          cases otherReads
          exact .inl ⟨rfl, rfl⟩

/-- Scans of the same characters from opposed places end at opposed places. -/
theorem Opposed.scan {place other ended otherEnded : Place} {chars : List Char} (opposed : Opposed place other)
    (reads : place.scan chars = some ended) (otherReads : other.scan chars = some otherEnded) :
    Opposed ended otherEnded := by
  induction chars generalizing place other with
  | nil =>
      cases reads
      cases otherReads
      exact opposed
  | cons c rest ih =>
      obtain ⟨next, first, further⟩ := Option.bind_eq_some_iff.mp reads
      obtain ⟨otherNext, otherFirst, otherFurther⟩ := Option.bind_eq_some_iff.mp otherReads
      exact ih (opposed.step first otherFirst) further otherFurther

end Place

/-- The text can be scanned from between literals to between literals. -/
def Balanced (s : String) : Prop := Place.between.scan s.toList = some .between

/-! ## Parts of a text -/

theorem Balanced.append {s t : String} (first : Balanced s) (second : Balanced t) : Balanced (s ++ t) := by
  rw [Balanced, String.toList_append, Place.scan_append, first]
  exact second

theorem balanced_plain {s : String} (plain : ∀ c ∈ s.toList, c ≠ '"' ∧ c ≠ '\\' ∧ c ≠ '|') : Balanced s := by
  rw [Balanced]
  generalize s.toList = chars at plain
  induction chars with
  | nil => rfl
  | cons c rest ih =>
      obtain ⟨⟨notQuote, notBackslash, notBar⟩, others⟩ := List.forall_mem_cons.mp plain
      simp [Place.step, notQuote, notBackslash, notBar, ih others]

theorem IsSpaces.balanced {s : String} (spaces : IsSpaces s) : Balanced s := by
  refine balanced_plain fun c member => ?_
  have space := spaces c member
  refine ⟨?_, ?_, ?_⟩ <;> rintro rfl <;> exact absurd space (by decide)

theorem balanced_int (n : Int) : Balanced (toString n) := by
  have digits (n : Nat) : ∀ c ∈ Nat.toDigits 10 n, c ≠ '"' ∧ c ≠ '\\' ∧ c ≠ '|' := by
    intro c member
    have isDigit := Nat.isDigit_of_mem_toDigits (by decide) (by decide) member
    refine ⟨?_, ?_, ?_⟩ <;> rintro rfl <;> exact absurd isDigit (by decide)
  refine balanced_plain ?_
  cases n with
  | ofNat n =>
      rw [toList_ofNat]
      exact digits n
  | negSucc n =>
      rw [toList_negSucc]
      exact List.forall_mem_cons.mpr ⟨by decide, digits (n + 1)⟩

/-- The escape of a unit is a backslash with characters that end no literal. -/
theorem scan_unitEscape {n : Nat} (isUnit : n < 0x10000) :
    Place.inside.scan (unitEscape n).toList = some .inside := by
  have digit {d : Nat} (isDigit : d < 16) : d.digitChar ≠ '"' ∧ d.digitChar ≠ '\\' := by
    have known := hexDigit?_digitChar isDigit
    constructor <;> intro same <;> rw [same] at known <;> cases known
  have plain : ∀ c ∈ (Text.hexText 4 n).toList, c ≠ '"' ∧ c ≠ '\\' := by
    rw [hexText_four isUnit]
    simp only [List.forall_mem_cons, List.not_mem_nil, false_imp_iff, implies_true, and_true]
    exact ⟨digit (by omega), digit (by omega), digit (by omega), digit (by omega)⟩
  have spelled : (unitEscape n).toList = '\\' :: 'u' :: (Text.hexText 4 n).toList := by simp [unitEscape]
  have backslash : Place.inside.step '\\' = some .escaped := rfl
  have mark : Place.escaped.step 'u' = some .inside := rfl
  rw [spelled, Place.scan_cons, backslash, Option.bind_some, Place.scan_cons, mark, Option.bind_some,
    Place.scan_inside plain]

theorem scan_escapeChar (c : Char) : Place.inside.scan (escapeChar c).toList = some .inside := by
  rw [escapeChar]
  split_ifs with isQuote isBackslash isFeed isReturn isTab isBack isForm isPlain isBasic
  iterate 7 rfl
  · rw [String.toList_ofList]
    exact Place.scan_inside fun d member => by
      rw [List.mem_singleton.mp member]
      exact ⟨isQuote, isBackslash⟩
  · exact scan_unitEscape isBasic
  · have valid : c.toNat < 0xd800 ∨ 0xdfff < c.toNat ∧ c.toNat < 0x110000 := c.valid
    have high : 0xd800 + (c.toNat - 0x10000) / 0x400 < 0x10000 := by omega
    have low : 0xdc00 + (c.toNat - 0x10000) % 0x400 < 0x10000 := by omega
    rw [String.toList_append, Place.scan_append, scan_unitEscape high, Option.bind_some, scan_unitEscape low]

theorem balanced_textLiteral (s : String) : Balanced (textLiteral s) := by
  have within : Place.inside.scan (s.toList.flatMap fun c => (escapeChar c).toList) = some .inside := by
    induction s.toList with
    | nil => rfl
    | cons c rest ih =>
        rw [List.flatMap_cons, Place.scan_append, scan_escapeChar]
        exact ih
  have opening : Place.between.step '"' = some .inside := rfl
  rw [Balanced, toList_textLiteral, Place.scan_cons, opening, Option.bind_some, Place.scan_append, within]
  rfl

theorem balanced_join {separator : String} (isSeparator : Balanced separator) {parts : List String}
    (each : ∀ part ∈ parts, Balanced part) : Balanced (Text.join separator parts) := by
  induction parts with
  | nil => rfl
  | cons first rest ih =>
      obtain ⟨isFirst, others⟩ := List.forall_mem_cons.mp each
      cases rest with
      | nil => exact isFirst
      | cons second rest => exact (isFirst.append isSeparator).append (ih others)

/-! ## Written values -/

variable {style : Style}

theorem balanced_enclose (spaced : style.Spaced) (level : Nat) {opening closing : String}
    (isOpening : Balanced opening) (isClosing : Balanced closing) {parts : List String}
    (each : ∀ part ∈ parts, Balanced part) : Balanced (enclose style level opening closing parts) := by
  rw [enclose]
  split
  · exact isOpening.append isClosing
  · split
    · have comma : Balanced (", " : String) := rfl
      exact (isOpening.append (balanced_join comma each)).append isClosing
    · rename_i unit layout
      have line (depth : Nat) : Balanced ("\n" ++ String.join (List.replicate depth unit)) :=
        (isSpaces_line (spaced unit layout) depth).balanced
      have comma : Balanced ("," : String) := rfl
      have inner := balanced_join (comma.append (line (level + 1))) each
      exact (((isOpening.append (line (level + 1))).append inner).append (line level)).append isClosing

theorem balanced_writeItems {items : List Value}
    (each : ∀ item ∈ items, ∀ level s, writeAt style level item = .ok s → Balanced s) {level : Nat}
    {parts : List String} (written : writeItems style level items = .ok parts) : ∀ part ∈ parts, Balanced part := by
  induction items generalizing parts with
  | nil =>
      cases written
      exact nofun
  | cons item rest ih =>
      obtain ⟨isFirst, others⟩ := List.forall_mem_cons.mp each
      obtain ⟨s, first, written⟩ := Outcome.bind_ok written
      obtain ⟨more, further, written⟩ := Outcome.bind_ok written
      cases written
      exact List.forall_mem_cons.mpr ⟨isFirst level s first, ih others further⟩

theorem balanced_writeEntries {entries : List (Value × Value)}
    (each : ∀ entry ∈ entries, ∀ level s, writeAt style level entry.2 = .ok s → Balanced s) {level : Nat}
    {written : List (Value × String)} (isWritten : writeEntries style level entries = .ok written) :
    ∀ entry ∈ written, Balanced entry.2 := by
  induction entries generalizing written with
  | nil =>
      cases isWritten
      exact nofun
  | cons entry rest ih =>
      obtain ⟨isFirst, others⟩ := List.forall_mem_cons.mp each
      rw [writeEntries] at isWritten
      split at isWritten
      · cases isWritten
      · rename_i name isName
        obtain ⟨s, first, isWritten⟩ := Outcome.bind_ok isWritten
        obtain ⟨more, further, isWritten⟩ := Outcome.bind_ok isWritten
        cases isWritten
        have colon : Balanced (": " : String) := rfl
        have isEntry := ((balanced_textLiteral name).append colon).append (isFirst level s first)
        exact List.forall_mem_cons.mpr ⟨isEntry, ih others further⟩

/-- Arranging written entries gives the same entries in some order. -/
theorem arrange_perm {written arranged : List (Value × String)} (isArranged : arrange style written = .ok arranged) :
    arranged.Perm written := by
  rw [arrange] at isArranged
  split at isArranged
  · exact Value.sortAscending_perm isArranged
  · cases isArranged
    exact .refl written

/-- What is written for a value can be scanned. -/
theorem balanced_writeAt (spaced : style.Spaced) {v : Value} (isJson : IsJson v) :
    ∀ level s, writeAt style level v = .ok s → Balanced s := by
  induction isJson with
  | null =>
      rintro level _ ⟨⟩
      rfl
  | bool b =>
      rintro level _ ⟨⟩
      cases b <;> rfl
  | int n =>
      rintro level _ ⟨⟩
      exact balanced_int n
  | str s =>
      rintro level _ ⟨⟩
      exact balanced_textLiteral s
  | list each ih =>
      intro level s written
      obtain ⟨parts, isWritten, written⟩ := Outcome.bind_ok written
      cases written
      have brackets : Balanced ("[" : String) ∧ Balanced ("]" : String) := ⟨rfl, rfl⟩
      exact balanced_enclose spaced level brackets.1 brackets.2 (balanced_writeItems ih isWritten)
  | map texts distinct each ih =>
      intro level s written
      obtain ⟨parts, isWritten, written⟩ := Outcome.bind_ok written
      obtain ⟨arranged, isArranged, written⟩ := Outcome.bind_ok written
      cases written
      have braces : Balanced ("\x7b" : String) ∧ Balanced ("\x7d" : String) := ⟨rfl, rfl⟩
      refine balanced_enclose spaced level braces.1 braces.2 fun part member => ?_
      obtain ⟨entry, among, rfl⟩ := List.mem_map.mp member
      exact balanced_writeEntries ih isWritten entry ((arrange_perm isArranged).subset among)

/-! ## Cutting at a bar -/

/-- Behind a bar, the scan of a text is inside of a literal, so what is left is not a text of its own. -/
theorem Balanced.not_behind_bar {s t : String} (whole : Balanced s) (part : Balanced t) (front : List Char) :
    s.toList ≠ front ++ '|' :: t.toList := by
  intro same
  rw [Balanced, same, Place.scan_append] at whole
  obtain ⟨place, _, whole⟩ := Option.bind_eq_some_iff.mp whole
  obtain ⟨behind, isBar, whole⟩ := Option.bind_eq_some_iff.mp whole
  have isInside : behind = .inside := by
    cases place <;> cases isBar
    · rfl
    · rfl
  have opposed : Place.Opposed .between behind := .inl ⟨rfl, isInside⟩
  rcases opposed.scan part whole with ⟨_, impossible⟩ | ⟨impossible, _⟩ <;> cases impossible

/-- A list that ends with a bar and a text can be cut there in one way only. -/
theorem Balanced.cut {s t : String} (first : Balanced s) (second : Balanced t) {front others : List Char}
    (same : front ++ '|' :: s.toList = others ++ '|' :: t.toList) : front = others ∧ s = t := by
  obtain ⟨sameFront, sameText⟩ := append_separated (first.not_behind_bar second) (second.not_behind_bar first) same
  exact ⟨sameFront, String.toList_inj.mp sameText⟩

end StyleRules.Json
