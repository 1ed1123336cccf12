import StyleRules.Proofs.Json.Texts
import StyleRules.Proofs.Value.TextKeys

/-!
# Reading values that were written as JSON

JSON-like values are read back from what is written for them, at every indentation by white space: nothing is
lost, and the entries of mappings keep their order.
-/

namespace StyleRules

/-- A value that JSON can hold: its keys are texts, each only once, and its numbers are integers. -/
inductive IsJson : Value → Prop
  | null : IsJson .null
  | bool (b : Bool) : IsJson (.bool b)
  | int (n : Int) : IsJson (.int n)
  | str (s : String) : IsJson (.str s)
  | list {items : List Value} (each : ∀ item ∈ items, IsJson item) : IsJson (.list items)
  | map {entries : List (Value × Value)} (texts : Mapping.TextKeys entries)
      (distinct : (Mapping.keys entries).Nodup) (each : ∀ entry ∈ entries, IsJson entry.2) :
      IsJson (.map entries)

attribute [simp] IsJson.null IsJson.bool IsJson.int IsJson.str

@[simp]
theorem isJson_list {items : List Value} : IsJson (.list items) ↔ ∀ item ∈ items, IsJson item := by
  refine ⟨fun isJson => ?_, .list⟩
  cases isJson with
  | list each => exact each

theorem isJson_map {entries : List (Value × Value)} :
    IsJson (.map entries) ↔ Mapping.TextKeys entries ∧ (Mapping.keys entries).Nodup ∧
      ∀ entry ∈ entries, IsJson entry.2 := by
  refine ⟨fun isJson => ?_, fun ⟨texts, distinct, each⟩ => .map texts distinct each⟩
  cases isJson with
  | map texts distinct each => exact ⟨texts, distinct, each⟩

@[simp]
theorem isJson_map_nil : IsJson (.map []) := .map Mapping.textKeys_nil List.nodup_nil nofun

@[simp]
theorem isJson_map_cons {key value : Value} {rest : List (Value × Value)} :
    IsJson (.map ((key, value) :: rest)) ↔
      key.IsText ∧ key ∉ Mapping.keys rest ∧ IsJson value ∧ IsJson (.map rest) := by
  rw [isJson_map, isJson_map, Mapping.textKeys_cons, Mapping.keys, List.map_cons, List.nodup_cons,
    List.forall_mem_cons, Mapping.keys]
  tauto

namespace Json

/-! ## White space -/

def IsSpaces (s : String) : Prop := ∀ c ∈ s.toList, isSpace c = true

theorem isSpaces_empty : IsSpaces "" := by simp [IsSpaces]

theorem IsSpaces.append {s t : String} (first : IsSpaces s) (second : IsSpaces t) : IsSpaces (s ++ t) := by
  intro c member
  rw [String.toList_append, List.mem_append] at member
  exact member.elim (first c) (second c)

theorem IsSpaces.skip {s : String} (spaces : IsSpaces s) (rest : List Char) :
    skipSpace (s.toList ++ rest) = skipSpace rest :=
  List.dropWhile_append_of_pos spaces

theorem skipSpace_cons {c : Char} (notSpace : isSpace c = false) (rest : List Char) :
    skipSpace (c :: rest) = c :: rest := by
  simp [skipSpace, notSpace]

/-- The text starts like a value: with a visible character that closes nothing. -/
def Starts (s : String) : Prop :=
  ∃ c more, s.toList = c :: more ∧ 0x20 < c.toNat ∧ c.toNat < 0x7f ∧ c ≠ ']' ∧ c ≠ '\x7d'

theorem isSpace_of_visible {c : Char} (visible : 0x20 < c.toNat) : isSpace c = false := by
  by_contra space
  simp only [isSpace, Bool.not_eq_false, Bool.or_eq_true, decide_eq_true_eq] at space
  rcases space with ((rfl | rfl) | rfl) | rfl <;> exact absurd visible (by decide)

theorem Starts.skip {s : String} (starts : Starts s) (rest : List Char) :
    skipSpace (s.toList ++ rest) = s.toList ++ rest := by
  obtain ⟨c, more, spelled, visible, _⟩ := starts
  rw [spelled, List.cons_append, skipSpace_cons (isSpace_of_visible visible)]

theorem endsNumber_nil : EndsNumber [] := by
  intro c more impossible
  cases impossible

theorem endsNumber_comma (rest : List Char) : EndsNumber (',' :: rest) := by
  intro c more same
  cases same
  decide

/-- White space ends a number, and so does a closing bracket. -/
theorem IsSpaces.endsNumber {s : String} (spaces : IsSpaces s) {closing : Char}
    (isClosing : closing = ']' ∨ closing = '\x7d') (rest : List Char) :
    EndsNumber (s.toList ++ closing :: rest) := by
  intro c more same
  have known : isSpace c = true ∨ c = closing := by
    cases spelled : s.toList with
    | nil =>
        rw [spelled] at same
        exact Or.inr (List.cons.inj same).1.symm
    | cons first others =>
        rw [spelled] at same
        have isFirst : c = first := (List.cons.inj same).1.symm
        exact Or.inl (spaces c (by simp [spelled, isFirst]))
  simp only [isSpace, Bool.or_eq_true, decide_eq_true_eq] at known
  rcases known with (((rfl | rfl) | rfl) | rfl) | rfl
  · decide
  · decide
  · decide
  · decide
  · rcases isClosing with rfl | rfl <;> decide

/-! ## Layout -/

/-- The style indents by white space. -/
def Style.Spaced (style : Style) : Prop := ∀ unit, style.indent = some unit → IsSpaces unit

theorem isSpaces_line {unit : String} (spaces : IsSpaces unit) (depth : Nat) :
    IsSpaces ("\n" ++ String.join (List.replicate depth unit)) := by
  refine IsSpaces.append (by simp [IsSpaces, isSpace]) ?_
  intro c member
  rw [String.toList_join] at member
  obtain ⟨s, isUnit, within⟩ := List.mem_flatMap.mp member
  rw [List.eq_of_mem_replicate isUnit] at within
  exact spaces c within

/-- The parts of a list or mapping stand between its brackets, separated by commas and white space. -/
theorem enclose_parts {style : Style} (spaced : style.Spaced) (level : Nat) (opening closing : String)
    {parts : List String} (notEmpty : parts ≠ []) :
    ∃ lead gap trail : String, IsSpaces lead ∧ IsSpaces gap ∧ IsSpaces trail ∧
      (enclose style level opening closing parts).toList =
        opening.toList ++
          (lead.toList ++ ((Text.join ("," ++ gap) parts).toList ++ (trail.toList ++ closing.toList))) := by
  have someParts : parts.isEmpty = false := by simpa using notEmpty
  cases layout : style.indent with
  | none =>
      refine ⟨"", " ", "", isSpaces_empty, by simp [IsSpaces, isSpace], isSpaces_empty, ?_⟩
      rw [enclose, someParts, layout]
      simp
  | some unit =>
      have spaces := spaced unit layout
      refine ⟨_, _, _, isSpaces_line spaces (level + 1), isSpaces_line spaces (level + 1),
        isSpaces_line spaces level, ?_⟩
      rw [enclose, someParts, layout]
      simp

/-! ## Lists and mappings -/

/-- The value is read back from the text, in front of everything that ends a number. -/
structure ReadsBack (s : String) (v : Value) : Prop where
  starts : Starts s
  value : ∀ fuel rest, 2 * s.toList.length ≤ fuel → EndsNumber rest →
    valueUpTo fuel (s.toList ++ rest) = .ok (v, rest)

theorem toList_join_cons (separator s t : String) (rest : List String) :
    (Text.join separator (s :: t :: rest)).toList =
      s.toList ++ separator.toList ++ (Text.join separator (t :: rest)).toList := by
  rw [Text.join, String.toList_append, String.toList_append]

theorem starts_join {separator s : String} {rest : List String} (starts : Starts s) :
    Starts (Text.join separator (s :: rest)) := by
  cases rest with
  | nil => exact starts
  | cons t rest =>
      obtain ⟨c, more, spelled, visible⟩ := starts
      exact ⟨c, _, by rw [toList_join_cons, spelled]; rfl, visible⟩

theorem itemsUpTo_join {gap trail : String} (gapSpaces : IsSpaces gap) (trailSpaces : IsSpaces trail)
    {parts : List String} {items : List Value} (each : List.Forall₂ ReadsBack parts items)
    (notEmpty : parts ≠ []) {fuel : Nat}
    (enough : 2 * (Text.join ("," ++ gap) parts).toList.length < fuel) (rest : List Char) :
    itemsUpTo fuel ((Text.join ("," ++ gap) parts).toList ++ (trail.toList ++ ']' :: rest)) =
      .ok (items, rest) := by
  induction each generalizing fuel with
  | nil => exact absurd rfl notEmpty
  | @cons s v parts items first others ih =>
      obtain ⟨fuel, rfl⟩ : ∃ less, fuel = less + 1 := ⟨fuel - 1, by omega⟩
      cases others with
      | nil =>
          have enough : 2 * s.toList.length < fuel + 1 := enough
          rw [Text.join, itemsUpTo,
            first.value fuel _ (by omega) (trailSpaces.endsNumber (Or.inl rfl) rest)]
          simp [bind, Except.bind, pure, Except.pure, trailSpaces.skip, skipSpace_cons, isSpace]
      | @cons t w parts items second others =>
          rw [toList_join_cons, String.toList_append] at enough ⊢
          simp only [List.length_append] at enough
          have comma : (",":String).toList = [','] := rfl
          have more := ih (by simp) (show _ < fuel by rw [comma] at enough; simp at enough; omega)
          have starts : Starts (Text.join ("," ++ gap) (t :: parts)) := starts_join second.starts
          rw [comma, List.append_assoc, List.append_assoc, List.append_assoc, List.singleton_append, itemsUpTo,
            first.value fuel _ (by omega) (endsNumber_comma _)]
          simp only [bind, Except.bind, skipSpace_cons (show isSpace ',' = false by decide), gapSpaces.skip,
            starts.skip, more, pure, Except.pure]

/-- The text is the key, a colon and a text from which the value is read back. -/
def ReadsEntry (s : String) (entry : Value × Value) : Prop :=
  ∃ key written, entry.1 = .str key ∧ s = textLiteral key ++ ": " ++ written ∧ ReadsBack written entry.2

theorem ReadsEntry.starts {s : String} {entry : Value × Value} (reads : ReadsEntry s entry) : Starts s := by
  obtain ⟨key, written, _, rfl, _⟩ := reads
  refine ⟨'"', _, by rw [String.toList_append, String.toList_append, toList_textLiteral]; rfl, ?_⟩
  decide

/-- Reading an entry goes on behind its value, with the entry written. -/
theorem ReadsEntry.step {s : String} {entry : Value × Value} (reads : ReadsEntry s entry) {fuel : Nat}
    (enough : 2 * s.toList.length ≤ fuel) (known : List (Value × Value)) {rest : List Char}
    (ends : EndsNumber rest) :
    (∀ tail, skipSpace rest = '\x7d' :: tail →
      entriesUpTo (fuel + 1) known (s.toList ++ rest) = .ok (Mapping.insert entry.1 entry.2 known, tail)) ∧
    ∀ tail, skipSpace rest = ',' :: tail →
      entriesUpTo (fuel + 1) known (s.toList ++ rest) =
        entriesUpTo fuel (Mapping.insert entry.1 entry.2 known) (skipSpace tail) := by
  obtain ⟨key, written, isKey, rfl, value⟩ := reads
  have colon : (": " : String).toList = [':', ' '] := rfl
  have spelled : (textLiteral key ++ ": " ++ written).toList ++ rest =
      (textLiteral key).toList ++ ':' :: ' ' :: (written.toList ++ rest) := by
    simp [String.toList_append, colon]
  have enoughValue : 2 * written.toList.length ≤ fuel := by
    simp only [String.toList_append, List.length_append] at enough
    omega
  have quoted : ∃ more, (textLiteral key).toList ++ ':' :: ' ' :: (written.toList ++ rest) = '"' :: more :=
    ⟨_, by rw [toList_textLiteral]; rfl⟩
  obtain ⟨more, isQuoted⟩ := quoted
  rw [spelled, isQuoted, entriesUpTo, ← isQuoted, text_textLiteral, isKey]
  have blank : skipSpace (' ' :: (written.toList ++ rest)) = written.toList ++ rest :=
    value.starts.skip rest
  refine ⟨fun tail closes => ?_, fun tail goesOn => ?_⟩
  · simp only [bind, Except.bind, skipSpace_cons (show isSpace ':' = false by decide), blank,
      value.value fuel rest enoughValue ends, closes, pure, Except.pure]
  · simp only [bind, Except.bind, skipSpace_cons (show isSpace ':' = false by decide), blank,
      value.value fuel rest enoughValue ends, goesOn]

theorem entriesUpTo_join {gap trail : String} (gapSpaces : IsSpaces gap) (trailSpaces : IsSpaces trail)
    {parts : List String} {entries : List (Value × Value)} (each : List.Forall₂ ReadsEntry parts entries)
    (notEmpty : parts ≠ []) {fuel : Nat}
    (enough : 2 * (Text.join ("," ++ gap) parts).toList.length < fuel) (known : List (Value × Value))
    (rest : List Char) :
    entriesUpTo fuel known ((Text.join ("," ++ gap) parts).toList ++ (trail.toList ++ '\x7d' :: rest)) =
      .ok (Mapping.insertAll entries known, rest) := by
  induction each generalizing fuel known with
  | nil => exact absurd rfl notEmpty
  | @cons s entry parts entries first others ih =>
      obtain ⟨fuel, rfl⟩ : ∃ less, fuel = less + 1 := ⟨fuel - 1, by omega⟩
      cases others with
      | nil =>
          have enough : 2 * s.toList.length < fuel + 1 := enough
          have closes : skipSpace (trail.toList ++ '\x7d' :: rest) = '\x7d' :: rest := by
            rw [trailSpaces.skip, skipSpace_cons (by decide)]
          rw [Text.join, (first.step (by omega) known (trailSpaces.endsNumber (Or.inr rfl) rest)).1 rest closes]
          rfl
      | @cons t second parts entries reads others =>
          rw [toList_join_cons, String.toList_append] at enough ⊢
          simp only [List.length_append] at enough
          have comma : (",":String).toList = [','] := rfl
          have more := ih (by simp) (show _ < fuel by rw [comma] at enough; simp at enough; omega)
            (Mapping.insert entry.1 entry.2 known)
          have starts : Starts (Text.join ("," ++ gap) (t :: parts)) := starts_join reads.starts
          have fits : 2 * s.toList.length ≤ fuel := by omega
          have isComma : isSpace ',' = false := by decide
          rw [comma, List.append_assoc, List.append_assoc, List.append_assoc, List.singleton_append,
            (first.step fits known (endsNumber_comma _)).2 _ (skipSpace_cons isComma _), gapSpaces.skip, starts.skip,
            more]
          rfl

/-! ## Writing -/

/-- At every level the value is written as a text from which it is read back. -/
def WrittenBack (style : Style) (v : Value) : Prop :=
  ∀ level, ∃ s, writeAt style level v = .ok s ∧ ReadsBack s v

variable {style : Style}

theorem exists_writeItems {items : List Value} (each : ∀ item ∈ items, WrittenBack style item) (level : Nat) :
    ∃ parts, writeItems style level items = .ok parts ∧ List.Forall₂ ReadsBack parts items := by
  induction items with
  | nil => exact ⟨[], rfl, List.Forall₂.nil⟩
  | cons item items ih =>
      obtain ⟨first, others⟩ := List.forall_mem_cons.mp each
      obtain ⟨s, written, reads⟩ := first level
      obtain ⟨parts, writtenItems, readsItems⟩ := ih others
      refine ⟨s :: parts, ?_, List.Forall₂.cons reads readsItems⟩
      rw [writeItems, written, writtenItems]
      rfl

theorem exists_writeEntries {entries : List (Value × Value)} (texts : Mapping.TextKeys entries)
    (each : ∀ entry ∈ entries, WrittenBack style entry.2) (level : Nat) :
    ∃ written, writeEntries style level entries = .ok written ∧
      List.Forall₂ ReadsEntry (written.map (·.2)) entries := by
  induction entries with
  | nil => exact ⟨[], rfl, List.Forall₂.nil⟩
  | cons entry entries ih =>
      obtain ⟨key, value⟩ := entry
      obtain ⟨⟨name, isName⟩, otherTexts⟩ := Mapping.textKeys_cons.mp texts
      obtain ⟨first, others⟩ := List.forall_mem_cons.mp each
      obtain ⟨s, isWritten, reads⟩ := first level
      obtain ⟨written, writtenEntries, readsEntries⟩ := ih otherTexts others
      have isName : key = .str name := isName
      subst isName
      refine ⟨(.str name, textLiteral name ++ ": " ++ s) :: written, ?_, ?_⟩
      · rw [writeEntries, keyText?, isWritten, writtenEntries]
        rfl
      · exact List.Forall₂.cons ⟨name, s, rfl, rfl, reads⟩ readsEntries

/-- A named value or a number is read back when its text starts like one. -/
theorem readsBack_plain {s : String} {v : Value} {c : Char} {more : List Char} (spelled : s.toList = c :: more)
    (visible : 0x20 < c.toNat ∧ c.toNat < 0x7f) (noMark : c ≠ '"' ∧ c ≠ '[' ∧ c ≠ '\x7b' ∧ c ≠ ']' ∧ c ≠ '\x7d')
    (isPlain : ∀ rest, EndsNumber rest → plain (s.toList ++ rest) = .ok (v, rest)) : ReadsBack s v := by
  refine ⟨⟨c, more, spelled, visible.1, visible.2, noMark.2.2.2⟩, ?_⟩
  intro fuel rest enough ends
  obtain ⟨fuel, rfl⟩ : ∃ less, fuel = less + 1 :=
    ⟨fuel - 1, by rw [spelled, List.length_cons] at enough; omega⟩
  have read := isPlain rest ends
  rw [spelled, List.cons_append] at read ⊢
  rw [valueUpTo]
  · exact read
  · simp [noMark.1]
  · simp [noMark.2.1]
  · simp [noMark.2.2.1]

theorem readsBack_int (n : Int) : ReadsBack (toString n) (.int n) := by
  obtain ⟨c, more, spelled, first⟩ := exists_first_int n
  have code : 45 ≤ c.toNat ∧ c.toNat ≤ 57 := by
    rcases first with isDigit | rfl
    · have zero : '0'.toNat = 48 := rfl
      have nine : '9'.toNat = 57 := rfl
      rw [Char.isDigit_iff_toNat] at isDigit
      omega
    · decide
  refine readsBack_plain spelled (by omega) ?_ fun rest ends => plain_int n ends
  refine ⟨?_, ?_, ?_, ?_, ?_⟩ <;> rintro rfl <;> exact absurd code (by decide)

theorem readsBack_textLiteral (s : String) : ReadsBack (textLiteral s) (.str s) := by
  have spelled := toList_textLiteral s
  refine ⟨⟨'"', _, spelled, by decide⟩, ?_⟩
  intro fuel rest enough ends
  obtain ⟨fuel, rfl⟩ : ∃ less, fuel = less + 1 :=
    ⟨fuel - 1, by rw [spelled, List.length_cons] at enough; omega⟩
  have read := text_textLiteral s rest
  rw [spelled, List.cons_append] at read ⊢
  rw [valueUpTo, read]
  rfl

theorem readsBack_emptyList : ReadsBack "[]" (.list []) := by
  refine ⟨⟨'[', [']'], rfl, by decide⟩, ?_⟩
  intro fuel rest enough ends
  obtain ⟨fuel, rfl⟩ : ∃ less, fuel = less + 1 := ⟨fuel - 1, by have : 4 ≤ fuel := enough; omega⟩
  rfl

theorem readsBack_emptyMap : ReadsBack "\x7b\x7d" (.map []) := by
  refine ⟨⟨'\x7b', ['\x7d'], rfl, by decide⟩, ?_⟩
  intro fuel rest enough ends
  obtain ⟨fuel, rfl⟩ : ∃ less, fuel = less + 1 := ⟨fuel - 1, by have : 4 ≤ fuel := enough; omega⟩
  rfl

/-- A list is read from its items when these start like a value, whatever white space is in front of them. -/
theorem valueUpTo_items {lead body : String} (spaces : IsSpaces lead) (starts : Starts body) {fuel : Nat}
    {items : List Value} {behind rest : List Char}
    (inside : itemsUpTo fuel (body.toList ++ behind) = .ok (items, rest)) :
    valueUpTo (fuel + 1) ('[' :: (lead.toList ++ (body.toList ++ behind))) = .ok (.list items, rest) := by
  have skipped : skipSpace (lead.toList ++ (body.toList ++ behind)) = body.toList ++ behind := by
    rw [spaces.skip, starts.skip]
  obtain ⟨c, more, spelled, _, _, notList, _⟩ := starts
  rw [valueUpTo, skipped]
  split
  · rename_i others closed
    rw [spelled, List.cons_append, List.cons.injEq] at closed
    exact absurd closed.1 notList
  · rw [inside]
    rfl

/-- A mapping is read from its entries in the same way. -/
theorem valueUpTo_entries {lead body : String} (spaces : IsSpaces lead) (starts : Starts body) {fuel : Nat}
    {entries : List (Value × Value)} {behind rest : List Char}
    (inside : entriesUpTo fuel [] (body.toList ++ behind) = .ok (entries, rest)) :
    valueUpTo (fuel + 1) ('\x7b' :: (lead.toList ++ (body.toList ++ behind))) = .ok (.map entries, rest) := by
  have skipped : skipSpace (lead.toList ++ (body.toList ++ behind)) = body.toList ++ behind := by
    rw [spaces.skip, starts.skip]
  obtain ⟨c, more, spelled, _, _, _, notMap⟩ := starts
  rw [valueUpTo, skipped]
  split
  · rename_i others closed
    rw [spelled, List.cons_append, List.cons.injEq] at closed
    exact absurd closed.1 notMap
  · rw [inside]
    rfl

theorem writtenBack_list {items : List Value} (spaced : style.Spaced)
    (each : ∀ item ∈ items, WrittenBack style item) : WrittenBack style (.list items) := by
  intro level
  obtain ⟨parts, written, reads⟩ := exists_writeItems each (level + 1)
  refine ⟨enclose style level "[" "]" parts, by rw [writeAt, written]; rfl, ?_⟩
  cases reads with
  | nil => exact readsBack_emptyList
  | @cons s item parts items first others =>
      obtain ⟨lead, gap, trail, leadSpaces, gapSpaces, trailSpaces, spelled⟩ :=
        enclose_parts spaced level "[" "]" (List.cons_ne_nil s parts)
      refine ⟨⟨'[', _, spelled, by decide⟩, ?_⟩
      intro fuel rest enough ends
      have brackets : ("[" : String).toList = ['['] ∧ ("]" : String).toList = [']'] := ⟨rfl, rfl⟩
      rw [spelled, brackets.1, brackets.2] at enough ⊢
      simp only [List.length_append, List.length_singleton] at enough
      obtain ⟨fuel, rfl⟩ : ∃ less, fuel = less + 1 := ⟨fuel - 1, by omega⟩
      have inside := itemsUpTo_join gapSpaces trailSpaces (List.Forall₂.cons first others)
        (List.cons_ne_nil s parts) (show _ < fuel by omega) rest
      simpa using valueUpTo_items leadSpaces (starts_join first.starts) inside

theorem writtenBack_map {entries : List (Value × Value)} (spaced : style.Spaced)
    (unsorted : style.sortKeys = false) (texts : Mapping.TextKeys entries)
    (distinct : (Mapping.keys entries).Nodup) (each : ∀ entry ∈ entries, WrittenBack style entry.2) :
    WrittenBack style (.map entries) := by
  intro level
  obtain ⟨written, writtenEntries, reads⟩ := exists_writeEntries texts each (level + 1)
  refine ⟨enclose style level "\x7b" "\x7d" (written.map (·.2)), ?_, ?_⟩
  · rw [writeAt, writtenEntries]
    simp [arrange, unsorted, bind, Except.bind, pure, Except.pure]
  · have together : Mapping.insertAll entries [] = entries := by
      rw [Mapping.insertAll_distinct texts (by simpa using distinct), List.nil_append]
    generalize written.map (·.2) = parts at reads ⊢
    cases reads with
    | nil => exact readsBack_emptyMap
    | @cons s entry parts entries first others =>
        obtain ⟨lead, gap, trail, leadSpaces, gapSpaces, trailSpaces, spelled⟩ :=
          enclose_parts spaced level "\x7b" "\x7d" (List.cons_ne_nil s parts)
        refine ⟨⟨'\x7b', _, spelled, by decide⟩, ?_⟩
        intro fuel rest enough ends
        have brackets : ("\x7b" : String).toList = ['\x7b'] ∧ ("\x7d" : String).toList = ['\x7d'] := ⟨rfl, rfl⟩
        rw [spelled, brackets.1, brackets.2] at enough ⊢
        simp only [List.length_append, List.length_singleton] at enough
        obtain ⟨fuel, rfl⟩ : ∃ less, fuel = less + 1 := ⟨fuel - 1, by omega⟩
        have inside := entriesUpTo_join gapSpaces trailSpaces (List.Forall₂.cons first others)
          (List.cons_ne_nil s parts) (show _ < fuel by omega) [] rest
        rw [together] at inside
        simpa using valueUpTo_entries leadSpaces (starts_join first.starts) inside

theorem writtenBack {v : Value} (spaced : style.Spaced) (unsorted : style.sortKeys = false)
    (isJson : IsJson v) : WrittenBack style v := by
  induction isJson with
  | null =>
      refine fun _ => ⟨"null", rfl, readsBack_plain rfl (by decide) (by decide) fun rest _ => ?_⟩
      simp [plain, named, Text.dropStart?]
  | bool b =>
      cases b with
      | false =>
          refine fun _ => ⟨"false", rfl, readsBack_plain rfl (by decide) (by decide) fun rest _ => ?_⟩
          simp [plain, named, Text.dropStart?]
      | true =>
          refine fun _ => ⟨"true", rfl, readsBack_plain rfl (by decide) (by decide) fun rest _ => ?_⟩
          simp [plain, named, Text.dropStart?]
  | int n => exact fun _ => ⟨toString n, rfl, readsBack_int n⟩
  | str s => exact fun _ => ⟨textLiteral s, rfl, readsBack_textLiteral s⟩
  | list each ih => exact writtenBack_list spaced ih
  | map texts distinct each ih => exact writtenBack_map spaced unsorted texts distinct ih

theorem exists_enclose (level : Nat) (opening closing : String) (parts : List String) :
    ∃ more, (enclose style level opening closing parts).toList = opening.toList ++ more := by
  rw [enclose]
  split
  · exact ⟨_, String.toList_append⟩
  · split <;> simp only [String.toList_append, List.append_assoc] <;> exact ⟨_, rfl⟩

/-- What is written for a mapping starts with a brace. -/
theorem exists_brace {entries : List (Value × Value)} {s : String}
    (written : write style (.map entries) = .ok s) : ∃ more, s.toList = '\x7b' :: more := by
  rw [write, writeAt] at written
  obtain ⟨parts, _, written⟩ := Outcome.bind_ok written
  obtain ⟨arranged, _, isWritten⟩ := Outcome.bind_ok written
  cases isWritten
  exact exists_enclose 0 "\x7b" "\x7d" _

/-- A value that JSON can hold is read back from what is written for it. -/
theorem read_write {v : Value} (spaced : style.Spaced) (unsorted : style.sortKeys = false)
    (isJson : IsJson v) : ∃ s, write style v = .ok s ∧ read s = .ok v := by
  obtain ⟨s, written, starts, reads⟩ := writtenBack spaced unsorted isJson 0
  refine ⟨s, written, ?_⟩
  have whole := reads (2 * s.toList.length + 2) [] (by omega) endsNumber_nil
  have skipped := starts.skip []
  obtain ⟨c, more, spelled, _, printable, _⟩ := starts
  have noMark : ∀ others, s.toList ≠ '\ufeff' :: others := by
    intro others same
    rw [spelled, List.cons.injEq] at same
    rw [same.1] at printable
    exact absurd printable (by decide)
  rw [List.append_nil] at whole skipped
  rw [read, readChars]
  · rw [skipped, whole]
    rfl
  · exact noMark

end Json

end StyleRules
