import Mathlib.Data.List.Nodup
import Mathlib.Order.Basic
import StyleRules.Value.Mapping

/-!
# Tables with text keys

A text is equal to no other value than itself.  So looking up a text in a table finds the entry that was
written under this very text, whatever the other keys of the table are.
-/

namespace StyleRules

namespace Value

def IsText (v : Value) : Prop := ∃ text : String, v = .str text

@[simp]
theorem isText_str (text : String) : IsText (.str text) := ⟨text, rfl⟩

@[simp]
theorem eq_str_iff {v : Value} {text : String} : v.eq (.str text) = true ↔ v = .str text := by
  cases v <;> simp [eq, number?]

@[simp]
theorem str_eq_iff {v : Value} {text : String} : (Value.str text).eq v = true ↔ v = .str text := by
  cases v <;> simp [eq, number?, eq_comm]

theorem IsText.eq_iff {key other : Value} (isText : key.IsText) :
    key.eq other = true ↔ key = other := by
  obtain ⟨text, rfl⟩ := isText
  rw [str_eq_iff, eq_comm]

/-- What is equal to the value is equal to the same values as the value. -/
def Interchangeable (key : Value) : Prop :=
  ∀ other : Value, other.eq key = true → ∀ v : Value, v.eq other = v.eq key

theorem interchangeable_str (text : String) : Interchangeable (.str text) := by
  intro other same v
  rw [eq_str_iff.mp same]

theorem exists_names {items : List Value} (texts : ∀ item ∈ items, item.IsText) :
    ∃ names : List String, items = names.map .str := by
  induction items with
  | nil => exact ⟨[], rfl⟩
  | cons item rest ih =>
      obtain ⟨⟨text, isText⟩, others⟩ := List.forall_mem_cons.mp texts
      obtain ⟨names, isNames⟩ := ih others
      exact ⟨text :: names, by rw [List.map_cons, isText, isNames]⟩

end Value

namespace Mapping

variable {α : Type} {key : Value} {value : α} {text : String}
  {entries changes : List (Value × α)}

/-! ## Looking up -/

theorem find?_cons_str (key : Value) (value : α) (rest : List (Value × α)) (text : String) :
    find? (.str text) ((key, value) :: rest) =
      if key.eq (.str text) then some value else find? (.str text) rest :=
  rfl

/-- Writing under a key changes what is found under this key and under no other text. -/
theorem find?_insert (key : Value) (value : α) (entries : List (Value × α)) (text : String) :
    find? (.str text) (insert key value entries) =
      if key.eq (.str text) then some value else find? (.str text) entries := by
  induction entries with
  | nil => rfl
  | cons entry rest ih =>
      obtain ⟨known, old⟩ := entry
      rw [insert]
      split
      · rename_i same
        rw [find?_cons_str, find?_cons_str]
        by_cases isKnown : known = .str text
        · subst isKnown
          have keyEq : key = .str text := Value.str_eq_iff.mp same
          simp [keyEq]
        · have notKey : key ≠ .str text := by
            rintro rfl
            exact isKnown (Value.eq_str_iff.mp same)
          simp [isKnown, notKey]
      · rename_i different
        rw [find?_cons_str, ih, find?_cons_str]
        by_cases isKnown : known = .str text
        · subst isKnown
          have notKey : key ≠ .str text := by
            rintro rfl
            exact different (by simp)
          simp [notKey]
        · simp [isKnown]

theorem insertAll_nil (entries : List (Value × α)) : insertAll [] entries = entries := rfl

theorem insertAll_cons (change : Value × α) (changes entries : List (Value × α)) :
    insertAll (change :: changes) entries =
      insertAll changes (insert change.1 change.2 entries) :=
  rfl

theorem insertAll_append (first second entries : List (Value × α)) :
    insertAll (first ++ second) entries = insertAll second (insertAll first entries) :=
  List.foldl_append

/-- The value that the last of several changes under a text writes. -/
def last? (text : String) (changes : List (Value × α)) : Option α :=
  find? (.str text) changes.reverse

theorem find?_append (first second : List (Value × α)) (key : Value) :
    find? key (first ++ second) = (find? key first).or (find? key second) := by
  induction first with
  | nil => rfl
  | cons entry rest ih =>
      rw [List.cons_append, find?, find?, ih]
      split <;> rfl

/-- Under equal keys the same is found. -/
theorem find?_of_eq {other : Value} (interchangeable : key.Interchangeable) (same : other.eq key = true)
    (entries : List (Value × α)) : find? other entries = find? key entries := by
  induction entries with
  | nil => rfl
  | cons entry rest ih => rw [find?, find?, interchangeable other same, ih]

theorem last?_append (text : String) (first second : List (Value × α)) :
    last? text (first ++ second) = (last? text second).or (last? text first) := by
  rw [last?, List.reverse_append, find?_append]
  rfl

/-- After several changes the last one under a text is found, and without one what was there. -/
theorem find?_insertAll_last (changes entries : List (Value × α)) (text : String) :
    find? (.str text) (insertAll changes entries) =
      (last? text changes).or (find? (.str text) entries) := by
  induction changes generalizing entries with
  | nil => rfl
  | cons change rest ih =>
      have oneChange : last? text [change] =
        if change.1.eq (.str text) then some change.2 else none := rfl
      rw [insertAll_cons, ih, find?_insert, ← List.singleton_append, last?_append, oneChange,
        Option.or_assoc]
      split <;> rfl

/-- What is found after several changes is what the changes alone leave, and otherwise what was there. -/
theorem find?_insertAll (changes entries : List (Value × α)) (text : String) :
    find? (.str text) (insertAll changes entries) =
      (find? (.str text) (insertAll changes [])).or (find? (.str text) entries) := by
  have alone : find? (.str text) (insertAll changes []) = last? text changes := by
    rw [find?_insertAll_last]
    exact Option.or_none
  rw [find?_insertAll_last, alone]

/-! ## Keys -/

def keys (entries : List (Value × α)) : List Value := entries.map (·.1)

theorem has_eq_any (key : Value) (entries : List (Value × α)) :
    has key entries = (keys entries).any (·.eq key) := by
  rw [has]
  induction entries with
  | nil => rfl
  | cons entry rest ih =>
      obtain ⟨known, value⟩ := entry
      rw [find?, keys, List.map_cons, List.any_cons]
      cases known.eq key with
      | true => rfl
      | false => exact ih

def TextKeys (entries : List (Value × α)) : Prop := ∀ key ∈ keys entries, key.IsText

theorem textKeys_nil : TextKeys ([] : List (Value × α)) := by
  simp [TextKeys, keys]

theorem textKeys_cons {entry : Value × α} {rest : List (Value × α)} :
    TextKeys (entry :: rest) ↔ entry.1.IsText ∧ TextKeys rest := by
  simp [TextKeys, keys]

theorem textKeys_append {first second : List (Value × α)} :
    TextKeys (first ++ second) ↔ TextKeys first ∧ TextKeys second := by
  simp only [TextKeys, keys, List.map_append, List.forall_mem_append]

theorem textKeys_insert {key : Value} {value : α} {entries : List (Value × α)} :
    TextKeys (insert key value entries) ↔ key.IsText ∧ TextKeys entries := by
  induction entries with
  | nil => simp [insert, textKeys_cons, textKeys_nil]
  | cons entry rest ih =>
      obtain ⟨known, old⟩ := entry
      rw [insert]
      split
      · rename_i same
        rw [textKeys_cons, textKeys_cons]
        constructor
        · rintro ⟨knownText, restTexts⟩
          have keyEq : known = key := knownText.eq_iff.mp same
          exact ⟨keyEq ▸ knownText, knownText, restTexts⟩
        · exact fun texts => texts.2
      · rw [textKeys_cons, ih, textKeys_cons]
        tauto

theorem textKeys_insertAll {changes entries : List (Value × α)} :
    TextKeys (insertAll changes entries) ↔ TextKeys changes ∧ TextKeys entries := by
  induction changes generalizing entries with
  | nil => simp [insertAll_nil, textKeys_nil]
  | cons change rest ih =>
      rw [insertAll_cons, ih, textKeys_insert, textKeys_cons]
      tauto

/-- Writing under a key that is there keeps the keys, and otherwise adds the key at the end. -/
theorem keys_insert (key : Value) (value : α) (entries : List (Value × α)) :
    keys (insert key value entries) =
      if (keys entries).any (·.eq key) then keys entries else keys entries ++ [key] := by
  induction entries with
  | nil => rfl
  | cons entry rest ih =>
      obtain ⟨known, old⟩ := entry
      simp only [keys] at ih
      by_cases same : known.eq key = true
      · simp [insert, keys, same]
      · simp only [insert, keys, same, List.map_cons, List.any_cons, Bool.false_or, Bool.false_eq_true,
          if_false, ih]
        by_cases present : (List.map (·.1) rest).any (·.eq key) = true <;> simp [present]

/-- A table with text keys never holds two entries under the same key. -/
theorem nodup_keys_insert {key : Value} {value : α} {entries : List (Value × α)}
    (isText : key.IsText) (nodup : (keys entries).Nodup) :
    (keys (insert key value entries)).Nodup := by
  obtain ⟨text, rfl⟩ := isText
  rw [keys_insert]
  split
  · exact nodup
  · rename_i absent
    apply List.nodup_append.mpr
    refine ⟨nodup, List.nodup_singleton _, ?_⟩
    intro known member other isKey
    rw [List.mem_singleton] at isKey
    subst isKey
    rintro rfl
    exact absent (List.any_eq_true.mpr ⟨_, member, by simp⟩)

theorem nodup_keys_insertAll {changes entries : List (Value × α)} (texts : TextKeys changes)
    (nodup : (keys entries).Nodup) : (keys (insertAll changes entries)).Nodup := by
  induction changes generalizing entries with
  | nil => exact nodup
  | cons change rest ih =>
      obtain ⟨first, others⟩ := textKeys_cons.mp texts
      exact ih others (nodup_keys_insert first nodup)

theorem insert_absent {key : Value} (value : α) {entries : List (Value × α)} (isText : key.IsText)
    (absent : key ∉ keys entries) : insert key value entries = entries ++ [(key, value)] := by
  induction entries with
  | nil => rfl
  | cons entry rest ih =>
      obtain ⟨known, old⟩ := entry
      simp only [keys, List.map_cons, List.mem_cons, not_or] at absent ih
      have different : known.eq key ≠ true := by
        obtain ⟨text, rfl⟩ := isText
        rw [ne_eq, Value.eq_str_iff]
        exact Ne.symm absent.1
      rw [insert, if_neg different, ih absent.2, List.cons_append]

/-- Writing new entries under different texts adds them at the end. -/
theorem insertAll_distinct {changes entries : List (Value × α)} (texts : TextKeys changes)
    (distinct : (keys (entries ++ changes)).Nodup) :
    insertAll changes entries = entries ++ changes := by
  induction changes generalizing entries with
  | nil => rw [insertAll_nil, List.append_nil]
  | cons change rest ih =>
      obtain ⟨isText, others⟩ := textKeys_cons.mp texts
      have absent : change.1 ∉ keys entries := by
        intro member
        rw [keys, List.map_append, List.nodup_append] at distinct
        exact distinct.2.2 _ member _ (by simp) rfl
      have together : entries ++ [(change.1, change.2)] ++ rest = entries ++ change :: rest := by
        simp
      rw [insertAll_cons, insert_absent change.2 isText absent, ih others, together]
      rw [together]
      exact distinct

/-! ## Writing -/

/-- Writing twice under a text is writing the last value. -/
theorem insert_insert (name : String) (earlier later : α) (entries : List (Value × α)) :
    insert (.str name) later (insert (.str name) earlier entries) = insert (.str name) later entries := by
  induction entries with
  | nil => simp [insert]
  | cons entry rest ih =>
      obtain ⟨known, old⟩ := entry
      by_cases same : known.eq (.str name) = true
      · simp only [insert, if_pos same]
      · simp only [insert, if_neg same, ih]

/-- Where an entry is written does not depend on the value that is written. -/
theorem exists_insert (name : String) (entries : List (Value × α)) :
    ∃ before after, ∀ value, insert (.str name) value entries = before ++ (.str name, value) :: after := by
  induction entries with
  | nil => exact ⟨[], [], fun _ => rfl⟩
  | cons entry rest ih =>
      obtain ⟨known, old⟩ := entry
      by_cases same : known.eq (.str name) = true
      · exact ⟨[], rest, fun value => by rw [insert, if_pos same, Value.eq_str_iff.mp same, List.nil_append]⟩
      · obtain ⟨before, after, written⟩ := ih
        exact ⟨(known, old) :: before, after, fun value => by rw [insert, if_neg same, written, List.cons_append]⟩

/-- Writing what is found changes nothing. -/
theorem insert_found {name : String} (found : find? (.str name) entries = some value) :
    insert (.str name) value entries = entries := by
  induction entries with
  | nil => cases found
  | cons entry rest ih =>
      obtain ⟨known, old⟩ := entry
      rw [find?_cons_str] at found
      by_cases same : known.eq (.str name) = true
      · rw [if_pos same] at found
        rw [insert, if_pos same, Option.some.inj found]
      · rw [if_neg same] at found
        rw [insert, if_neg same, ih found]

/-- An entry of a table after writing is an entry from before or has the written value. -/
theorem mem_insert {entry : Value × α} (member : entry ∈ insert key value entries) :
    entry ∈ entries ∨ entry.2 = value := by
  induction entries with
  | nil =>
      rw [insert, List.mem_singleton] at member
      exact Or.inr (by rw [member])
  | cons first rest ih =>
      obtain ⟨known, old⟩ := first
      rw [insert] at member
      split at member
      · rcases List.mem_cons.mp member with isFirst | further
        · exact Or.inr (by rw [isFirst])
        · exact Or.inl (List.mem_cons_of_mem _ further)
      · rcases List.mem_cons.mp member with isFirst | further
        · exact Or.inl (by rw [isFirst]; exact List.mem_cons_self)
        · exact (ih further).imp_left (List.mem_cons_of_mem _)

theorem mem_of_find? {key : Value} (found : find? key entries = some value) :
    ∃ known, (known, value) ∈ entries := by
  induction entries with
  | nil => cases found
  | cons entry rest ih =>
      obtain ⟨known, other⟩ := entry
      rw [find?] at found
      split at found
      · cases found
        exact ⟨known, List.mem_cons_self⟩
      · obtain ⟨deeper, member⟩ := ih found
        exact ⟨deeper, List.mem_cons_of_mem _ member⟩

theorem mem_of_find?_str (found : find? (.str text) entries = some value) : (.str text, value) ∈ entries := by
  induction entries with
  | nil => cases found
  | cons entry rest ih =>
      obtain ⟨known, other⟩ := entry
      rw [find?_cons_str] at found
      split at found
      · rename_i same
        rw [Value.eq_str_iff] at same
        cases same
        cases found
        exact List.mem_cons_self
      · exact List.mem_cons_of_mem _ (ih found)

/-- A text is a key of a table exactly when something is found under it. -/
theorem str_mem_keys_iff {text : String} {entries : List (Value × α)} :
    Value.str text ∈ keys entries ↔ (find? (.str text) entries).isSome = true := by
  induction entries with
  | nil => simp [keys, find?]
  | cons entry rest ih =>
      obtain ⟨known, value⟩ := entry
      rw [find?_cons_str]
      simp only [keys, List.map_cons, List.mem_cons] at ih ⊢
      rw [ih, eq_comm]
      by_cases same : known = .str text <;> simp [same]

theorem find?_eq_none_iff {text : String} :
    find? (.str text) entries = none ↔ .str text ∉ keys entries := by
  rw [str_mem_keys_iff, Bool.not_eq_true, Option.isSome_eq_false_iff, Option.isNone_iff_eq_none]

theorem find?_of_mem {key : Value} {value : α} (texts : TextKeys entries) (distinct : (keys entries).Nodup)
    (member : (key, value) ∈ entries) : find? key entries = some value := by
  obtain ⟨text, rfl⟩ := texts key (List.mem_map_of_mem member)
  induction entries with
  | nil => cases member
  | cons entry rest ih =>
      obtain ⟨known, other⟩ := entry
      obtain ⟨absent, others⟩ := List.nodup_cons.mp distinct
      rw [find?_cons_str]
      rcases List.mem_cons.mp member with isFirst | further
      · cases isFirst
        simp
      · have different : known ≠ .str text := by
          rintro rfl
          exact absent (List.mem_map.mpr ⟨_, further, rfl⟩)
        simpa [different] using ih (textKeys_cons.mp texts).2 others further

/-- Changing or dropping entries changes what is found under a text in the same way. -/
theorem find?_filterMap {β : Type} (change : Value → α → Option β) (distinct : (keys entries).Nodup)
    (text : String) :
    find? (.str text) (entries.filterMap fun entry => (change entry.1 entry.2).map (Prod.mk entry.1)) =
      (find? (.str text) entries).bind (change (.str text)) := by
  induction entries with
  | nil => rfl
  | cons entry rest ih =>
      obtain ⟨known, value⟩ := entry
      obtain ⟨absent, others⟩ := List.nodup_cons.mp distinct
      rw [find?_cons_str, List.filterMap_cons]
      by_cases same : known = .str text
      · subst same
        have notFound : find? (.str text) rest = none := find?_eq_none_iff.mpr absent
        cases changed : change (.str text) value with
        | none => simp [changed, ih others, notFound]
        | some result => simp [changed, find?_cons_str]
      · cases changed : change known value with
        | none => simpa [changed, same] using ih others
        | some result => simpa [changed, same, find?_cons_str] using ih others

end Mapping

end StyleRules
