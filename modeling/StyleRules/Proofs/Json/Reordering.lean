import Mathlib.Data.List.Perm.Basic
import StyleRules.Proofs.Json.ReadBack
import StyleRules.Proofs.Value.TextOrder

/-!
# Entries in another order

JSON gives no meaning to the order of the entries of a mapping.  With sorted keys a value is written as some other
order of it is written without sorting.  So the values that differ in the order of entries, at every depth, are
written alike with sorted keys, and no other values are.
-/

namespace StyleRules

namespace Mapping

/-! ## Named entries -/

/-- An entry for each name. -/
def ofNames (names : List String) (values : String → Value) : List (Value × Value) :=
  names.map fun name => (.str name, values name)

variable {names : List String} {values : String → Value}

@[simp]
theorem keys_ofNames : keys (ofNames names values) = names.map .str := by
  rw [keys, ofNames, List.map_map]
  rfl

@[simp]
theorem nodup_keys_ofNames : (keys (ofNames names values)).Nodup ↔ names.Nodup := by
  rw [keys_ofNames]
  exact List.nodup_map_iff fun _ _ same => Value.str.inj same

theorem textKeys_ofNames : TextKeys (ofNames names values) := by
  intro key member
  rw [keys_ofNames] at member
  obtain ⟨name, _, rfl⟩ := List.mem_map.mp member
  exact Value.isText_str name

theorem forall_mem_ofNames {p : Value × Value → Prop} :
    (∀ entry ∈ ofNames names values, p entry) ↔ ∀ name ∈ names, p (.str name, values name) :=
  List.forall_mem_map

theorem find?_ofNames_iff {name : String} {value : Value} (distinct : names.Nodup) :
    find? (.str name) (ofNames names values) = some value ↔ name ∈ names ∧ values name = value := by
  constructor
  · intro found
    obtain ⟨known, isKnown, same⟩ := List.mem_map.mp (mem_of_find?_str found)
    cases same
    exact ⟨isKnown, rfl⟩
  · rintro ⟨member, rfl⟩
    exact find?_of_mem textKeys_ofNames (nodup_keys_ofNames.mpr distinct) (List.mem_map_of_mem member)

/-- Entries under different texts are named. -/
theorem exists_ofNames {entries : List (Value × Value)} (texts : TextKeys entries)
    (distinct : (keys entries).Nodup) : ∃ names values, names.Nodup ∧ entries = ofNames names values := by
  have isNamed : entries = ofNames (entries.map (·.1.text)) fun name => (find? (.str name) entries).getD .null := by
    rw [ofNames, List.map_map]
    refine List.map_id entries |>.symm.trans (List.map_congr_left fun entry member => ?_)
    obtain ⟨key, value⟩ := entry
    obtain ⟨name, rfl⟩ : key.IsText := texts key (List.mem_map_of_mem member)
    simp [Value.text, find?_of_mem texts distinct member]
  exact ⟨_, _, nodup_keys_ofNames.mp (isNamed ▸ distinct), isNamed⟩

end Mapping

theorem isJson_ofNames {names : List String} {values : String → Value} (distinct : names.Nodup) :
    IsJson (.map (Mapping.ofNames names values)) ↔ ∀ name ∈ names, IsJson (values name) := by
  rw [isJson_map, Mapping.nodup_keys_ofNames, Mapping.forall_mem_ofNames]
  exact ⟨fun isJson => isJson.2.2, fun each => ⟨Mapping.textKeys_ofNames, distinct, each⟩⟩

namespace Json

open Mapping (ofNames)

/-! ## The relation -/

/-- The values are the same JSON: only entries of mappings stand in another order. -/
inductive Reordered : Value → Value → Prop
  | null : Reordered .null .null
  | bool (b : Bool) : Reordered (.bool b) (.bool b)
  | int (n : Int) : Reordered (.int n) (.int n)
  | str (s : String) : Reordered (.str s) (.str s)
  | list {items others : List Value} (sameLength : items.length = others.length)
      (each : ∀ (index : Nat) item other, items[index]? = some item → others[index]? = some other →
        Reordered item other) :
      Reordered (.list items) (.list others)
  | map {entries others : List (Value × Value)} (sameKeys : (Mapping.keys entries).Perm (Mapping.keys others))
      (each : ∀ name value other, Mapping.find? (.str name) entries = some value →
        Mapping.find? (.str name) others = some other → Reordered value other) :
      Reordered (.map entries) (.map others)

theorem Reordered.symm {v w : Value} (reordered : Reordered v w) : Reordered w v := by
  induction reordered with
  | null => exact .null
  | bool b => exact .bool b
  | int n => exact .int n
  | str s => exact .str s
  | list sameLength _ ih =>
      exact .list sameLength.symm fun index item other isItem isOther => ih index other item isOther isItem
  | map sameKeys _ ih =>
      exact .map sameKeys.symm fun name value other isValue isOther => ih name other value isOther isValue

theorem Reordered.trans {v w u : Value} (first : Reordered v w) (second : Reordered w u) : Reordered v u := by
  induction first generalizing u with
  | null => exact second
  | bool b => exact second
  | int n => exact second
  | str s => exact second
  | @list items others sameLength _ ih =>
      cases second with
      | list otherLength each =>
          refine .list (sameLength.trans otherLength) fun index item other isItem isOther => ?_
          have within : index < others.length := sameLength ▸ (List.getElem?_eq_some_iff.mp isItem).1
          have isMiddle := List.getElem?_eq_getElem within
          exact ih index item _ isItem isMiddle (each index _ other isMiddle isOther)
  | @map entries others sameKeys _ ih =>
      cases second with
      | map otherKeys each =>
          refine .map (sameKeys.trans otherKeys) fun name value other isValue isOther => ?_
          have isKey : .str name ∈ Mapping.keys entries := Mapping.str_mem_keys_iff.mpr (by rw [isValue]; rfl)
          obtain ⟨middle, isMiddle⟩ :=
            Option.isSome_iff_exists.mp (Mapping.str_mem_keys_iff.mp (sameKeys.subset isKey))
          exact ih name value middle isValue isMiddle (each name middle other isMiddle isOther)

/-- Named entries are reordered by reordering the names and each of the values. -/
theorem reordered_ofNames {names others : List String} {values otherValues : String → Value}
    (distinct : names.Nodup) (otherDistinct : others.Nodup) :
    Reordered (.map (ofNames names values)) (.map (ofNames others otherValues)) ↔
      names.Perm others ∧ ∀ name ∈ names, Reordered (values name) (otherValues name) := by
  constructor
  · intro reordered
    cases reordered with
    | map sameKeys each =>
        rw [Mapping.keys_ofNames, Mapping.keys_ofNames] at sameKeys
        have permuted := (List.map_perm_map_iff fun _ _ same => Value.str.inj same).mp sameKeys
        refine ⟨permuted, fun name member => each name _ _ ?_ ?_⟩
        · exact (Mapping.find?_ofNames_iff distinct).mpr ⟨member, rfl⟩
        · exact (Mapping.find?_ofNames_iff otherDistinct).mpr ⟨permuted.subset member, rfl⟩
  · rintro ⟨permuted, each⟩
    refine .map ?_ fun name value other isValue isOther => ?_
    · rw [Mapping.keys_ofNames, Mapping.keys_ofNames]
      exact permuted.map _
    · obtain ⟨member, rfl⟩ := (Mapping.find?_ofNames_iff distinct).mp isValue
      obtain ⟨_, rfl⟩ := (Mapping.find?_ofNames_iff otherDistinct).mp isOther
      exact each name member

/-! ## How mappings are written -/

/-- The order in which the style writes names. -/
def Style.order (style : Style) (names : List String) : Outcome (List String) :=
  if style.sortKeys then Value.sortAscending .str names else .ok names

variable {style : Style} {level : Nat} {names : List String} {values : String → Value} {spell : String → String}

theorem exists_order (style : Style) (names : List String) :
    ∃ ordered, style.order names = .ok ordered ∧ ordered.Perm names := by
  rw [Style.order]
  split
  · obtain ⟨ordered, isOrdered, permuted, _⟩ := Value.sortAscending_str names
    exact ⟨ordered, isOrdered, permuted⟩
  · exact ⟨names, rfl, .refl names⟩

theorem writeEntries_ofNames (each : ∀ name ∈ names, writeAt style level (values name) = .ok (spell name)) :
    writeEntries style level (ofNames names values) =
      .ok (names.map fun name => (.str name, textLiteral name ++ ": " ++ spell name)) := by
  induction names with
  | nil => rfl
  | cons name rest ih =>
      obtain ⟨first, others⟩ := List.forall_mem_cons.mp each
      have tail : ofNames (name :: rest) values = (.str name, values name) :: ofNames rest values := rfl
      rw [tail, writeEntries, keyText?]
      simp only [bind, Except.bind, first, ih others]
      rfl

/-- Named entries are written in the order of the style, each with what is written for its value. -/
theorem writeAt_ofNames (each : ∀ name ∈ names, writeAt style (level + 1) (values name) = .ok (spell name)) :
    writeAt style level (.map (ofNames names values)) = (style.order names).map fun ordered =>
      enclose style level "\x7b" "\x7d" (ordered.map fun name => textLiteral name ++ ": " ++ spell name) := by
  have arranged : arrange style (names.map fun name => (.str name, textLiteral name ++ ": " ++ spell name)) =
      (style.order names).map (List.map fun name => (.str name, textLiteral name ++ ": " ++ spell name)) := by
    rw [arrange, Style.order]
    split
    · exact Value.sortAscending_map _ names
    · rfl
  rw [writeAt, writeEntries_ofNames each]
  simp only [bind, Except.bind, arranged]
  cases style.order names with
  | error reason => rfl
  | ok ordered =>
      simp only [Except.map, List.map_map]
      rfl

theorem writeItems_map {spell : Value → String} {items : List Value}
    (each : ∀ item ∈ items, writeAt style level item = .ok (spell item)) :
    writeItems style level items = .ok (items.map spell) := by
  induction items with
  | nil => rfl
  | cons item rest ih =>
      obtain ⟨first, others⟩ := List.forall_mem_cons.mp each
      rw [writeItems, first, ih others]
      rfl

/-- Items that are written alike, perhaps in another style, make lists that are written alike. -/
theorem writeItems_congr {otherStyle : Style} {items others : List Value} (sameLength : items.length = others.length)
    (each : ∀ (index : Nat) item other, items[index]? = some item → others[index]? = some other →
      writeAt style level item = writeAt otherStyle level other) :
    writeItems style level items = writeItems otherStyle level others := by
  induction items generalizing others with
  | nil =>
      cases others with
      | nil => rfl
      | cons other more => cases sameLength
  | cons item rest ih =>
      cases others with
      | nil => cases sameLength
      | cons other more =>
          rw [writeItems, writeItems, each 0 item other rfl rfl,
            ih (Nat.succ.inj sameLength) fun index => each (index + 1)]

/-! ## Writing with sorted keys -/

variable {v w : Value}

theorem exists_writeAt (style : Style) (isJson : IsJson v) : ∀ level, ∃ s, writeAt style level v = .ok s := by
  induction isJson with
  | null => exact fun _ => ⟨_, rfl⟩
  | bool b => exact fun _ => ⟨_, rfl⟩
  | int n => exact fun _ => ⟨_, rfl⟩
  | str s => exact fun _ => ⟨_, rfl⟩
  | list each ih =>
      intro level
      choose! spell spelled using fun item member => ih item member (level + 1)
      exact ⟨_, by rw [writeAt, writeItems_map spelled]; rfl⟩
  | map texts distinct each ih =>
      intro level
      obtain ⟨names, values, -, rfl⟩ := Mapping.exists_ofNames texts distinct
      choose! spell spelled using fun name member => Mapping.forall_mem_ofNames.mp ih name member (level + 1)
      obtain ⟨ordered, isOrdered, _⟩ := exists_order style names
      exact ⟨_, by rw [writeAt_ofNames spelled, isOrdered]; rfl⟩

/-- With sorted keys, the same JSON is written alike. -/
theorem Reordered.writeAt_eq (sorts : style.sortKeys = true) (reordered : Reordered v w) (isJson : IsJson v)
    (otherJson : IsJson w) : ∀ level, writeAt style level v = writeAt style level w := by
  induction reordered with
  | null => exact fun _ => rfl
  | bool b => exact fun _ => rfl
  | int n => exact fun _ => rfl
  | str s => exact fun _ => rfl
  | list sameLength each ih =>
      intro level
      rw [isJson_list] at isJson otherJson
      rw [writeAt, writeAt, writeItems_congr sameLength fun index item other isItem isOther =>
        ih index item other isItem isOther (isJson item (List.mem_of_getElem? isItem))
          (otherJson other (List.mem_of_getElem? isOther)) (level + 1)]
  | map sameKeys each ih =>
      intro level
      obtain ⟨texts, distinct, _⟩ := isJson_map.mp isJson
      obtain ⟨otherTexts, otherDistinct, _⟩ := isJson_map.mp otherJson
      obtain ⟨names, values, isDistinct, rfl⟩ := Mapping.exists_ofNames texts distinct
      obtain ⟨others, otherValues, otherIsDistinct, rfl⟩ := Mapping.exists_ofNames otherTexts otherDistinct
      rw [isJson_ofNames isDistinct] at isJson
      rw [isJson_ofNames otherIsDistinct] at otherJson
      obtain ⟨permuted, _⟩ := (reordered_ofNames isDistinct otherIsDistinct).mp (.map sameKeys each)
      choose! spell spelled using fun name member => exists_writeAt style (isJson name member) (level + 1)
      have otherSpelled : ∀ name ∈ others, writeAt style (level + 1) (otherValues name) = .ok (spell name) := by
        intro name otherMember
        have member := permuted.symm.subset otherMember
        rw [← spelled name member]
        refine (ih name _ _ ?_ ?_ (isJson name member) (otherJson name otherMember) (level + 1)).symm
        · exact (Mapping.find?_ofNames_iff isDistinct).mpr ⟨member, rfl⟩
        · exact (Mapping.find?_ofNames_iff otherIsDistinct).mpr ⟨otherMember, rfl⟩
      rw [writeAt_ofNames spelled, writeAt_ofNames otherSpelled, Style.order, Style.order, if_pos sorts, if_pos sorts,
        Value.sortAscending_str_perm permuted]

/-- Writing a value is writing some order of it as it stands. -/
theorem exists_arranged (style : Style) (isJson : IsJson v) :
    ∃ arranged, IsJson arranged ∧ Reordered v arranged ∧
      ∀ level, writeAt style level v = writeAt { style with sortKeys := false } level arranged := by
  induction isJson with
  | null => exact ⟨.null, .null, .null, fun _ => rfl⟩
  | bool b => exact ⟨.bool b, .bool b, .bool b, fun _ => rfl⟩
  | int n => exact ⟨.int n, .int n, .int n, fun _ => rfl⟩
  | str s => exact ⟨.str s, .str s, .str s, fun _ => rfl⟩
  | @list items each ih =>
      choose! arrange isJson reordered writtenAlike using ih
      have arranges : ∀ (index : Nat) item other, items[index]? = some item →
          (items.map arrange)[index]? = some other → item ∈ items ∧ arrange item = other := by
        intro index item other isItem isOther
        rw [List.getElem?_map, isItem] at isOther
        exact ⟨List.mem_of_getElem? isItem, Option.some.inj isOther⟩
      have sameLength : items.length = (items.map arrange).length := List.length_map arrange |>.symm
      refine ⟨.list (items.map arrange), .list (List.forall_mem_map.mpr isJson), ?_, fun level => ?_⟩
      · refine .list sameLength fun index item other isItem isOther => ?_
        obtain ⟨member, rfl⟩ := arranges index item other isItem isOther
        exact reordered item member
      · have sameItems : writeItems style (level + 1) items =
            writeItems { style with sortKeys := false } (level + 1) (items.map arrange) := by
          refine writeItems_congr sameLength fun index item other isItem isOther => ?_
          obtain ⟨member, rfl⟩ := arranges index item other isItem isOther
          exact writtenAlike item member (level + 1)
        rw [writeAt, writeAt, sameItems]
        rfl
  | map texts distinct each ih =>
      obtain ⟨names, values, isDistinct, rfl⟩ := Mapping.exists_ofNames texts distinct
      rw [Mapping.forall_mem_ofNames] at each ih
      choose! arranged isJson reordered writtenAlike using ih
      obtain ⟨ordered, isOrdered, permuted⟩ := exists_order style names
      have orderedDistinct := permuted.nodup_iff.mpr isDistinct
      refine ⟨.map (ofNames ordered arranged), ?_, ?_, fun level => ?_⟩
      · exact (isJson_ofNames orderedDistinct).mpr fun name member => isJson name (permuted.subset member)
      · exact (reordered_ofNames isDistinct orderedDistinct).mpr ⟨permuted.symm, reordered⟩
      choose! spell spelled using fun name member => exists_writeAt style (each name member) (level + 1)
      have arrangedSpelled : ∀ name ∈ ordered,
          writeAt { style with sortKeys := false } (level + 1) (arranged name) = .ok (spell name) := by
        intro name member
        rw [← writtenAlike name (permuted.subset member), spelled name (permuted.subset member)]
      rw [writeAt_ofNames spelled, writeAt_ofNames arrangedSpelled, isOrdered]
      rfl

/-- With sorted keys, what is written tells a value up to the order of entries. -/
theorem write_eq_iff (spaced : style.Spaced) (sorts : style.sortKeys = true) (isJson : IsJson v)
    (otherJson : IsJson w) : write style v = write style w ↔ Reordered v w := by
  refine ⟨fun same => ?_, fun reordered => reordered.writeAt_eq sorts isJson otherJson 0⟩
  have unsorted : Style.Spaced { style with sortKeys := false } := spaced
  obtain ⟨arranged, arrangedJson, reordered, writtenAlike⟩ := exists_arranged style isJson
  obtain ⟨others, othersJson, otherReordered, otherAlike⟩ := exists_arranged style otherJson
  obtain ⟨s, written, reads⟩ := read_write unsorted rfl arrangedJson
  obtain ⟨t, otherWritten, otherReads⟩ := read_write unsorted rfl othersJson
  have sameText : (Except.ok s : Outcome String) = .ok t := by
    rw [← written, ← otherWritten, write, write, ← writtenAlike, ← otherAlike]
    exact same
  cases sameText
  rw [reads] at otherReads
  cases otherReads
  exact reordered.trans otherReordered.symm

end Json

end StyleRules
