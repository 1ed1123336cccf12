import StyleRules.Proofs.Configuration.Conforming
import StyleRules.Proofs.Configuration.Expanding

/-!
# Configurations that are data

A data file holds mappings whose keys are texts, and no functions or other objects.  What is laid over data and
expanded is data again, and a value that is no mapping stood at its path before, in the upper or in the lower
configuration.
-/

namespace StyleRules

/-- A value that a data file can hold: its keys are texts. -/
inductive IsData : Value → Prop
  | null : IsData .null
  | bool (b : Bool) : IsData (.bool b)
  | int (n : Int) : IsData (.int n)
  | float (x : Float) : IsData (.float x)
  | str (s : String) : IsData (.str s)
  | list {items : List Value} (each : ∀ item ∈ items, IsData item) : IsData (.list items)
  | map {entries : List (Value × Value)} (texts : Mapping.TextKeys entries)
      (each : ∀ entry ∈ entries, IsData entry.2) : IsData (.map entries)

theorem isData_map {entries : List (Value × Value)} :
    IsData (.map entries) ↔ Mapping.TextKeys entries ∧ ∀ entry ∈ entries, IsData entry.2 := by
  refine ⟨fun isData => ?_, fun ⟨texts, each⟩ => .map texts each⟩
  cases isData with
  | map texts each => exact ⟨texts, each⟩

theorem IsJson.isData {v : Value} (isJson : IsJson v) : IsData v := by
  induction isJson with
  | null => exact .null
  | bool b => exact .bool b
  | int n => exact .int n
  | str s => exact .str s
  | list each ih => exact .list ih
  | map texts distinct each ih => exact .map texts ih

namespace Configuration

variable {host : Host} {path : List String} {v value default : Value}
  {base changes entries : List (Value × Value)}

theorem isData_find? {key : Value} (isData : IsData (.map entries))
    (found : Mapping.find? key entries = some value) : IsData value := by
  obtain ⟨_, each⟩ := isData_map.mp isData
  obtain ⟨known, member⟩ := Mapping.mem_of_find? found
  exact each _ member

theorem isData_lookup (isData : IsData v) (found : lookup path v = some value) : IsData value := by
  induction path generalizing v with
  | nil =>
      cases found
      exact isData
  | cons name rest ih =>
      obtain ⟨entries, inner, rfl, isInner, below⟩ := lookup_cons_some found
      exact ih (isData_find? isData isInner) below

/-! ## Laying over and expanding -/

/-- Where both are mappings they are merged; otherwise the change takes the place of the value, if there is one. -/
theorem changed_cases (v : Value) (change : Option Value) :
    (∃ base changes, v = .map base ∧ change = some (.map changes) ∧
        changed v change = .map (mergeEntries base changes)) ∨
      changed v change = v ∨ change = some (changed v change) := by
  cases change with
  | none => exact .inr (.inl rfl)
  | some other =>
      cases v with
      | map base =>
          cases other with
          | map changes => exact .inl ⟨base, changes, rfl, rfl, by rw [changed, mergeValue, mergeEntries]⟩
          | _ => exact .inr (.inr (by rw [changed, mergeValue_of_not_mapping (.inr rfl)]))
      | _ => exact .inr (.inr (by rw [changed, mergeValue_of_not_mapping (.inl rfl)]))

/-- Data stay data when each of their values does under the changes laid over them. -/
theorem isData_mergeEntries_of (texts : Mapping.TextKeys base) (changesData : IsData (.map changes))
    (each : ∀ entry ∈ base, IsData (changed entry.2 (Mapping.find? entry.1 changes))) :
    IsData (.map (mergeEntries base changes)) := by
  obtain ⟨changesTexts, changesEach⟩ := isData_map.mp changesData
  refine .map (fun key member => ?_) fun entry member => ?_
  · rw [mergeEntries, Mapping.keys, List.map_append, List.mem_append] at member
    rcases member with isBase | isAdded
    · exact texts key (keys_mergeBase changes base ▸ isBase)
    · obtain ⟨entry, isAddition, rfl⟩ := List.mem_map.mp isAdded
      exact changesTexts entry.1 (List.mem_map_of_mem (List.mem_filter.mp isAddition).1)
  · rw [mergeEntries, mergeBase_eq_map, List.mem_append] at member
    rcases member with isBase | isAdded
    · obtain ⟨entry, among, rfl⟩ := List.mem_map.mp isBase
      exact each entry among
    · exact changesEach entry (List.mem_filter.mp isAdded).1

theorem isData_changed_of (isData : IsData v) {change : Option Value}
    (changeData : ∀ other, change = some other → IsData other)
    (each : ∀ base changes, v = .map base → change = some (.map changes) →
      ∀ entry ∈ base, IsData (changed entry.2 (Mapping.find? entry.1 changes))) :
    IsData (changed v change) := by
  rcases changed_cases v change with ⟨base, changes, rfl, rfl, isMerged⟩ | kept | replaced
  · rw [isMerged]
    exact isData_mergeEntries_of (isData_map.mp isData).1 (changeData _ rfl) (each base changes rfl rfl)
  · rw [kept]
    exact isData
  · exact changeData _ replaced

theorem isData_changed (isData : IsData v) {change : Option Value}
    (changeData : ∀ other, change = some other → IsData other) : IsData (changed v change) := by
  have whole := isData
  induction isData generalizing change with
  | @map base texts each ih =>
      refine isData_changed_of whole changeData fun _ changes isMap isChange entry member => ?_
      cases isMap
      exact ih entry member (fun _ found => isData_find? (changeData _ isChange) found) (each entry member)
  | _ => exact isData_changed_of whole changeData nofun

theorem isData_mergeEntries (baseData : IsData (.map base)) (changesData : IsData (.map changes)) :
    IsData (.map (mergeEntries base changes)) := by
  obtain ⟨texts, each⟩ := isData_map.mp baseData
  exact isData_mergeEntries_of texts changesData fun entry member =>
    isData_changed (each entry member) fun _ found => isData_find? changesData found

theorem expandedItems_eq_map (host : Host) (items : List Value) :
    expandedItems host items = items.map (expanded host) := by
  induction items with
  | nil => rfl
  | cons item rest ih => rw [expandedItems, ih, List.map_cons]

theorem isData_expanded (isData : IsData v) : IsData (expanded host v) := by
  induction isData with
  | str s => exact .str _
  | @list items each ih =>
      rw [expanded, expandedItems_eq_map]
      exact .list (List.forall_mem_map.mpr ih)
  | @map entries texts each ih =>
      rw [expanded, expandedEntries_eq_map]
      refine .map ?_ (List.forall_mem_map.mpr ih)
      rw [Mapping.TextKeys, Mapping.keys, List.map_map]
      exact texts
  | null => exact .null
  | bool b => exact .bool b
  | int n => exact .int n
  | float x => exact .float x

/-! ## Where a value comes from -/

/-- What is no mapping is found in the change, or in the value that it was laid over. -/
theorem lookup_changed {change : Option Value} (found : lookup path (changed v change) = some value)
    (notMapping : value.isMapping = false) :
    lookup path v = some value ∨ ∃ other, change = some other ∧ lookup path other = some value := by
  induction path generalizing v change with
  | nil =>
      rcases changed_cases v change with ⟨base, changes, _, _, isMerged⟩ | kept | replaced
      · rw [isMerged] at found
        cases found
        cases notMapping
      · exact .inl (kept ▸ found)
      · exact .inr ⟨_, replaced, found⟩
  | cons name rest ih =>
      rcases changed_cases v change with ⟨base, changes, rfl, rfl, isMerged⟩ | kept | replaced
      · rw [isMerged, lookup, Mapping.get?, find?_mergeEntries] at found
        obtain ⟨inner, isInner, below⟩ := Option.bind_eq_some_iff.mp found
        have under {entries : List (Value × Value)} {inner : Value}
            (isInner : Mapping.find? (.str name) entries = some inner)
            (below : lookup rest inner = some value) : lookup (name :: rest) (.map entries) = some value :=
          Option.bind_eq_some_iff.mpr ⟨inner, isInner, below⟩
        split at isInner
        · rename_i lower isLower
          cases isInner
          rcases ih below with fromLower | ⟨upper, isUpper, fromUpper⟩
          · exact .inl (under isLower fromLower)
          · exact .inr ⟨_, rfl, under isUpper fromUpper⟩
        · exact .inr ⟨_, rfl, under isInner below⟩
      · exact .inl (kept ▸ found)
      · exact .inr ⟨_, replaced, found⟩

theorem lookup_expanded (host : Host) (path : List String) (v : Value) :
    lookup path (expanded host v) = (lookup path v).map (expanded host) := by
  induction path generalizing v with
  | nil => rfl
  | cons name rest ih =>
      cases v with
      | map entries =>
          rw [expanded, lookup, lookup, Mapping.get?, Mapping.get?, find?_expandedEntries]
          cases Mapping.find? (.str name) entries with
          | none => rfl
          | some inner => exact ih inner
      | _ => rfl

end Configuration

end StyleRules
