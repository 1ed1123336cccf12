import StyleRules.Proofs.Configuration.Merging

/-!
# References to variables in a configuration

All texts of a configuration are expanded after it was laid over the defaults.  The defaults hold no
references, so the changes could as well be expanded before.  Where no variable has a reference for its value,
nothing is left to expand afterwards.
-/

namespace StyleRules.Configuration

variable {host : Host} {base changes entries : List (Value × Value)}

mutual

/-- The value with all references in its texts expanded. -/
def expanded (host : Host) : Value → Value
  | .str s => .str (Transformer.expandVariable host s)
  | .list items => .list (expandedItems host items)
  | .map entries => .map (expandedEntries host entries)
  | other => other

def expandedItems (host : Host) : List Value → List Value
  | [] => []
  | item :: rest => expanded host item :: expandedItems host rest

def expandedEntries (host : Host) : List (Value × Value) → List (Value × Value)
  | [] => []
  | (key, value) :: rest => (key, expanded host value) :: expandedEntries host rest

end

theorem expandedEntries_eq_map (host : Host) (entries : List (Value × Value)) :
    expandedEntries host entries = entries.map fun entry => (entry.1, expanded host entry.2) := by
  induction entries with
  | nil => rfl
  | cons entry rest ih => rw [expandedEntries, ih, List.map_cons]

mutual

theorem transformTexts_variable (host : Host) (v : Value) :
    transformTexts host .variable v = .ok (expanded host v) := by
  cases v with
  | str s => rfl
  | list items => rw [transformTexts, transformItems_variable host items]; rfl
  | map entries => rw [transformTexts, transformEntries_variable host entries]; rfl
  | _ => rfl

theorem transformItems_variable (host : Host) (items : List Value) :
    transformItems host .variable items = .ok (expandedItems host items) := by
  cases items with
  | nil => rfl
  | cons item rest =>
      rw [transformItems, transformTexts_variable host item, transformItems_variable host rest]
      rfl

theorem transformEntries_variable (host : Host) (entries : List (Value × Value)) :
    transformEntries host .variable entries = .ok (expandedEntries host entries) := by
  cases entries with
  | nil => rfl
  | cons entry rest =>
      obtain ⟨key, value⟩ := entry
      rw [transformEntries, transformTexts_variable host value, transformEntries_variable host rest]
      rfl

end

/-! ## Expanding twice -/

/-- No variable has a reference for its value. -/
def PlainVariables (host : Host) : Prop :=
  ∀ name value, host.valueOf? name = some value → Transformer.referenceName? value = none

theorem expandVariable_plain {s : String} (plain : Transformer.referenceName? s = none) :
    Transformer.expandVariable host s = s := by
  rw [Transformer.expandVariable, plain]
  rfl

theorem expandVariable_expandVariable (plain : PlainVariables host) (s : String) :
    Transformer.expandVariable host (Transformer.expandVariable host s) =
      Transformer.expandVariable host s := by
  cases found : (Transformer.referenceName? s).bind host.valueOf? with
  | none => simp only [Transformer.expandVariable, found]
  | some value =>
      obtain ⟨name, _, isValue⟩ := Option.bind_eq_some_iff.mp found
      by_cases isEmpty : value.isEmpty = true
      · simp only [Transformer.expandVariable, found, isEmpty, if_true]
      · have once : Transformer.expandVariable host s = value := by
          simp only [Transformer.expandVariable, found, if_neg isEmpty]
        rw [once, expandVariable_plain (plain name value isValue)]

/-- Expanding does not change the value. -/
def Settled (host : Host) (v : Value) : Prop := expanded host v = v

mutual

theorem settled_expanded (plain : PlainVariables host) (v : Value) : Settled host (expanded host v) := by
  unfold Settled
  cases v with
  | str s => rw [expanded, expanded, expandVariable_expandVariable plain]
  | list items => rw [expanded, expanded, expandedItems_expandedItems plain items]
  | map entries => rw [expanded, expanded, expandedEntries_expandedEntries plain entries]
  | _ => rfl

theorem expandedItems_expandedItems (plain : PlainVariables host) (items : List Value) :
    expandedItems host (expandedItems host items) = expandedItems host items := by
  cases items with
  | nil => rfl
  | cons item rest =>
      rw [expandedItems, expandedItems, settled_expanded plain item, expandedItems_expandedItems plain rest]

theorem expandedEntries_expandedEntries (plain : PlainVariables host) (entries : List (Value × Value)) :
    expandedEntries host (expandedEntries host entries) = expandedEntries host entries := by
  cases entries with
  | nil => rfl
  | cons entry rest =>
      obtain ⟨key, value⟩ := entry
      rw [expandedEntries, expandedEntries, settled_expanded plain value,
        expandedEntries_expandedEntries plain rest]

end

theorem settled_map_iff : Settled host (.map entries) ↔ ∀ entry ∈ entries, Settled host entry.2 := by
  simp only [Settled, expanded, Value.map.injEq]
  induction entries with
  | nil => simp [expandedEntries]
  | cons entry rest ih =>
      obtain ⟨key, value⟩ := entry
      rw [expandedEntries, List.cons_eq_cons, ih, List.forall_mem_cons, Prod.mk.injEq]
      simp only [true_and]

theorem hereditary_settled : Hereditary (Settled host) :=
  ⟨settled_map_iff.mp, fun _ _ each => settled_map_iff.mpr each⟩

/-! ## Expanding what is laid over -/

theorem find?_expandedEntries (key : Value) (entries : List (Value × Value)) :
    Mapping.find? key (expandedEntries host entries) = (Mapping.find? key entries).map (expanded host) := by
  induction entries with
  | nil => rfl
  | cons entry rest ih =>
      obtain ⟨known, value⟩ := entry
      rw [expandedEntries, Mapping.find?, Mapping.find?, ih]
      split <;> rfl

theorem additions_expandedEntries (base changes : List (Value × Value)) :
    additions base (expandedEntries host changes) = expandedEntries host (additions base changes) := by
  simp only [additions, expandedEntries_eq_map, List.filter_map]
  rfl

theorem expandedEntries_mergeEntries
    (each : ∀ entry ∈ base, ∀ change,
      expanded host (changed entry.2 change) = changed entry.2 (change.map (expanded host)))
    (changes : List (Value × Value)) :
    expandedEntries host (mergeEntries base changes) = mergeEntries base (expandedEntries host changes) := by
  rw [mergeEntries, mergeEntries, additions_expandedEntries, expandedEntries_eq_map, List.map_append,
    ← expandedEntries_eq_map host (additions base changes), mergeBase_eq_map, mergeBase_eq_map, List.map_map]
  congr 1
  refine List.map_congr_left fun entry member => ?_
  rw [find?_expandedEntries, ← each entry member]
  rfl

theorem expanded_changed_of_not_mapping {value : Value} (settled : Settled host value)
    (change : Option Value)
    (notBoth : value.isMapping = false ∨ ∀ other, change = some other → other.isMapping = false) :
    expanded host (changed value change) = changed value (change.map (expanded host)) := by
  cases change with
  | none => exact settled
  | some change =>
      have notMapping : (expanded host change).isMapping = change.isMapping := by
        cases change <;> rfl
      have before : value.isMapping = false ∨ change.isMapping = false :=
        notBoth.imp_right fun others => others change rfl
      rw [Option.map_some, changed, changed, mergeValue_of_not_mapping before,
        mergeValue_of_not_mapping (before.imp_right notMapping.trans)]

/-- A change may as well be expanded before it is laid over a settled value. -/
theorem expanded_changed {value : Value} (isJson : IsJson value) (settled : Settled host value)
    (change : Option Value) :
    expanded host (changed value change) = changed value (change.map (expanded host)) := by
  induction isJson generalizing change with
  | null | bool | int | str | list => exact expanded_changed_of_not_mapping settled change (.inl rfl)
  | @map base texts distinct each ih =>
      by_cases isMap : ∃ changes, change = some (.map changes)
      · obtain ⟨changes, rfl⟩ := isMap
        have entries := expandedEntries_mergeEntries
          (fun entry member => ih entry member (settled_map_iff.mp settled entry member)) changes
        rw [mergeEntries, mergeEntries] at entries
        rw [Option.map_some, changed, changed, expanded, mergeValue, mergeValue, expanded, entries]
      · refine expanded_changed_of_not_mapping settled change (.inr fun other isChange => ?_)
        cases other with
        | map changes => exact absurd ⟨changes, isChange⟩ isMap
        | _ => rfl

end StyleRules.Configuration
