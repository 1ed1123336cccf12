import StyleRules.Proofs.Configuration.Layering

/-!
# Merging three mappings

Three mappings give the same entries in the same order, whichever two of them are merged first, unless the middle
one holds something else where the outer ones have mappings: then the mapping of the last one either replaces that
of the first one or is laid over it.
-/

namespace StyleRules.Configuration

variable {a b c : List (Value × Value)} {base change v : Value} {merged : List (Value × Value)} {path : List String}

/-- Wherever both outer values hold mappings, the middle one holds a mapping or nothing. -/
def Uninterrupted (first middle last : Value) : Prop :=
  ∀ path lower between upper, lookup path first = some (.map lower) → lookup path middle = some between →
    lookup path last = some (.map upper) → between.isMapping = true

theorem uninterrupted_maps (each : ∀ name lower between upper, Mapping.find? (.str name) a = some lower →
    Mapping.find? (.str name) b = some between → Mapping.find? (.str name) c = some upper →
      Uninterrupted lower between upper) : Uninterrupted (.map a) (.map b) (.map c) := by
  intro path lower between upper isLower isBetween isUpper
  cases path with
  | nil =>
      cases isBetween
      rfl
  | cons name rest =>
      rw [lookup_cons] at isLower isBetween isUpper
      obtain ⟨first, isFirst, isLower⟩ := Option.bind_eq_some_iff.mp isLower
      obtain ⟨middle, isMiddle, isBetween⟩ := Option.bind_eq_some_iff.mp isBetween
      obtain ⟨last, isLast, isUpper⟩ := Option.bind_eq_some_iff.mp isUpper
      exact each name first middle last isFirst isMiddle isLast rest lower between upper isLower isBetween isUpper

/-! ## What a merged value holds -/

/-- A change that is no mapping is found in the merged value. -/
theorem lookup_mergeValue_change (isChange : lookup path change = some v) (notMapping : v.isMapping = false)
    (base : Value) : lookup path (mergeValue base change) = some v := by
  induction path generalizing base change with
  | nil =>
      cases isChange
      rw [mergeValue_of_not_mapping (.inr notMapping)]
      rfl
  | cons name rest ih =>
      cases base with
      | map entries =>
          cases change with
          | map changes =>
              rw [lookup_cons] at isChange
              obtain ⟨upper, isUpper, below⟩ := Option.bind_eq_some_iff.mp isChange
              rw [mergeValue, ← mergeEntries, lookup_cons, find?_mergeEntries, isUpper]
              cases Mapping.find? (.str name) entries with
              | none => exact below
              | some lower => exact ih below lower
          | _ => cases isChange
      | _ =>
          rw [mergeValue_of_not_mapping (.inl rfl)]
          exact isChange

/-- Where something else than a mapping stood before, only the change can have put a mapping. -/
theorem lookup_change_of_mergeValue (isBase : lookup path base = some v) (notMapping : v.isMapping = false)
    (isMerged : lookup path (mergeValue base change) = some (.map merged)) :
    lookup path change = some (.map merged) := by
  induction path generalizing base change with
  | nil =>
      cases isBase
      rwa [mergeValue_of_not_mapping (.inl notMapping)] at isMerged
  | cons name rest ih =>
      cases base with
      | map entries =>
          cases change with
          | map changes =>
              rw [lookup_cons] at isBase ⊢
              obtain ⟨lower, isLower, below⟩ := Option.bind_eq_some_iff.mp isBase
              rw [mergeValue, ← mergeEntries, lookup_cons, find?_mergeEntries, isLower] at isMerged
              cases isUpper : Mapping.find? (.str name) changes with
              | none =>
                  rw [isUpper] at isMerged
                  cases below.symm.trans isMerged
                  cases notMapping
              | some upper =>
                  rw [isUpper] at isMerged
                  exact ih below isMerged
          | _ => cases isMerged
      | _ => cases isBase

/-- Then two values may be laid over the first one, alone or together. -/
theorem Uninterrupted.aligned (uninterrupted : Uninterrupted base v change) : Aligned base [v, change] := by
  intro path inner merged isInner isMerged interrupted
  exfalso
  have isMerged : lookup path (mergeValue v change) = some (.map merged) := isMerged
  obtain ⟨layer, member, other, isOther, notMapping⟩ := interrupted
  rcases List.mem_pair.mp member with rfl | rfl
  · have isUpper := lookup_change_of_mergeValue isOther notMapping isMerged
    rw [uninterrupted path inner other merged isInner isOther isUpper] at notMapping
    cases notMapping
  · rw [lookup_mergeValue_change isOther notMapping v] at isMerged
    cases isMerged
    cases notMapping

/-! ## Laws of merging -/

theorem mergeEntries_assoc (textKeyed : TextKeyed (.map a))
    (uninterrupted : Uninterrupted (.map a) (.map b) (.map c)) :
    mergeEntries (mergeEntries a b) c = mergeEntries a (mergeEntries b c) := by
  have same := stacked_of_aligned textKeyed uninterrupted.aligned
  exact Value.map.inj same

theorem mergeValue_self (textKeyed : TextKeyed v) : mergeValue v v = v := by
  induction textKeyed with
  | leaf notMapping => exact mergeValue_of_not_mapping (.inl notMapping)
  | @map entries texts distinct _ ih =>
      have known : additions entries entries = [] := by
        refine List.filter_eq_nil_iff.mpr fun entry member => ?_
        simp [has_of_mem_keys texts (List.mem_map_of_mem member)]
      have same : ∀ entry ∈ entries, (entry.1, changed entry.2 (Mapping.find? entry.1 entries)) = entry := by
        intro entry member
        rw [Mapping.find?_of_mem texts distinct member, changed, ih entry member]
      rw [mergeValue, known, List.append_nil, mergeBase_eq_map, List.map_congr_left same, List.map_id']

/-- Merging three mappings gives the same whichever two of them are merged first, unless the middle one holds
something else where the outer ones have mappings.  Merging with the empty mapping and with itself changes nothing. -/
theorem merge_laws (textKeyed : TextKeyed (.map a)) :
    (∀ b c, Uninterrupted (.map a) (.map b) (.map c) →
      ∃ result, (do merge (← merge (.map a) (.map b)) (.map c)) = .ok (.map result) ∧
        (do merge (.map a) (← merge (.map b) (.map c))) = .ok (.map result)) ∧
      merge (.map []) (.map a) = .ok (.map a) ∧ merge (.map a) (.map []) = .ok (.map a) ∧
        merge (.map a) (.map a) = .ok (.map a) := by
  refine ⟨fun b c uninterrupted => ⟨mergeEntries (mergeEntries a b) c, rfl, ?_⟩, ?_, ?_, ?_⟩
  · rw [mergeEntries_assoc textKeyed uninterrupted]
    rfl
  · rw [merge, nil_mergeEntries]
  · rw [merge, mergeEntries_nil]
  · exact congrArg Except.ok (mergeValue_self textKeyed)

def lowerLayer : List (Value × Value) := [(.str "a", .ofFields [("x", .int 1), ("y", .int 2)]), (.str "b", .null)]

def middleLayer : List (Value × Value) := [(.str "a", .ofFields [("z", .int 3)]), (.str "c", .int 4)]

def upperLayer : List (Value × Value) := [(.str "c", .int 5), (.str "a", .ofFields [("x", .int 6)])]

theorem merge_laws_layers :
    TextKeyed (.map lowerLayer) ∧ Uninterrupted (.map lowerLayer) (.map middleLayer) (.map upperLayer) ∧
      (do merge (.map lowerLayer) (← merge (.map middleLayer) (.map upperLayer))) =
        .ok (.ofFields [("a", .ofFields [("x", .int 6), ("y", .int 2), ("z", .int 3)]), ("b", .null),
          ("c", .int 5)]) := by
  have textKeyed : TextKeyed (.map lowerLayer) := by
    apply textKeyed_of_isJson
    simp [lowerLayer, Value.ofFields, isJson_map, Mapping.TextKeys, Mapping.keys]
  have uninterrupted : Uninterrupted (.map lowerLayer) (.map middleLayer) (.map upperLayer) := by
    apply uninterrupted_maps
    intro name lower between upper isLower isBetween isUpper
    have known := Mapping.mem_of_find?_str isLower
    have again := Mapping.mem_of_find?_str isBetween
    have last := Mapping.mem_of_find?_str isUpper
    simp only [lowerLayer, middleLayer, upperLayer, List.mem_cons, List.not_mem_nil, or_false, Prod.mk.injEq,
      Value.str.injEq] at known again last
    -- the mappings share one key only, and the mappings under it share none
    rcases known with ⟨rfl, rfl⟩ | ⟨rfl, rfl⟩
    · obtain rfl : between = .ofFields [("z", .int 3)] := by simpa using again
      obtain rfl : upper = .ofFields [("x", .int 6)] := by simpa using last
      apply uninterrupted_maps
      intro name lower between upper isLower isBetween _
      have known := Mapping.mem_of_find?_str isLower
      have again := Mapping.mem_of_find?_str isBetween
      simp only [List.map_cons, List.map_nil, List.mem_cons, List.not_mem_nil, or_false, Prod.mk.injEq,
        Value.str.injEq] at known again
      rcases known with ⟨rfl, _⟩ | ⟨rfl, _⟩ <;> simp at again
    · simp at again
  refine ⟨textKeyed, uninterrupted, ?_⟩
  obtain ⟨result, left, right⟩ := (merge_laws textKeyed).1 middleLayer upperLayer uninterrupted
  rw [right, ← left]
  rfl

-- Where the middle mapping holds something else, the lower one is either lost or comes back.
example (lower upper : List (Value × Value)) :
    mergeEntries (mergeEntries [(.str "a", .map lower)] [(.str "a", .null)]) [(.str "a", .map upper)] =
        [(.str "a", .map upper)] ∧
      mergeEntries [(.str "a", .map lower)] (mergeEntries [(.str "a", .null)] [(.str "a", .map upper)]) =
        [(.str "a", .map (mergeEntries lower upper))] :=
  ⟨rfl, rfl⟩

end StyleRules.Configuration
