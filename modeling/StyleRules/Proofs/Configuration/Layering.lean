import Mathlib.Data.List.Induction
import StyleRules.Proofs.Configuration.Exporting

/-!
# Sources in order

The sources of a configuration are laid over each other, and what they give together is laid over the defaults.
Laying them over the defaults one after the other gives the same, except where a source holds something else
than the mapping of the defaults and a later source holds a mapping again: there the defaults come back.
-/

namespace StyleRules.Configuration

variable {host : Host} {base : List (Value × Value)} {value : Value} {layers : List Value}

/-! ## Layers at one place -/

/-- A value with layers laid over it, one after the other. -/
def stacked (value : Value) (layers : List Value) : Value := layers.foldl mergeValue value

/-- Layers laid over each other. -/
def joined : List Value → Option Value
  | [] => none
  | first :: rest => some (stacked first rest)

theorem stacked_cons (value first : Value) (rest : List Value) :
    stacked value (first :: rest) = stacked (mergeValue value first) rest :=
  rfl

theorem stacked_append (value : Value) (layers : List Value) (last : Value) :
    stacked value (layers ++ [last]) = mergeValue (stacked value layers) last := by
  rw [stacked, List.foldl_append]
  rfl

theorem joined_append (layers : List Value) (last : Value) :
    joined (layers ++ [last]) = some (((joined layers).map (mergeValue · last)).getD last) := by
  cases layers with
  | nil => rfl
  | cons first rest => exact congrArg some (stacked_append first rest last)

theorem stacked_of_not_mapping (notMapping : value.isMapping = false) (layers : List Value) :
    stacked value layers = changed value (joined layers) := by
  cases layers with
  | nil => rfl
  | cons first rest =>
      rw [joined, changed, mergeValue_of_not_mapping (.inl notMapping), stacked_cons,
        mergeValue_of_not_mapping (.inl notMapping)]

/-- Whatever is below a layer that is no mapping does not matter. -/
theorem exists_top (interrupted : ∃ layer ∈ layers, layer.isMapping = false) :
    ∃ top, (∀ value, stacked value layers = top) ∧ joined layers = some top := by
  induction layers with
  | nil => simp at interrupted
  | cons first rest ih =>
      by_cases later : ∃ layer ∈ rest, layer.isMapping = false
      · obtain ⟨top, isTop, _⟩ := ih later
        exact ⟨top, fun value => isTop _, congrArg some (isTop first)⟩
      · have notMapping : first.isMapping = false := by
          obtain ⟨layer, member, notMapping⟩ := interrupted
          rcases List.mem_cons.mp member with rfl | member
          · exact notMapping
          · exact absurd ⟨layer, member, notMapping⟩ later
        refine ⟨stacked first rest, fun value => ?_, rfl⟩
        rw [stacked_cons, mergeValue_of_not_mapping (.inr notMapping)]

theorem exists_mappings (mappings : ¬∃ layer ∈ layers, layer.isMapping = false) :
    ∃ sources : List (List (Value × Value)), layers = sources.map .map := by
  induction layers with
  | nil => exact ⟨[], rfl⟩
  | cons first rest ih =>
      obtain ⟨sources, rfl⟩ := ih fun ⟨layer, member, notMapping⟩ =>
        mappings ⟨layer, List.mem_cons_of_mem _ member, notMapping⟩
      cases first with
      | map entries => exact ⟨entries :: sources, rfl⟩
      | _ => exact absurd ⟨_, List.mem_cons_self, rfl⟩ mappings

/-! ## Layers that are mappings -/

section Mappings

variable {sources : List (List (Value × Value))}

/-- What layers hold under a key. -/
def layersAt (key : Value) (sources : List (List (Value × Value))) : List Value :=
  sources.filterMap (Mapping.find? key)

/-- The entries of layers that are laid over each other. -/
def together (sources : List (List (Value × Value))) : List (Value × Value) :=
  sources.foldl mergeEntries []

theorem layersAt_append (key : Value) (sources : List (List (Value × Value))) (last : List (Value × Value)) :
    layersAt key (sources ++ [last]) = layersAt key sources ++ (Mapping.find? key last).toList := by
  rw [layersAt, List.filterMap_append]
  cases found : Mapping.find? key last <;> simp [layersAt, found]

theorem together_append (sources : List (List (Value × Value))) (last : List (Value × Value)) :
    together (sources ++ [last]) = mergeEntries (together sources) last := by
  rw [together, List.foldl_append]
  rfl

theorem find?_together (text : String) (sources : List (List (Value × Value))) :
    Mapping.find? (.str text) (together sources) = joined (layersAt (.str text) sources) := by
  induction sources using List.reverseRecOn with
  | nil => rfl
  | append_singleton sources last ih =>
      rw [together_append, find?_mergeEntries, ih, layersAt_append]
      cases Mapping.find? (.str text) last with
      | none =>
          rw [Option.toList_none, List.append_nil]
          cases joined (layersAt (.str text) sources) <;> rfl
      | some value =>
          rw [Option.toList_some, joined_append]
          cases joined (layersAt (.str text) sources) <;> rfl

theorem find?_together_of_mem (texts : Mapping.TextKeys base) {entry : Value × Value} (member : entry ∈ base) :
    Mapping.find? entry.1 (together sources) = joined (layersAt entry.1 sources) := by
  obtain ⟨name, isName⟩ := texts entry.1 (List.mem_map_of_mem member)
  rw [isName, find?_together]

theorem has_append (key : Value) (xs ys : List (Value × Value)) :
    Mapping.has key (xs ++ ys) = (Mapping.has key xs || Mapping.has key ys) := by
  simp only [Mapping.has_eq_any, Mapping.keys, List.map_append, List.any_append]

/-- A key that the lower mapping does not have is among the additions if it is among the changes. -/
theorem has_additions (texts : Mapping.TextKeys base) {key : Value} (unknown : Mapping.has key base = false)
    (changes : List (Value × Value)) : Mapping.has key (additions base changes) = Mapping.has key changes := by
  simp only [Mapping.has_eq_any, Mapping.keys, List.any_map]
  rw [additions, List.any_filter]
  congr 1
  funext entry
  by_cases same : entry.1.eq key = true
  · have notBelow : Mapping.has entry.1 base = false := by
      by_contra isBelow
      rw [Bool.not_eq_false, Mapping.has_eq_any, List.any_eq_true] at isBelow
      obtain ⟨known, member, isKnown⟩ := isBelow
      obtain ⟨text, rfl⟩ := texts known member
      rw [Value.str_eq_iff.mp isKnown] at same
      have isKey : Mapping.has key base = true := by
        rw [Mapping.has_eq_any, List.any_eq_true]
        exact ⟨.str text, member, same⟩
      rw [unknown] at isKey
      cases isKey
    simp [same, notBelow]
  · simp [same]

theorem mergeBase_append (changes xs ys : List (Value × Value)) :
    mergeBase changes (xs ++ ys) = mergeBase changes xs ++ mergeBase changes ys := by
  simp only [mergeBase_eq_map, List.map_append]

theorem additions_of_mergeEntries (base entries changes : List (Value × Value)) :
    additions base (mergeEntries entries changes) =
      mergeBase changes (additions base entries) ++ additions base (additions entries changes) := by
  rw [mergeEntries, additions, List.filter_append, mergeBase_eq_map, mergeBase_eq_map, List.filter_map]
  rfl

/-- What is added to a mapping with its additions is what is added to either of them. -/
theorem additions_append {xs : List (Value × Value)} (texts : Mapping.TextKeys base)
    (sameKeys : Mapping.keys xs = Mapping.keys base) (entries changes : List (Value × Value)) :
    additions (xs ++ additions base entries) changes = additions base (additions entries changes) := by
  simp only [additions, List.filter_filter]
  refine List.filter_congr fun entry _ => ?_
  have isBase : Mapping.has entry.1 xs = Mapping.has entry.1 base := by
    rw [Mapping.has_eq_any, Mapping.has_eq_any, sameKeys]
  rw [has_append, isBase]
  cases unknown : Mapping.has entry.1 base with
  | true => rfl
  | false => exact congrArg _ (has_additions texts unknown entries)

/-- Laying mappings over a mapping one after the other: under each of its keys stands what is laid over its
value, and behind them stands what the layers have besides. -/
theorem foldl_mergeEntries (texts : Mapping.TextKeys base) (sources : List (List (Value × Value))) :
    sources.foldl mergeEntries base =
      base.map (fun entry => (entry.1, stacked entry.2 (layersAt entry.1 sources))) ++
        additions base (together sources) := by
  induction sources using List.reverseRecOn with
  | nil => simp [stacked, layersAt, together, additions]
  | append_singleton sources last ih =>
      have sameKeys : Mapping.keys (base.map fun entry =>
          (entry.1, stacked entry.2 (layersAt entry.1 sources))) = Mapping.keys base := by
        simp [Mapping.keys]
      have laidOver : mergeBase last (base.map fun entry =>
            (entry.1, stacked entry.2 (layersAt entry.1 sources))) =
          base.map fun entry => (entry.1, stacked entry.2 (layersAt entry.1 (sources ++ [last]))) := by
        rw [mergeBase_eq_map, List.map_map]
        refine List.map_congr_left fun entry _ => ?_
        rw [layersAt_append, Function.comp_apply]
        cases Mapping.find? entry.1 last with
        | none => rw [Option.toList_none, List.append_nil, changed]
        | some value => rw [Option.toList_some, stacked_append, changed]
      rw [List.foldl_append, ih, together_append, additions_of_mergeEntries,
        ← additions_append texts sameKeys, ← List.append_assoc, ← laidOver, ← mergeBase_append]
      rfl

theorem stacked_maps (base : List (Value × Value)) (sources : List (List (Value × Value))) :
    stacked (.map base) (sources.map .map) = .map (sources.foldl mergeEntries base) := by
  induction sources generalizing base with
  | nil => rfl
  | cons first rest ih =>
      rw [List.map_cons, stacked_cons, mergeValue, List.foldl_cons]
      exact ih _

theorem joined_maps (sources : List (List (Value × Value))) :
    joined (sources.map .map) = if sources = [] then none else some (.map (together sources)) := by
  cases sources with
  | nil => rfl
  | cons first rest =>
      rw [if_neg (List.cons_ne_nil _ _), together, List.foldl_cons, nil_mergeEntries, ← stacked_maps]
      rfl

theorem changed_joined_maps (base : List (Value × Value)) (sources : List (List (Value × Value))) :
    changed (.map base) (joined (sources.map .map)) = .map (mergeEntries base (together sources)) := by
  rw [joined_maps]
  split
  · rename_i noSources
    rw [noSources, together, List.foldl_nil, mergeEntries_nil, changed]
  · rw [changed, mergeValue, mergeEntries]

end Mappings

/-! ## Where the order does not matter -/

/-- Wherever the defaults have a mapping and a layer holds something else, the mapping that the layers hold
there together is not changed by being laid over that of the defaults. -/
def Aligned (default : Value) (layers : List Value) : Prop :=
  ∀ path inner merged, lookup path default = some (.map inner) →
    (joined layers).bind (lookup path) = some (.map merged) →
    (∃ layer ∈ layers, ∃ value, lookup path layer = some value ∧ value.isMapping = false) →
    mergeEntries inner merged = merged

theorem eq_of_lookup {path : List String} {found : Value} (notMapping : value.isMapping = false)
    (isFound : lookup path value = some found) : value = found := by
  cases path with
  | nil => exact Option.some.inj isFound
  | cons name rest => cases value <;> first | cases isFound | cases notMapping

theorem lookup_cons (name : String) (path : List String) (entries : List (Value × Value)) :
    lookup (name :: path) (.map entries) = (Mapping.find? (.str name) entries).bind (lookup path) :=
  rfl

theorem aligned_of_not_mapping (notMapping : value.isMapping = false) (layers : List Value) :
    Aligned value layers := by
  intro path inner merged isInner
  rw [eq_of_lookup notMapping isInner] at notMapping
  cases notMapping

/-- What does not change all entries does not change those of a mapping among them. -/
theorem mergeEntries_below {merged inner deeper : List (Value × Value)} {path : List String}
    (same : mergeEntries base merged = merged) (isInner : lookup path (.map base) = some (.map inner))
    (isDeeper : lookup path (.map merged) = some (.map deeper)) : mergeEntries inner deeper = deeper := by
  induction path generalizing base merged with
  | nil =>
      cases isInner
      cases isDeeper
      exact same
  | cons name rest ih =>
      rw [lookup_cons] at isInner isDeeper
      obtain ⟨below, isBelow, isInner⟩ := Option.bind_eq_some_iff.mp isInner
      obtain ⟨above, isAbove, isDeeper⟩ := Option.bind_eq_some_iff.mp isDeeper
      have kept : some above = some (mergeValue below above) := by
        have found := find?_mergeEntries base merged name
        rwa [same, isBelow, isAbove] at found
      cases below with
      | map entries =>
          cases above with
          | map others =>
              rw [mergeValue] at kept
              exact ih (Value.map.inj (Option.some.inj kept)).symm isInner isDeeper
          | _ => cases eq_of_lookup rfl isDeeper
      | _ => cases eq_of_lookup rfl isInner

theorem lookup_joined_maps (name : String) (path : List String) (sources : List (List (Value × Value))) :
    (joined (sources.map .map)).bind (lookup (name :: path)) =
      (joined (layersAt (.str name) sources)).bind (lookup path) := by
  rw [joined_maps, ← find?_together]
  split
  · rename_i noSources
    rw [noSources]
    rfl
  · rfl

theorem aligned_maps_iff (texts : Mapping.TextKeys base) (distinct : (Mapping.keys base).Nodup)
    (sources : List (List (Value × Value))) :
    Aligned (.map base) (sources.map .map) ↔
      ∀ entry ∈ base, Aligned entry.2 (layersAt entry.1 sources) := by
  constructor
  · intro aligned entry member path inner merged isInner isMerged interrupted
    obtain ⟨key, default⟩ := entry
    obtain ⟨name, isName⟩ := texts key (List.mem_map_of_mem member)
    have isName : key = .str name := isName
    subst isName
    refine aligned (name :: path) inner merged ?_ ?_ ?_
    · rw [lookup_cons, Mapping.find?_of_mem texts distinct member]
      exact isInner
    · rw [lookup_joined_maps]
      exact isMerged
    · obtain ⟨layer, isLayer, other, isOther, notMapping⟩ := interrupted
      obtain ⟨source, isSource, found⟩ := List.mem_filterMap.mp isLayer
      refine ⟨.map source, List.mem_map_of_mem isSource, other, ?_, notMapping⟩
      rw [lookup_cons, found]
      exact isOther
  · intro each path inner merged isInner isMerged interrupted
    obtain ⟨layer, isLayer, other, isOther, notMapping⟩ := interrupted
    obtain ⟨source, isSource, rfl⟩ := List.mem_map.mp isLayer
    cases path with
    | nil =>
        cases isOther
        cases notMapping
    | cons name rest =>
        rw [lookup_cons] at isInner isOther
        rw [lookup_joined_maps] at isMerged
        obtain ⟨default, isDefault, isInner⟩ := Option.bind_eq_some_iff.mp isInner
        obtain ⟨value, found, isOther⟩ := Option.bind_eq_some_iff.mp isOther
        exact each _ (Mapping.mem_of_find?_str isDefault) rest inner merged isInner isMerged
          ⟨value, List.mem_filterMap.mpr ⟨source, isSource, found⟩, other, isOther, notMapping⟩

/-- Aligned layers may be laid over a value one after the other. -/
theorem stacked_of_aligned (textKeyed : TextKeyed value) (aligned : Aligned value layers) :
    stacked value layers = changed value (joined layers) := by
  induction textKeyed generalizing layers with
  | leaf notMapping => exact stacked_of_not_mapping notMapping layers
  | @map base texts distinct each ih =>
      by_cases interrupted : ∃ layer ∈ layers, layer.isMapping = false
      · obtain ⟨top, isStacked, isJoined⟩ := exists_top interrupted
        rw [isStacked, isJoined, changed]
        cases top with
        | map merged =>
            obtain ⟨layer, member, notMapping⟩ := interrupted
            have same := aligned [] base merged rfl (by rw [isJoined]; rfl) ⟨layer, member, layer, rfl, notMapping⟩
            rw [mergeValue, ← mergeEntries, same]
        | _ => exact (mergeValue_of_not_mapping (.inr rfl)).symm
      · obtain ⟨sources, rfl⟩ := exists_mappings interrupted
        rw [aligned_maps_iff texts distinct] at aligned
        rw [stacked_maps, changed_joined_maps, foldl_mergeEntries texts, mergeEntries, mergeBase_eq_map]
        congr 2
        refine List.map_congr_left fun entry member => ?_
        rw [ih entry member (aligned entry member), find?_together_of_mem texts member]

section Expanding

variable {first second : List (Value × Value)}

theorem mergeBase_of_expanded (texts : Mapping.TextKeys base) (distinct : (Mapping.keys base).Nodup)
    (each : ∀ entry ∈ base, ∀ change, expanded host (mergeValue entry.2 change) = expanded host change →
      mergeValue entry.2 change = change)
    (sameKeys : Mapping.keys first = Mapping.keys base)
    (same : expandedEntries host (mergeBase (first ++ second) base) = expandedEntries host first) :
    mergeBase (first ++ second) base = first := by
  rw [mergeBase_eq_map] at same ⊢
  rw [expandedEntries_eq_map, expandedEntries_eq_map, ← List.forall₂_eq_eq_eq, List.forall₂_map_left_iff,
    List.forall₂_map_left_iff, List.forall₂_map_right_iff] at same
  rw [← List.forall₂_eq_eq_eq, List.forall₂_map_left_iff]
  refine List.forall₂_iff_zip.mpr ⟨same.length_eq, fun {entry other} member => ?_⟩
  obtain ⟨isEntry, isOther⟩ := List.of_mem_zip member
  obtain ⟨sameKey, sameValue⟩ := Prod.mk.inj ((List.forall₂_iff_zip.mp same).2 member)
  have found : Mapping.find? entry.1 (first ++ second) = some other.2 := by
    have isFirst : Mapping.find? other.1 first = some other.2 := by
      refine Mapping.find?_of_mem ?_ (sameKeys ▸ distinct) isOther
      rwa [Mapping.TextKeys, sameKeys]
    obtain ⟨name, isName⟩ := texts entry.1 (List.mem_map_of_mem isEntry)
    have isKey : other.1 = .str name := sameKey.symm.trans isName
    rw [isKey] at isFirst
    rw [isName, Mapping.find?_append, isFirst, Option.some_or]
  rw [found, changed] at sameValue ⊢
  exact Prod.ext sameKey (each entry isEntry other.2 sameValue)

theorem mergeEntries_of_expanded {entries : List (Value × Value)} (texts : Mapping.TextKeys base)
    (distinct : (Mapping.keys base).Nodup)
    (each : ∀ entry ∈ base, ∀ change, expanded host (mergeValue entry.2 change) = expanded host change →
      mergeValue entry.2 change = change)
    (same : expandedEntries host (mergeEntries base entries) = expandedEntries host entries) :
    mergeEntries base entries = entries := by
  rw [mergeEntries, expandedEntries_eq_map, expandedEntries_eq_map, List.map_append] at same
  obtain ⟨first, second, rfl, isFirst, isSecond⟩ := List.map_eq_append_iff.mp same.symm
  -- The entries begin with the keys of the lower mapping, and go on with the additions to it.
  have sameKeys : Mapping.keys first = Mapping.keys base := by
    have keys := congrArg (List.map Prod.fst) isFirst
    rw [List.map_map, List.map_map] at keys
    exact keys.trans (keys_mergeBase _ base)
  rw [← expandedEntries_eq_map, ← expandedEntries_eq_map] at isFirst
  have noneFirst : additions base first = [] := by
    refine List.filter_eq_nil_iff.mpr fun entry member => ?_
    have isKey : entry.1 ∈ Mapping.keys base := by
      rw [← sameKeys]
      exact List.mem_map_of_mem member
    simp [has_of_mem_keys texts isKey]
  have isRest : additions base (first ++ second) = additions base second := by
    rw [additions, List.filter_append]
    exact congrArg (· ++ _) noneFirst
  have allSecond : additions base second = second := by
    have sameLength := congrArg List.length isSecond
    rw [isRest, List.length_map, List.length_map] at sameLength
    exact List.filter_sublist.eq_of_length sameLength.symm
  rw [mergeEntries, mergeBase_of_expanded texts distinct each sameKeys isFirst.symm, isRest, allSecond]

/-- A change that is not changed by being laid over a value once texts are expanded is not changed before. -/
theorem mergeValue_of_expanded (isJson : IsJson value) {change : Value}
    (same : expanded host (mergeValue value change) = expanded host change) :
    mergeValue value change = change := by
  induction isJson generalizing change with
  | null | bool | int | str | list => exact mergeValue_of_not_mapping (.inl rfl)
  | @map base texts distinct each ih =>
      cases change with
      | map entries =>
          rw [mergeValue, ← mergeEntries] at same ⊢
          exact congrArg Value.map (mergeEntries_of_expanded texts distinct (fun entry member _ => ih entry member)
            (Value.map.inj same))
      | _ => exact mergeValue_of_not_mapping (.inr rfl)

/-- Layers are aligned if laying them over a value one after the other gives the same up to references. -/
theorem aligned_of_expanded (isJson : IsJson value)
    (same : expanded host (stacked value layers) = expanded host (changed value (joined layers))) :
    Aligned value layers := by
  induction isJson generalizing layers with
  | null | bool | int | str | list => exact aligned_of_not_mapping rfl layers
  | @map base texts distinct each ih =>
      by_cases interrupted : ∃ layer ∈ layers, layer.isMapping = false
      · obtain ⟨top, isStacked, isJoined⟩ := exists_top interrupted
        rw [isStacked, isJoined, changed] at same
        intro path inner merged isInner isMerged _
        rw [isJoined, Option.bind_some] at isMerged
        have kept := mergeValue_of_expanded (.map texts distinct each) same.symm
        cases top with
        | map entries =>
            rw [mergeValue, ← mergeEntries] at kept
            exact mergeEntries_below (Value.map.inj kept) isInner isMerged
        | _ => cases eq_of_lookup rfl isMerged
      · obtain ⟨sources, rfl⟩ := exists_mappings interrupted
        rw [aligned_maps_iff texts distinct]
        rw [stacked_maps, changed_joined_maps, foldl_mergeEntries texts, mergeEntries, mergeBase_eq_map,
          expanded, expanded, Value.map.injEq, expandedEntries_eq_map, expandedEntries_eq_map, List.map_append,
          List.map_append, List.append_cancel_right_eq, List.map_map, List.map_map, List.map_inj_left] at same
        intro entry member
        refine ih entry member ?_
        rw [← find?_together_of_mem texts member]
        exact (Prod.mk.inj (same entry member)).2

end Expanding

/-! ## Configurations -/

theorem create_entries {before : Host} {sources : ConfigurationSources} {c : Configuration}
    {yaml json config : List (Value × Value)} (isCreated : create before sources = .ok (host, c))
    (isYaml : c.yamlSource = .map yaml) (isJson : c.jsonSource = .map json)
    (isConfig : sources.config.orElse (.map []) = .map config) :
    c.entries = expandedEntries host
      (mergeEntries defaults (mergeEntries (mergeEntries yaml json) config)) := by
  obtain ⟨later, _, isCreated⟩ := Outcome.bind_ok isCreated
  obtain ⟨yamlSource, _, isCreated⟩ := Outcome.bind_ok isCreated
  obtain ⟨jsonSource, _, isCreated⟩ := Outcome.bind_ok isCreated
  dsimp only at isCreated
  rw [isConfig] at isCreated
  split at isCreated
  · obtain ⟨merged, isMerged, isCreated⟩ := Outcome.bind_ok isCreated
    generalize isLoaded : (load later merged .null).perform _ = performed at isCreated
    obtain ⟨outcome, loaded⟩ := performed
    cases outcome with
    | error reason => cases isCreated
    | ok _ =>
        cases isCreated
        obtain ⟨entries, prepared, rfl, _⟩ := load_ok isLoaded
        cases isYaml
        cases isJson
        -- The first source is laid over an empty mapping.
        have isTogether : merged = .map (mergeEntries (mergeEntries (mergeEntries [] yaml) json) config) :=
          (Except.ok.inj isMerged).symm
        rw [isTogether, nil_mergeEntries] at prepared
        have expands : ({ initial sources.validates.truthy sources.schema with
          yamlSource := .map yaml, jsonSource := .map json } : Configuration).Expands := rfl
        exact (Except.ok.inj ((layOverDefaults_map expands _).symm.trans prepared)).symm
  · rename_i noSource
    cases isCreated
    cases isYaml
    cases isJson
    simp only [List.any_cons, List.any_nil, Bool.or_false, Bool.or_eq_true, not_or] at noSource
    obtain ⟨noYaml, noJson, noConfig⟩ := noSource
    have empty {entries : List (Value × Value)} (falsy : ¬(Value.map entries).truthy = true) : entries = [] := by
      simpa [Value.truthy] using falsy
    rw [empty noYaml, empty noJson, empty noConfig, mergeEntries_nil, mergeEntries_nil, mergeEntries_nil]
    exact (Value.map.inj (settled_defaults _)).symm

/-- A configuration holds the defaults with what its sources give together laid over them, all texts expanded.
Laying the sources over the defaults in their order gives the same entries in the same order exactly if they are
aligned: wherever the defaults have a mapping and a source holds something else, the mapping that the sources
give there together is not changed by being laid over that of the defaults. -/
theorem layers_in_order_iff {before : Host} {sources : ConfigurationSources} {c : Configuration}
    {yaml json config : List (Value × Value)} (isCreated : create before sources = .ok (host, c))
    (isYaml : c.yamlSource = .map yaml) (isJson : c.jsonSource = .map json)
    (isConfig : sources.config.orElse (.map []) = .map config) :
    c.entries = expandedEntries host
        (mergeEntries defaults (mergeEntries (mergeEntries yaml json) config)) ∧
      (c.entries = expandedEntries host
          (mergeEntries (mergeEntries (mergeEntries defaults yaml) json) config) ↔
        Aligned (.map defaults) [.map yaml, .map json, .map config]) := by
  have isEntries := create_entries isCreated isYaml isJson isConfig
  have inOrder : stacked (.map defaults) [.map yaml, .map json, .map config] =
      .map (mergeEntries (mergeEntries (mergeEntries defaults yaml) json) config) :=
    stacked_maps defaults [yaml, json, config]
  have isChanged : changed (.map defaults) (joined [.map yaml, .map json, .map config]) =
      .map (mergeEntries defaults (mergeEntries (mergeEntries yaml json) config)) := by
    have isTogether := changed_joined_maps defaults [yaml, json, config]
    rwa [together, List.foldl_cons, nil_mergeEntries] at isTogether
  refine ⟨isEntries, fun same => ?_, fun aligned => ?_⟩
  · refine @aligned_of_expanded host _ _ isJson_defaults ?_
    rw [inOrder, isChanged, expanded, expanded, ← same, isEntries]
  · have same := stacked_of_aligned (textKeyed_of_isJson isJson_defaults) aligned
    rw [inOrder, isChanged] at same
    rw [isEntries, Value.map.inj same]

/-! ## A source with an empty section -/

/-- A host with a file that names a section and leaves it empty. -/
def emptySectionHost : Host := { Host.bare with files := [(["c.yaml"], "error_handling:\n")] }

def emptySection : Value := .ofFields [("error_handling", .null)]

def strictSection : List (Value × Value) :=
  [(.str "error_handling", .ofFields [("strict_mode", .bool true)])]

def strictSources : ConfigurationSources :=
  { assignmentFile := .null, yamlFile := .str "c.yaml", config := .map strictSection }

def strictConfiguration : Configuration :=
  { initial true .null with yamlSource := emptySection, entries := mergeEntries defaults strictSection }

/-- An empty section has been read. -/
def readsEmptySection : Outcome Value → Bool
  | .ok (.map [(.str "error_handling", .null)]) => true
  | _ => false

theorem readFile_emptySection :
    readFile emptySectionHost (.str "c.yaml") readYaml = .ok emptySection := by
  have isRead : emptySectionHost.read "c.yaml" = .ok "error_handling:\n" := by decide +kernel
  have isSection : readsEmptySection (readYaml "error_handling:\n") = true := by decide +kernel
  have isFile : readFile emptySectionHost (.str "c.yaml") readYaml = readYaml "error_handling:\n" := by
    simp only [readFile, isRead, bind, Except.bind]
    rfl
  rw [isFile]
  unfold readsEmptySection at isSection
  split at isSection
  · rename_i isYaml
    exact isYaml
  · cases isSection

theorem create_strict : create emptySectionHost strictSources = .ok (emptySectionHost, strictConfiguration) := by
  let start : Configuration := { initial true .null with yamlSource := emptySection }
  have prepared : start.prepare emptySectionHost (.map strictSection) .null =
    .ok (mergeEntries defaults strictSection) := rfl
  have reviewed : strictConfiguration.review = .ok () := by decide +kernel
  have loaded : (load emptySectionHost (.map strictSection) .null).perform start = (.ok (), strictConfiguration) := by
    rw [load_prepared prepared]
    exact Prod.ext reviewed rfl
  exact create_of_load rfl readFile_emptySection rfl rfl rfl loaded

/-- The empty section of the file is no mapping, so the defaults come back under the section that follows. -/
theorem strictConfiguration_not_in_order :
    create emptySectionHost strictSources = .ok (emptySectionHost, strictConfiguration) ∧
      strictConfiguration.entries ≠ expandedEntries emptySectionHost
        (mergeEntries (mergeEntries (mergeEntries defaults [(.str "error_handling", .null)]) []) strictSection) := by
  refine ⟨create_strict, fun inOrder => ?_⟩
  have aligned := (layers_in_order_iff create_strict rfl rfl rfl).2.mp inOrder
  have same := aligned ["error_handling"] _ _ rfl rfl
    ⟨.map [(.str "error_handling", .null)], List.mem_cons_self, .null, rfl, rfl⟩
  cases congrArg List.length same

/-- One after the other, the sources would leave nothing of the default section but what the last one says. -/
theorem strictConfiguration_restores_defaults :
    create emptySectionHost strictSources = .ok (emptySectionHost, strictConfiguration) ∧
      strictConfiguration.get emptySectionHost "error_handling.max_errors" .null = .ok (.int 100) ∧
      lookup ["error_handling", "max_errors"] (.map (expandedEntries emptySectionHost
        (mergeEntries (mergeEntries (mergeEntries defaults [(.str "error_handling", .null)]) [])
          strictSection))) = none := by
  refine ⟨create_strict, ?_, rfl⟩
  have isPath : pathNames "error_handling.max_errors" = ["error_handling", "max_errors"] := rfl
  rw [get_unset .null rfl isPath]
  rfl

end StyleRules.Configuration
