import StyleRules.Configuration.Basic
import StyleRules.Proofs.Value.Equality

/-!
# Leaving out defaults and laying over them

A configuration that was laid over defaults can be pruned by these defaults: the entries that are equal to a
default are left out, on all levels.  What remains, laid over the defaults again, is the same configuration,
up to values that stand where an equal default is.
-/

namespace StyleRules.Configuration

variable {defaults base changes entries : List (Value × Value)}

/-- The mappings in a value, down to values of other kinds, have different texts for keys. -/
inductive TextKeyed : Value → Prop
  | leaf {v : Value} (notMapping : v.isMapping = false) : TextKeyed v
  | map {entries : List (Value × Value)} (texts : Mapping.TextKeys entries)
      (distinct : (Mapping.keys entries).Nodup) (each : ∀ entry ∈ entries, TextKeyed entry.2) :
      TextKeyed (.map entries)

theorem textKeyed_of_isJson {v : Value} (isJson : IsJson v) : TextKeyed v := by
  induction isJson with
  | null | bool | int | str | list => exact .leaf rfl
  | map texts distinct _ ih => exact .map texts distinct ih

/-! ## One entry -/

/-- A value with the change that is laid over it, if there is any. -/
def changed (value : Value) : Option Value → Value
  | none => value
  | some change => mergeValue value change

/-- What remains of a value besides its default, if there is any. -/
def kept? : Option Value → Value → Option Value
  | none, value => some value
  | some (.map inner), .map entries =>
    let kept := withoutDefaults inner entries
    if kept.isEmpty then none else some (.map kept)
  | some default, value => if value.eq default then none else some value

theorem kept?_none (value : Value) : kept? none value = some value := by
  rw [kept?]

theorem kept?_cases {default : Option Value} {value kept : Value} (isKept : kept? default value = some kept) :
    kept = value ∨ ∃ inner entries, value = .map entries ∧ kept = .map (withoutDefaults inner entries) := by
  unfold kept? at isKept
  split at isKept
  · exact .inl (Option.some.inj isKept).symm
  · rename_i inner entries
    dsimp only at isKept
    split at isKept
    · cases isKept
    · exact .inr ⟨inner, entries, rfl, (Option.some.inj isKept).symm⟩
  · split at isKept
    · cases isKept
    · exact .inl (Option.some.inj isKept).symm

theorem mergeBase_eq_map (changes base : List (Value × Value)) :
    mergeBase changes base =
      base.map fun entry => (entry.1, changed entry.2 (Mapping.find? entry.1 changes)) := by
  induction base with
  | nil => rfl
  | cons entry rest ih =>
      obtain ⟨key, value⟩ := entry
      rw [mergeBase, ih, List.map_cons]
      cases Mapping.find? key changes <;> rfl

theorem withoutDefaults_eq_filterMap (defaults entries : List (Value × Value)) :
    withoutDefaults defaults entries =
      entries.filterMap fun entry =>
        (kept? (Mapping.find? entry.1 defaults) entry.2).map (Prod.mk entry.1) := by
  induction entries with
  | nil => rw [withoutDefaults, List.filterMap_nil]
  | cons entry rest ih =>
      obtain ⟨key, value⟩ := entry
      unfold withoutDefaults
      rw [List.filterMap_cons, ← ih]
      dsimp only
      generalize Mapping.find? key defaults = default
      split
      · rfl
      · rw [kept?]
        split <;> rfl
      · rename_i notBoth
        rw [kept?]
        · split <;> rfl
        · exact notBoth

theorem find?_withoutDefaults (distinct : (Mapping.keys entries).Nodup) (text : String) :
    Mapping.find? (.str text) (withoutDefaults defaults entries) =
      (Mapping.find? (.str text) entries).bind (kept? (Mapping.find? (.str text) defaults)) := by
  rw [withoutDefaults_eq_filterMap]
  exact Mapping.find?_filterMap (fun key => kept? (Mapping.find? key defaults)) distinct text

/-! ## Looking up -/

section LookingUp

variable {key : Value}

theorem find?_mergeBase (interchangeable : key.Interchangeable) (changes base : List (Value × Value)) :
    Mapping.find? key (mergeBase changes base) =
      (Mapping.find? key base).map (changed · (Mapping.find? key changes)) := by
  rw [mergeBase_eq_map]
  induction base with
  | nil => rfl
  | cons entry rest ih =>
      rw [List.map_cons, Mapping.find?, Mapping.find?, ih]
      split
      · rename_i same
        rw [Mapping.find?_of_eq interchangeable same, Option.map_some]
      · rfl

theorem find?_additions (interchangeable : key.Interchangeable) (base changes : List (Value × Value)) :
    Mapping.find? key (additions base changes) =
      if Mapping.has key base then none else Mapping.find? key changes := by
  induction changes with
  | nil => simp [additions, Mapping.find?]
  | cons entry rest ih =>
      obtain ⟨known, value⟩ := entry
      rw [additions] at ih ⊢
      rw [List.filter_cons, Mapping.find?]
      by_cases same : known.eq key = true
      · have sameHas : Mapping.has known base = Mapping.has key base := by
          rw [Mapping.has, Mapping.has, Mapping.find?_of_eq interchangeable same]
        rw [if_pos same, sameHas]
        by_cases isKnown : Mapping.has key base = true
        · simpa [isKnown] using ih
        · simp [isKnown, Mapping.find?, same]
      · rw [if_neg same, ← ih]
        split
        · rw [Mapping.find?, if_neg same]
        · rfl

/-- Under a key stands what is laid over the value that was there. -/
theorem find?_mergeEntries_key (interchangeable : key.Interchangeable) (base changes : List (Value × Value)) :
    Mapping.find? key (mergeEntries base changes) =
      match Mapping.find? key base with
      | some value => some (changed value (Mapping.find? key changes))
      | none => Mapping.find? key changes := by
  rw [mergeEntries, Mapping.find?_append, find?_mergeBase interchangeable, find?_additions interchangeable,
    Mapping.has]
  cases Mapping.find? key base <;> rfl

end LookingUp

theorem find?_mergeEntries (base changes : List (Value × Value)) (text : String) :
    Mapping.find? (.str text) (mergeEntries base changes) =
      match Mapping.find? (.str text) base with
      | some value => some (changed value (Mapping.find? (.str text) changes))
      | none => Mapping.find? (.str text) changes :=
  find?_mergeEntries_key (Value.interchangeable_str text) base changes

/-! ## Keys -/

theorem keys_mergeBase (changes base : List (Value × Value)) :
    Mapping.keys (mergeBase changes base) = Mapping.keys base := by
  rw [mergeBase_eq_map, Mapping.keys, List.map_map]
  rfl

theorem keys_withoutDefaults (defaults entries : List (Value × Value)) :
    (Mapping.keys (withoutDefaults defaults entries)).Sublist (Mapping.keys entries) := by
  rw [withoutDefaults_eq_filterMap]
  induction entries with
  | nil => exact List.Sublist.refl _
  | cons entry rest ih =>
      rw [List.filterMap_cons]
      cases kept? (Mapping.find? entry.1 defaults) entry.2 with
      | none => exact ih.cons entry.1
      | some value => exact ih.cons_cons entry.1

theorem has_of_mem_keys {key : Value} (texts : Mapping.TextKeys base) (member : key ∈ Mapping.keys base) :
    Mapping.has key base = true := by
  obtain ⟨text, rfl⟩ := texts key member
  exact Mapping.str_mem_keys_iff.mp member

theorem additions_mergeBase (texts : Mapping.TextKeys base) (changes : List (Value × Value)) :
    additions base (mergeBase changes base) = [] := by
  refine List.filter_eq_nil_iff.mpr fun entry member => ?_
  have isKey : entry.1 ∈ Mapping.keys base := by
    rw [← keys_mergeBase changes base]
    exact List.mem_map_of_mem member
  simp [has_of_mem_keys texts isKey]

theorem additions_mergeEntries (texts : Mapping.TextKeys base) (changes : List (Value × Value)) :
    additions base (mergeEntries base changes) = additions base changes := by
  have again : additions base (additions base changes) = additions base changes := by
    simp [additions]
  rw [mergeEntries, additions, List.filter_append]
  exact (congrArg₂ _ (additions_mergeBase texts changes) again).trans (List.nil_append _)

/-- Entries without a default are kept as they are. -/
theorem additions_withoutDefaults (base entries : List (Value × Value)) :
    additions base (withoutDefaults base entries) = additions base entries := by
  rw [withoutDefaults_eq_filterMap]
  induction entries with
  | nil => rfl
  | cons entry rest ih =>
      obtain ⟨key, value⟩ := entry
      rw [List.filterMap_cons]
      simp only [additions] at ih ⊢
      cases found : Mapping.find? key base with
      | none =>
          have unknown : Mapping.has key base = false := by rw [Mapping.has, found]; rfl
          simpa [kept?_none, unknown] using ih
      | some default =>
          have known : Mapping.has key base = true := by rw [Mapping.has, found]; rfl
          cases kept? (some default) value with
          | none => simpa [known] using ih
          | some result => simpa [known] using ih

/-! ## Laying the pruned entries over the defaults again -/

theorem mergeEntries_nil (base : List (Value × Value)) : mergeEntries base [] = base := by
  rw [mergeEntries, mergeBase_eq_map]
  simp [additions, changed, Mapping.find?]

theorem nil_mergeEntries (entries : List (Value × Value)) : mergeEntries [] entries = entries := by
  simp [mergeEntries, mergeBase, additions, Mapping.has, Mapping.find?]

theorem mergeValue_of_not_mapping {value change : Value}
    (notBoth : value.isMapping = false ∨ change.isMapping = false) : mergeValue value change = change := by
  rw [mergeValue]
  rintro base changes rfl rfl
  rcases notBoth with impossible | impossible <;> cases impossible

theorem kept?_of_not_mapping {default value : Value}
    (notBoth : default.isMapping = false ∨ value.isMapping = false) :
    kept? (some default) value = if value.eq default then none else some value := by
  rw [kept?]
  intro inner entries isDefault isValue
  cases isDefault
  cases isValue
  rcases notBoth with impossible | impossible <;> cases impossible

theorem changed_kept?_map (base entries : List (Value × Value)) :
    changed (.map base) (kept? (some (.map base)) (.map entries)) =
      .map (mergeEntries base (withoutDefaults base entries)) := by
  rw [kept?]
  split
  · rename_i empty
    rw [List.isEmpty_iff.mp empty, mergeEntries_nil, changed]
  · rw [changed, mergeValue, mergeEntries]

theorem withoutDefaults_self_of_kept (texts : Mapping.TextKeys base) (distinct : (Mapping.keys base).Nodup)
    (each : ∀ entry ∈ base, kept? (some entry.2) entry.2 = none) : withoutDefaults base base = [] := by
  rw [withoutDefaults_eq_filterMap, List.filterMap_eq_nil_iff]
  intro entry member
  rw [Mapping.find?_of_mem texts distinct member, each entry member]
  rfl

theorem kept?_self {value : Value} (isJson : IsJson value) : kept? (some value) value = none := by
  induction isJson with
  | @map entries texts distinct each ih =>
      rw [kept?, withoutDefaults_self_of_kept texts distinct ih]
      rfl
  | @list items each =>
      rw [kept?_of_not_mapping (.inl rfl), Value.eq_refl (.list each), if_pos rfl]
  | _ => rw [kept?_of_not_mapping (.inl rfl), Value.eq_refl (by simp), if_pos rfl]

/-- Nothing is left of the defaults themselves. -/
theorem withoutDefaults_self (isJson : IsJson (.map base)) : withoutDefaults base base = [] := by
  obtain ⟨texts, distinct, each⟩ := isJson_map.mp isJson
  exact withoutDefaults_self_of_kept texts distinct fun entry member => kept?_self (each entry member)

/-- A comparison of values that goes through mappings entry by entry. -/
structure Comparison (same : Value → Value → Prop) : Prop where
  refl {v : Value} (isJson : IsJson v) : same v v
  map {xs ys : List (Value × Value)} (texts : Mapping.TextKeys xs)
    (each : List.Forall₂ (fun x y => x.1 = y.1 ∧ same x.2 y.2) xs ys) : same (.map xs) (.map ys)

theorem comparison_eq : Comparison fun v w => v.eq w = true := ⟨Value.eq_refl, Value.eq_map_of_forall₂⟩

theorem comparison_identical : Comparison (· = ·) := by
  refine ⟨fun _ => rfl, fun _ each => ?_⟩
  have pairs := each.imp fun x y same => Prod.ext same.1 same.2
  rw [List.forall₂_eq_eq_eq] at pairs
  rw [pairs]

/-- Wherever a value equals a default that is no mapping, it is the same in the given sense. -/
def DefaultsSame (same : Value → Value → Prop) (defaults entries : Value) : Prop :=
  ∀ path default value, lookup path defaults = some default → default.isMapping = false →
    lookup path entries = some value → value.eq default = true → same value default

section Restoring

variable {same : Value → Value → Prop}

/-- Values that were laid over a default are restored from what is kept of them. -/
def Restored (same : Value → Value → Prop) (default : Value) : Prop :=
  ∀ change, IsJson (changed default change) → DefaultsSame same default (changed default change) →
    same (changed default change) (changed default (kept? (some default) (changed default change)))

theorem DefaultsSame.entry {text : String} {default value : Value}
    (defaultsSame : DefaultsSame same (.map base) (.map entries))
    (isDefault : Mapping.find? (.str text) base = some default)
    (found : Mapping.find? (.str text) entries = some value) : DefaultsSame same default value := by
  intro path inner deeper isInner notMapping isDeeper
  have below : ∀ {name value} {entries : List (Value × Value)}, Mapping.find? (.str name) entries = some value →
      lookup (name :: path) (.map entries) = lookup path value := by
    intro name value entries found
    rw [lookup, Mapping.get?, found, Option.bind_some]
  exact defaultsSame (text :: path) inner deeper ((below isDefault).trans isInner) notMapping
    ((below found).trans isDeeper)

theorem restored_of_not_mapping {default : Value} (comparison : Comparison same)
    (notMapping : default.isMapping = false) : Restored same default := by
  intro change isJson defaultsSame
  have replaced : ∀ value, mergeValue default value = value := fun value =>
    mergeValue_of_not_mapping (.inl notMapping)
  rw [kept?_of_not_mapping (.inl notMapping)]
  split
  · rename_i equal
    exact defaultsSame [] default _ rfl notMapping rfl equal
  · rw [changed.eq_2, replaced]
    exact comparison.refl isJson

/-- Entries that were laid over defaults are restored from the pruned ones. -/
theorem restored_entries (comparison : Comparison same) (texts : Mapping.TextKeys base)
    (distinct : (Mapping.keys base).Nodup) (each : ∀ entry ∈ base, Restored same entry.2)
    (isJson : IsJson (.map (mergeEntries base changes)))
    (defaultsSame : DefaultsSame same (.map base) (.map (mergeEntries base changes))) :
    List.Forall₂ (fun x y => x.1 = y.1 ∧ same x.2 y.2) (mergeEntries base changes)
      (mergeEntries base (withoutDefaults base (mergeEntries base changes))) := by
  obtain ⟨mergedTexts, mergedDistinct, mergedJson⟩ := isJson_map.mp isJson
  generalize isPruned : withoutDefaults base (mergeEntries base changes) = pruned
  have added : additions base pruned = additions base changes := by
    rw [← isPruned, additions_withoutDefaults, additions_mergeEntries texts]
  rw [mergeEntries, mergeEntries, added]
  refine List.rel_append ?_ ?_
  · rw [mergeBase_eq_map, mergeBase_eq_map, List.forall₂_map_left_iff, List.forall₂_map_right_iff]
    -- Under each key of the defaults stands what is restored of the value that was laid over it.
    refine List.forall₂_same.mpr fun entry member => ⟨rfl, ?_⟩
    obtain ⟨key, default⟩ := entry
    obtain ⟨text, isText⟩ := texts key (List.mem_map_of_mem member)
    have isText : key = .str text := isText
    subst isText
    have isDefault := Mapping.find?_of_mem texts distinct member
    have isMerged : (.str text, changed default (Mapping.find? (.str text) changes)) ∈
        mergeEntries base changes := by
      rw [mergeEntries, mergeBase_eq_map]
      exact List.mem_append_left _ (List.mem_map_of_mem member)
    have found := Mapping.find?_of_mem mergedTexts mergedDistinct isMerged
    have isKept : Mapping.find? (.str text) pruned =
        kept? (some default) (changed default (Mapping.find? (.str text) changes)) := by
      rw [← isPruned, find?_withoutDefaults mergedDistinct, found, isDefault, Option.bind_some]
    dsimp only
    rw [isKept]
    exact each _ member _ (mergedJson _ isMerged) (defaultsSame.entry isDefault found)
  · refine List.forall₂_same.mpr fun entry member => ⟨rfl, comparison.refl (mergedJson entry ?_)⟩
    exact List.mem_append_right _ member

theorem restored {default : Value} (comparison : Comparison same) (isJson : IsJson default) :
    Restored same default := by
  induction isJson with
  | null | bool | int | str | list => exact restored_of_not_mapping comparison rfl
  | @map base texts distinct each ih =>
      intro change isJson defaultsSame
      -- Either a mapping was laid over the default, entry by entry, or something else took its place.
      have laidOver : (∃ changes, changed (.map base) change = .map (mergeEntries base changes)) ∨
          change = some (changed (.map base) change) ∧ (changed (.map base) change).isMapping = false := by
        cases change with
        | none => exact .inl ⟨[], by rw [changed, mergeEntries_nil]⟩
        | some change =>
            cases change with
            | map changes => exact .inl ⟨changes, by rw [changed, mergeValue, mergeEntries]⟩
            | _ => exact .inr ⟨by rw [changed, mergeValue_of_not_mapping (.inr rfl)],
                by rw [changed, mergeValue_of_not_mapping (.inr rfl)]; rfl⟩
      generalize changed (.map base) change = value at *
      rcases laidOver with ⟨changes, rfl⟩ | ⟨rfl, notMapping⟩
      · have merged := restored_entries comparison texts distinct ih isJson defaultsSame
        rw [changed_kept?_map]
        exact comparison.map (isJson_map.mp isJson).1 merged
      · have different : value.eq (.map base) = false := by
          cases value <;> first | rfl | cases notMapping
        rw [kept?_of_not_mapping (.inr notMapping), different, if_neg Bool.false_ne_true, changed,
          mergeValue_of_not_mapping (.inr notMapping)]
        exact comparison.refl isJson

end Restoring

/-! ## What the pruned entries are -/

/-- A property of values that a mapping takes from its entries, so that entries may be left out. -/
structure Hereditary (holds : Value → Prop) : Prop where
  entry {entries : List (Value × Value)} (whole : holds (.map entries)) : ∀ entry ∈ entries, holds entry.2
  map {entries others : List (Value × Value)} (whole : holds (.map entries))
    (keys : (Mapping.keys others).Sublist (Mapping.keys entries)) (each : ∀ entry ∈ others, holds entry.2) :
    holds (.map others)

theorem hereditary_isJson : Hereditary IsJson := by
  refine ⟨fun whole => (isJson_map.mp whole).2.2, fun whole keys others => ?_⟩
  obtain ⟨texts, distinct, _⟩ := isJson_map.mp whole
  exact .map (fun key member => texts key (keys.subset member)) (keys.nodup distinct) others

variable {holds : Value → Prop}

theorem Hereditary.withoutDefaults_of_kept (hereditary : Hereditary holds) (whole : holds (.map entries))
    (each : ∀ entry ∈ entries, ∀ default kept, kept? default entry.2 = some kept → holds kept)
    (defaults : List (Value × Value)) : holds (.map (withoutDefaults defaults entries)) := by
  refine hereditary.map whole (keys_withoutDefaults defaults entries) fun entry member => ?_
  rw [withoutDefaults_eq_filterMap, List.mem_filterMap] at member
  obtain ⟨known, among, isEntry⟩ := member
  obtain ⟨kept, isKept, rfl⟩ := Option.map_eq_some_iff.mp isEntry
  exact each known among _ kept isKept

theorem Hereditary.kept (hereditary : Hereditary holds) {value : Value} (isJson : IsJson value)
    (whole : holds value) {default : Option Value} {kept : Value} (isKept : kept? default value = some kept) :
    holds kept := by
  induction isJson generalizing default kept with
  | @map entries texts distinct each ih =>
      rcases kept?_cases isKept with rfl | ⟨inner, others, isMap, rfl⟩
      · exact whole
      · cases isMap
        exact hereditary.withoutDefaults_of_kept whole
          (fun entry member _ _ => ih entry member (hereditary.entry whole entry member)) inner
  | null | bool | int | str | list =>
      rcases kept?_cases isKept with rfl | ⟨_, _, isMap, _⟩
      · exact whole
      · cases isMap

theorem Hereditary.withoutDefaults (hereditary : Hereditary holds) (isJson : IsJson (.map entries))
    (whole : holds (.map entries)) (defaults : List (Value × Value)) :
    holds (.map (withoutDefaults defaults entries)) :=
  hereditary.withoutDefaults_of_kept whole
    (fun entry member _ _ =>
      hereditary.kept (hereditary_isJson.entry isJson entry member) (hereditary.entry whole entry member))
    defaults

end StyleRules.Configuration
