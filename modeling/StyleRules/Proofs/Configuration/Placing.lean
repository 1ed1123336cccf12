import StyleRules.Configuration.Live
import StyleRules.Proofs.Configuration.Layering

/-!
# Values that are set below others

A value is set below another one along names, whatever stands on the way: nothing, a mapping, or something else that
gives way to a mapping.  It is found there, and what stands apart from it stays.  Parts of values are also reached by
the positions of entries, and setting a value moves no entry that is there.
-/

namespace StyleRules

namespace Configuration

variable {path others : List String} {value other : Value}

/-! ## The order of entries -/

/-- The values are the same up to the order of entries, in mappings that are nested in mappings as well. -/
inductive Reordered : Value → Value → Prop
  | refl (v : Value) : Reordered v v
  | trans {u v w : Value} (first : Reordered u v) (second : Reordered v w) : Reordered u w
  | entries {xs ys : List (Value × Value)} (permuted : xs.Perm ys) : Reordered (.map xs) (.map ys)
  | inside {before after : List (Value × Value)} {key v w : Value} (same : Reordered v w) :
      Reordered (.map (before ++ (key, v) :: after)) (.map (before ++ (key, w) :: after))

/-! ## Setting a value somewhere in a value -/

/-- The entries of the mapping that stands somewhere, if one does. -/
def entriesIn : Option Value → List (Value × Value)
  | some (.map entries) => entries
  | _ => []

/-- What is put in the place of a value, if there is one, when another one is set below it. -/
def replaced (value : Value) (path : List String) (old : Option Value) : Value :=
  if path = [] then value else .map (setBelow value path (entriesIn old))

theorem entriesIn_map (entries : List (Value × Value)) : entriesIn (some (.map entries)) = entries :=
  rfl

theorem setBelow_cons (value : Value) (name : String) (rest : List String) (entries : List (Value × Value)) :
    setBelow value (name :: rest) entries =
      Mapping.insert (.str name) (replaced value rest (Mapping.find? (.str name) entries)) entries := by
  cases rest with
  | nil => rfl
  | cons next further =>
      rw [setBelow, replaced, if_neg (List.cons_ne_nil _ _), Mapping.get?]
      · rfl
      · simp

theorem replaced_cons (value : Value) (name : String) (rest : List String) (old : Option Value) :
    replaced value (name :: rest) old =
      .map (Mapping.insert (.str name) (replaced value rest (Mapping.find? (.str name) (entriesIn old)))
        (entriesIn old)) := by
  rw [replaced, if_neg (List.cons_ne_nil _ _), setBelow_cons]

/-- Neither path goes on from the other one. -/
structure Apart (path others : List String) : Prop where
  notBelow : ¬path <+: others
  notAbove : ¬others <+: path

/-- Two paths that lie apart have a first name each, and lie apart behind it if it is the same. -/
theorem Apart.exists_names (apart : Apart path others) :
    ∃ name rest next further, path = name :: rest ∧ others = next :: further ∧
      (name = next → Apart rest further) := by
  cases path with
  | nil => exact absurd List.nil_prefix apart.notBelow
  | cons name rest =>
      cases others with
      | nil => exact absurd List.nil_prefix apart.notAbove
      | cons next further =>
          refine ⟨name, rest, next, further, rfl, rfl, ?_⟩
          rintro rfl
          exact ⟨fun below => apart.notBelow (List.cons_prefix_cons.mpr ⟨rfl, below⟩),
            fun above => apart.notAbove (List.cons_prefix_cons.mpr ⟨rfl, above⟩)⟩

/-- The position of the entry with a name. -/
def positionOf (name : String) (entries : List (Value × Value)) : Nat :=
  entries.findIdx (·.1.isText name)

/-- The way along names, as far as they lead to mappings. -/
def wayIn (names : List String) (old : Option Value) : Route :=
  (Value.map (entriesIn old)).routeAlong Value.isMapping names

/-- The way to a value that was set. -/
def homeIn (value : Value) (path : List String) (old : Option Value) : Route :=
  (replaced value path old).routeAlong (fun _ => true) path

/-- The way to the entry that is written when a value is set. -/
def slotIn (value : Value) (path : List String) (old : Option Value) : Route :=
  (homeIn value path old).take ((wayIn path.dropLast old).length + 1)

theorem isText_iff {v : Value} {name : String} : v.isText name = true ↔ v = .str name := by
  cases v <;> simp [Value.isText]

/-- What is written at a name stands where it would be looked for before, and moves nothing that is there. -/
theorem positionOf_insert {name text : String} {entries : List (Value × Value)} (value : Value)
    (there : name = text ∨ (Mapping.find? (.str text) entries).isSome) :
    positionOf text (Mapping.insert (.str name) value entries) = positionOf text entries := by
  induction entries with
  | nil =>
      obtain rfl := there.resolve_right (by simp [Mapping.find?])
      simp [Mapping.insert, positionOf, List.findIdx_cons, Value.isText]
  | cons entry rest ih =>
      obtain ⟨known, old⟩ := entry
      by_cases same : known.eq (.str name) = true
      · rw [Mapping.insert, if_pos same, positionOf, positionOf, List.findIdx_cons, List.findIdx_cons]
      · rw [Mapping.insert, if_neg same, positionOf, positionOf, List.findIdx_cons, List.findIdx_cons]
        by_cases isText : known = .str text
        · rw [isText_iff.mpr isText]
          rfl
        · have behind : name = text ∨ (Mapping.find? (.str text) rest).isSome := by
            rwa [Mapping.find?_cons_str, if_neg (mt Value.eq_str_iff.mp isText)] at there
          have position := ih behind
          rw [positionOf, positionOf] at position
          rw [position]

theorem positionOf_ne {name text : String} {entries : List (Value × Value)} (different : name ≠ text)
    (there : (Mapping.find? (.str name) entries).isSome) : positionOf name entries ≠ positionOf text entries := by
  induction entries with
  | nil => cases there
  | cons entry rest ih =>
      obtain ⟨known, old⟩ := entry
      rw [positionOf, positionOf, List.findIdx_cons, List.findIdx_cons]
      by_cases isName : known = .str name
      · simp [isName, Value.isText, different]
      · rw [Mapping.find?_cons_str, if_neg (mt Value.eq_str_iff.mp isName)] at there
        by_cases isOther : known = .str text
        · simp [isOther, Value.isText, different.symm]
        · have notName : known.isText name = false := Bool.eq_false_iff.mpr (mt isText_iff.mp isName)
          have notOther : known.isText text = false := Bool.eq_false_iff.mpr (mt isText_iff.mp isOther)
          rw [notName, notOther]
          exact fun same => ih there (Nat.succ.inj same)

theorem wayIn_nil (old : Option Value) : wayIn [] old = [] := by
  rw [wayIn, Value.routeAlong]
  simp

theorem wayIn_cons (name : String) (rest : List String) (old : Option Value) :
    wayIn (name :: rest) old =
      match Mapping.find? (.str name) (entriesIn old) with
      | some inner =>
        if inner.isMapping then positionOf name (entriesIn old) :: wayIn rest (some inner) else []
      | none => [] := by
  rw [wayIn, Value.routeAlong, Mapping.get?]
  cases Mapping.find? (.str name) (entriesIn old) with
  | none => rfl
  | some inner => cases inner <;> rfl

theorem homeIn_cons (value : Value) (name : String) (rest : List String) (old : Option Value) :
    homeIn value (name :: rest) old =
      positionOf name (entriesIn old) :: homeIn value rest (Mapping.find? (.str name) (entriesIn old)) := by
  rw [homeIn, replaced_cons, Value.routeAlong, Mapping.get?, Mapping.find?_insert,
    if_pos (Value.eq_str_iff.mpr rfl), ← positionOf_insert _ (.inl rfl)]
  rfl

theorem isMapping_replaced {rest : List String} (value : Value) (old : Option Value) (further : rest ≠ []) :
    (replaced value rest old).isMapping = true := by
  rw [replaced, if_neg further]
  rfl

/-- Setting a value leaves the way along other names as it was, or makes it go through the entry that is written. -/
theorem wayIn_replaced {names : List String} (notBelow : ¬path <+: names) (value : Value) (old : Option Value) :
    wayIn names (some (replaced value path old)) = wayIn names old ∨
      slotIn value path old <+: wayIn names (some (replaced value path old)) := by
  induction path generalizing names old with
  | nil => exact absurd List.nil_prefix notBelow
  | cons name rest ih =>
      cases names with
      | nil => exact .inl (by rw [wayIn_nil, wayIn_nil])
      | cons next further =>
          rw [replaced_cons, wayIn_cons, entriesIn_map, Mapping.find?_insert]
          by_cases same : name = next
          · subst same
            have behind : ¬rest <+: further := fun below => notBelow (List.cons_prefix_cons.mpr ⟨rfl, below⟩)
            have goesOn : rest ≠ [] := by
              rintro rfl
              exact behind List.nil_prefix
            obtain ⟨after, others, rfl⟩ := List.exists_cons_of_ne_nil goesOn
            rw [if_pos (Value.eq_str_iff.mpr rfl), positionOf_insert _ (.inl rfl), slotIn, homeIn_cons,
              List.dropLast_cons_cons, wayIn_cons name, wayIn_cons name]
            dsimp only
            rw [if_pos (isMapping_replaced value _ goesOn)]
            cases found : Mapping.find? (.str name) (entriesIn old) with
            | none => exact .inr (List.cons_prefix_cons.mpr ⟨rfl, List.nil_prefix⟩)
            | some inner =>
                dsimp only
                by_cases isMapping : inner.isMapping = true
                · rw [if_pos isMapping, if_pos isMapping]
                  rcases ih behind (some inner) with unchanged | through
                  · exact .inl (congrArg _ unchanged)
                  · exact .inr (List.cons_prefix_cons.mpr ⟨rfl, through⟩)
                · rw [if_neg isMapping, if_neg isMapping]
                  exact .inr (List.cons_prefix_cons.mpr ⟨rfl, List.nil_prefix⟩)
          · left
            rw [if_neg (mt Value.eq_str_iff.mp (by simpa using same)), wayIn_cons]
            cases found : Mapping.find? (.str next) (entriesIn old) with
            | none => rfl
            | some inner =>
                dsimp only
                rw [positionOf_insert _ (.inr (by rw [found]; rfl))]

/-- The way along other names does not go through the value that was set. -/
theorem homeIn_not_below {names : List String} (notBelow : ¬path <+: names) (value : Value) (old : Option Value) :
    ¬homeIn value path old <+: wayIn names (some (replaced value path old)) := by
  induction path generalizing names old with
  | nil => exact absurd List.nil_prefix notBelow
  | cons name rest ih =>
      rw [homeIn_cons]
      cases names with
      | nil =>
          rw [wayIn_nil]
          exact List.cons_ne_nil _ _ ∘ List.prefix_nil.mp
      | cons next further =>
          rw [replaced_cons, wayIn_cons, entriesIn_map, Mapping.find?_insert]
          by_cases same : name = next
          · subst same
            have behind : ¬rest <+: further := fun below => notBelow (List.cons_prefix_cons.mpr ⟨rfl, below⟩)
            rw [if_pos (Value.eq_str_iff.mpr rfl)]
            dsimp only
            split
            · exact fun through => ih behind _ (List.cons_prefix_cons.mp through).2
            · exact List.cons_ne_nil _ _ ∘ List.prefix_nil.mp
          · rw [if_neg (mt Value.eq_str_iff.mp (by simpa using same))]
            cases found : Mapping.find? (.str next) (entriesIn old) with
            | none => exact List.cons_ne_nil _ _ ∘ List.prefix_nil.mp
            | some inner =>
                have there : (Mapping.find? (.str next) (entriesIn old)).isSome := by
                  rw [found]
                  rfl
                dsimp only
                rw [positionOf_insert _ (.inr there)]
                split
                · exact fun through =>
                    positionOf_ne (Ne.symm same) there (List.cons_prefix_cons.mp through).1.symm
                · exact List.cons_ne_nil _ _ ∘ List.prefix_nil.mp

end Configuration

end StyleRules
