import StyleRules.Proofs.Configuration.Placing
import StyleRules.Proofs.Text.Search

/-!
# Setting and getting values

A value that is set at a dotted path is found there, and nothing changes at the paths that lie apart from it.  The
last mapping on the way is what is written into.  If it stands at a second place, it changes there too, and so does
what is got at paths that lie apart.
-/

namespace StyleRules

namespace Configuration

variable {host : Host} {p q : String}

/-! ## Configurations -/

theorem set_entries (path : String) (value : Value) (c : Configuration) :
    .map (set path value c).entries = replaced value (pathNames path) (some (.map c.entries)) := by
  have nonempty : pathNames path ≠ [] := Text.parts_ne_nil '.' path
  rw [replaced, if_neg nonempty]
  rfl

end Configuration

/-! ## Marks -/

namespace Marks

variable {marks : Marks} {route slot home : Route}

theorem mem_outside_iff {mark : Route × Nat} :
    mark ∈ marks.outside slot ↔ mark ∈ marks ∧ ¬slot <+: mark.1 := by
  rw [outside, List.mem_filter, Bool.not_eq_true', Bool.eq_false_iff, Ne, List.isPrefixOf_iff_prefix]

theorem home_prefix_of_mem_below {mark : Route × Nat} (member : mark ∈ marks.below home) : home <+: mark.1 := by
  obtain ⟨inner, _, rfl⟩ := List.mem_map.mp member
  exact List.prefix_append _ _

theorem lookup_eq_none_of {marks : Marks} (apart : ∀ mark ∈ marks, route ≠ mark.1) :
    marks.lookup route = none :=
  List.lookup_eq_none_iff.mpr fun mark member => bne_iff_ne.mpr (apart mark member)

theorem lookup_outside_of_prefix (through : slot <+: route) (marks : Marks) :
    (marks.outside slot).lookup route = none := by
  refine lookup_eq_none_of fun mark member => ?_
  rintro rfl
  exact (mem_outside_iff.mp member).2 through

theorem lookup_outside (absent : marks.lookup route = none) (slot : Route) :
    (marks.outside slot).lookup route = none := by
  rw [List.lookup_eq_none_iff] at absent ⊢
  intro mark member
  exact absent mark (List.mem_of_mem_filter member)

theorem lookup_below (notThrough : ¬home <+: route) (marks : Marks) : (marks.below home).lookup route = none := by
  refine lookup_eq_none_of fun mark member => ?_
  rintro rfl
  exact notThrough (home_prefix_of_mem_below member)

end Marks

/-! ## Configurations with shared mappings -/

namespace LiveConfiguration

open StyleRules.Configuration

variable {host : Host} {live : LiveConfiguration} {p q : String}

/-- The last mapping on a path, which a value at the path is written into, stands at no second place. -/
def StandsOnce (live : LiveConfiguration) (path : String) : Prop := live.marks.lookup (live.target path) = none

theorem set_of_standsOnce (once : live.StandsOnce p) (given : Marked) :
    live.set p given =
      { live with
        configuration := live.configuration.set p given.value
        marks :=
          live.marks.outside (slotIn given.value (pathNames p) (some (.map live.configuration.entries))) ++
            given.marks.below (homeIn given.value (pathNames p) (some (.map live.configuration.entries))) } := by
  have isHome : (Value.map (live.configuration.set p given.value).entries).routeAlong (fun _ => true) (pathNames p) =
      homeIn given.value (pathNames p) (some (.map live.configuration.entries)) := by
    rw [set_entries]
    rfl
  rw [LiveConfiguration.set]
  dsimp only
  rw [once, isHome]
  rfl

/-- A mapping that stands once does so after a value was set, unless it stands inside of the value. -/
theorem StandsOnce.set (once : live.StandsOnce p) (otherOnce : live.StandsOnce q)
    (notBelow : ¬pathNames p <+: (pathNames q).dropLast) (given : Marked) : (live.set p given).StandsOnce q := by
  have isTarget : (live.set p given).target q =
      wayIn (pathNames q).dropLast
        (some (replaced given.value (pathNames p) (some (.map live.configuration.entries)))) := by
    rw [set_of_standsOnce once, ← set_entries]
    rfl
  rw [StandsOnce, isTarget, set_of_standsOnce once, List.lookup_append,
    Marks.lookup_below (homeIn_not_below notBelow given.value _), Option.or_none]
  rcases wayIn_replaced notBelow given.value (some (.map live.configuration.entries)) with unchanged | through
  · rw [unchanged]
    exact Marks.lookup_outside otherOnce _
  · exact Marks.lookup_outside_of_prefix through _

end LiveConfiguration

end StyleRules
