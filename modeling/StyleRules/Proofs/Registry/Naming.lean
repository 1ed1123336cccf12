import StyleRules.Proofs.Registry.Reported
import StyleRules.Proofs.Registry.Strategies

/-!
# Types of a registry that is set up from data

A configuration that is data names matchers and transforms by texts.  If the plugins that it names register texts as
well, all types of the registry are texts, and they can be listed in order.
-/

namespace StyleRules.Registry

variable {host : Host} {r : Registry}

/-! ## Footprints -/

/-- All types that are registered are texts. -/
def Footprint.NamesTexts (print : Footprint) : Prop :=
  Mapping.TextKeys print.matchers ∧ Mapping.TextKeys print.transforms

theorem Footprint.NamesTexts.andThen {first second : Footprint} (firstNames : first.NamesTexts)
    (secondNames : second.NamesTexts) : (first.andThen second).NamesTexts := by
  rw [Footprint.andThen]
  split
  · exact firstNames
  · exact ⟨Mapping.textKeys_append.mpr ⟨firstNames.1, secondNames.1⟩,
      Mapping.textKeys_append.mpr ⟨firstNames.2, secondNames.2⟩⟩

theorem Footprint.NamesTexts.reported {print : Footprint} (names : print.NamesTexts) (message : Failure → Message) :
    (print.reported message).NamesTexts := by
  rw [Footprint.reported]
  split
  · exact names
  · split <;> exact names

theorem TypesAreTexts.onto {print : Footprint} (texts : r.TypesAreTexts) (names : print.NamesTexts) :
    (print.onto r).TypesAreTexts :=
  ⟨Mapping.textKeys_insertAll.mpr ⟨names.1, texts.1⟩, Mapping.textKeys_insertAll.mpr ⟨names.2, texts.2⟩⟩

/-! ## Loading -/

end StyleRules.Registry
