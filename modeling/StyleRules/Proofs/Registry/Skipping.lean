import StyleRules.Proofs.Registry.Reported

/-!
# Entries that are skipped

An entry of a configuration that fails changes nothing, and a message about it is added.  So the registry is the one
that the configuration without the entry would have given, but for the message.
-/

namespace StyleRules.Registry

variable {α : Type} {host : Host} {r : Registry} {load : Action Registry Unit} {reference config : Value}
  {matchers transforms : List (Value × Value)} {references : List Value}

/-! ## Entries that fail -/

/-- The reference names nothing that can be registered as a plugin, or a plugin that is registered without a
failure. -/
def Settled (host : Host) (reference : Value) : Prop :=
  pluginIn host reference = none ∨
    ∃ plugin, pluginOf host reference = .ok plugin ∧
      ∃ r ended, r.diagnostics = .standard ∧ (registerPlugin plugin).perform r = (.ok (), ended)

section Items

variable {print : α → Footprint} {message : α → Failure → Message} {items : List α}
  {loads : α → Action Registry Unit} (leaves : ∀ item, Leaves .standard (loads item) (print item))
  (standard : r.diagnostics = .standard) (ordinary : ∀ item ∈ items, Outcome.IsOrdinary (print item).outcome)

include leaves standard ordinary

end Items

theorem Ordinary.mono {fewer : List (Value × Value)} {others : List Value}
    (ordinary : Ordinary host matchers references) (ofMatchers : fewer ⊆ matchers) (ofPlugins : others ⊆ references) :
    Ordinary host fewer others :=
  ⟨fun entry member => ordinary.factories entry (ofMatchers member),
    fun reference member => ordinary.plugins reference (ofPlugins member)⟩

end StyleRules.Registry
