import StyleRules.Proofs.Orchestration.Setup
import StyleRules.Proofs.Registry.Asking
import StyleRules.Proofs.Registry.Escaping
import StyleRules.Proofs.Registry.Detached

/-!
# Compiling rules one after the other

Compiling a rule may load the template of its type, and this is all that it leaves behind.  The template is
the one that its file gives, so a rule is compiled to the same result whatever rules were compiled before it.
-/

namespace StyleRules

open Registry

namespace Engine

variable {host : Host} {transforms : List (Value × RegisteredTransform)} {start e : Engine}
  {name : String} {registered : RegisteredTransform}

/-- The second engine came from the first one by ensuring templates of transform types. -/
structure Grown (host : Host) (transforms : List (Value × RegisteredTransform)) (start e : Engine) :
    Prop where
  rest : e = { start with templates := e.templates }
  templates : ∀ name : String,
    Mapping.find? (.str name) e.templates = Mapping.find? (.str name) start.templates ∨
      ∃ registered, Mapping.find? (.str name) transforms = some registered ∧
        Mapping.find? (.str name) e.templates = ensured host start name registered.path

theorem Grown.refl (host : Host) (transforms : List (Value × RegisteredTransform)) (start : Engine) :
    Grown host transforms start start :=
  ⟨rfl, fun _ => Or.inl rfl⟩

theorem Grown.fileText (grown : Grown host transforms start e) (path : Value) :
    e.fileText host path = start.fileText host path := by
  rw [grown.rest]
  rfl

theorem Grown.filed (grown : Grown host transforms start e) (name : String) (path : Value) :
    filed host e name path = filed host start name path := by
  rw [Engine.filed, Engine.filed, grown.fileText, grown.rest]

/-- What a type has once it is ensured does not depend on what was ensured before. -/
theorem Grown.ensured (grown : Grown host transforms start e)
    (found : Mapping.find? (.str name) transforms = some registered) :
    ensured host e name registered.path = ensured host start name registered.path := by
  rcases grown.templates name with same | ⟨other, otherFound, same⟩
  · rw [Engine.ensured, Engine.ensured, same, grown.filed]
  · rw [found] at otherFound
    cases otherFound
    rw [Engine.ensured, same, grown.filed, Engine.ensured, Option.or_assoc, Option.or_self]

/-- The engine keeps the templates that are there. -/
def Extends (e changed : Engine) : Prop :=
  ∀ (name : String) (template : EngineTemplate),
    Mapping.find? (.str name) e.templates = some template →
      Mapping.find? (.str name) changed.templates = some template

theorem Grown.ensure (grown : Grown host transforms start e)
    (found : Mapping.find? (.str name) transforms = some registered) :
    ((ensureTemplate host (.str name) registered.path).perform e).1 =
        ((ensureTemplate host (.str name) registered.path).perform start).1 ∧
      Grown host transforms start
        ((ensureTemplate host (.str name) registered.path).perform e).2 ∧
      Extends e ((ensureTemplate host (.str name) registered.path).perform e).2 ∧
      Mapping.find? (.str name)
          ((ensureTemplate host (.str name) registered.path).perform e).2.templates =
        Engine.ensured host start name registered.path := by
  obtain ⟨templates, changed, after⟩ := ensureTemplate_changes host name registered.path e
  rw [changed]
  refine ⟨?_, ⟨?_, ?_⟩, ?_, ?_⟩
  · rw [ensureTemplate_outcome, ensureTemplate_outcome, grown.ensured found, grown.fileText]
  · rw [grown.rest]
  · intro other
    rw [after other]
    by_cases same : other = name
    · rw [if_pos same, same]
      exact Or.inr ⟨registered, found, grown.ensured found⟩
    · rw [if_neg same]
      exact grown.templates other
  · intro other template known
    rw [after other]
    by_cases same : other = name
    · rw [if_pos same, Engine.ensured, ← same, known]
      rfl
    · rw [if_neg same]
      exact known
  · rw [after name, if_pos rfl]
    exact grown.ensured found

theorem createMatcher_congr {first second : Engine} {template other : EngineTemplate}
    (options : Value) (present : Mapping.find? (.str name) first.templates = some template)
    (alsoPresent : Mapping.find? (.str name) second.templates = some other) :
    first.createMatcher (.str name) options = second.createMatcher (.str name) options := by
  rw [createMatcher, createMatcher, template?, template?, Value.lookIn_str, Value.lookIn_str, present,
    alsoPresent]
  rfl

end Engine

namespace Registry

variable {host : Host} {start r : Registry} {name : String} {options : Value}

/-! ## Strategies and the engine -/

theorem handle_engine (strategy : Strategy) (r : Registry) (engine : Option Engine)
    (type options : Value) :
    strategy.handle { r with engine } type options = strategy.handle r type options := by
  cases strategy <;> rfl

theorem askStrategies_engine (r : Registry) (engine : Option Engine) (type options : Value)
    (kept : List Message) (strategies : List Strategy) :
    ({ r with engine } : Registry).askStrategies type options kept strategies =
      r.askStrategies type options kept strategies := by
  induction strategies generalizing kept with
  | nil => rfl
  | cons strategy rest ih =>
      rw [askStrategies.eq_def, askStrategies.eq_def]
      simp only [handle_engine, ih]

/-! ## Matchers of the engine -/

/-- The result holds a matcher of the engine. -/
def EngineMatcher (result : Result Value) (template : Value) (parameters : List (Value × Value)) :
    Prop :=
  ∃ useCache, result.value = .matcher (.transform template parameters useCache)

theorem build_not_engineMatcher (registered : RegisteredMatcher) (type options template : Value)
    (parameters : List (Value × Value)) :
    ¬EngineMatcher (build registered type options) template parameters := by
  rintro ⟨useCache, bound⟩
  rw [build] at bound
  split at bound
  · cases bound
  · cases bound
  · split at bound
    · cases bound
    · exact detach_ne_transform _ _ _ _ bound

theorem buildTransform_engineMatcher {e : Engine} {registered : RegisteredTransform}
    {result : Result Value} {template : Value} {parameters : List (Value × Value)}
    (engine : r.engine = some e)
    (made : ((buildTransform host registered (.str name) options).perform r).1 = .ok result)
    (bound : EngineMatcher result template parameters) :
    template = .str name ∧ (Engine.ensured host e name registered.path).isSome ∧
      ∃ entries, options = .map entries ∧ (ruleParameters entries).toEntries = .ok parameters := by
  rw [buildTransform_bound host registered _ _ engine] at made
  obtain ⟨useCache, bound⟩ := bound
  cases loaded : ((ensureTemplate host (.str name) registered.path).perform e).1 with
  | error reason =>
      rw [loaded] at made
      rw [failed_value made] at bound
      cases bound
  | ok value =>
      rw [loaded] at made
      obtain ⟨present, isPresent⟩ := Engine.ensureTemplate_ok loaded
      obtain ⟨entries, rfl⟩ : ∃ entries, options = .map entries := by
        obtain ⟨settings, read, _⟩ := Outcome.bind_ok made
        cases options with
        | map entries => exact ⟨entries, rfl⟩
        | _ => cases read
      have copied := (createMatcher_settings registered entries isPresent).symm.trans made
      cases read : (ruleParameters entries).toEntries with
      | error reason =>
          rw [read] at copied
          cases copied
      | ok copy =>
          rw [read] at copied
          cases copied
          cases bound
          exact ⟨rfl, Option.isSome_iff_exists.mpr (Engine.ensured_of_ok loaded), entries, rfl, read⟩

/-- A matcher of the engine comes from the stylesheet route: its template is the one that the type has once it
is ensured, and its parameters are those of the rule. -/
theorem createMatcher_engineMatcher {result : Result Value} {template : Value}
    {parameters : List (Value × Value)} (detached : ∀ strategy ∈ r.strategies, strategy.Detached)
    (made : ((createMatcher host (.str name) options).perform r).1 = .ok result)
    (bound : EngineMatcher result template parameters) :
    template = .str name ∧ Mapping.find? (.str name) r.matchers = none ∧
      ∃ registered e entries, Mapping.find? (.str name) r.transforms = some registered ∧
        r.engine = some e ∧ options.orElse (.map []) = .map entries ∧
          (ruleParameters entries).toEntries = .ok parameters ∧
            (Engine.ensured host e name registered.path).isSome ∧
              ((createMatcher host (.str name) options).perform r).2 =
                { r with
                  engine := some ((ensureTemplate host (.str name) registered.path).perform e).2 } := by
  cases direct : Mapping.find? (.str name) r.matchers with
  | some registered =>
      rw [createMatcher_direct host options direct] at made
      cases made
      exact absurd bound (build_not_engineMatcher _ _ _ _ _)
  | none =>
      cases others : Mapping.find? (.str name) r.transforms with
      | none =>
          rw [createMatcher_fallback host options direct others] at made
          obtain ⟨useCache, bound⟩ := bound
          obtain ⟨given, isDetached⟩ := detached_askStrategies detached made
          exact absurd (isDetached.symm.trans bound) (detach_ne_transform _ _ _ _)
      | some registered =>
          rw [createMatcher_transform host options direct others] at made ⊢
          cases engine : r.engine with
          | none =>
              rw [buildTransform_unbound host registered _ _ engine] at made
              cases made
              obtain ⟨useCache, bound⟩ := bound
              cases bound
          | some e =>
              obtain ⟨isTemplate, there, entries, isEntries, copied⟩ :=
                buildTransform_engineMatcher engine made bound
              refine ⟨isTemplate, rfl, registered, e, entries, rfl, rfl, isEntries, copied, there, ?_⟩
              rw [buildTransform_bound host registered _ _ engine]

/-! ## One rule -/

/-- The second registry came from the first one by compiling rules. -/
def Compiling (host : Host) (start r : Registry) : Prop :=
  start.engine = none ∧ r = start ∨
    ∃ before e, start.engine = some before ∧ r = { start with engine := some e } ∧
      Engine.Grown host start.transforms before e

theorem Compiling.refl (host : Host) (start : Registry) : Compiling host start start := by
  cases engine : start.engine with
  | none => exact Or.inl ⟨engine, rfl⟩
  | some before =>
      refine Or.inr ⟨before, before, engine, ?_, Engine.Grown.refl host _ before⟩
      rw [← engine]

theorem Compiling.strategies (compiling : Compiling host start r) : r.strategies = start.strategies := by
  rcases compiling with ⟨_, rfl⟩ | ⟨_, _, _, rfl, _⟩
  · rfl
  · rfl

def KeepsTemplates (r changed : Registry) : Prop :=
  ∀ e, r.engine = some e → ∃ later, changed.engine = some later ∧ Engine.Extends e later

theorem KeepsTemplates.refl (r : Registry) : KeepsTemplates r r :=
  fun e bound => ⟨e, bound, fun _ _ known => known⟩

theorem KeepsTemplates.trans {first second third : Registry} (before : KeepsTemplates first second)
    (next : KeepsTemplates second third) : KeepsTemplates first third := by
  intro e bound
  obtain ⟨middle, middleBound, kept⟩ := before e bound
  obtain ⟨last, lastBound, keptAgain⟩ := next middle middleBound
  exact ⟨last, lastBound, fun name template known =>
    keptAgain name template (kept name template known)⟩

theorem createMatcher_without_engine (host : Host) (name : String) (options : Value)
    (noEngine : r.engine = none) : ((createMatcher host (.str name) options).perform r).2 = r := by
  cases direct : Mapping.find? (.str name) r.matchers with
  | some registered => rw [createMatcher_direct host options direct]
  | none =>
      cases others : Mapping.find? (.str name) r.transforms with
      | none => rw [createMatcher_fallback host options direct others]
      | some registered =>
          rw [createMatcher_transform host options direct others,
            buildTransform_unbound host registered _ _ noEngine]

/-- A rule is compiled to the same result whatever was compiled before it. -/
theorem Compiling.createMatcher (compiling : Compiling host start r) (name : String)
    (options : Value) :
    ((createMatcher host (.str name) options).perform r).1 =
        ((createMatcher host (.str name) options).perform start).1 ∧
      Compiling host start ((createMatcher host (.str name) options).perform r).2 ∧
        KeepsTemplates r ((createMatcher host (.str name) options).perform r).2 := by
  rcases compiling with ⟨noEngine, rfl⟩ | ⟨before, e, engine, rfl, grown⟩
  · rw [createMatcher_without_engine host name options noEngine]
    exact ⟨rfl, Or.inl ⟨noEngine, rfl⟩, KeepsTemplates.refl _⟩
  · cases direct : Mapping.find? (.str name) start.matchers with
    | some registered =>
        rw [createMatcher_direct host options direct,
          @createMatcher_direct { start with engine := some e } name registered host options direct]
        exact ⟨rfl, Or.inr ⟨before, e, engine, rfl, grown⟩, KeepsTemplates.refl _⟩
    | none =>
        cases others : Mapping.find? (.str name) start.transforms with
        | none =>
            rw [createMatcher_fallback host options direct others,
              @createMatcher_fallback { start with engine := some e } name host options direct others]
            exact ⟨askStrategies_engine start (some e) _ _ _ _,
              Or.inr ⟨before, e, engine, rfl, grown⟩, KeepsTemplates.refl _⟩
        | some registered =>
            rw [createMatcher_transform host options direct others,
              @createMatcher_transform { start with engine := some e } name registered host options
                direct others,
              buildTransform_bound host registered _ _ engine,
              buildTransform_bound host registered _ _ rfl]
            obtain ⟨outcome, grownMore, kept, found⟩ := grown.ensure others
            refine ⟨?_, Or.inr ⟨before, _, engine, rfl, grownMore⟩, ?_⟩
            · rw [outcome]
              cases loaded : ((ensureTemplate host (.str name) registered.path).perform before).1 with
              | error reason => rfl
              | ok value =>
                  obtain ⟨template, present⟩ := Engine.ensureTemplate_ok loaded
                  obtain ⟨other, alsoPresent⟩ := Engine.ensureTemplate_ok (outcome.trans loaded)
                  exact congrArg (transformSettings registered (options.orElse (.map [])) >>= ·)
                    (funext fun settings => Engine.createMatcher_congr settings alsoPresent present)
            · intro known bound
              cases bound
              exact ⟨_, rfl, kept⟩

/-- The engine has the template of a type, and it is the one that the type has when nothing else is
compiled. -/
def Ready (host : Host) (start last : Registry) (name : String) : Prop :=
  ∃ registered before e template, Mapping.find? (.str name) start.transforms = some registered ∧
    start.engine = some before ∧ last.engine = some e ∧
      Engine.ensured host before name registered.path = some template ∧
        Mapping.find? (.str name) e.templates = some template

theorem Ready.mono {last later : Registry} (ready : Ready host start last name)
    (keeps : KeepsTemplates last later) : Ready host start later name := by
  obtain ⟨registered, before, e, template, found, engine, bound, ensured, present⟩ := ready
  obtain ⟨changed, laterBound, kept⟩ := keeps e bound
  exact ⟨registered, before, changed, template, found, engine, laterBound, ensured,
    kept name template present⟩

/-- A rule that is compiled to a matcher of the engine leaves its template there. -/
theorem Compiling.ready {result : Result Value} {template : Value}
    {parameters : List (Value × Value)} (compiling : Compiling host start r)
    (detached : ∀ strategy ∈ start.strategies, strategy.Detached)
    (made : ((Registry.createMatcher host (.str name) options).perform r).1 = .ok result)
    (bound : EngineMatcher result template parameters) :
    Ready host start ((Registry.createMatcher host (.str name) options).perform r).2 name := by
  obtain ⟨_, _, registered, e, _, found, engine, _, _, isSome, ended⟩ :=
    createMatcher_engineMatcher (compiling.strategies ▸ detached) made bound
  rcases compiling with ⟨noEngine, rfl⟩ | ⟨before, grownEngine, startEngine, rfl, grown⟩
  · rw [noEngine] at engine
    cases engine
  · cases engine
    obtain ⟨_, _, _, present⟩ := grown.ensure found
    rw [grown.ensured found] at isSome
    obtain ⟨there, isThere⟩ := Option.isSome_iff_exists.mp isSome
    refine ⟨registered, before, _, there, found, startEngine, congrArg Registry.engine ended, isThere, ?_⟩
    rw [present, isThere]

end Registry

namespace Orchestrator

/-- A rule was compiled to the result that it has alone, and is ready to be asked. -/
def CompiledAlone (host : Host) (start last : Registry) (rule : Value) (compiled : CompiledRule) :
    Prop :=
  ∃ name options, rule.option "type" = .ok (.str name) ∧ rule.option "options" = .ok options ∧
    ((createMatcher host (.str name) options).perform start).1 = .ok compiled.result ∧
      ∀ template parameters, EngineMatcher compiled.result template parameters →
        Ready host start last name

variable {host : Host} {start r last : Registry}

end Orchestrator

end StyleRules
