import StyleRules.Proofs.Transform.Steady

/-!
# Asking the matchers of an engine

The matchers of an engine share its cache.  As long as the keys of their calls tell different work apart, every
matcher answers as it would if nothing were remembered.
-/

namespace StyleRules

namespace Engine

variable {base e : Engine} {calls : Calls} {name : String} {parameters : List (Value × Value)}
  {useCache element : Value}

/-- What an element is decided by when nothing is remembered. -/
def freshAccepts (e : Engine) (name : String) (parameters : List (Value × Value)) (element : Value) :
    Bool :=
  match Xml.ofElement element with
  | .error _ => false
  | .ok xml =>
    match e.freshResult (.str xml) (.str name) (.map parameters) .null with
    | .error _ => false
    | .ok result => !result.value.isNull && Verdict.ofOutput result.value

/-- What a matcher answers when nothing is remembered. -/
def freshAnswer (e : Engine) (matcher element : Value) : Outcome Value :=
  match matcher with
  | .matcher (.transform (.str name) parameters _) =>
    .ok (.bool (e.freshAccepts name parameters element))
  | other => other.matches element

/-- Every call that the matcher makes to decide an element is in the set. -/
def Covers (calls : Calls) (matcher element : Value) : Prop :=
  ∀ template parameters useCache, matcher = .matcher (.transform template parameters useCache) →
    ∃ name, template = .str name ∧
      ∀ xml, Xml.ofElement element = .ok xml → calls xml name parameters

/-- What is asked of the calls of a run: the engine runs stylesheets, keys tell different work apart, and
parameters are plain. -/
structure Admissible (base : Engine) (calls : Calls) : Prop where
  runsSheets : ∀ xml name parameters, calls xml name parameters → RunsSheet base name
  separate : KeysSeparate calls
  plain : ∀ xml name parameters, calls xml name parameters → PlainParameters parameters

theorem Steady.accepts (steady : Steady base calls e) (admissible : Admissible base calls)
    (areCalls : ∀ xml, Xml.ofElement element = .ok xml → calls xml name parameters) :
    ∃ changed,
      (Engine.accepts (.str name) parameters useCache element).perform e =
          (.ok (base.freshAccepts name parameters element), changed) ∧
        Steady base calls changed := by
  rw [Engine.accepts, freshAccepts]
  cases written : Xml.ofElement element with
  | error reason => exact ⟨e, rfl, steady⟩
  | ok xml =>
      obtain ⟨changed, performed, still⟩ := steady.transform admissible.runsSheets
        admissible.separate admissible.plain (areCalls xml written) useCache
      dsimp only
      rw [Action.perform_bind_ok (Action.perform_attempt _ e), performed]
      cases base.freshResult (.str xml) (.str name) (.map parameters) .null with
      | error reason => exact ⟨changed, rfl, still⟩
      | ok result => exact ⟨changed, rfl, still⟩

/-- A matcher of covered calls answers as if nothing were remembered. -/
theorem Steady.ask {matcher : Value} (steady : Steady base calls e)
    (admissible : Admissible base calls) (covers : Covers calls matcher element) :
    ∃ changed,
      (Engine.ask matcher element).perform e = (base.freshAnswer matcher element, changed) ∧
        Steady base calls changed := by
  by_cases isTransform : ∃ template parameters useCache,
      matcher = .matcher (.transform template parameters useCache)
  · obtain ⟨template, parameters, useCache, rfl⟩ := isTransform
    obtain ⟨name, rfl, areCalls⟩ := covers template parameters useCache rfl
    obtain ⟨changed, performed, still⟩ :=
      @Steady.accepts base e calls name parameters useCache element steady admissible areCalls
    refine ⟨changed, ?_, still⟩
    rw [Engine.ask, Action.perform_bind_ok performed]
    rfl
  · refine ⟨e, ?_, steady⟩
    cases matcher with
    | matcher m =>
        cases m with
        | transform template parameters useCache =>
            exact absurd ⟨template, parameters, useCache, rfl⟩ isTransform
        | _ => rfl
    | _ => rfl

end Engine

end StyleRules
