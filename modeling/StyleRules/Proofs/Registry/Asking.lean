import StyleRules.Proofs.Registry.Resolution

/-!
# Asking a matcher

A registry asks a matcher about an element.  A matcher of the engine answers through the engine, and it does not
fail.  All other matchers answer by themselves and leave the registry as it is.
-/

namespace StyleRules

namespace Registry

variable {matcher : Value}

/-- All matchers but those of the engine answer by themselves and leave the registry as it is. -/
theorem ask_by_itself (r : Registry) (element : Value)
    (byItself : ∀ template parameters useCache,
      matcher ≠ .matcher (.transform template parameters useCache)) :
    (ask matcher element).perform r = (matcher.matches element, r) := by
  cases engine : r.engine with
  | none =>
      rw [ask, withEngine, Action.perform_bind_ok (Action.perform_get r), engine]
      rfl
  | some e =>
      have asked : (Engine.ask matcher element).perform e = (matcher.matches element, e) := by
        cases matcher with
        | matcher m =>
            cases m with
            | transform template parameters useCache =>
                exact absurd rfl (byItself template parameters useCache)
            | _ => rfl
        | _ => rfl
      rw [ask, withEngine_perform _ _ engine, asked, ← engine]

theorem detach_ne_transform (v template useCache : Value) (parameters : List (Value × Value)) :
    v.detach ≠ .matcher (.transform template parameters useCache) := by
  cases v with
  | matcher m =>
      intro same
      cases m <;> cases same
  | _ =>
      intro same
      cases same

/-- What a function of a rule gave answers by itself. -/
theorem ask_detached (v element : Value) (r : Registry) :
    (ask v.detach element).perform r = (v.detach.matches element, r) :=
  ask_by_itself r element fun template parameters useCache => detach_ne_transform v template useCache parameters

theorem ask_keeps (matcher element : Value) (r : Registry) :
    ∃ engine, ((ask matcher element).perform r).2 = { r with engine := engine } := by
  cases engine : r.engine with
  | none =>
      refine ⟨r.engine, ?_⟩
      rw [ask, withEngine, Action.perform_bind_ok (Action.perform_get r), engine]
      exact congrArg (fun engine => { r with engine }) engine
  | some e =>
      refine ⟨some ((Engine.ask matcher element).perform e).2, ?_⟩
      rw [ask, withEngine_perform _ _ engine]

/-- The matchers of the engine do not fail. -/
theorem ask_engineMatcher (template useCache element : Value) (parameters : List (Value × Value))
    (r : Registry) :
    ∃ verdict, ((ask (.matcher (.transform template parameters useCache)) element).perform r).1 =
      .ok (.bool verdict) := by
  have accepts (e : Engine) :
      ∃ verdict, ((Engine.accepts template parameters useCache element).perform e).1 = .ok verdict := by
    rw [Engine.accepts]
    cases Xml.ofElement element with
    | error reason => exact ⟨false, rfl⟩
    | ok xml =>
        dsimp only
        rw [Action.perform_bind_ok (Action.perform_attempt _ e)]
        cases ((Engine.transform (.str xml) template (.map parameters) .null useCache).perform e).1 with
        | error reason => exact ⟨false, rfl⟩
        | ok result => exact ⟨_, rfl⟩
  cases engine : r.engine with
  | none =>
      refine ⟨false, ?_⟩
      rw [ask, withEngine, Action.perform_bind_ok (Action.perform_get r), engine]
      rfl
  | some e =>
      obtain ⟨verdict, accepted⟩ := accepts e
      refine ⟨verdict, ?_⟩
      rw [ask, withEngine_perform _ _ engine, Engine.ask,
        Action.perform_bind_ok (Prod.ext accepted rfl)]
      rfl

end Registry

end StyleRules
