import StyleRules.Proofs.Registry.History
import StyleRules.Proofs.Registry.Strategies
import StyleRules.Proofs.Transform.Calls
import StyleRules.Proofs.Transform.Templates

/-!
# Failures that escape a result

Resolving a rule is meant to report every failure in its result.  The route of registered types does so.  On
the stylesheet route parameters that cannot be copied reach the constructor of the matcher, and on the route
of the strategies answers are read outside of the part that is guarded; these failures escape.
-/

namespace StyleRules.Registry

variable {r : Registry} {d : Diagnostics} {options : Value}

/-! ## The stylesheet route -/

/-- The parameters that a rule hands to the matcher of its template. -/
def ruleParameters (entries : List (Value × Value)) : Value :=
  ((Mapping.get? "parameters" entries).getD .null).orElse (.map [])

/-- The rule options are a mapping, and their parameters can be copied when there are any. -/
def ParametersReadable (options : Value) : Prop :=
  ∃ entries, options = .map entries ∧ (ruleParameters entries).Copyable

/-- A failure on the stylesheet route escapes: the template cannot be loaded and the diagnostics cannot word
this, or the template is there and the parameters of the rule cannot be read. -/
def TransformEscapes (d : Diagnostics) (host : Host) (e : Engine) (registered : RegisteredTransform)
    (name options : Value) : Prop :=
  (∃ reason escaped,
      ((ensureTemplate host name registered.path).perform e).1 = .error reason ∧
        d.transformFailed registered.path (.failure reason) = .error escaped) ∨
    ((ensureTemplate host name registered.path).perform e).1 = .ok () ∧ ¬ParametersReadable options

theorem orElse_orElse (v : Value) : (v.orElse (.map [])).orElse (.map []) = v.orElse (.map []) := by
  by_cases isTrue : v.truthy = true
  · simp [Value.orElse, isTrue]
  · simp [Value.orElse, isTrue]

/-- A failure without recovery has no value and one message, whatever a handler says. -/
theorem failed_ok {d : Diagnostics} {fault : Fault} {text : String} {result : Result Value}
    (worded : d.failed fault text = .ok result) :
    ∃ shown, result = ⟨.null, [⟨Message.errorKind, shown, Cause.ofValue fault.cause⟩]⟩ := by
  rw [Diagnostics.failed] at worded
  obtain ⟨handler, _, worded⟩ := Outcome.bind_ok worded
  cases handler with
  | none =>
      cases worded
      exact ⟨text, rfl⟩
  | some handler =>
      obtain ⟨handled, _, worded⟩ := Outcome.bind_ok worded
      obtain ⟨message, _, worded⟩ := Outcome.bind_ok worded
      cases worded
      exact ⟨message.text, rfl⟩

theorem failed_value {d : Diagnostics} {fault : Fault} {text : String} {result : Result Value}
    (worded : d.failed fault text = .ok result) : result.value = .null := by
  obtain ⟨shown, rfl⟩ := failed_ok worded
  rfl

/-- The engine makes a matcher of a template that is there by copying the parameters. -/
theorem createMatcher_settings {e : Engine} {name : String} {template : EngineTemplate}
    (registered : RegisteredTransform) (entries : List (Value × Value))
    (present : Mapping.find? (.str name) e.templates = some template) :
    (do e.createMatcher (.str name) (← transformSettings registered (.map entries))) =
      (ruleParameters entries).toEntries.map fun parameters =>
        Result.success (.matcher (.transform (.str name) parameters (.bool registered.caching))) := by
  have settings : transformSettings registered (.map entries) =
      .ok (.ofFields [("parameters", ruleParameters entries),
        ("use_cache", .bool registered.caching)]) := rfl
  have made : Matcher.ofTransform (.str name) (.ofFields [("parameters", ruleParameters entries),
      ("use_cache", .bool registered.caching)]) =
        (ruleParameters entries).toEntries.map fun parameters =>
          Matcher.transform (.str name) parameters (.bool registered.caching) := by
    have copied : (ruleParameters entries).orElse (.map []) = ruleParameters entries :=
      orElse_orElse _
    have read : Matcher.ofTransform (.str name)
        (.ofFields [("parameters", ruleParameters entries),
          ("use_cache", .bool registered.caching)]) = (do
        let parameters ← ((ruleParameters entries).orElse (.map [])).toEntries
        return .transform (.str name) parameters (.bool registered.caching)) := rfl
    rw [read, copied]
    rfl
  have found : e.createMatcher (.str name) (.ofFields [("parameters", ruleParameters entries),
      ("use_cache", .bool registered.caching)]) = (do
      return .success (.matcher (← Matcher.ofTransform (.str name)
        (.ofFields [("parameters", ruleParameters entries),
          ("use_cache", .bool registered.caching)])))) := by
    rw [Engine.createMatcher, Engine.template?, Value.lookIn_str, present]
    rfl
  rw [settings]
  refine found.trans ?_
  rw [made]
  cases (ruleParameters entries).toEntries <;> rfl

theorem createMatcher_settings_error_iff {e : Engine} {name : String} {template : EngineTemplate}
    (registered : RegisteredTransform) (options : Value)
    (present : Mapping.find? (.str name) e.templates = some template) :
    (∃ reason, (do e.createMatcher (.str name) (← transformSettings registered options)) =
        (.error reason : Outcome (Result Value))) ↔ ¬ParametersReadable options := by
  by_cases isMapping : ∃ entries, options = .map entries
  · obtain ⟨entries, rfl⟩ := isMapping
    have readable : ParametersReadable (.map entries) ↔
        ∃ copied, (ruleParameters entries).toEntries = .ok copied := by
      rw [Value.toEntries_ok_iff, ParametersReadable]
      exact ⟨fun ⟨_, same, copyable⟩ => Value.map.inj same ▸ copyable,
        fun copyable => ⟨entries, rfl, copyable⟩⟩
    rw [createMatcher_settings registered entries present, readable]
    cases (ruleParameters entries).toEntries <;> simp [Except.map]
  · have refused : transformSettings registered options = .error (.misuse .attribute) := by
      cases options <;> first | rfl | exact absurd ⟨_, rfl⟩ isMapping
    rw [refused]
    refine iff_of_true ⟨_, rfl⟩ ?_
    rintro ⟨entries, rfl, _⟩
    exact isMapping ⟨entries, rfl⟩

/-- The stylesheet route fails as a whole exactly when a failure on it escapes. -/
theorem buildTransform_error_iff {e : Engine} {name : String} (host : Host)
    (registered : RegisteredTransform) (options : Value) (bound : r.engine = some e) :
    (∃ reason, ((buildTransform host registered (.str name) options).perform r).1 = .error reason) ↔
      TransformEscapes r.diagnostics host e registered (.str name) options := by
  rw [buildTransform_bound host registered (.str name) options bound, TransformEscapes]
  cases loaded : ((ensureTemplate host (.str name) registered.path).perform e).1 with
  | error reason => simp
  | ok value =>
      obtain ⟨template, present⟩ := Engine.ensureTemplate_ok loaded
      simp only [reduceCtorEq, false_and, exists_false, true_and, false_or]
      exact createMatcher_settings_error_iff registered options present

theorem buildTransform_unbound_ok (host : Host) (registered : RegisteredTransform)
    (type options : Value) (noEngine : r.engine = none) :
    ¬∃ reason, ((buildTransform host registered type options).perform r).1 = .error reason := by
  rw [buildTransform_unbound host registered type options noEngine]
  rintro ⟨reason, impossible⟩
  cases impossible

/-! ## After any history -/

/-- Whatever calls a new registry has seen, resolving a rule fails as a whole on two routes only: for a type
without a direct registration, when a failure escapes on the stylesheet route of a registry with an engine,
or when the chain of strategies fails.  In all other cases the failure is part of a result. -/
theorem createMatcher_error_iff (engine : Option Engine) (d : Diagnostics) (installFallbacks : Bool)
    (history : List Operation) (host : Host) (name : String) (options : Value) :
    let r := reached engine d installFallbacks history
    let given := options.orElse (.map [])
    (∃ reason, ((createMatcher host (.str name) options).perform r).1 = .error reason) ↔
      lastDirect d history name = none ∧
        ((∃ registered e, lastTransform d history name = some registered ∧ r.engine = some e ∧
            TransformEscapes d host e registered (.str name) given) ∨
          lastTransform d history name = none ∧ r.ChainFails (.str name) given r.strategies) := by
  intro r given
  have direct : Mapping.find? (.str name) r.matchers = lastDirect d history name :=
    find?_matchers_reached history
  have others : Mapping.find? (.str name) r.transforms = lastTransform d history name :=
    find?_transforms_reached history
  have diagnostics : r.diagnostics = d := diagnostics_reached history
  rw [← direct, ← others]
  cases isDirect : Mapping.find? (.str name) r.matchers with
  | some registered =>
      rw [createMatcher_direct host options isDirect]
      refine iff_of_false ?_ ?_
      · rintro ⟨reason, impossible⟩
        cases impossible
      · rintro ⟨impossible, _⟩
        cases impossible
  | none =>
      rw [and_iff_right rfl]
      cases isTransform : Mapping.find? (.str name) r.transforms with
      | none =>
          rw [createMatcher_fallback host options isDirect isTransform, askStrategies_error_iff]
          constructor
          · exact fun fails => Or.inr ⟨rfl, fails⟩
          · rintro (⟨registered, e, impossible, _⟩ | ⟨_, fails⟩)
            · cases impossible
            · exact fails
      | some registered =>
          rw [createMatcher_transform host options isDirect isTransform]
          cases bound : r.engine with
          | none =>
              refine iff_of_false (buildTransform_unbound_ok host registered _ _ bound) ?_
              rintro (⟨known, e, _, impossible, _⟩ | ⟨impossible, _⟩)
              · cases impossible
              · cases impossible
          | some e =>
              rw [buildTransform_error_iff host registered _ bound, diagnostics]
              constructor
              · exact fun escapes => Or.inl ⟨registered, e, rfl, rfl, escapes⟩
              · rintro (⟨known, other, sameType, sameEngine, escapes⟩ | ⟨impossible, _⟩)
                · cases sameType
                  cases sameEngine
                  exact escapes
                · cases impossible

def sheetFolder : Host := { Host.bare with files := [(["h.xsl"], "<heading/>")] }

theorem createMatcher_text_parameters :
    ((createMatcher sheetFolder (.str "fancy") (.ofFields [("parameters", .str "x")])).perform
        (reached (some Engine.initial) .standard true
          [.registerTransform (.str "fancy") (.str "h.xsl") .null])).1 =
      .error (.misuse .value) := by
  rfl

end StyleRules.Registry
