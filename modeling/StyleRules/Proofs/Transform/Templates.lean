import StyleRules.Proofs.Registry.Resolution
import StyleRules.Proofs.Value.TextKeys

/-!
# Loading the template of a type

The template of a type is loaded when a rule of the type is first resolved.  It is read from a file, and
stays in the table of the engine from then on.
-/

namespace StyleRules

open Registry

def EngineTemplate.ofFile (name : String) (text : String) (processor : Value) : EngineTemplate :=
  ⟨.str name, .str text, processor, [], [], .str "1.0"⟩

namespace Engine

variable {e : Engine} {host : Host} {name : String} {path : Value}

def fileText (e : Engine) (host : Host) (path : Value) : Outcome (Option String) := do
  e.findFile host (← path.toPath)

/-- Loading a template without options either writes it into the table or changes nothing. -/
theorem loadTemplate_perform (host : Host) (name : String) (path : Value) (e : Engine) :
    (loadTemplate host (.str name) path {}).perform e =
      match e.fileText host path with
      | .ok (some text) =>
        (.ok (), { e with
          templates := Mapping.insert (.str name) (.ofFile name text e.defaultProcessor) e.templates })
      | .ok none => (.error (.stylesheetNotFound path.text), e)
      | .error reason => (.error reason, e) := by
  rw [loadTemplate, fileText]
  cases readable : path.toPath with
  | error reason =>
      rw [Action.perform_bind_error (Action.perform_ofOutcome _ e)]
      rfl
  | ok tidy =>
      rw [Action.perform_bind_ok (Action.perform_ofOutcome _ e),
        Action.perform_bind_ok (Action.perform_get e)]
      cases found : e.findFile host tidy with
      | error reason =>
          rw [Action.perform_bind_error (Action.perform_ofOutcome _ e)]
          simp [bind, Except.bind, found]
      | ok text =>
          rw [Action.perform_bind_ok (Action.perform_ofOutcome _ e)]
          cases text with
          | none => simp [bind, Except.bind, found]
          | some text =>
              simp only [bind, Except.bind, found]
              rfl

theorem ensureTemplate_present {template : EngineTemplate} (host : Host) (path : Value)
    (present : Mapping.find? (.str name) e.templates = some template) :
    (ensureTemplate host (.str name) path).perform e = (.ok (), e) := by
  rw [ensureTemplate, Action.perform_bind_ok (Action.perform_get e), template?, Value.lookIn_str,
    present]
  rfl

theorem ensureTemplate_missing (host : Host) (path : Value)
    (missing : Mapping.find? (.str name) e.templates = none) :
    (ensureTemplate host (.str name) path).perform e =
      (loadTemplate host (.str name) path {}).perform e := by
  rw [ensureTemplate, Action.perform_bind_ok (Action.perform_get e), template?, Value.lookIn_str,
    missing]
  rfl

/-- The template that the file at a path defines. -/
def filed (host : Host) (e : Engine) (name : String) (path : Value) : Option EngineTemplate :=
  match e.fileText host path with
  | .ok (some text) => some (.ofFile name text e.defaultProcessor)
  | _ => none

/-- The template that a type has once it is ensured: the one that is there, or else the one that the file at
the path defines. -/
def ensured (host : Host) (e : Engine) (name : String) (path : Value) : Option EngineTemplate :=
  (Mapping.find? (.str name) e.templates).or (filed host e name path)

/-- Ensuring a template succeeds exactly when there is one then. -/
theorem ensureTemplate_outcome (host : Host) (name : String) (path : Value) (e : Engine) :
    ((ensureTemplate host (.str name) path).perform e).1 =
      match ensured host e name path with
      | some _ => .ok ()
      | none =>
        match e.fileText host path with
        | .ok _ => .error (.stylesheetNotFound path.text)
        | .error reason => .error reason := by
  rw [ensured, filed]
  cases known : Mapping.find? (.str name) e.templates with
  | some template => rw [ensureTemplate_present host path known]; rfl
  | none =>
      rw [ensureTemplate_missing host path known, loadTemplate_perform]
      cases e.fileText host path with
      | error reason => rfl
      | ok text => cases text <;> rfl

/-- Ensuring a template changes the table of templates, and there the one type only. -/
theorem ensureTemplate_changes (host : Host) (name : String) (path : Value) (e : Engine) :
    ∃ templates,
      ((ensureTemplate host (.str name) path).perform e).2 = { e with templates } ∧
        ∀ other : String, Mapping.find? (.str other) templates =
          if other = name then ensured host e name path
          else Mapping.find? (.str other) e.templates := by
  have kept (missing : ensured host e name path = Mapping.find? (.str name) e.templates)
      (other : String) : Mapping.find? (.str other) e.templates =
        if other = name then ensured host e name path
        else Mapping.find? (.str other) e.templates := by
    by_cases same : other = name
    · rw [if_pos same, missing, same]
    · rw [if_neg same]
  cases known : Mapping.find? (.str name) e.templates with
  | some template =>
      refine ⟨e.templates, ?_, kept ?_⟩
      · rw [ensureTemplate_present host path known]
      · rw [ensured, known]
        rfl
  | none =>
      rw [ensureTemplate_missing host path known, loadTemplate_perform]
      cases read : e.fileText host path with
      | error reason =>
          refine ⟨e.templates, rfl, kept ?_⟩
          rw [ensured, known, filed, read]
          rfl
      | ok text =>
          cases text with
          | none =>
              refine ⟨e.templates, rfl, kept ?_⟩
              rw [ensured, known, filed, read]
              rfl
          | some text =>
              refine ⟨_, rfl, ?_⟩
              intro other
              rw [Mapping.find?_insert, ensured, known, filed, read]
              by_cases same : other = name
              · rw [if_pos same, if_pos (by simp [same])]
                rfl
              · rw [if_neg same, if_neg (by simpa using Ne.symm same)]

theorem ensured_of_ok
    (loaded : ((ensureTemplate host (.str name) path).perform e).1 = .ok ()) :
    ∃ template, ensured host e name path = some template := by
  rw [ensureTemplate_outcome] at loaded
  cases there : ensured host e name path with
  | some template => exact ⟨template, rfl⟩
  | none =>
      rw [there] at loaded
      cases read : e.fileText host path <;> rw [read] at loaded <;> cases loaded

theorem ensureTemplate_ok
    (loaded : ((ensureTemplate host (.str name) path).perform e).1 = .ok ()) :
    ∃ template,
      Mapping.find? (.str name) ((ensureTemplate host (.str name) path).perform e).2.templates =
        some template := by
  obtain ⟨templates, changed, found⟩ := ensureTemplate_changes host name path e
  rw [changed, found name, if_pos rfl]
  exact ensured_of_ok loaded

end Engine

end StyleRules
