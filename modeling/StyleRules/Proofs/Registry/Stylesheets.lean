import StyleRules.Proofs.Registry.Escaping
import StyleRules.Proofs.Transform.Steady

/-!
# Which stylesheet decides a type

A type that a stylesheet decides has an entry in two tables: the registry keeps the path of the stylesheet, and
the engine keeps the template that it read from the file.  Registering a path writes the first table only, and
a rule of the type reads the file only while the second one has no template of that name.  So a template that
is there stays, and the path that decides is the one that was registered when the file was first read.
-/

namespace StyleRules

open Registry

namespace Engine

variable {e : Engine} {host : Host} {name : String}

theorem filed_eq_some_iff {path : Value} {template : EngineTemplate} :
    e.filed host name path = some template ↔
      ∃ text, e.fileText host path = .ok (some text) ∧
        template = .ofFile name text e.defaultProcessor := by
  rw [filed]
  cases e.fileText host path with
  | error reason => simp
  | ok text => cases text <;> simp [eq_comm]

/-! ## Ensuring the template of any type -/

/-- An engine with the tables of another one, where only templates of other types may have been written. -/
def OthersWritten (e : Engine) (name : String) (changed : Engine) : Prop :=
  ∃ templates, changed = { e with templates } ∧
    Mapping.find? (.str name) templates = Mapping.find? (.str name) e.templates

theorem keepsOthers_registerTemplate {type : Value} (isOther : type ≠ .str name) (body : Value)
    (options : TemplateOptions) :
    (registerTemplate type body options).Keeps (OthersWritten e name) := by
  refine (Action.Keeps.ofOutcome _).bind fun _ => ?_
  refine (Action.Keeps.ofOutcome _).bind fun _ => ?_
  have writes (template : Engine → EngineTemplate) :
      Action.Keeps (OthersWritten e name)
        (modify fun e => { e with templates := Mapping.insert type (template e) e.templates }) := by
    refine Action.Keeps.modify ?_
    rintro _ ⟨templates, rfl, same⟩
    refine ⟨_, rfl, ?_⟩
    rw [Mapping.find?_insert, if_neg (by simpa using isOther), same]
  by_cases isKey : (!type.isKey) = true
  · rw [if_pos isKey]
    exact (Action.Keeps.throw _).bind fun _ => writes _
  · rw [if_neg isKey]
    exact writes _

theorem keepsOthers_ensureTemplate {type : Value} (isOther : type ≠ .str name) (host : Host)
    (path : Value) : (ensureTemplate host type path).Keeps (OthersWritten e name) := by
  refine Action.Keeps.get.bind fun _ => (Action.Keeps.ofOutcome _).bind fun known => ?_
  cases known with
  | some template => exact Action.Keeps.pure ()
  | none =>
      refine (Action.Keeps.ofOutcome _).bind fun _ => Action.Keeps.get.bind fun _ => ?_
      refine (Action.Keeps.ofOutcome _).bind fun text => ?_
      cases text with
      | none => exact Action.Keeps.throw _
      | some text => exact keepsOthers_registerTemplate isOther _ _

theorem ensureTemplate_settles (host : Host) (type path : Value) (e : Engine) (name : String) :
    ∃ templates,
      ((ensureTemplate host type path).perform e).2 = { e with templates } ∧
        Mapping.find? (.str name) templates =
          if type.eq (.str name) then ensured host e name path
          else Mapping.find? (.str name) e.templates := by
  by_cases isName : type = .str name
  · subst isName
    obtain ⟨templates, changed, found⟩ := ensureTemplate_changes host name path e
    refine ⟨templates, changed, ?_⟩
    rw [found name, if_pos rfl, if_pos (by simp)]
  · obtain ⟨templates, changed, same⟩ :=
      keepsOthers_ensureTemplate isName host path e ⟨e.templates, rfl, rfl⟩
    refine ⟨templates, changed, ?_⟩
    rw [same, if_neg (by simpa using isName)]

end Engine

namespace Registry

variable {host : Host} {r : Registry} {e : Engine} {d : Diagnostics} {name : String}
  {known : Option RegisteredTransform} {history : List Operation}

/-- The calls that register stylesheets and resolve rules, with one state of the files. -/
inductive Operation.OfSheets (host : Host) : Operation → Prop where
  | register (type path options : Value) : OfSheets host (.registerTransform type path options)
  | resolve (type options : Value) : OfSheets host (.createMatcher host type options)

/-- The registration whose file a call reads, when the registry knows the type by `known` and the engine has no
template of it: the call resolves a rule of the type, and the file is there. -/
def Operation.reads (files : Value → Option EngineTemplate) (name : String)
    (known : Option RegisteredTransform) : Operation → Option RegisteredTransform
  | .createMatcher _ type _ =>
    if type.eq (.str name) then known.filter fun registered => (files registered.path).isSome
    else none
  | _ => none

/-- The registration whose file the calls of a history read first. -/
def firstRead (files : Value → Option EngineTemplate) (d : Diagnostics) (name : String) :
    Option RegisteredTransform → List Operation → Option RegisteredTransform
  | _, [] => none
  | known, operation :: rest =>
    (operation.reads files name known).or
      (firstRead files d name ((operation.transform d name).or known) rest)

/-! ## One call -/

theorem buildTransform_settles (host : Host) (registered : RegisteredTransform) (type given : Value)
    (bound : r.engine = some e) (name : String) :
    ∃ templates,
      ((buildTransform host registered type given).perform r).2 =
          { r with engine := some { e with templates } } ∧
        Mapping.find? (.str name) templates =
          if type.eq (.str name) then Engine.ensured host e name registered.path
          else Mapping.find? (.str name) e.templates := by
  obtain ⟨templates, changed, found⟩ :=
    Engine.ensureTemplate_settles host type registered.path e name
  refine ⟨templates, ?_, found⟩
  rw [buildTransform_bound host registered type given bound, changed]

/-- Resolving a rule of another type leaves the template of a type as it is. -/
theorem createMatcher_other (host : Host) {type : Value} (options : Value) (bound : r.engine = some e)
    (isOther : type ≠ .str name) :
    ∃ templates,
      ((createMatcher host type options).perform r).2 =
          { r with engine := some { e with templates } } ∧
        Mapping.find? (.str name) templates = Mapping.find? (.str name) e.templates := by
  have unchanged : r = { r with engine := some { e with templates := e.templates } } := by rw [← bound]
  rw [createMatcher, Action.perform_bind_ok (Action.perform_get r)]
  dsimp only
  cases type.lookIn r.matchers with
  | error reason => exact ⟨e.templates, unchanged, rfl⟩
  | ok direct =>
      rw [Action.perform_bind_ok (Action.perform_ofOutcome _ r)]
      cases direct with
      | some registered => exact ⟨e.templates, unchanged, rfl⟩
      | none =>
          dsimp only
          cases type.lookIn r.transforms with
          | error reason => exact ⟨e.templates, unchanged, rfl⟩
          | ok other =>
              rw [Action.perform_bind_ok (Action.perform_ofOutcome _ r)]
              cases other with
              | none => exact ⟨e.templates, unchanged, rfl⟩
              | some registered =>
                  obtain ⟨templates, changed, found⟩ :=
                    buildTransform_settles host registered type (options.orElse (.map [])) bound name
                  exact ⟨templates, changed, found.trans (if_neg (by simpa using isOther))⟩

/-- Resolving a rule reads the file of its type at most, and only into an engine without a template of it. -/
theorem createMatcher_settles (host : Host) (type options : Value) (bound : r.engine = some e)
    (notDirect : Mapping.find? (.str name) r.matchers = none)
    (isKnown : Mapping.find? (.str name) r.transforms = known) :
    ∃ templates,
      ((createMatcher host type options).perform r).2 =
          { r with engine := some { e with templates } } ∧
        Mapping.find? (.str name) templates =
          (Mapping.find? (.str name) e.templates).or
            (((Operation.createMatcher host type options).reads (e.filed host name) name known).bind
              fun registered => e.filed host name registered.path) := by
  by_cases isName : type = .str name
  · subst isName
    rw [Operation.reads, if_pos (by simp)]
    cases known with
    | none =>
        have unchanged : r = { r with engine := some { e with templates := e.templates } } := by rw [← bound]
        rw [createMatcher_fallback host options notDirect isKnown]
        exact ⟨e.templates, unchanged, Option.or_none.symm⟩
    | some registered =>
        rw [createMatcher_transform host options notDirect isKnown]
        obtain ⟨templates, changed, found⟩ :=
          buildTransform_settles host registered (.str name) (options.orElse (.map [])) bound name
        refine ⟨templates, changed, ?_⟩
        rw [found, if_pos (by simp), Engine.ensured]
        cases there : e.filed host name registered.path <;> simp [Option.filter, there]
  · have readsNothing :
        (Operation.createMatcher host type options).reads (e.filed host name) name known = none := by
      rw [Operation.reads, if_neg (by simpa using isName)]
    obtain ⟨templates, changed, found⟩ := createMatcher_other host options bound isName
    refine ⟨templates, changed, ?_⟩
    rw [readsNothing, Option.bind_none, Option.or_none, found]

theorem Operation.apply_createMatcher (host : Host) (type options : Value) (r : Registry) :
    (Operation.createMatcher host type options).apply r =
      ((Registry.createMatcher host type options).perform r).2 :=
  Action.state_bind_idle r fun _ _ => rfl

theorem Operation.OfSheets.apply {operation : Operation} (ofSheets : operation.OfSheets host)
    (bound : r.engine = some e) (notDirect : Mapping.find? (.str name) r.matchers = none) :
    ∃ templates,
      (operation.apply r).engine = some { e with templates } ∧
        (operation.apply r).matchers = r.matchers ∧
          Mapping.find? (.str name) templates =
            (Mapping.find? (.str name) e.templates).or
              ((operation.reads (e.filed host name) name (Mapping.find? (.str name) r.transforms)).bind
                fun registered => e.filed host name registered.path) := by
  cases ofSheets with
  | register type path options =>
      have keeps : (Registry.registerTransform type path options).Keeps
          fun reached => reached.engine = r.engine ∧ reached.matchers = r.matchers := by
        refine (Action.Keeps.ofOutcome _).bind fun registered => ?_
        split
        · exact (Action.Keeps.throw _).bind fun _ => Action.Keeps.modify fun _ same => same
        · exact Action.Keeps.modify fun _ same => same
      obtain ⟨engine, matchers⟩ := keeps r ⟨rfl, rfl⟩
      exact ⟨e.templates, engine.trans bound, matchers, Option.or_none.symm⟩
  | resolve type options =>
      obtain ⟨templates, changed, found⟩ := createMatcher_settles host type options bound notDirect rfl
      rw [Operation.apply_createMatcher, changed]
      exact ⟨templates, rfl, rfl, found⟩

/-- The file that a call reads is there. -/
theorem Operation.exists_file {files : Value → Option EngineTemplate} {operation : Operation}
    {registered : RegisteredTransform} (reads : operation.reads files name known = some registered) :
    ∃ template, files registered.path = some template := by
  cases operation with
  | createMatcher host type options =>
      rw [Operation.reads] at reads
      split at reads
      · exact Option.isSome_iff_exists.mp (Option.mem_filter_iff.mp reads).2
      · cases reads
  | _ => cases reads

/-! ## Several calls -/

theorem after_append (first second : List Operation) (r : Registry) :
    after (first ++ second) r = after second (after first r) :=
  List.foldl_append

/-- After any calls the template of a type is the one that was there at the start, and otherwise the file that
the calls read first.  What the calls register later does not matter. -/
theorem template_after (ofSheets : ∀ operation ∈ history, operation.OfSheets host)
    (same : r.diagnostics = d) (bound : r.engine = some e)
    (notDirect : Mapping.find? (.str name) r.matchers = none) :
    ∃ templates,
      (after history r).engine = some { e with templates } ∧
        (after history r).matchers = r.matchers ∧
          Mapping.find? (.str name) templates =
            (Mapping.find? (.str name) e.templates).or
              ((firstRead (e.filed host name) d name (Mapping.find? (.str name) r.transforms) history).bind
                fun registered => e.filed host name registered.path) := by
  induction history generalizing r e with
  | nil => exact ⟨e.templates, bound, rfl, Option.or_none.symm⟩
  | cons operation rest ih =>
      obtain ⟨first, others⟩ := List.forall_mem_cons.mp ofSheets
      obtain ⟨templates, engine, matchers, found⟩ := first.apply bound notDirect
      obtain ⟨final, ended, kept, settled⟩ :=
        ih others (operation.diagnostics_apply same) engine (matchers ▸ notDirect)
      refine ⟨final, ended, kept.trans matchers, ?_⟩
      rw [settled, found, operation.find?_transforms_apply same, firstRead, Option.or_assoc]
      congr 1
      cases reads : operation.reads (e.filed host name) name (Mapping.find? (.str name) r.transforms) with
      | none => rfl
      | some registered =>
          obtain ⟨template, there⟩ := Operation.exists_file reads
          rw [Option.bind_some, Option.some_or, Option.bind_some, there]
          rfl

/-! ## The stylesheet of a matcher -/

/-- Whatever calls follow, the engine has a template of the type with a text, and runs it for the type. -/
def Evaluates (host : Host) (name : String) (r : Registry) (text : String) : Prop :=
  ∀ later : List Operation, (∀ operation ∈ later, operation.OfSheets host) →
    ∃ e template, (after later r).engine = some e ∧
      Mapping.find? (.str name) e.templates = some template ∧ template.body = .str text ∧
        ∀ xml given asked job, e.plan xml (.str name) given asked = .ok (.ok job) →
          job.template = template

/-- A template that is there is what the type evaluates from then on. -/
theorem evaluates_iff {template : EngineTemplate} (bound : r.engine = some e)
    (notDirect : Mapping.find? (.str name) r.matchers = none)
    (present : Mapping.find? (.str name) e.templates = some template) (text : String) :
    Evaluates host name r text ↔ template.body = .str text := by
  constructor
  · intro evaluates
    obtain ⟨_, known, engine, found, isText, _⟩ := evaluates [] (by simp)
    cases bound.symm.trans engine
    cases present.symm.trans found
    exact isText
  · intro isText later ofSheets
    obtain ⟨templates, engine, _, settled⟩ := template_after ofSheets rfl bound notDirect
    rw [present, Option.some_or] at settled
    refine ⟨_, template, engine, settled, isText, ?_⟩
    intro xml given asked job planned
    have found := (Engine.plan_job planned).1
    exact Option.some.inj (found.symm.trans settled)

/-- A rule of a type that a stylesheet decides is resolved to a matcher of the engine, which has a template of
the type then. -/
theorem createMatcher_succeeded {registered : RegisteredTransform} {options : Value}
    {result : Result Value} {made : Registry} (bound : r.engine = some e)
    (notDirect : Mapping.find? (.str name) r.matchers = none)
    (isKnown : Mapping.find? (.str name) r.transforms = some registered)
    (created : (createMatcher host (.str name) options).perform r = (.ok result, made))
    (success : result.isSuccess = true) :
    (∃ parameters, result =
        .success (.matcher (.transform (.str name) parameters (.bool registered.caching)))) ∧
      ∃ e template, made.engine = some e ∧ Mapping.find? (.str name) e.templates = some template := by
  rw [createMatcher_transform host options notDirect isKnown,
    buildTransform_bound host registered (.str name) _ bound] at created
  obtain ⟨outcome, isMade⟩ := Prod.mk.inj created
  cases loaded : ((ensureTemplate host (.str name) registered.path).perform e).1 with
  | error reason =>
      rw [loaded] at outcome
      rw [Result.isSuccess, failed_value outcome] at success
      cases success
  | ok value =>
      rw [loaded] at outcome
      obtain ⟨template, present⟩ := Engine.ensureTemplate_ok loaded
      refine ⟨?_, _, template, isMade ▸ rfl, present⟩
      obtain ⟨entries, isMapping⟩ : ∃ entries, options.orElse (.map []) = .map entries := by
        obtain ⟨settings, read, _⟩ := Outcome.bind_ok outcome
        cases given : options.orElse (.map []) with
        | map entries => exact ⟨entries, rfl⟩
        | _ => rw [given] at read; cases read
      rw [isMapping] at outcome
      have copied := (createMatcher_settings registered entries present).symm.trans outcome
      cases read : (ruleParameters entries).toEntries with
      | error reason =>
          rw [read] at copied
          cases copied
      | ok parameters =>
          rw [read] at copied
          exact ⟨parameters, (Except.ok.inj copied).symm⟩

/-- Let any calls register stylesheets and resolve rules, and let a rule of a type be resolved then.  Its matcher
evaluates the file at the path that was registered last exactly when this is the text of the template that the
engine held of the type at the start or, without one, of the file that the calls read first. -/
theorem evaluates_latest_iff {registered : RegisteredTransform} {options : Value}
    {result : Result Value} {made : Registry} (bound : r.engine = some e)
    (notDirect : Mapping.find? (.str name) r.matchers = none)
    (ofSheets : ∀ operation ∈ history, operation.OfSheets host)
    (latest : (history.reverse.findSome? fun operation => operation.transform r.diagnostics name).or
      (Mapping.find? (.str name) r.transforms) = some registered)
    (created : (createMatcher host (.str name) options).perform (after history r) = (.ok result, made))
    (success : result.isSuccess = true) :
    (∃ parameters, result =
        .success (.matcher (.transform (.str name) parameters (.bool registered.caching)))) ∧
      ((∃ text, e.fileText host registered.path = .ok (some text) ∧ Evaluates host name made text) ↔
        ∃ text, e.fileText host registered.path = .ok (some text) ∧
          match Mapping.find? (.str name) e.templates with
          | some held => held.body = .str text
          | none =>
            ∃ first,
              firstRead (e.filed host name) r.diagnostics name (Mapping.find? (.str name) r.transforms)
                  (history ++ [.createMatcher host (.str name) options]) = some first ∧
                e.fileText host first.path = .ok (some text)) := by
  have call : Operation.OfSheets host (.createMatcher host (.str name) options) := .resolve _ _
  have isMade : made = after (history ++ [.createMatcher host (.str name) options]) r := by
    rw [after_append]
    exact (congrArg Prod.snd created).symm.trans
      (Operation.apply_createMatcher host (.str name) options (after history r)).symm
  obtain ⟨before, engine, matchers, _⟩ := template_after ofSheets rfl bound notDirect
  obtain ⟨isMatcher, _, template, isBound, present⟩ := createMatcher_succeeded engine
    (matchers ▸ notDirect) ((find?_transforms_after history rfl).trans latest) created success
  refine ⟨isMatcher, exists_congr fun text => and_congr_right fun _ => ?_⟩
  obtain ⟨templates, ended, kept, settled⟩ := template_after
    (List.forall_mem_append.mpr ⟨ofSheets, List.forall_mem_singleton.mpr call⟩) rfl bound notDirect
  rw [← isMade] at ended kept
  rw [evaluates_iff isBound (kept ▸ notDirect) present]
  cases isBound.symm.trans ended
  rw [present] at settled
  cases held : Mapping.find? (.str name) e.templates with
  | some known =>
      rw [held, Option.some_or] at settled
      cases settled
      rfl
  | none =>
      rw [held, Option.none_or] at settled
      obtain ⟨first, isFirst, filed⟩ := Option.bind_eq_some_iff.mp settled.symm
      obtain ⟨read, isRead, rfl⟩ := Engine.filed_eq_some_iff.mp filed
      rw [isFirst]
      constructor
      · intro sameText
        cases sameText
        exact ⟨first, rfl, isRead⟩
      · rintro ⟨_, isSame, isText⟩
        cases isSame
        cases isRead.symm.trans isText
        rfl

def twoSheets : Host :=
  { Host.bare with files := [(["h.xsl"], "<heading/>"), (["f.xsl"], "<flag/>")] }

def sheetRegistry : Registry := create (some Engine.initial) .standard true

def headingRegistered : List Operation := [.registerTransform (.str "fancy") (.str "h.xsl") .null]

theorem registered_sheet_evaluated :
    Evaluates twoSheets "fancy"
      ((createMatcher twoSheets (.str "fancy") .null).perform (after headingRegistered sheetRegistry)).2
      "<heading/>" := by
  have ofSheets : ∀ operation ∈ headingRegistered, operation.OfSheets twoSheets :=
    List.forall_mem_singleton.mpr (.register _ _ _)
  have bound : sheetRegistry.engine = some Engine.initial := rfl
  have notDirect : Mapping.find? (.str "fancy") sheetRegistry.matchers = none := rfl
  have decides := evaluates_latest_iff bound notDirect ofSheets rfl
    (show (createMatcher twoSheets (.str "fancy") .null).perform
        (after headingRegistered sheetRegistry) = (.ok _, _) from rfl) rfl
  obtain ⟨text, isText, evaluates⟩ := decides.2.mpr ⟨"<heading/>", rfl, _, rfl, rfl⟩
  have sameText : text = "<heading/>" := Option.some.inj (Except.ok.inj isText).symm
  exact sameText ▸ evaluates

/-- The type is resolved, and then registered with another path. -/
def movedSheet : List Operation :=
  [.registerTransform (.str "fancy") (.str "h.xsl") .null,
    .createMatcher twoSheets (.str "fancy") .null,
    .registerTransform (.str "fancy") (.str "f.xsl") .null]

theorem moved_sheet_not_evaluated :
    let r := after movedSheet sheetRegistry
    let resolved := (createMatcher twoSheets (.str "fancy") .null).perform r
    (Mapping.get? "fancy" r.transforms).map (·.path) = some (.str "f.xsl") ∧
      Engine.initial.fileText twoSheets (.str "f.xsl") = .ok (some "<flag/>") ∧
        resolved.1 = .ok (.success (.matcher (.transform (.str "fancy") [] (.bool true)))) ∧
          ¬Evaluates twoSheets "fancy" resolved.2 "<flag/>" := by
  refine ⟨rfl, rfl, rfl, ?_⟩
  intro evaluates
  obtain ⟨e, template, engine, present, isText, _⟩ := evaluates [] (by simp)
  cases engine
  cases present
  exact absurd (Value.str.inj isText) (by decide)

end Registry

end StyleRules
