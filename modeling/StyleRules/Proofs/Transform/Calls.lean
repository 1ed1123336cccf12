import StyleRules.Transform.Engine

/-!
# What a transform call does

A transform call plans a job and then either answers from the cache or runs the job.  What it answers without
the cache depends on the tables of the engine alone, and the calls that are counted on the way do not matter.
-/

namespace StyleRules.Engine

variable {e : Engine} {xml name parameters asked useCache : Value}

def initial : Engine :=
  { cacheEnabled := .bool true, cache := .empty 100, defaultProcessor := .str "lxml"
    searchPath := [Path.ofString "./transforms"], processors := [], templates := [] }

def Job.output (job : Job) (xml given : Value) : Outcome Value := do
  let merged ← job.template.mergeParameters given
  job.processor.runProcessor job.compile xml job.template.body (.map merged)

def Job.result (job : Job) (xml given : Value) : Result Value :=
  match job.output xml given with
  | .error reason => .failed reason
  | .ok output => .success output

/-- What a call answers when nothing is remembered. -/
def freshResult (e : Engine) (xml name parameters asked : Value) : Outcome (Result Value) := do
  match ← e.plan xml name (parameters.orElse (.map [])) asked with
  | .error reason => return .failed reason
  | .ok job => return job.result xml (parameters.orElse (.map []))

def caches (e : Engine) (useCache : Value) : Bool := e.cacheEnabled.truthy && useCache.truthy

/-- The table of processors without the counts of their calls. -/
def withoutCalls (processors : List (Value × ProcessorEntry)) : List (Value × ProcessorEntry) :=
  processors.map fun (known, entry) => (known, ⟨entry.processor, 0⟩)

/-- The second engine differs from the first one in its cache and in the counts of calls at most. -/
structure SameTables (e changed : Engine) : Prop where
  cacheEnabled : changed.cacheEnabled = e.cacheEnabled
  defaultProcessor : changed.defaultProcessor = e.defaultProcessor
  searchPath : changed.searchPath = e.searchPath
  templates : changed.templates = e.templates
  processors : withoutCalls changed.processors = withoutCalls e.processors
  compile : changed.compile = e.compile

theorem SameTables.refl (e : Engine) : SameTables e e := ⟨rfl, rfl, rfl, rfl, rfl, rfl⟩

theorem SameTables.trans {first second third : Engine} (before : SameTables first second)
    (next : SameTables second third) : SameTables first third :=
  ⟨next.cacheEnabled.trans before.cacheEnabled, next.defaultProcessor.trans before.defaultProcessor,
    next.searchPath.trans before.searchPath, next.templates.trans before.templates,
    next.processors.trans before.processors, next.compile.trans before.compile⟩

theorem sameTables_countCall (known : Value) (e : Engine) : SameTables e (countCall known e) := by
  refine ⟨rfl, rfl, rfl, rfl, ?_, rfl⟩
  simp only [withoutCalls, countCall, List.map_map]
  refine List.map_congr_left fun entry _ => ?_
  by_cases same : entry.1.eq known = true <;> simp [same]

/-! ## Planning a job -/

/-- A job is planned when the template, its processor and the key of the call are found. -/
theorem plan_eq_job_iff {given : Value} {job : Job} :
    e.plan xml name given asked = .ok (.ok job) ↔
      e.template? name = .ok (some job.template) ∧
        (∃ entry, e.resolve job.template asked = .ok (some (job.processorName, entry)) ∧
          job.processor = entry.processor) ∧
          cacheKey xml name given = .ok job.key ∧ job.compile = e.compile := by
  constructor
  · intro planned
    obtain ⟨known, isKnown, planned⟩ := Outcome.bind_ok planned
    cases known with
    | none => cases planned
    | some template =>
        obtain ⟨found, isFound, planned⟩ := Outcome.bind_ok planned
        cases found with
        | none => cases planned
        | some found =>
            obtain ⟨key, isKey, planned⟩ := Outcome.bind_ok planned
            cases planned
            exact ⟨isKnown, ⟨found.2, isFound, rfl⟩, isKey, rfl⟩
  · rintro ⟨isKnown, ⟨entry, isFound, isProcessor⟩, isKey, isCompile⟩
    rw [plan, isKnown, Outcome.ok_bind]
    dsimp only
    rw [isFound, Outcome.ok_bind]
    dsimp only
    rw [isKey, Outcome.ok_bind, ← isProcessor, ← isCompile]
    rfl

/-! ## Running a job -/

theorem runJob_perform (job : Job) (xml given : Value) (e : Engine) :
    ∃ changed, (runJob job xml given).perform e = (job.output xml given, changed) ∧
      changed.cache = e.cache ∧ SameTables e changed := by
  rw [runJob, Job.output]
  cases merged : job.template.mergeParameters given with
  | error reason => exact ⟨e, rfl, rfl, SameTables.refl e⟩
  | ok all => exact ⟨countCall job.processorName e, rfl, rfl, sameTables_countCall _ e⟩

/-! ## The four ways of a call -/

theorem transform_unplanned {reason : Failure}
    (planned : e.plan xml name (parameters.orElse (.map [])) asked = .error reason) :
    (transform xml name parameters asked useCache).perform e = (.error reason, e) := by
  rw [transform, Action.perform_bind_ok (Action.perform_get e)]
  dsimp only
  rw [planned, Action.perform_bind_error (Action.perform_ofOutcome _ e)]

theorem transform_refused {reason : Failure}
    (planned : e.plan xml name (parameters.orElse (.map [])) asked = .ok (.error reason)) :
    (transform xml name parameters asked useCache).perform e = (.ok (.failed reason), e) := by
  rw [transform, Action.perform_bind_ok (Action.perform_get e)]
  dsimp only
  rw [planned, Action.perform_bind_ok (Action.perform_ofOutcome _ e)]
  rfl

theorem transform_remembered {job : Job} {output : Value}
    (planned : e.plan xml name (parameters.orElse (.map [])) asked = .ok (.ok job))
    (caching : e.caches useCache = true) (found : e.cache.find? job.key = some output) :
    (transform xml name parameters asked useCache).perform e = (.ok (.success output), e) := by
  rw [transform, Action.perform_bind_ok (Action.perform_get e)]
  dsimp only
  rw [planned, Action.perform_bind_ok (Action.perform_ofOutcome _ e)]
  rw [caches] at caching
  simp only [caching, if_true, found]
  rfl

/-- A call that is not answered from the cache runs its job, and remembers the output when it caches. -/
theorem transform_run {job : Job}
    (planned : e.plan xml name (parameters.orElse (.map [])) asked = .ok (.ok job))
    (notFound : e.caches useCache = true → e.cache.find? job.key = none) :
    ∃ changed,
      (transform xml name parameters asked useCache).perform e =
          (.ok (job.result xml (parameters.orElse (.map []))), changed) ∧
        SameTables e changed ∧
          changed.cache = match job.output xml (parameters.orElse (.map [])) with
            | .ok output => if e.caches useCache then e.cache.insert job.key output else e.cache
            | .error _ => e.cache := by
  obtain ⟨counted, performed, cache, same⟩ :=
    runJob_perform job xml (parameters.orElse (.map [])) e
  have looked : (if e.caches useCache then e.cache.find? job.key else none) = none := by
    by_cases caching : e.caches useCache = true
    · rw [if_pos caching, notFound caching]
    · rw [if_neg caching]
  rw [transform, Action.perform_bind_ok (Action.perform_get e)]
  dsimp only
  rw [planned, Action.perform_bind_ok (Action.perform_ofOutcome _ e)]
  rw [caches] at looked ⊢
  simp only [looked]
  rw [Action.perform_bind_ok (Action.perform_attempt _ e), performed, Job.result]
  cases ran : job.output xml (parameters.orElse (.map [])) with
  | error reason => exact ⟨counted, rfl, same, cache⟩
  | ok output =>
      by_cases caching : (e.cacheEnabled.truthy && useCache.truthy) = true
      · simp only [caching, if_true]
        refine ⟨{ counted with cache := counted.cache.insert job.key output }, rfl, ?_, ?_⟩
        · exact same.trans ⟨rfl, rfl, rfl, rfl, rfl, rfl⟩
        · rw [← cache]
      · simp only [caching]
        exact ⟨counted, rfl, same, cache⟩

theorem freshResult_job {job : Job}
    (planned : e.plan xml name (parameters.orElse (.map [])) asked = .ok (.ok job)) :
    e.freshResult xml name parameters asked = .ok (job.result xml (parameters.orElse (.map []))) := by
  rw [freshResult, planned]
  rfl

/-- A call answers with what is remembered under its key, or as without the cache.  Only a job that is run
changes the engine: its call is counted, and its output is remembered when the call caches. -/
theorem transform_ways (e : Engine) (xml name parameters asked useCache : Value) :
    (∃ job output, e.plan xml name (parameters.orElse (.map [])) asked = .ok (.ok job) ∧
      e.caches useCache = true ∧ e.cache.find? job.key = some output ∧
        (transform xml name parameters asked useCache).perform e = (.ok (.success output), e)) ∨
    ((∀ job, e.plan xml name (parameters.orElse (.map [])) asked ≠ .ok (.ok job)) ∧
      (transform xml name parameters asked useCache).perform e =
        (e.freshResult xml name parameters asked, e)) ∨
    ∃ job changed, e.plan xml name (parameters.orElse (.map [])) asked = .ok (.ok job) ∧
      (e.caches useCache = true → e.cache.find? job.key = none) ∧
        (transform xml name parameters asked useCache).perform e =
            (e.freshResult xml name parameters asked, changed) ∧
          SameTables e changed ∧
            changed.cache = match job.output xml (parameters.orElse (.map [])) with
              | .ok output => if e.caches useCache then e.cache.insert job.key output else e.cache
              | .error _ => e.cache := by
  cases planned : e.plan xml name (parameters.orElse (.map [])) asked with
  | error reason =>
      refine Or.inr (Or.inl ⟨fun job same => (by cases same), ?_⟩)
      rw [transform_unplanned planned, freshResult, planned]
      rfl
  | ok planOrRefusal =>
      cases planOrRefusal with
      | error reason =>
          refine Or.inr (Or.inl ⟨fun job same => (by cases same), ?_⟩)
          rw [transform_refused planned, freshResult, planned]
          rfl
      | ok job =>
          by_cases hit : e.caches useCache = true ∧ (e.cache.find? job.key).isSome = true
          · obtain ⟨output, found⟩ := Option.isSome_iff_exists.mp hit.2
            exact Or.inl ⟨job, output, rfl, hit.1, found, transform_remembered planned hit.1 found⟩
          · have notFound : e.caches useCache = true → e.cache.find? job.key = none := by
              intro caching
              exact Option.not_isSome_iff_eq_none.mp fun found => hit ⟨caching, found⟩
            obtain ⟨changed, performed, same, cache⟩ := transform_run planned notFound
            rw [← freshResult_job planned] at performed
            exact Or.inr (Or.inr ⟨job, changed, rfl, notFound, performed, same, cache⟩)

theorem sameTables_transform (e : Engine) (xml name parameters asked useCache : Value) :
    SameTables e ((transform xml name parameters asked useCache).perform e).2 := by
  rcases transform_ways e xml name parameters asked useCache with
    ⟨job, output, _, _, _, performed⟩ | ⟨_, performed⟩ | ⟨job, changed, _, _, performed, same, _⟩ <;>
      rw [performed]
  · exact SameTables.refl e
  · exact SameTables.refl e
  · exact same

/-- A call whose template and processor are found fails only as the processor does. -/
theorem failed_of_resolved {template : EngineTemplate} {entry : Value × ProcessorEntry} {reason : Failure}
    (isTemplate : e.template? name = .ok (some template)) (resolved : e.resolve template asked = .ok (some entry))
    (failed : ((transform xml name parameters asked useCache).perform e).1 = .ok (.failed reason)) :
    ∃ key, Job.output ⟨template, entry.1, entry.2.processor, key, e.compile⟩ xml (parameters.orElse (.map [])) =
      .error reason := by
  have fresh : e.freshResult xml name parameters asked = .ok (.failed reason) := by
    rcases transform_ways e xml name parameters asked useCache with
      ⟨job, output, _, _, _, performed⟩ | ⟨_, performed⟩ | ⟨job, changed, _, _, performed, _, _⟩ <;>
        rw [performed] at failed
    · cases failed
    · exact failed
    · exact failed
  have planned : e.plan xml name (parameters.orElse (.map [])) asked =
      (cacheKey xml name (parameters.orElse (.map []))).map fun key =>
        .ok ⟨template, entry.1, entry.2.processor, key, e.compile⟩ := by
    rw [plan, isTemplate, Outcome.ok_bind]
    dsimp only
    rw [resolved, Outcome.ok_bind]
    cases cacheKey xml name (parameters.orElse (.map [])) <;> rfl
  rw [freshResult, planned] at fresh
  cases isKey : cacheKey xml name (parameters.orElse (.map [])) with
  | error other =>
      rw [isKey] at fresh
      cases fresh
  | ok key =>
      rw [isKey] at fresh
      refine ⟨key, ?_⟩
      have result : Job.result ⟨template, entry.1, entry.2.processor, key, e.compile⟩ xml (parameters.orElse (.map [])) =
          .failed reason := Except.ok.inj fresh
      rw [Job.result] at result
      split at result
      · rename_i other isOther
        simp only [Result.failed, Message.error, Result.mk.injEq, List.cons.injEq, Message.mk.injEq,
          Option.some.injEq, Cause.failure.injEq] at result
        rw [isOther, result.2.1.2.2]
      · cases result

end StyleRules.Engine
