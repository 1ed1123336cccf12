import Mathlib.Data.List.Induction
import StyleRules.Proofs.Lists
import StyleRules.Proofs.Transform.Calls
import StyleRules.Proofs.Transform.Enabling

/-!
# What the cache remembers

An engine is used by a sequence of calls.  Every entry of its cache is the output of the run that was
remembered last under its key since the cache was cleared.  Templates and processors may have been replaced
since that run, so a call that finds an entry answers with that run and not with one of its own.
-/

namespace StyleRules.Engine

/-- A call of an engine. -/
inductive Operation where
  | registerTemplate (name body : Value) (options : TemplateOptions)
  | loadTemplate (host : Host) (name path : Value) (options : TemplateOptions)
  | defineCommonTemplates
  | registerProcessor (name processor : Value)
  | enableBackends (names : List Value)
  | clearCache
  | transform (xml name parameters asked useCache : Value)

/-- A run whose output is remembered. -/
structure Run where
  job : Job
  xml : Value
  given : Value

def Run.output (run : Run) : Outcome Value := run.job.output run.xml run.given

namespace Operation

def action : Operation → Action Engine Unit
  | .registerTemplate name body options => Engine.registerTemplate name body options
  | .loadTemplate host name path options => Engine.loadTemplate host name path options
  | .defineCommonTemplates => Engine.defineCommonTemplates
  | .registerProcessor name processor => Engine.registerProcessor name processor
  | .enableBackends names => Engine.enableBackends names
  | .clearCache => Engine.clearCache
  | .transform xml name parameters asked useCache => do
    let _ ← Engine.transform xml name parameters asked useCache

/-- The engine after a call, whether the call failed or not. -/
def apply (operation : Operation) (e : Engine) : Engine := (operation.action.perform e).2

end Operation

/-- The run that a transform call remembers: it may use the cache, finds nothing there, and has an output. -/
def remembered (e : Engine) (xml name parameters asked useCache : Value) : Option Run :=
  let given := parameters.orElse (.map [])
  match e.plan xml name given asked with
  | .ok (.ok job) =>
    if e.caches useCache && (e.cache.find? job.key).isNone && (job.output xml given).isOk then
      some ⟨job, xml, given⟩
    else none
  | _ => none

def Operation.record (operation : Operation) (e : Engine) (runs : List Run) : List Run :=
  match operation with
  | .clearCache => []
  | .transform xml name parameters asked useCache =>
    runs ++ (e.remembered xml name parameters asked useCache).toList
  | _ => runs

/-- The engine after a sequence of calls, with the runs that were remembered since the cache was cleared. -/
def trace (history : List Operation) (start : Engine) : Engine × List Run :=
  history.foldl (fun reached operation =>
    (operation.apply reached.1, operation.record reached.1 reached.2)) (start, [])

/-- The run that was remembered last under a key. -/
def lastRun (runs : List Run) (key : String) : Option Run :=
  runs.reverse.find? fun run => run.job.key = key

/-- Every entry of the cache is the output of the run that was remembered last under its key. -/
def Faithful (e : Engine) (runs : List Run) : Prop :=
  ∀ key output, (key, output) ∈ e.cache.entries →
    ∃ run, lastRun runs key = some run ∧ run.output = .ok output

variable {e : Engine} {runs : List Run} {xml name parameters asked useCache : Value}

/-! ## Remembered runs -/

theorem mem_entries_insert {cache : Cache} {key known : String} {output value : Value}
    (member : (known, value) ∈ (cache.insert key output).entries) :
    (known, value) ∈ cache.entries ∨ known = key ∧ value = output := by
  rw [Cache.insert] at member
  rcases List.mem_append.mp member with kept | added
  · left
    split at kept
    · exact List.mem_of_mem_drop kept
    · exact kept
  · right
    simpa using added

theorem not_mem_entries {cache : Cache} {key : String} (notFound : cache.find? key = none)
    (output : Value) : (key, output) ∉ cache.entries := by
  intro member
  rw [Cache.find?, List.lookup_eq_none_iff] at notFound
  simpa using notFound (key, output) member

theorem mem_entries_of_find? {cache : Cache} {key : String} {output : Value}
    (found : cache.find? key = some output) : (key, output) ∈ cache.entries :=
  mem_of_lookup found

theorem lastRun_append (runs : List Run) (run : Run) (key : String) :
    lastRun (runs ++ [run]) key = if run.job.key = key then some run else lastRun runs key := by
  rw [lastRun, List.reverse_append, List.reverse_singleton, List.singleton_append, List.find?_cons]
  by_cases same : run.job.key = key <;> simp [same, lastRun]

theorem Faithful.congr {changed : Engine} (faithful : Faithful e runs)
    (cache : changed.cache = e.cache) : Faithful changed runs := by
  intro key output member
  rw [cache] at member
  exact faithful key output member

/-- A new run is remembered under its key, in the cache and in the record. -/
theorem Faithful.remember {changed : Engine} {run : Run} {output : Value}
    (faithful : Faithful e runs) (notFound : e.cache.find? run.job.key = none)
    (ran : run.output = .ok output) (cache : changed.cache = e.cache.insert run.job.key output) :
    Faithful changed (runs ++ [run]) := by
  intro key value member
  rw [cache] at member
  rw [lastRun_append]
  rcases mem_entries_insert member with old | ⟨sameKey, sameOutput⟩
  · have otherKey : run.job.key ≠ key := by
      rintro rfl
      exact not_mem_entries notFound value old
    rw [if_neg otherKey]
    exact faithful key value old
  · rw [if_pos sameKey.symm, sameOutput]
    exact ⟨run, rfl, ran⟩

theorem apply_transform :
    (Operation.transform xml name parameters asked useCache).apply e =
      ((transform xml name parameters asked useCache).perform e).2 := by
  rw [Operation.apply, Operation.action, Action.perform_bind]
  split <;> rename_i performed <;> rw [performed]
  rfl

theorem remembered_of_job {job : Job}
    (planned : e.plan xml name (parameters.orElse (.map [])) asked = .ok (.ok job)) :
    e.remembered xml name parameters asked useCache =
      if e.caches useCache && (e.cache.find? job.key).isNone &&
          (job.output xml (parameters.orElse (.map []))).isOk then
        some ⟨job, xml, parameters.orElse (.map [])⟩
      else none := by
  rw [remembered, planned]

/-- The cache after a call holds the output of the run that is remembered, or is as it was. -/
theorem transform_remembers (e : Engine) (xml name parameters asked useCache : Value) :
    (∃ run output, e.remembered xml name parameters asked useCache = some run ∧
      e.cache.find? run.job.key = none ∧ run.output = .ok output ∧
        ((Operation.transform xml name parameters asked useCache).apply e).cache =
          e.cache.insert run.job.key output) ∨
    e.remembered xml name parameters asked useCache = none ∧
      ((Operation.transform xml name parameters asked useCache).apply e).cache = e.cache := by
  rw [apply_transform]
  rcases transform_ways e xml name parameters asked useCache with
    ⟨job, output, planned, _, found, performed⟩ | ⟨noJob, performed⟩ |
      ⟨job, changed, planned, notFound, performed, _, cache⟩
  · right
    rw [performed, remembered_of_job planned]
    simp [found]
  · right
    rw [performed, remembered]
    split
    · rename_i job planned
      exact absurd planned (noJob job)
    · exact ⟨rfl, rfl⟩
  · rw [performed, remembered_of_job planned]
    by_cases caching : e.caches useCache = true
    · cases ran : job.output xml (parameters.orElse (.map [])) with
      | error reason =>
          right
          rw [ran] at cache
          simpa [Except.isOk, Except.toBool] using cache
      | ok output =>
          left
          rw [ran] at cache
          refine ⟨⟨job, xml, parameters.orElse (.map [])⟩, output, ?_, notFound caching, ran, ?_⟩
          · simp [caching, notFound caching, Except.isOk, Except.toBool]
          · simpa [caching] using cache
    · right
      have kept : changed.cache = e.cache := by
        rw [cache]
        split
        · exact if_neg caching
        · rfl
      simp [caching, kept]

theorem Faithful.transform (faithful : Faithful e runs) :
    Faithful ((Operation.transform xml name parameters asked useCache).apply e)
      (runs ++ (e.remembered xml name parameters asked useCache).toList) := by
  rcases transform_remembers e xml name parameters asked useCache with
    ⟨run, output, recorded, notFound, ran, cache⟩ | ⟨recorded, cache⟩
  · rw [recorded]
    exact faithful.remember notFound ran cache
  · rw [recorded]
    simpa using faithful.congr cache

/-- Only transform calls and clearing the cache change the cache or the record of runs. -/
theorem Operation.cases_cache (operation : Operation) (e : Engine) (runs : List Run) :
    operation = .clearCache ∨ (∃ xml name parameters asked useCache,
        operation = .transform xml name parameters asked useCache) ∨
      (operation.apply e).cache = e.cache ∧ operation.record e runs = runs := by
  cases operation with
  | registerTemplate name body options =>
      have kept : (Engine.registerTemplate name body options).Keeps (·.cache = e.cache) :=
        keeps_registerTemplate (fun _ _ same => same) name body options
      exact .inr (.inr ⟨kept e rfl, rfl⟩)
  | loadTemplate host name path options =>
      have kept : (Engine.loadTemplate host name path options).Keeps (·.cache = e.cache) :=
        keeps_loadTemplate (fun _ _ same => same) host name path options
      exact .inr (.inr ⟨kept e rfl, rfl⟩)
  | defineCommonTemplates =>
      have kept : Engine.defineCommonTemplates.Keeps (·.cache = e.cache) :=
        keeps_registerSheets (fun _ _ same => same) _
      exact .inr (.inr ⟨kept e rfl, rfl⟩)
  | registerProcessor name processor =>
      have kept : (Engine.registerProcessor name processor).Keeps (·.cache = e.cache) :=
        keeps_registerProcessor fun _ same => same
      exact .inr (.inr ⟨kept e rfl, rfl⟩)
  | enableBackends names =>
      have kept : (Engine.enableBackends names).Keeps (·.cache = e.cache) :=
        keeps_enableBackends (fun _ _ _ _ same => same) names
      exact .inr (.inr ⟨kept e rfl, rfl⟩)
  | clearCache => exact .inl rfl
  | transform xml name parameters asked useCache =>
      exact .inr (.inl ⟨xml, name, parameters, asked, useCache, rfl⟩)

theorem Faithful.apply (faithful : Faithful e runs) (operation : Operation) :
    Faithful (operation.apply e) (operation.record e runs) := by
  rcases operation.cases_cache e runs with rfl | ⟨xml, name, parameters, asked, useCache, rfl⟩ | ⟨cache, kept⟩
  · intro key output member
    cases member
  · exact faithful.transform
  · rw [kept]
    exact faithful.congr cache

theorem trace_concat (history : List Operation) (operation : Operation) (start : Engine) :
    trace (history ++ [operation]) start =
      (operation.apply (trace history start).1,
        operation.record (trace history start).1 (trace history start).2) := by
  rw [trace, List.foldl_append]
  rfl

/-- After any calls every entry of the cache is the output of the last remembered run. -/
theorem faithful_trace (history : List Operation) {start : Engine}
    (noEntries : start.cache.entries = []) :
    Faithful (trace history start).1 (trace history start).2 := by
  induction history using List.reverseRecOn with
  | nil =>
      intro key output member
      rw [trace, List.foldl_nil, noEntries] at member
      cases member
  | append_singleton history operation ih =>
      rw [trace_concat]
      exact ih.apply operation

/-! ## With and without the cache -/

theorem transform_fresh (notCaching : e.caches useCache = false) :
    ((transform xml name parameters asked useCache).perform e).1 =
      e.freshResult xml name parameters asked := by
  rcases transform_ways e xml name parameters asked useCache with
    ⟨_, _, _, caching, _, _⟩ | ⟨_, performed⟩ | ⟨_, _, _, _, performed, _⟩
  · rw [notCaching] at caching
    cases caching
  · rw [performed]
  · rw [performed]

/-- Whatever calls an engine with an empty cache has seen: a caching call answers as it would without the
cache, or with the output that was remembered last under its key since the cache was cleared.  It answers as
without the cache whenever that run gave what the job of the call gives now. -/
theorem transform_with_cache (start : Engine) (noEntries : start.cache.entries = [])
    (history : List Operation) (xml name parameters asked : Value) :
    let e := (trace history start).1
    let runs := (trace history start).2
    let cached := ((transform xml name parameters asked (.bool true)).perform e).1
    let fresh := ((transform xml name parameters asked (.bool false)).perform e).1
    (cached = fresh ∨
      ∃ job run output, e.plan xml name (parameters.orElse (.map [])) asked = .ok (.ok job) ∧
        lastRun runs job.key = some run ∧ run.output = .ok output ∧
          cached = .ok (.success output)) ∧
    ((∀ job run, e.plan xml name (parameters.orElse (.map [])) asked = .ok (.ok job) →
        lastRun runs job.key = some run →
          run.output = job.output xml (parameters.orElse (.map []))) →
      cached = fresh) := by
  intro e runs cached fresh
  have faithful : Faithful e runs := faithful_trace history noEntries
  have freshEq : fresh = e.freshResult xml name parameters asked :=
    transform_fresh (Bool.and_false _)
  have alike (performed : cached = e.freshResult xml name parameters asked) : cached = fresh :=
    performed.trans freshEq.symm
  rcases transform_ways e xml name parameters asked (.bool true) with
    ⟨job, output, planned, _, found, performed⟩ | ⟨_, performed⟩ | ⟨_, _, _, _, performed, _⟩
  · have answered : cached = .ok (.success output) := congrArg Prod.fst performed
    obtain ⟨run, last, ran⟩ := faithful job.key output (mem_entries_of_find? found)
    refine ⟨Or.inr ⟨job, run, output, planned, last, ran, answered⟩, ?_⟩
    intro repeats
    have jobOutput : job.output xml (parameters.orElse (.map [])) = .ok output :=
      (repeats job run planned last).symm.trans ran
    have freshAnswer : fresh = .ok (.success output) := by
      rw [freshEq, freshResult_job planned, Job.result, jobOutput]
    exact Eq.trans answered freshAnswer.symm
  · have equal := alike (congrArg Prod.fst performed)
    exact ⟨Or.inl equal, fun _ => equal⟩
  · have equal := alike (congrArg Prod.fst performed)
    exact ⟨Or.inl equal, fun _ => equal⟩

def constantProcessor (output : String) : Value :=
  .processor ⟨.str output, .str output, [], .int 0, some (.callable (.constant (.str output)))⟩

/-- Two processors, one template, and a caching call that asks for the first processor. -/
def firstProcessorAsked : List Operation :=
  [.registerProcessor (.str "first") (constantProcessor "one"),
    .registerProcessor (.str "second") (constantProcessor "two"),
    .registerTemplate (.str "sheet") (.str "body") {},
    .transform (.str "<a/>") (.str "sheet") .null (.str "first") (.bool true)]

/-- A call that asks for the second processor is answered with the output of the first one. -/
theorem transform_other_processor :
    ((transform (.str "<a/>") (.str "sheet") .null (.str "second") (.bool true)).perform
        (trace firstProcessorAsked initial).1).1 = .ok (.success (.str "one")) ∧
      ((transform (.str "<a/>") (.str "sheet") .null (.str "second") (.bool false)).perform
        (trace firstProcessorAsked initial).1).1 = .ok (.success (.str "two")) :=
  ⟨rfl, rfl⟩

theorem transform_same_processor :
    initial.cache.entries = [] ∧
      ((transform (.str "<a/>") (.str "sheet") .null (.str "first") (.bool true)).perform
          (trace firstProcessorAsked initial).1).1 =
        ((transform (.str "<a/>") (.str "sheet") .null (.str "first") (.bool false)).perform
          (trace firstProcessorAsked initial).1).1 := by
  refine ⟨rfl, (transform_with_cache initial rfl firstProcessorAsked (.str "<a/>") (.str "sheet") .null
    (.str "first")).2 ?_⟩
  intro job run planned last
  cases planned
  cases last
  rfl

end StyleRules.Engine
