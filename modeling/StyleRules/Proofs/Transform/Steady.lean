import StyleRules.Proofs.Registry.Resolution
import StyleRules.Proofs.Transform.Remembering
import StyleRules.Proofs.Transform.Sheets

/-!
# Transforming with steady tables

While the tables of an engine stay as they are, a call is answered as it would be answered without the cache:
an entry that the call finds was remembered by a call for the same work.  The keys of the calls have to tell
different work apart for this, up to the order of parameters.
-/

namespace StyleRules.Engine

variable {e first second : Engine} {name : String} {xml asked : Value}

/-! ## What a plan depends on -/

theorem find?_withoutCalls (key : Value) (processors : List (Value × ProcessorEntry)) :
    Mapping.find? key (withoutCalls processors) =
      (Mapping.find? key processors).map fun entry => ⟨entry.processor, 0⟩ := by
  induction processors with
  | nil => rfl
  | cons entry rest ih =>
      obtain ⟨known, entry⟩ := entry
      rw [withoutCalls, List.map_cons, Mapping.find?, Mapping.find?, ← withoutCalls, ih]
      by_cases same : known.eq key = true <;> simp [same]

theorem supporting_withoutCalls (wanted : String) (processors : List (Value × ProcessorEntry)) :
    supporting wanted (withoutCalls processors) = (supporting wanted processors).map withoutCalls := by
  induction processors with
  | nil => rfl
  | cons entry rest ih =>
      obtain ⟨known, entry⟩ := entry
      rw [withoutCalls, List.map_cons, ← withoutCalls, supporting, supporting, ih]
      dsimp only
      by_cases listed : (entry.processor.attributeOrNull "supports").truthy = true
      · rw [if_pos listed, if_pos listed]
        cases (entry.processor.attributeOrNull "supports").contains (.str wanted) with
        | error reason => rfl
        | ok supported =>
            cases supporting wanted rest with
            | error reason => rfl
            | ok others => cases supported <;> rfl
      · rw [if_neg listed, if_neg listed]
        cases supporting wanted rest <;> rfl

theorem highest_withoutCalls (best : Value × ProcessorEntry)
    (processors : List (Value × ProcessorEntry)) :
    highest (best.1, ⟨best.2.processor, 0⟩) (withoutCalls processors) =
      (highest best processors).map fun found => (found.1, ⟨found.2.processor, 0⟩) := by
  induction processors generalizing best with
  | nil => rfl
  | cons entry rest ih =>
      rw [withoutCalls, List.map_cons, ← withoutCalls, highest, highest]
      dsimp only
      cases best.2.processor.priority.less entry.2.processor.priority with
      | error reason => rfl
      | ok isHigher =>
          cases isHigher with
          | true => exact ih entry
          | false => exact ih best

theorem resolve_withoutCalls (e : Engine) (template : EngineTemplate) (asked : Value) :
    ({ e with processors := withoutCalls e.processors } : Engine).resolve template asked =
      (e.resolve template asked).map fun found =>
        found.map fun entry => (entry.1, ⟨entry.2.processor, 0⟩) := by
  rw [resolve, resolve]
  dsimp only
  split
  · rw [supporting_withoutCalls]
    cases supporting ("xslt" ++ template.version.text) e.processors with
    | error reason => rfl
    | ok found =>
        cases found with
        | nil => rfl
        | cons best rest =>
            have chosen := highest_withoutCalls best rest
            simp only [Except.map, withoutCalls, List.map_cons, bind, Except.bind] at chosen ⊢
            rw [chosen]
            cases highest best rest <;> rfl
  · rw [Value.lookIn, Value.lookIn, find?_withoutCalls]
    split
    · cases Mapping.find? (asked.orElse template.processor) e.processors <;> rfl
    · rfl

theorem plan_withoutCalls (e : Engine) (xml type given asked : Value) :
    ({ e with processors := withoutCalls e.processors } : Engine).plan xml type given asked =
      e.plan xml type given asked := by
  rw [plan, plan, template?, template?]
  cases type.lookIn e.templates with
  | error reason => rfl
  | ok known =>
      cases known with
      | none => rfl
      | some template =>
          simp only [bind, Except.bind]
          rw [resolve_withoutCalls]
          cases e.resolve template asked with
          | error reason => rfl
          | ok found => cases found <;> rfl

/-- A plan depends on the template of its type, on the processors, and on how stylesheets are compiled. -/
theorem plan_congr (sameTemplate : Mapping.find? (.str name) first.templates =
      Mapping.find? (.str name) second.templates)
    (sameProcessors : withoutCalls first.processors = withoutCalls second.processors)
    (sameCompile : first.compile = second.compile) (xml given asked : Value) :
    first.plan xml (.str name) given asked = second.plan xml (.str name) given asked := by
  rw [← plan_withoutCalls first, ← plan_withoutCalls second, sameProcessors, plan, plan, template?,
    template?, Value.lookIn_str, Value.lookIn_str, sameTemplate]
  dsimp only
  rw [sameCompile]
  rfl

theorem freshResult_congr (sameTemplate : Mapping.find? (.str name) first.templates =
      Mapping.find? (.str name) second.templates)
    (sameProcessors : withoutCalls first.processors = withoutCalls second.processors)
    (sameCompile : first.compile = second.compile) (xml parameters asked : Value) :
    first.freshResult xml (.str name) parameters asked =
      second.freshResult xml (.str name) parameters asked := by
  rw [freshResult, freshResult, plan_congr sameTemplate sameProcessors sameCompile]

/-! ## Where a job comes from -/

theorem supporting_subset {wanted : String} {processors found : List (Value × ProcessorEntry)}
    (listed : supporting wanted processors = .ok found) : found ⊆ processors := by
  induction processors generalizing found with
  | nil =>
      cases listed
      exact List.Subset.refl []
  | cons entry rest ih =>
      obtain ⟨known, entry⟩ := entry
      rw [supporting] at listed
      dsimp only at listed
      obtain ⟨supported, others, restListed, isFound⟩ : ∃ (supported : Bool) (others : _),
          supporting wanted rest = .ok others ∧
            (if supported then (known, entry) :: others else others) = found := by
        split at listed
        · obtain ⟨supported, _, listed⟩ := Outcome.bind_ok listed
          obtain ⟨others, restListed, listed⟩ := Outcome.bind_ok listed
          exact ⟨supported, others, restListed, Except.ok.inj listed⟩
        · obtain ⟨supported, _, listed⟩ := Outcome.bind_ok listed
          obtain ⟨others, restListed, listed⟩ := Outcome.bind_ok listed
          exact ⟨supported, others, restListed, Except.ok.inj listed⟩
      rw [← isFound]
      split
      · exact List.cons_subset_cons _ (ih restListed)
      · exact List.subset_cons_of_subset _ (ih restListed)

theorem highest_mem {best found : Value × ProcessorEntry} {processors : List (Value × ProcessorEntry)}
    (chosen : highest best processors = .ok found) : found ∈ best :: processors := by
  induction processors generalizing best with
  | nil =>
      cases chosen
      exact List.mem_cons_self
  | cons entry rest ih =>
      rw [highest] at chosen
      obtain ⟨isHigher, _, chosen⟩ := Outcome.bind_ok chosen
      have member := ih chosen
      cases isHigher with
      | true => exact List.mem_cons_of_mem best member
      | false =>
          rcases List.mem_cons.mp member with isBest | further
          · rw [isBest]
            exact List.mem_cons_self
          · exact List.mem_cons_of_mem _ (List.mem_cons_of_mem _ further)

theorem resolve_mem {template : EngineTemplate} {found : Value × ProcessorEntry}
    (resolved : e.resolve template asked = .ok (some found)) :
    ∃ entry ∈ e.processors, found.2 = entry.2 := by
  rw [resolve] at resolved
  split at resolved
  · obtain ⟨listed, isListed, resolved⟩ := Outcome.bind_ok resolved
    cases listed with
    | nil => cases resolved
    | cons best rest =>
        obtain ⟨chosen, isChosen, resolved⟩ := Outcome.bind_ok resolved
        cases resolved
        exact ⟨found, supporting_subset isListed (highest_mem isChosen), rfl⟩
  · obtain ⟨entry, looked, resolved⟩ := Outcome.bind_ok resolved
    cases entry with
    | none => cases resolved
    | some entry =>
        cases resolved
        rw [Value.lookIn] at looked
        split at looked
        · obtain ⟨known, member⟩ := Mapping.mem_of_find? (Except.ok.inj looked)
          exact ⟨_, member, rfl⟩
        · cases looked

/-- A job runs the template of its type with a processor from the table, under the key of the call. -/
theorem plan_job {xml given asked : Value} {job : Job}
    (planned : e.plan xml (.str name) given asked = .ok (.ok job)) :
    Mapping.find? (.str name) e.templates = some job.template ∧
      (∃ entry ∈ e.processors, job.processor = entry.2.processor) ∧
        cacheKey xml (.str name) given = .ok job.key := by
  obtain ⟨isKnown, ⟨entry, isFound, isProcessor⟩, isKey, _⟩ := plan_eq_job_iff.mp planned
  obtain ⟨other, member, same⟩ := resolve_mem isFound
  rw [template?, Value.lookIn_str] at isKnown
  exact ⟨Except.ok.inj isKnown, ⟨other, member, isProcessor.trans (congrArg ProcessorEntry.processor same)⟩,
    isKey⟩

/-! ## The order of parameters -/

/-- The keys of a parameter mapping are different texts. -/
structure PlainParameters (parameters : List (Value × Value)) : Prop where
  texts : Mapping.TextKeys parameters
  distinct : (Mapping.keys parameters).Nodup

/-- The processors run stylesheets, and the templates have no parameters of their own. -/
structure RunsSheets (e : Engine) : Prop where
  processors : ∀ entry ∈ e.processors, entry.2.processor = .processor Processor.stylesheets
  templates : ∀ (name : String) (template : EngineTemplate),
    Mapping.find? (.str name) e.templates = some template → template.parameters = []

/-- Under the name only a stylesheet is run, and its template has no parameters of its own. -/
def RunsSheet (e : Engine) (name : String) : Prop :=
  ∀ xml given job, e.plan xml (.str name) given .null = .ok (.ok job) →
    job.processor = .processor Processor.stylesheets ∧ job.template.parameters = []

theorem RunsSheets.runsSheet (runsSheets : RunsSheets e) (name : String) : RunsSheet e name := by
  intro xml given job planned
  obtain ⟨found, ⟨entry, member, isEntry⟩, _⟩ := plan_job planned
  exact ⟨isEntry.trans (runsSheets.processors entry member), runsSheets.templates name job.template found⟩

theorem orElse_map (parameters : List (Value × Value)) :
    (Value.map parameters).orElse (.map []) = .map parameters := by
  cases parameters <;> rfl

theorem output_sheet {job : Job} {parameters : List (Value × Value)} (plain : PlainParameters parameters)
    (isSheet : job.processor = .processor Processor.stylesheets)
    (noDefaults : job.template.parameters = []) (xml : Value) :
    job.output xml (.map parameters) = Stylesheet.run job.compile xml job.template.body (.map parameters) := by
  have merged : job.template.mergeParameters (.map parameters) = .ok parameters := by
    have all : Mapping.insertAll parameters [] = parameters :=
      Mapping.insertAll_distinct plain.texts plain.distinct
    rw [EngineTemplate.mergeParameters, noDefaults]
    exact congrArg Except.ok all
  rw [Job.output, merged, isSheet]
  rfl

/-- Calls with the same key and the same parameters in another order are answered alike. -/
theorem freshResult_perm {parameters others : List (Value × Value)} (runsSheet : RunsSheet e name)
    (plain : PlainParameters parameters) (otherPlain : PlainParameters others)
    (permuted : parameters.Perm others)
    (sameKey : cacheKey xml (.str name) (.map parameters) = cacheKey xml (.str name) (.map others)) :
    e.freshResult xml (.str name) (.map parameters) .null =
      e.freshResult xml (.str name) (.map others) .null := by
  have samePlan : e.plan xml (.str name) (.map parameters) .null =
      e.plan xml (.str name) (.map others) .null := by
    rw [plan, plan, sameKey]
  rw [freshResult, freshResult, orElse_map, orElse_map, samePlan]
  cases planned : e.plan xml (.str name) (.map others) .null with
  | error reason => rfl
  | ok planOrRefusal =>
      cases planOrRefusal with
      | error reason => rfl
      | ok job =>
          obtain ⟨isSheet, noDefaults⟩ := runsSheet xml _ job planned
          have sameOutput : job.output xml (.map parameters) = job.output xml (.map others) := by
            rw [output_sheet plain isSheet noDefaults, output_sheet otherPlain isSheet noDefaults]
            exact Stylesheet.run_perm job.compile xml job.template.body plain.distinct permuted
          have sameResult : job.result xml (.map parameters) = job.result xml (.map others) := by
            rw [Job.result, Job.result, sameOutput]
          simp only [bind, Except.bind, sameResult]

/-! ## Calls while the tables stay -/

/-- A set of calls, each with document, template and parameters. -/
abbrev Calls := String → String → List (Value × Value) → Prop

/-- The keys of the calls tell different work apart: only the order of parameters may differ under a key. -/
def KeysSeparate (calls : Calls) : Prop :=
  ∀ xml name parameters xml' name' parameters', calls xml name parameters →
    calls xml' name' parameters' →
      ∀ key, cacheKey (.str xml) (.str name) (.map parameters) = .ok key →
        cacheKey (.str xml') (.str name') (.map parameters') = .ok key →
          xml = xml' ∧ name = name' ∧ parameters.Perm parameters'

theorem KeysSeparate.mono {few many : Calls} (separate : KeysSeparate many)
    (subset : ∀ xml name parameters, few xml name parameters → many xml name parameters) :
    KeysSeparate few := by
  intro xml name parameters xml' name' parameters' isCall isOther
  exact separate xml name parameters xml' name' parameters' (subset _ _ _ isCall) (subset _ _ _ isOther)

/-- Every entry of a cache is what one of the calls gives without the cache. -/
def Remembers (e : Engine) (calls : Calls) (cache : Cache) : Prop :=
  ∀ key output, (key, output) ∈ cache.entries →
    ∃ xml name parameters, calls xml name parameters ∧
      cacheKey (.str xml) (.str name) (.map parameters) = .ok key ∧
        e.freshResult (.str xml) (.str name) (.map parameters) .null = .ok (.success output)

/-- An engine whose tables are those of another one, and whose cache remembers calls of a set. -/
structure Steady (base : Engine) (calls : Calls) (e : Engine) : Prop where
  same : SameTables base e
  remembers : Remembers base calls e.cache

variable {base : Engine} {calls : Calls}

theorem Steady.refl (noEntries : base.cache.entries = []) (calls : Calls) : Steady base calls base := by
  refine ⟨SameTables.refl base, ?_⟩
  intro key output member
  rw [noEntries] at member
  cases member

/-- What is found under the key of a call is what the call gives without the cache. -/
theorem Steady.found {text key : String} {parameters : List (Value × Value)} {output : Value}
    (steady : Steady base calls e)
    (runsSheets : ∀ xml name parameters, calls xml name parameters → RunsSheet base name)
    (separate : KeysSeparate calls)
    (plain : ∀ xml name parameters, calls xml name parameters → PlainParameters parameters)
    (isCall : calls text name parameters)
    (isKey : cacheKey (.str text) (.str name) (.map parameters) = .ok key)
    (found : e.cache.find? key = some output) :
    base.freshResult (.str text) (.str name) (.map parameters) .null = .ok (.success output) := by
  obtain ⟨xml, other, others, isOther, otherKey, fresh⟩ :=
    steady.remembers key output (mem_entries_of_find? found)
  obtain ⟨sameXml, sameName, permuted⟩ :=
    separate xml other others text name parameters isOther isCall key otherKey isKey
  have otherPlain := plain xml other others isOther
  rw [sameXml, sameName] at otherKey fresh
  have alike : base.freshResult (.str text) (.str name) (.map others) .null =
      base.freshResult (.str text) (.str name) (.map parameters) .null :=
    freshResult_perm (runsSheets text name parameters isCall) otherPlain
      (plain text name parameters isCall) permuted
      (otherKey.trans isKey.symm)
  exact alike.symm.trans fresh

theorem Steady.remember {text key : String} {parameters : List (Value × Value)} {output : Value}
    {changed : Engine} (steady : Steady base calls e) (isCall : calls text name parameters)
    (isKey : cacheKey (.str text) (.str name) (.map parameters) = .ok key)
    (fresh : base.freshResult (.str text) (.str name) (.map parameters) .null = .ok (.success output))
    (same : SameTables e changed) (cache : changed.cache = e.cache.insert key output) :
    Steady base calls changed := by
  refine ⟨steady.same.trans same, ?_⟩
  intro known value member
  rw [cache] at member
  rcases mem_entries_insert member with old | ⟨sameKey, sameOutput⟩
  · exact steady.remembers known value old
  · rw [sameKey, sameOutput]
    exact ⟨text, name, parameters, isCall, isKey, fresh⟩

theorem Steady.congr {changed : Engine} (steady : Steady base calls e) (same : SameTables e changed)
    (cache : changed.cache = e.cache) : Steady base calls changed := by
  refine ⟨steady.same.trans same, ?_⟩
  rw [cache]
  exact steady.remembers

/-- While the tables stay, a call of the set is answered as without the cache, and they stay. -/
theorem Steady.transform {text : String} {parameters : List (Value × Value)}
    (steady : Steady base calls e)
    (runsSheets : ∀ xml name parameters, calls xml name parameters → RunsSheet base name)
    (separate : KeysSeparate calls)
    (plain : ∀ xml name parameters, calls xml name parameters → PlainParameters parameters)
    (isCall : calls text name parameters) (useCache : Value) :
    ∃ changed,
      (Engine.transform (.str text) (.str name) (.map parameters) .null useCache).perform e =
          (base.freshResult (.str text) (.str name) (.map parameters) .null, changed) ∧
        Steady base calls changed := by
  have sameFresh : e.freshResult (.str text) (.str name) (.map parameters) .null =
      base.freshResult (.str text) (.str name) (.map parameters) .null :=
    freshResult_congr (by rw [steady.same.templates]) steady.same.processors steady.same.compile _ _ _
  have isKey (job : Job)
      (planned : e.plan (.str text) (.str name) ((Value.map parameters).orElse (.map [])) .null =
        .ok (.ok job)) : cacheKey (.str text) (.str name) (.map parameters) = .ok job.key := by
    rw [← orElse_map parameters]
    exact (plan_job planned).2.2
  rcases transform_ways e (.str text) (.str name) (.map parameters) .null useCache with
    ⟨job, output, planned, _, found, performed⟩ | ⟨_, performed⟩ |
      ⟨job, changed, planned, _, performed, same, cache⟩
  · rw [performed, steady.found runsSheets separate plain isCall (isKey job planned) found]
    exact ⟨e, rfl, steady⟩
  · rw [performed, sameFresh]
    exact ⟨e, rfl, steady⟩
  · refine ⟨changed, by rw [performed, sameFresh], ?_⟩
    cases ran : job.output (.str text) ((Value.map parameters).orElse (.map [])) with
    | error reason =>
        rw [ran] at cache
        exact steady.congr same cache
    | ok output =>
        rw [ran] at cache
        have fresh : base.freshResult (.str text) (.str name) (.map parameters) .null =
            .ok (.success output) := by
          rw [← sameFresh, freshResult_job planned, Job.result, ran]
        by_cases caching : e.caches useCache = true
        · exact steady.remember isCall (isKey job planned) fresh same (cache.trans (if_pos caching))
        · exact steady.congr same (cache.trans (if_neg caching))

end StyleRules.Engine
