import Mathlib.Data.List.DropRight
import StyleRules.Proofs.Transform.Remembering

/-!
# What the cache still holds

The cache of an engine is bounded: a new entry displaces the oldest one when the cache is full.  So the keys in
the cache are the latest of all keys that came into it since it was cleared, in the order in which they came.
-/

namespace StyleRules

namespace Engine

variable {options : EngineOptions} {start e : Engine} {capacity : Nat} {cache : Cache} {key : String}
  {output xml name parameters asked useCache : Value} {inserted : List String}

/-! ## New engines -/

/-- A new engine has an empty cache of the capacity that was asked for. -/
theorem cache_of_created (created : create options = .ok start) :
    ∃ capacity, capacityOf options.maxCacheSize = .ok capacity ∧ start.cache = .empty capacity := by
  obtain ⟨capacity, isCapacity, created⟩ := Outcome.bind_ok created
  obtain ⟨paths, _, created⟩ := Outcome.bind_ok created
  obtain ⟨searchPath, _, created⟩ := Outcome.bind_ok created
  obtain ⟨processors, _, created⟩ := Outcome.bind_ok created
  dsimp only at created
  generalize isFresh : Engine.mk _ _ _ _ _ _ _ = fresh at created
  have keeps : (registerAll processors).Keeps (·.cache = .empty capacity) :=
    keeps_registerAll fun _ _ _ _ same => same
  have kept := keeps fresh (by rw [← isFresh])
  generalize (registerAll processors).perform fresh = performed at created kept
  obtain ⟨outcome, ready⟩ := performed
  cases outcome with
  | error reason => cases created
  | ok _ =>
      cases created
      exact ⟨capacity, isCapacity, kept⟩

/-! ## The keys of the cache -/

theorem find?_eq_none_iff : cache.find? key = none ↔ key ∉ cache.keys := by
  rw [Cache.find?, List.lookup_eq_none_iff, Cache.keys]
  simp only [List.mem_map]
  grind

/-- The latest of some items and one more: the oldest one gives way when there are enough of them. -/
theorem rtake_concat {α : Type} (items : List α) (item : α) (positive : 1 ≤ capacity) :
    (items ++ [item]).rtake capacity =
      (if capacity ≤ (items.rtake capacity).length then (items.rtake capacity).drop 1
        else items.rtake capacity) ++ [item] := by
  simp only [List.rtake, List.length_append, List.length_singleton, List.length_drop]
  split
  · rw [List.drop_drop, List.drop_append_of_le_length (by omega)]
    congr 2
    omega
  · rw [List.drop_append_of_le_length (by omega)]
    congr 2
    omega

/-- The cache holds the latest of the keys that were inserted, as many as it has room for. -/
structure HoldsLatest (capacity : Nat) (cache : Cache) (inserted : List String) : Prop where
  capacity_eq : cache.capacity = capacity
  distinct : cache.keys.Nodup
  latest : cache.keys = inserted.rtake capacity

theorem HoldsLatest.empty (capacity : Nat) : HoldsLatest capacity (.empty capacity) [] :=
  ⟨rfl, List.nodup_nil, (List.drop_nil).symm⟩

theorem HoldsLatest.clear (holds : HoldsLatest capacity cache inserted) :
    HoldsLatest capacity cache.clear [] :=
  ⟨holds.capacity_eq, List.nodup_nil, (List.drop_nil).symm⟩

theorem HoldsLatest.size_le (holds : HoldsLatest capacity cache inserted) : cache.size ≤ capacity := by
  have sameLength := congrArg List.length holds.latest
  simp only [Cache.keys, List.rtake, List.length_map, List.length_drop] at sameLength
  rw [Cache.size]
  omega

/-- A new key becomes the latest one. -/
theorem HoldsLatest.insert (holds : HoldsLatest capacity cache inserted) (positive : 1 ≤ capacity)
    (absent : key ∉ cache.keys) (output : Value) :
    HoldsLatest capacity (cache.insert key output) (inserted ++ [key]) := by
  have keys : (cache.insert key output).keys =
      (if capacity ≤ cache.keys.length then cache.keys.drop 1 else cache.keys) ++ [key] := by
    simp only [Cache.insert, Cache.keys, Cache.size, holds.capacity_eq, List.length_map]
    split <;> simp
  constructor
  · exact holds.capacity_eq
  · have kept : (if capacity ≤ cache.keys.length then cache.keys.drop 1 else cache.keys).Sublist cache.keys := by
      split
      · exact List.drop_sublist 1 cache.keys
      · exact List.Sublist.refl _
    rw [keys, List.nodup_append]
    refine ⟨holds.distinct.sublist kept, List.nodup_singleton key, ?_⟩
    intro known member other isKey
    rw [List.mem_singleton.mp isKey]
    rintro rfl
    exact absent (kept.subset member)
  · rw [keys, rtake_concat inserted key positive, holds.latest]

/-! ## Calls -/

/-- What it takes for a call to put an output into the cache: it may use the cache, finds its template and its
processor, finds nothing under its key, and the processor returns the output. -/
structure Stores (e : Engine) (xml name parameters asked useCache : Value) (key : String) (output : Value) :
    Prop where
  caching : e.caches useCache = true
  isKey : cacheKey xml name (parameters.orElse (.map [])) = .ok key
  absent : key ∉ e.cache.keys
  returns : ∃ template processorName entry merged,
    e.template? name = .ok (some template) ∧
      e.resolve template asked = .ok (some (processorName, entry)) ∧
        template.mergeParameters (parameters.orElse (.map [])) = .ok merged ∧
          entry.processor.runProcessor e.compile xml template.body (.map merged) = .ok output

/-- These are the calls whose runs are remembered. -/
theorem stores_iff_remembered :
    Stores e xml name parameters asked useCache key output ↔
      ∃ run, e.remembered xml name parameters asked useCache = some run ∧ run.job.key = key ∧
        run.output = .ok output := by
  constructor
  · rintro ⟨caching, isKey, absent, template, processorName, entry, merged, isTemplate, isEntry, isMerged, returned⟩
    have planned : e.plan xml name (parameters.orElse (.map [])) asked =
        .ok (.ok ⟨template, processorName, entry.processor, key, e.compile⟩) :=
      plan_eq_job_iff.mpr ⟨isTemplate, ⟨entry, isEntry, rfl⟩, isKey, rfl⟩
    have ran : Job.output ⟨template, processorName, entry.processor, key, e.compile⟩ xml
        (parameters.orElse (.map [])) = .ok output := by
      rw [Job.output, isMerged]
      exact returned
    refine ⟨⟨_, xml, parameters.orElse (.map [])⟩, ?_, rfl, ran⟩
    rw [remembered_of_job planned, ran]
    simp [caching, find?_eq_none_iff.mpr absent, Except.isOk, Except.toBool]
  · rintro ⟨run, recorded, rfl, ran⟩
    rw [remembered] at recorded
    split at recorded
    · rename_i job planned
      obtain ⟨isTemplate, ⟨entry, isEntry, isProcessor⟩, isKey, isCompile⟩ := plan_eq_job_iff.mp planned
      split at recorded
      · rename_i stored
        cases recorded
        simp only [Bool.and_eq_true, Option.isNone_iff_eq_none] at stored
        obtain ⟨merged, isMerged, returned⟩ := Outcome.bind_ok ran
        rw [isProcessor, isCompile] at returned
        exact ⟨stored.1.1, isKey, find?_eq_none_iff.mp stored.1.2, job.template, job.processorName, entry, merged,
          isTemplate, isEntry, isMerged, returned⟩
      · cases recorded
    · cases recorded

/-! ## Sequences of calls -/

/-- The keys that came into the cache since it was cleared, in the order in which they came. -/
def insertedKeys (history : List Operation) (start : Engine) : List String :=
  (trace history start).2.map (·.job.key)

/-- Whatever an engine is used for next, its cache holds the latest of the keys that were inserted. -/
theorem HoldsLatest.apply {runs : List Run} (positive : 1 ≤ capacity)
    (holds : HoldsLatest capacity e.cache (runs.map (·.job.key))) (operation : Operation) :
    HoldsLatest capacity (operation.apply e).cache ((operation.record e runs).map (·.job.key)) := by
  rcases operation.cases_cache e runs with rfl | ⟨xml, name, parameters, asked, useCache, rfl⟩ | ⟨cache, kept⟩
  · exact holds.clear
  · rw [Operation.record]
    rcases transform_remembers e xml name parameters asked useCache with
      ⟨run, output, recorded, notFound, _, cache⟩ | ⟨recorded, cache⟩
    · rw [recorded, cache, Option.toList_some, List.map_append, List.map_singleton]
      exact holds.insert positive (find?_eq_none_iff.mp notFound) output
    · rw [recorded, cache, Option.toList_none, List.append_nil]
      exact holds
  · rw [cache, kept]
    exact holds

theorem holdsLatest_trace (positive : 1 ≤ capacity) (fresh : start.cache = .empty capacity)
    (history : List Operation) :
    HoldsLatest capacity (trace history start).1.cache (insertedKeys history start) := by
  induction history using List.reverseRecOn with
  | nil =>
      have isEmpty : (trace [] start).1.cache = .empty capacity := fresh
      rw [isEmpty]
      exact HoldsLatest.empty capacity
  | append_singleton history operation ih =>
      rw [insertedKeys, trace_concat]
      exact ih.apply positive operation

theorem insertedKeys_transform (history : List Operation) (start : Engine)
    (xml name parameters asked useCache : Value) :
    insertedKeys (history ++ [.transform xml name parameters asked useCache]) start =
      insertedKeys history start ++
        ((trace history start).1.remembered xml name parameters asked useCache).toList.map (·.job.key) := by
  rw [insertedKeys, trace_concat, Operation.record, List.map_append, insertedKeys]

/-- Whatever calls a new engine has seen: its capacity is positive, the keys in its cache are distinct, and they
are the latest of the keys that were inserted since the cache was cleared.  A transform call inserts its key
exactly when it may use the cache, finds template and processor, does not find its key in the cache, and the
processor returns; every other transform call leaves the cache as it was. -/
theorem cache_holds_latest (created : create options = .ok start) (history : List Operation) :
    ∃ capacity, capacityOf options.maxCacheSize = .ok capacity ∧ 1 ≤ capacity ∧
      (let e := (trace history start).1
      HoldsLatest capacity e.cache (insertedKeys history start) ∧ e.cache.size ≤ capacity ∧
        ∀ xml name parameters asked useCache,
          let call := Operation.transform xml name parameters asked useCache
          (∀ key output, Stores e xml name parameters asked useCache key output →
            (call.apply e).cache = e.cache.insert key output ∧
              insertedKeys (history ++ [call]) start = insertedKeys history start ++ [key]) ∧
          ((∀ key output, ¬Stores e xml name parameters asked useCache key output) →
            (call.apply e).cache = e.cache ∧
              insertedKeys (history ++ [call]) start = insertedKeys history start)) := by
  obtain ⟨capacity, isCapacity, fresh⟩ := cache_of_created created
  have positive := one_le_capacity isCapacity
  have holds := holdsLatest_trace positive fresh history
  refine ⟨capacity, isCapacity, positive, holds, holds.size_le, ?_⟩
  intro xml name parameters asked useCache
  dsimp only
  rw [insertedKeys_transform]
  rcases transform_remembers (trace history start).1 xml name parameters asked useCache with
    ⟨run, output, recorded, _, ran, cache⟩ | ⟨recorded, cache⟩
  · rw [recorded, cache]
    constructor
    · intro key value stores
      obtain ⟨other, same, rfl, alsoRan⟩ := stores_iff_remembered.mp stores
      cases recorded.symm.trans same
      cases ran.symm.trans alsoRan
      exact ⟨rfl, rfl⟩
    · intro none
      exact absurd (stores_iff_remembered.mpr ⟨run, recorded, rfl, ran⟩) (none run.job.key output)
  · rw [recorded, cache]
    constructor
    · intro key value stores
      obtain ⟨run, same, _⟩ := stores_iff_remembered.mp stores
      cases recorded.symm.trans same
    · intro _
      exact ⟨rfl, List.append_nil _⟩

def smallOptions : EngineOptions := { maxCacheSize := .int 2 }

def smallEngine : Engine := { initial with cache := .empty 2 }

def transformDocument (document : String) : Operation :=
  .transform (.str document) (.str "sheet") .null (.str "first") (.bool true)

/-- Three documents are transformed, the first one of them twice. -/
def documentCalls : List Operation :=
  [.registerProcessor (.str "first") (constantProcessor "one"),
    .registerTemplate (.str "sheet") (.str "body") {},
    transformDocument "<a/>", transformDocument "<b/>", transformDocument "<a/>", transformDocument "<c/>"]

/-- The key of a document under the template, without parameters. -/
def documentKey (document : String) : String := document ++ "|sheet|\x7b\x7d"

/-- Where there is room for two documents, the third one displaces the first one. -/
theorem cache_holds_latest_documents :
    create smallOptions = .ok smallEngine ∧
      insertedKeys documentCalls smallEngine = ["<a/>", "<b/>", "<c/>"].map documentKey ∧
        (trace documentCalls smallEngine).1.cache.keys = ["<b/>", "<c/>"].map documentKey := by
  have created : create smallOptions = .ok smallEngine := rfl
  have inserted : insertedKeys documentCalls smallEngine = ["<a/>", "<b/>", "<c/>"].map documentKey := by
    decide +kernel
  obtain ⟨capacity, isCapacity, _, holds, _⟩ := cache_holds_latest created documentCalls
  cases isCapacity
  refine ⟨created, inserted, ?_⟩
  rw [holds.latest, inserted]
  rfl

end Engine

end StyleRules
