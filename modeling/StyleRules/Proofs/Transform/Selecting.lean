import StyleRules.Proofs.Transform.Remembering
import StyleRules.Proofs.Value.Ranking
import StyleRules.Proofs.Value.Reading

/-!
# Selecting a processor

A template may leave the choice of its processor to the engine, which takes the first one of the highest priority
that supports its version.  The listing of the registered processors puts higher priorities first and keeps the
order of registration otherwise, so that this is the first listed processor that supports the version.
-/

namespace StyleRules

open Value (integer)

/-- A processor declares its priority by an integer and the versions that it supports by a list, or not at all. -/
structure Declared (processor : Value) : Prop where
  priority : processor.priority.IsInteger
  supports : (processor.attributeOrNull "supports").truthy = true →
    ∃ versions, processor.attributeOrNull "supports" = .list versions

/-- The listed processor supports templates of a version. -/
def ProcessorInfo.handles (version : Value) (info : ProcessorInfo) : Bool :=
  info.supports.any (·.eq (.str ("xslt" ++ version.text)))

namespace Engine

variable {e start : Engine} {processors : List (Value × ProcessorEntry)} {infos : List ProcessorInfo}
  {template : EngineTemplate} {asked version : Value}

/-! ## The two ways to go through the processors -/

/-- The priority of a registered processor. -/
def rankOf (entry : Value × ProcessorEntry) : Int := integer entry.2.processor.priority

/-- What the listing says about a registered processor. -/
def listed (entry : Value × ProcessorEntry) : ProcessorInfo :=
  { name := entry.1
    displayName := (entry.2.processor.attributeOrNull "display_name").orElse entry.1
    supports := (entry.2.processor.attributeOrNull "supports").listed
    priority := entry.2.processor.priority }

theorem infoOf_declared {name : Value} {entry : ProcessorEntry} (declared : Declared entry.processor) :
    infoOf name entry = .ok (listed (name, entry)) := by
  rw [infoOf]
  dsimp only
  split
  · rename_i given
    obtain ⟨versions, isList⟩ := declared.supports given
    simp [isList, Value.iterate, listed, Value.listed]
  · rename_i missing
    simp [listed, Value.listed_of_falsy (Bool.eq_false_iff.mpr missing)]

/-- The candidates are the processors that the listing says to support the version. -/
theorem supporting_declared (declared : ∀ entry ∈ processors, Declared entry.2.processor) (version : Value) :
    supporting ("xslt" ++ version.text) processors =
      .ok (processors.filter fun entry => (listed entry).handles version) := by
  induction processors with
  | nil => rfl
  | cons entry rest ih =>
      obtain ⟨first, others⟩ := List.forall_mem_cons.mp declared
      rw [supporting, ih others, List.filter_cons]
      dsimp only
      split
      · rename_i given
        obtain ⟨versions, isList⟩ := first.supports given
        have handles : (listed entry).handles version = versions.any (·.eq (.str ("xslt" ++ version.text))) := by
          simp [ProcessorInfo.handles, listed, Value.listed, isList]
        rw [isList, handles]
        rfl
      · rename_i missing
        have handles : (listed entry).handles version = false := by
          simp [ProcessorInfo.handles, listed, Value.listed_of_falsy (Bool.eq_false_iff.mpr missing)]
        rw [handles]
        rfl

/-- Of the candidates the first one of the highest priority is taken. -/
theorem highest_leads {best : Value × ProcessorEntry}
    (declared : ∀ entry ∈ best :: processors, Declared entry.2.processor) :
    ∃ selected, highest best processors = .ok selected ∧ Leads rankOf (best :: processors) selected := by
  induction processors generalizing best with
  | nil => exact ⟨best, rfl, leads_singleton best⟩
  | cons entry rest ih =>
      obtain ⟨isBest, isEntry, others⟩ := by simpa only [List.forall_mem_cons] using declared
      rw [highest, Value.less_of_isInteger isBest.priority isEntry.priority, Outcome.ok_bind]
      by_cases higher : rankOf best < rankOf entry
      · obtain ⟨selected, isSelected, leads⟩ := ih (List.forall_mem_cons.mpr ⟨isEntry, others⟩)
        refine ⟨selected, ?_, ?_⟩
        · rw [← isSelected]
          exact congrArg (highest · rest) (if_pos (decide_eq_true higher))
        · exact leads.cons_lower (higher.trans_le (leads.highest entry List.mem_cons_self))
      · obtain ⟨selected, isSelected, leads⟩ := ih (List.forall_mem_cons.mpr ⟨isBest, others⟩)
        refine ⟨selected, ?_, leads.cons_behind (not_lt.mp higher)⟩
        rw [← isSelected]
        exact congrArg (highest · rest) (if_neg (by simpa [rankOf] using not_lt.mp higher))

/-! ## Registered processors -/

/-- Processors are registered under different texts, and all of them are declared. -/
structure Catalogued (processors : List (Value × ProcessorEntry)) : Prop where
  texts : Mapping.TextKeys processors
  distinct : (Mapping.keys processors).Nodup
  declared : ∀ entry ∈ processors, Declared entry.2.processor

theorem catalogued_nil : Catalogued [] :=
  ⟨Mapping.textKeys_nil, List.nodup_nil, by simp⟩

theorem Catalogued.insert {name processor : Value} (catalogued : Catalogued processors) (isText : name.IsText)
    (declared : Declared processor) : Catalogued (Mapping.insert name ⟨processor, 0⟩ processors) := by
  constructor
  · exact Mapping.textKeys_insert.mpr ⟨isText, catalogued.texts⟩
  · exact Mapping.nodup_keys_insert isText catalogued.distinct
  · intro entry member
    rcases Mapping.mem_insert member with old | isNew
    · exact catalogued.declared entry old
    · rw [isNew]
      exact declared

theorem keys_withoutCalls (processors : List (Value × ProcessorEntry)) :
    Mapping.keys (withoutCalls processors) = Mapping.keys processors := by
  simp [Mapping.keys, withoutCalls]

theorem catalogued_withoutCalls : Catalogued (withoutCalls processors) ↔ Catalogued processors := by
  have declared : (∀ entry ∈ withoutCalls processors, Declared entry.2.processor) ↔
      ∀ entry ∈ processors, Declared entry.2.processor :=
    List.forall_mem_map
  constructor <;> rintro ⟨texts, distinct, each⟩
  · rw [Mapping.TextKeys, keys_withoutCalls] at texts
    rw [keys_withoutCalls] at distinct
    exact ⟨texts, distinct, declared.mp each⟩
  · rw [← keys_withoutCalls] at distinct
    rw [Mapping.TextKeys, ← keys_withoutCalls] at texts
    exact ⟨texts, distinct, declared.mpr each⟩

theorem Catalogued.processorInfo (catalogued : Catalogued e.processors) :
    ∃ infos, e.processorInfo = .ok infos ∧ Ranked (integer ·.priority) (e.processors.map listed) infos := by
  have isInfo : e.processorInfo = (do
      Value.sortDescending (·.priority) (← e.processors.mapM fun entry => infoOf entry.1 entry.2)) := rfl
  have read : (e.processors.mapM fun entry => infoOf entry.1 entry.2) = .ok (e.processors.map listed) :=
    mapM_eq_pure_map fun entry member => infoOf_declared (catalogued.declared entry member)
  have integers : ∀ info ∈ e.processors.map listed, info.priority.IsInteger :=
    List.forall_mem_map.mpr fun entry member => (catalogued.declared entry member).priority
  rw [isInfo, read]
  exact Value.sortDescending_ranked integers

/-- The entry of the listed processor with its name. -/
def entryOf (e : Engine) (info : ProcessorInfo) : Option (Value × ProcessorEntry) :=
  (Mapping.find? info.name e.processors).map (Prod.mk info.name)

theorem Catalogued.entryOf_listed (catalogued : Catalogued e.processors) {entry : Value × ProcessorEntry}
    (member : entry ∈ e.processors) : e.entryOf (listed entry) = some entry := by
  rw [entryOf, listed, Mapping.find?_of_mem catalogued.texts catalogued.distinct member]
  rfl

/-- The automatic choice is the first listed processor that supports the version of the template. -/
theorem Catalogued.resolve_auto (catalogued : Catalogued e.processors)
    (ranked : Ranked (integer ·.priority) (e.processors.map listed) infos)
    (auto : (asked.orElse template.processor).isText autoName = true) :
    (infos.find? (·.handles template.version) = none ∧ e.resolve template asked = .ok none) ∨
      ∃ info entry, infos.find? (·.handles template.version) = some info ∧ e.entryOf info = some entry ∧
        e.resolve template asked = .ok (some entry) := by
  have supported := ranked.filter (·.handles template.version)
  rw [List.filter_map] at supported
  rw [resolve, if_pos auto, supporting_declared catalogued.declared, Outcome.ok_bind, ← List.head?_filter]
  have among : ∀ entry ∈ e.processors.filter fun entry => (listed entry).handles template.version,
      entry ∈ e.processors :=
    fun entry => List.mem_of_mem_filter
  -- both ways go through the processors that support the version: one keeps their order, the other ranks them
  simp only [Function.comp_def] at supported
  generalize (e.processors.filter fun entry => (listed entry).handles template.version) = candidates at *
  cases candidates with
  | nil =>
      left
      have none : infos.filter (·.handles template.version) = [] :=
        supported.unique (Ranked.nil _)
      exact ⟨by rw [none]; rfl, rfl⟩
  | cons first rest =>
      right
      obtain ⟨selected, isSelected, leads⟩ :=
        highest_leads fun entry member => catalogued.declared entry (among entry member)
      cases isFiltered : infos.filter (·.handles template.version) with
      | nil =>
          rw [isFiltered] at supported
          have within := supported.mem_iff.mpr (List.mem_map_of_mem List.mem_cons_self)
          cases within
      | cons info others =>
          rw [isFiltered] at supported
          have same : info = listed selected := supported.leads_head.unique (leads.map fun _ => rfl)
          refine ⟨info, selected, rfl, ?_, ?_⟩
          · rw [same]
            exact catalogued.entryOf_listed (among selected leads.mem)
          · dsimp only
            rw [isSelected]
            rfl

/-! ## Sequences of calls -/

/-- Processors are registered under texts, and declare their priorities and versions. -/
def Operation.Declares : Operation → Prop
  | .registerProcessor name processor => name.IsText ∧ Declared processor
  | _ => True

theorem declared_backends {known : String} {processor : Processor Value} (member : (known, processor) ∈ backends) :
    Declared (.processor processor) := by
  obtain ⟨-, rfl⟩ := Prod.mk.inj (List.mem_singleton.mp member)
  exact ⟨⟨10, rfl⟩, fun _ => ⟨_, rfl⟩⟩

theorem Catalogued.apply {operation : Operation} (catalogued : Catalogued e.processors)
    (declares : operation.Declares) : Catalogued (operation.apply e).processors := by
  -- templates and the cache do not matter, and counting a call does not change what is registered
  have ignores (e : Engine) (templates : List (Value × EngineTemplate)) (held : Catalogued e.processors) :
      Catalogued ({ e with templates } : Engine).processors := held
  cases operation with
  | registerTemplate name body options => exact keeps_registerTemplate ignores name body options e catalogued
  | loadTemplate host name path options => exact keeps_loadTemplate ignores host name path options e catalogued
  | defineCommonTemplates => exact keeps_registerSheets ignores _ e catalogued
  | registerProcessor name processor =>
      have keeps : (Engine.registerProcessor name processor).Keeps (Catalogued ·.processors) :=
        keeps_registerProcessor fun _ held => held.insert declares.1 declares.2
      exact keeps e catalogued
  | enableBackends names =>
      have keeps : (Engine.enableBackends names).Keeps (Catalogued ·.processors) :=
        keeps_enableBackends (fun known processor member _ held =>
          held.insert (Value.isText_str known) (declared_backends member)) names
      exact keeps e catalogued
  | clearCache => exact catalogued
  | transform xml name parameters asked useCache =>
      rw [apply_transform, ← catalogued_withoutCalls,
        (sameTables_transform e xml name parameters asked useCache).processors]
      exact catalogued_withoutCalls.mpr catalogued

theorem catalogued_trace (noProcessors : start.processors = []) {history : List Operation}
    (declares : ∀ operation ∈ history, operation.Declares) : Catalogued (trace history start).1.processors := by
  induction history using List.reverseRecOn with
  | nil =>
      have none : (trace [] start).1.processors = [] := noProcessors
      rw [none]
      exact catalogued_nil
  | append_singleton history operation ih =>
      obtain ⟨earlier, last⟩ := List.forall_mem_append.mp declares
      rw [trace_concat]
      exact (ih earlier).apply (last operation (List.mem_singleton_self operation))

/-- Whatever processors were registered, under whatever names: automatic selection takes the first listed one that
supports the version of the template.  If there is none, a transform call reports that no processor was found;
otherwise it fails only as this processor does. -/
theorem auto_selects_first_listed (noProcessors : start.processors = []) {history : List Operation}
    (declares : ∀ operation ∈ history, operation.Declares) :
    let e := (trace history start).1
    ∃ infos, e.processorInfo = .ok infos ∧
      ∀ template asked, (asked.orElse template.processor).isText autoName = true →
        let first := infos.find? (·.handles template.version)
        (∀ info, first = some info → ∃ entry, e.entryOf info = some entry) ∧
          e.resolve template asked = .ok (first.bind e.entryOf) ∧
            ∀ xml name parameters useCache, e.template? name = .ok (some template) →
              let answer := (transform xml name parameters asked useCache).perform e
              (first = none → answer = (.ok (.failed (.processorNotFound autoName)), e)) ∧
                ∀ info reason, first = some info → answer.1 = .ok (.failed reason) →
                  ∃ entry key, e.entryOf info = some entry ∧
                    Job.output ⟨template, entry.1, entry.2.processor, key, e.compile⟩ xml
                      (parameters.orElse (.map [])) = .error reason := by
  have catalogued := catalogued_trace noProcessors declares
  generalize (trace history start).1 = e at catalogued
  obtain ⟨infos, isListing, ranked⟩ := catalogued.processorInfo
  refine ⟨infos, isListing, ?_⟩
  intro template asked auto
  dsimp only
  rcases catalogued.resolve_auto ranked auto with ⟨isNone, resolved⟩ | ⟨info, entry, isFirst, isEntry, resolved⟩
  · rw [isNone]
    refine ⟨by simp, resolved, fun xml name parameters useCache isTemplate => ⟨fun _ => ?_, by simp⟩⟩
    have planned : e.plan xml name (parameters.orElse (.map [])) asked =
        .ok (.error (.processorNotFound (asked.orElse template.processor).text)) := by
      rw [plan, isTemplate, Outcome.ok_bind]
      dsimp only
      rw [resolved]
      rfl
    have isAuto : (asked.orElse template.processor).text = autoName := by
      cases isName : asked.orElse template.processor <;> rw [isName] at auto <;> simp [Value.isText] at auto
      rw [auto]
      rfl
    rw [transform_refused planned, isAuto]
  · rw [isFirst]
    refine ⟨?_, ?_, fun xml name parameters useCache isTemplate => ⟨by simp, ?_⟩⟩
    · rintro _ ⟨⟩
      exact ⟨entry, isEntry⟩
    · rw [resolved, Option.bind_some, isEntry]
    · rintro _ reason ⟨⟩ failed
      obtain ⟨key, isFailure⟩ := failed_of_resolved isTemplate resolved failed
      exact ⟨entry, key, isEntry, isFailure⟩

def rankedProcessor (output : String) (priority : Int) : Value :=
  .processor ⟨.str output, .str output, [.str "xslt1.0"], .int priority, some (.callable (.constant (.str output)))⟩

/-- Two processors have the highest priority, and the first one of them is registered again. -/
def tiedProcessors : List Operation :=
  [.registerProcessor (.str "first") (rankedProcessor "one" 5),
    .registerProcessor (.str "second") (rankedProcessor "two" 7),
    .registerProcessor (.str "third") (rankedProcessor "three" 7),
    .registerProcessor (.str "second") (rankedProcessor "four" 7),
    .registerTemplate (.str "sheet") (.str "body") { processor := .str autoName }]

def autoTemplate : EngineTemplate := ⟨.str "sheet", .str "body", .str autoName, [], [], .str "1.0"⟩

/-- The processor that is registered again keeps its place in front of the other one. -/
theorem auto_selects_registered_again :
    initial.processors = [] ∧ (∀ operation ∈ tiedProcessors, operation.Declares) ∧
      (trace tiedProcessors initial).1.resolve autoTemplate .null =
        .ok (some (.str "second", ⟨rankedProcessor "four" 7, 0⟩)) := by
  have declared {output : String} {priority : Int}
      (isPriority : (rankedProcessor output priority).priority.number? = some (.int priority)) :
      Declared (rankedProcessor output priority) :=
    ⟨⟨priority, isPriority⟩, fun _ => ⟨_, rfl⟩⟩
  have declares : ∀ operation ∈ tiedProcessors, operation.Declares := by
    simp only [tiedProcessors, List.forall_mem_cons, Operation.Declares, Value.isText_str, true_and]
    exact ⟨declared rfl, declared rfl, declared rfl, declared rfl, by simp⟩
  have noProcessors : initial.processors = [] := rfl
  refine ⟨noProcessors, declares, ?_⟩
  obtain ⟨infos, isListing, selects⟩ := auto_selects_first_listed noProcessors declares
  cases isListing
  exact (selects autoTemplate .null rfl).2.1

end Engine

end StyleRules
