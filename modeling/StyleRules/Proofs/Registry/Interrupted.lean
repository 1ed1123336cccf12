import StyleRules.Proofs.Lists
import StyleRules.Proofs.Outcomes
import StyleRules.Proofs.Registry.Resolution
import StyleRules.Proofs.Transform.Calls
import StyleRules.Proofs.Transform.Enabling
import StyleRules.Proofs.Value.Reading
import StyleRules.Proofs.Value.TextOrder

/-!
# Batches that end half way

The chain of strategies is replaced one strategy after the other, and shipped processors are enabled one name after
the other.  Such a batch fails at the first strategy or name that is refused, and what it did before stays: the chain
is that of the strategies in front, and the processors in front are registered.  So a failed batch leaves everything
as it was only if this makes no difference.
-/

namespace StyleRules

namespace Engine

variable {e ended : Engine} {name : String} {entry : ProcessorEntry} {info : ProcessorInfo}
  {processors : List (Value × ProcessorEntry)} {names : List Value} {reason : Failure}

/-! ## The listing of processors -/

/-- What is said about each registered processor, in the order of the table. -/
def infos (processors : List (Value × ProcessorEntry)) : Outcome (List ProcessorInfo) :=
  processors.mapM fun entry => infoOf entry.1 entry.2

theorem processorInfo_eq (e : Engine) :
    e.processorInfo = infos e.processors >>= Value.sortDescending (·.priority) :=
  rfl

theorem infoOf_error {name : Value} (failed : infoOf name entry = .error reason) : reason = .misuse .type := by
  rw [infoOf] at failed
  dsimp only at failed
  split at failed
  · cases isIterated : (entry.processor.attributeOrNull "supports").iterate with
    | error refusal =>
        rw [isIterated] at failed
        cases failed
        exact Value.iterate_error isIterated
    | ok items =>
        rw [isIterated] at failed
        cases failed
  · cases failed

/-- There is one reason only for which processors are not listed. -/
theorem processorInfo_error (failed : e.processorInfo = .error reason) : reason = .misuse .type := by
  rw [processorInfo_eq] at failed
  cases read : infos e.processors with
  | error refusal =>
      rw [read] at failed
      cases failed
      exact mapM_error_eq (fun entry other => infoOf_error) read
  | ok listed =>
      rw [read, Outcome.ok_bind, Value.sortDescending] at failed
      split at failed <;> cases failed
      rfl

theorem exists_infos {listing : List ProcessorInfo} (listed : e.processorInfo = .ok listing) :
    ∃ found, infos e.processors = .ok found ∧ listing.Perm found := by
  rw [processorInfo_eq] at listed
  obtain ⟨found, read, isSorted⟩ := Outcome.bind_ok listed
  exact ⟨found, read, Value.sortDescending_perm isSorted⟩

theorem infos_split {first second : List (Value × ProcessorEntry)} {known : Value} {found : List ProcessorInfo}
    (read : infos (first ++ (known, entry) :: second) = .ok found) :
    ∃ before info after, infos first = .ok before ∧ infoOf known entry = .ok info ∧ infos second = .ok after ∧
      found = before ++ info :: after := by
  rw [infos, List.mapM_append] at read
  obtain ⟨before, isBefore, read⟩ := Outcome.bind_ok read
  obtain ⟨others, isOthers, read⟩ := Outcome.bind_ok read
  rw [List.mapM_cons] at isOthers
  obtain ⟨info, isInfo, isOthers⟩ := Outcome.bind_ok isOthers
  obtain ⟨after, isAfter, isOthers⟩ := Outcome.bind_ok isOthers
  cases isOthers
  cases read
  exact ⟨before, info, after, isBefore, isInfo, isAfter, rfl⟩

/-- A listing that is not changed by registering a processor has shown the same information under the name before. -/
theorem same_of_processorInfo_insert {listing : List ProcessorInfo} (isInfo : infoOf (.str name) entry = .ok info)
    (listed : e.processorInfo = .ok listing)
    (same : { e with processors := Mapping.insert (.str name) entry e.processors }.processorInfo = .ok listing) :
    ∃ old, Mapping.find? (.str name) e.processors = some old ∧ infoOf (.str name) old = .ok info := by
  obtain ⟨found, read, isListing⟩ := exists_infos listed
  obtain ⟨again, readAgain, isAgain⟩ := exists_infos same
  have permuted : found.Perm again := isListing.symm.trans isAgain
  cases isOld : Mapping.find? (.str name) e.processors with
  | none =>
      have absent : .str name ∉ Mapping.keys e.processors := by
        rw [Mapping.str_mem_keys_iff, isOld]
        exact Bool.false_ne_true
      dsimp only at readAgain
      rw [Mapping.insert_absent entry (Value.isText_str name) absent] at readAgain
      obtain ⟨before, added, after, isBefore, _, _, rfl⟩ := infos_split readAgain
      cases read.symm.trans isBefore
      have longer := permuted.length_eq
      simp at longer
  | some old =>
      obtain ⟨before, after, written⟩ := Mapping.exists_insert name e.processors
      have isTable : e.processors = before ++ (.str name, old) :: after := by
        rw [← written, Mapping.insert_found isOld]
      dsimp only at readAgain
      rw [isTable] at read
      rw [written] at readAgain
      obtain ⟨first, oldInfo, second, isFirst, isOldInfo, isSecond, rfl⟩ := infos_split read
      obtain ⟨firstAgain, newInfo, secondAgain, isFirstAgain, isNewInfo, isSecondAgain, rfl⟩ := infos_split readAgain
      cases isFirst.symm.trans isFirstAgain
      cases isSecond.symm.trans isSecondAgain
      cases isInfo.symm.trans isNewInfo
      have alike : [oldInfo].Perm [info] :=
        (List.perm_append_right_iff second).mp ((List.perm_append_left_iff first).mp permuted)
      cases List.singleton_perm_singleton.mp alike
      exact ⟨old, rfl, isOldInfo⟩

/-- Registering a processor whose information can be read leaves the listing as it is exactly if the one that was
registered under the name has the same information, or if there is no listing before and after it. -/
theorem processorInfo_insert_iff (isInfo : infoOf (.str name) entry = .ok info) (e : Engine) :
    { e with processors := Mapping.insert (.str name) entry e.processors }.processorInfo = e.processorInfo ↔
      (∃ old, Mapping.find? (.str name) e.processors = some old ∧ infoOf (.str name) old = .ok info) ∨
        e.processorInfo.Fails ∧
          { e with processors := Mapping.insert (.str name) entry e.processors }.processorInfo.Fails := by
  constructor
  · intro same
    cases listed : e.processorInfo with
    | error refusal => exact .inr ⟨⟨refusal, rfl⟩, refusal, same.trans listed⟩
    | ok listing =>
        exact .inl (same_of_processorInfo_insert isInfo listed (same.trans listed))
  · rintro (⟨old, found, sameInfo⟩ | ⟨⟨reason, failed⟩, other, refused⟩)
    · obtain ⟨before, after, written⟩ := Mapping.exists_insert name e.processors
      have isTable : e.processors = before ++ (.str name, old) :: after := by
        rw [← written, Mapping.insert_found found]
      rw [processorInfo_eq, processorInfo_eq, written, isTable, infos, infos]
      simp only [List.mapM_append, List.mapM_cons, isInfo, sameInfo]
    · rw [failed, refused, processorInfo_error failed, processorInfo_error refused]

/-! ## Enabling processors -/

/-- The processor that is shipped, as it is registered. -/
def shipped : ProcessorEntry := ⟨.processor Processor.stylesheets, 0⟩

theorem enableBackends_shipped (rest : List Value) (e : Engine) :
    (enableBackends (.str "lxml" :: rest)).perform e =
      (enableBackends rest).perform { e with processors := Mapping.insert (.str "lxml") shipped e.processors } :=
  rfl

theorem lookIn_backends_unknown {name : Value} (unknown : name ≠ .str "lxml") :
    name.lookIn (backends.map fun (known, processor) => (Value.str known, processor)) = Outcome.wrongType ∨
      name.lookIn (backends.map fun (known, processor) => (Value.str known, processor)) = .ok none := by
  rw [Value.lookIn]
  split
  · refine .inr (congrArg Except.ok (Option.eq_none_iff_forall_ne_some.mpr fun processor found => ?_))
    obtain ⟨known, rfl, member⟩ := mem_of_find?_names found
    cases List.mem_singleton.mp member
    exact unknown rfl
  · exact .inl rfl

/-- A name that no shipped processor has changes nothing. -/
theorem enableBackends_unknown {name : Value} (unknown : name ≠ .str "lxml") (rest : List Value) (e : Engine) :
    ∃ refusal, (enableBackends (name :: rest)).perform e = (.error refusal, e) := by
  rw [enableBackends]
  rcases lookIn_backends_unknown unknown with looked | looked
  · rw [looked]
    exact ⟨_, Action.perform_bind_error (Action.perform_ofOutcome _ e)⟩
  · rw [looked]
    exact ⟨_, Action.perform_bind_ok (Action.perform_ofOutcome _ e)⟩

/-- Enabling processors ends at the first name that no shipped processor has. -/
theorem enableBackends_failed (failed : (enableBackends names).perform e = (.error reason, ended)) :
    ∃ n bad rest, names = List.replicate n (.str "lxml") ++ bad :: rest ∧ bad ≠ .str "lxml" ∧
      ended = if n = 0 then e else { e with processors := Mapping.insert (.str "lxml") shipped e.processors } := by
  induction names generalizing e with
  | nil => cases failed
  | cons name others ih =>
      by_cases isShipped : name = .str "lxml"
      · subst isShipped
        rw [enableBackends_shipped] at failed
        obtain ⟨n, bad, rest, rfl, unknown, isEnded⟩ := ih failed
        refine ⟨n + 1, bad, rest, rfl, unknown, ?_⟩
        rw [isEnded, Mapping.insert_insert]
        split <;> rfl
      · obtain ⟨refusal, refused⟩ := enableBackends_unknown isShipped others e
        rw [refused] at failed
        cases failed
        exact ⟨0, name, others, rfl, isShipped, rfl⟩

end Engine

namespace Registry

variable {r ended : Registry} {strategies : List Strategy} {reason : Failure}

/-! ## Replacing the chain -/

/-- Adding strategies ends at the first one that is refused. -/
theorem registerStrategies_failed (failed : (registerStrategies strategies).perform r = (.error reason, ended)) :
    ∃ before bad rest, strategies = before ++ bad :: rest ∧ (∀ strategy ∈ before, strategy.check = .ok ()) ∧
      bad.check = .error reason ∧ ended = { r with strategies := r.strategies ++ before } := by
  induction strategies generalizing r with
  | nil => cases failed
  | cons strategy others ih =>
      rw [registerStrategies, registerStrategy, bind_assoc] at failed
      cases checked : strategy.check with
      | error refusal =>
          rw [checked, Action.perform_bind_error (Action.perform_ofOutcome _ r)] at failed
          cases failed
          exact ⟨[], strategy, others, rfl, nofun, checked, by rw [List.append_nil]⟩
      | ok accepted =>
          rw [checked, Action.perform_bind_ok (Action.perform_ofOutcome _ r),
            Action.perform_bind_ok (Action.perform_modify _ r)] at failed
          obtain ⟨before, bad, rest, rfl, handled, refused, rfl⟩ := ih failed
          refine ⟨strategy :: before, bad, rest, rfl, List.forall_mem_cons.mpr ⟨checked, handled⟩, refused, ?_⟩
          simp only [List.append_assoc, List.singleton_append]

theorem setStrategies_failed (failed : (setStrategies strategies).perform r = (.error reason, ended)) :
    ∃ before bad rest, strategies = before ++ bad :: rest ∧ (∀ strategy ∈ before, strategy.check = .ok ()) ∧
      bad.check = .error reason ∧ ended = { r with strategies := before } :=
  registerStrategies_failed failed

/-! ## What a failed batch leaves -/

/-- The type is in no table of the registry. -/
def Unregistered (r : Registry) (type : Value) : Prop :=
  type.lookIn r.matchers = .ok none ∧ type.lookIn r.transforms = .ok none

/-- The chain, and what rules of unregistered types come to, are as they were. -/
structure SameFallbacks (r ended : Registry) : Prop where
  chain : ended.strategies = r.strategies
  outcome : ∀ host type options, r.Unregistered type →
    ((createMatcher host type options).perform ended).1 = ((createMatcher host type options).perform r).1

/-- When the chain cannot be replaced, it is that of the strategies in front of the first one that is refused: all is
as before exactly if it was this chain already.  When shipped processors cannot be enabled, those in front of the first
unknown name are registered: all is listed as before exactly if there are none, or if the one that was registered under
the name has the same information, or if there is no listing anyway. -/
theorem interrupted_batches_iff (r : Registry) (strategies : List Strategy) (e : Engine) (names : List Value) :
    (∀ ended reason, (setStrategies strategies).perform r = (.error reason, ended) →
      ∃ before bad rest, strategies = before ++ bad :: rest ∧ (∀ strategy ∈ before, strategy.check = .ok ()) ∧
        bad.check = .error reason ∧ ended = { r with strategies := before } ∧
          (SameFallbacks r ended ↔ r.strategies = before)) ∧
    ∀ ended reason, (Engine.enableBackends names).perform e = (.error reason, ended) →
      ∃ n bad rest, names = List.replicate n (.str "lxml") ++ bad :: rest ∧ bad ≠ .str "lxml" ∧
        (ended.processorInfo = e.processorInfo ↔
          n = 0 ∨
          (∃ old, Mapping.find? (.str "lxml") e.processors = some old ∧
            Engine.infoOf (.str "lxml") old = Engine.infoOf (.str "lxml") Engine.shipped) ∨
          e.processorInfo.Fails ∧ ended.processorInfo.Fails) := by
  constructor
  · intro ended reason failed
    obtain ⟨before, bad, rest, isBatch, handled, refused, rfl⟩ := setStrategies_failed failed
    refine ⟨before, bad, rest, isBatch, handled, refused, rfl, fun same => same.chain.symm, ?_⟩
    rintro rfl
    exact ⟨rfl, fun _ _ _ _ => rfl⟩
  · intro ended reason failed
    obtain ⟨n, bad, rest, isBatch, unknown, rfl⟩ := Engine.enableBackends_failed failed
    refine ⟨n, bad, rest, isBatch, unknown, ?_⟩
    cases n with
    | zero => exact iff_of_true rfl (.inl rfl)
    | succ n =>
        rw [if_neg n.succ_ne_zero, Engine.processorInfo_insert_iff rfl]
        exact (or_iff_right n.succ_ne_zero).symm

/-- An object without any attributes, which handles nothing. -/
def idle : Strategy := .object (.record 0 [])

/-- The failure to enable a processor that is not shipped. -/
def noSaxon : Failure := .unknownBackend "saxon" "lxml"

/-- A batch that begins with the chain that is there leaves it as it is, but a processor that was enabled is listed. -/
theorem interrupted_batches_idle :
    (∃ ended, (setStrategies [.ignoreUnknown, .suggestAlternatives, idle]).perform (create none .standard true) =
        (.error .strategyWithoutHandle, ended) ∧ SameFallbacks (create none .standard true) ended) ∧
      ∃ ended, (Engine.enableBackends [.str "lxml", .str "saxon"]).perform Engine.initial = (.error noSaxon, ended) ∧
        ended.processorInfo ≠ Engine.initial.processorInfo := by
  constructor
  · have failed : (setStrategies [.ignoreUnknown, .suggestAlternatives, idle]).perform (create none .standard true) =
        (.error .strategyWithoutHandle,
          { create none .standard true with strategies := [.ignoreUnknown, .suggestAlternatives] }) := rfl
    obtain ⟨before, _, _, _, _, _, isEnded, same⟩ := (interrupted_batches_iff _ _ Engine.initial []).1 _ _ failed
    have isBefore : [.ignoreUnknown, .suggestAlternatives] = before := congrArg Registry.strategies isEnded
    exact ⟨_, failed, same.mpr isBefore⟩
  · have failed : (Engine.enableBackends [.str "lxml", .str "saxon"]).perform Engine.initial =
        (.error noSaxon, { Engine.initial with processors := [(.str "lxml", Engine.shipped)] }) := rfl
    obtain ⟨n, bad, rest, isBatch, unknown, same⟩ :=
      (interrupted_batches_iff (create none .standard true) [] _ _).2 _ _ failed
    refine ⟨_, failed, fun unchanged => ?_⟩
    rcases same.mp unchanged with rfl | ⟨old, found, _⟩ | ⟨⟨reason, refused⟩, _⟩
    · cases isBatch
      exact unknown rfl
    · cases found
    · cases refused

/-- The chain is lost with its first strategy, so that a rule of an unregistered type has no matcher any more, and the
processor in front of the unknown name is listed. -/
theorem idle_empties_chain :
    let r := create none .standard true
    let memos := createMatcher .bare (.str "memo") .null
    (∃ ended, (setStrategies [idle]).perform r = (.error .strategyWithoutHandle, ended) ∧
        r.strategies = [.ignoreUnknown, .suggestAlternatives] ∧ ended.strategies = [] ∧
        r.Unregistered (.str "memo") ∧ (memos.perform r).1.map (·.isSuccess) = .ok true ∧
        (memos.perform ended).1.map (·.isSuccess) = .ok false) ∧
      ∃ ended, (Engine.enableBackends [.str "lxml", .str "saxon"]).perform Engine.initial = (.error noSaxon, ended) ∧
        Engine.initial.processorInfo = .ok [] ∧
        ended.processorInfo.map (List.map (·.name)) = .ok [.str "lxml"] :=
  ⟨⟨_, rfl, rfl, rfl, ⟨rfl, rfl⟩, rfl, rfl⟩, ⟨_, rfl, rfl, rfl⟩⟩

end Registry

end StyleRules
