import StyleRules.Proofs.Orchestration.Explaining
import StyleRules.Proofs.Orchestration.Readiness
import StyleRules.Proofs.Orchestration.SetupOrder
import StyleRules.Proofs.Registry.SetupMessages

/-!
# What a run reports

A run over rules of built-in types shows the messages of the setup, then those of the rules, and then those about
matchers that failed.  All of them are errors or warnings.  The report details the first of them, up to the limit
that the configuration sets, and counts what it details.  The limit has to be an integer for this: the schema also
accepts whole numbers that are written as doubles, and a run cannot cut a list at such a number.
-/

namespace StyleRules

theorem Message.not_isError_iff {message : Message} (counted : message.Counted) :
    (!message.isError) = message.isWarning := by
  rcases counted with isError | isWarning
  · rw [isError, isWarning, of_decide_eq_true isError]
    rfl
  · rw [isWarning, isError, of_decide_eq_true isWarning]
    rfl

/-- The report details the first messages up to a limit, in order, and counts the errors and the warnings among
them. -/
structure RunOutcome.Reports (outcome : RunOutcome) (limit : Nat) : Prop where
  length : outcome.report.details.length = min limit outcome.messages.length
  details : outcome.report.details.map (fun detail => (detail.kind, detail.text)) =
    (outcome.messages.take limit).map fun message => (.str message.kind, .str message.text)
  total : outcome.report.totalErrors + outcome.report.totalWarnings = outcome.report.details.length
  errors : outcome.report.totalErrors = (outcome.messages.take limit).countP (·.isError)
  warnings : outcome.report.totalWarnings = (outcome.messages.take limit).countP (·.isWarning)

namespace Orchestrator

open StyleRules.Configuration Registry Validation

variable {o : Orchestrator} {host : Host} {r start last : Registry} {event context : Value}
  {rules elements : List Value} {limit : Nat}

/-! ## Messages of the setup -/

theorem keeps_registerPlugins {holds : Registry → Prop}
    (reports : ∀ (d : Diagnostics) name missing, (report (d.dependenciesMissing name missing)).Keeps holds)
    (registers : ∀ plugin, (registerPlugin plugin).Keeps holds) (plugins : List Value) :
    (registerPlugins takeStep plugins).Keeps holds := by
  induction plugins with
  | nil => exact Action.Keeps.pure ()
  | cons plugin rest ih =>
      have both : Action.Keeps holds (do registerBy takeStep plugin; registerPlugins takeStep rest) := by
        rw [registerBy_takeStep]
        exact (registers plugin).bind fun _ => ih
      refine Action.Keeps.get.bind fun _ => (Action.Keeps.ofOutcome _).bind fun missing => ?_
      split
      · refine (Action.Keeps.ofOutcome _).bind fun name => Action.Keeps.get.bind fun _ => ?_
        exact (reports _ name missing).bind fun _ => both
      · exact both

theorem keepsDiagnostics_registerPlugin {d : Diagnostics} (plugin : Value) :
    (registerPlugin plugin).Keeps (·.diagnostics = d) := by
  intro r same
  rw [leaves_registerPlugin plugin r rfl]
  exact same

theorem keepsCounted_registerAll (registrations : List Registration) :
    (registerAll registrations).Keeps OnlyCounted := by
  induction registrations with
  | nil => exact Action.Keeps.pure ()
  | cons registration rest ih =>
      exact (keepsCounted_register registration.name registration.factory _).bind fun _ => ih

theorem onlyCounted_buildRegistry (built : o.buildRegistry host = .ok r) : OnlyCounted r := by
  obtain ⟨engine, mode, part, withMode, withPlugins, configured, _, stages⟩ := exists_buildStages built
  have modeCounted := keeps_setFallbackMode (fun _ _ counted => counted) mode _
    (onlyCounted_create engine Diagnostics.standard true)
  rw [stages.modeSet] at modeCounted
  have pluginsCounted := keeps_registerPlugins (fun d => keepsCounted_dependenciesMissing)
    keepsCounted_registerPlugin o.plugins _ modeCounted
  rw [stages.pluginsRegistered] at pluginsCounted
  -- What the configuration says is known only under the standard diagnostics.
  have keepsStandard : (setFallbackMode mode).Keeps (·.diagnostics = Diagnostics.standard) :=
    keeps_setFallbackMode (fun _ _ same => same) mode
  have modeStandard := keepsStandard (Registry.create engine Diagnostics.standard true) rfl
  rw [stages.modeSet] at modeStandard
  have standard := keeps_registerPlugins (fun _ _ _ => keeps_report (fun _ _ same => same) _)
    keepsDiagnostics_registerPlugin o.plugins _ modeStandard
  rw [stages.pluginsRegistered] at standard
  obtain ⟨print, plain, rfl⟩ := loadConfiguration_plain standard stages.loaded
  have counted := keepsCounted_registerAll o.registrations _ (pluginsCounted.onto plain)
  rwa [stages.registered] at counted

/-! ## Messages of the rules -/

/-- The rule is a mapping with the name of a built-in type. -/
def NamesBuiltin (rule : Value) : Prop :=
  ∃ entries name, rule = .map entries ∧ rule.option "type" = .ok (.str name) ∧
    name ∈ BuiltinTypes.all.map (·.1)

/-- However a registry is set up, it has a registration for every built-in type. -/
theorem exists_builtin (built : o.buildRegistry host = .ok r) {name : String}
    (builtin : name ∈ BuiltinTypes.all.map (·.1)) :
    ∃ registered, Mapping.find? (.str name) r.matchers = some registered := by
  obtain ⟨_, _, _, _, _, _, finds⟩ := find?_buildRegistry built
  have known : ∀ name ∈ BuiltinTypes.all.map (·.1), (Mapping.get? name builtinMatchers).isSome := by
    decide +kernel
  rw [← Option.isSome_iff_exists, finds]
  simp only [Option.isSome_or, known name builtin, Bool.or_true]

theorem build_counted (registered : RegisteredMatcher) (type options : Value) :
    ∀ message ∈ (build registered type options).messages, message.Counted := by
  rw [build]
  split
  · simp [Result.failed, Message.Counted, Message.error, Message.isError]
  · simp [Result.refused, Message.Counted, Message.warning, Message.isWarning]
  · split
    · simp [Result.failed, Message.Counted, Message.error, Message.isError]
    · simp [Result.success]

/-- Rules of built-in types are compiled without touching the registry. -/
theorem compileFrom_builtin (built : o.buildRegistry host = .ok r)
    (builtin : ∀ rule ∈ rules, NamesBuiltin rule) (index : Nat) :
    ∃ compiled, (compileFrom host index rules).perform r = (.ok compiled, r) ∧
      ∀ rule ∈ compiled, ∀ message ∈ rule.result.messages, message.Counted := by
  induction rules generalizing index with
  | nil => exact ⟨[], rfl, nofun⟩
  | cons rule rest ih =>
      obtain ⟨⟨entries, name, isMapping, isType, isBuiltin⟩, others⟩ := List.forall_mem_cons.mp builtin
      obtain ⟨registered, found⟩ := exists_builtin built isBuiltin
      obtain ⟨options, isOptions⟩ : ∃ options, rule.option "options" = .ok options := by
        rw [isMapping]
        exact ⟨_, rfl⟩
      obtain ⟨compiled, performed, counted⟩ := ih others (index + 1)
      refine ⟨⟨index, .str name, build registered (.str name) (options.orElse (.map []))⟩ :: compiled, ?_, ?_⟩
      · rw [compileFrom, isType, Action.perform_bind_ok (Action.perform_ofOutcome _ r), isOptions,
          Action.perform_bind_ok (Action.perform_ofOutcome _ r),
          Action.perform_bind_ok (createMatcher_direct host options found), Action.perform_bind_ok performed]
        rfl
      · exact List.forall_mem_cons.mpr ⟨build_counted registered _ _, counted⟩

theorem Inquiry.isError_of_complaint? {inquiry : Inquiry} {message : Message}
    (complains : inquiry.complaint? = some message) : message.isError = true := by
  obtain ⟨first, _, rfl⟩ := Option.map_eq_some_iff.mp complains
  rfl

/-! ## The limit -/

/-- The limit of an accepted configuration is an integer that is not negative, or a double without a fraction. -/
theorem exists_limit (noOverrides : NoOverrides host)
    (conforms : Conforms basicValidators (Schema.ofValue defaultSchema) (.map o.configuration.entries)) :
    (∃ limit : Nat, o.configuration.get host "error_handling.max_errors" (.int 100) = .ok (.int limit)) ∨
      ∃ x, Decimal.isInteger x = true ∧
        o.configuration.get host "error_handling.max_errors" (.int 100) = .ok (.float x) := by
  have isPath : pathNames "error_handling.max_errors" = ["error_handling", "max_errors"] := rfl
  have isInner : schemaAt ["error_handling", "max_errors"] (Schema.ofValue defaultSchema) =
    some (Schema.ofValue (schemaOf "number" [("min", .int 0), ("integer", .bool true)])) := rfl
  rw [get_of_noOverrides noOverrides isPath]
  cases found : lookup ["error_handling", "max_errors"] (.map o.configuration.entries) with
  | none => exact .inl ⟨100, rfl⟩
  | some value =>
      obtain ⟨isNumber, notSmall, isInteger⟩ := (conforms_at conforms isInner found).integer rfl rfl rfl rfl
      cases value with
      | int n =>
          have notLess : ¬n < 0 := by
            simpa [Value.less, Value.number?, Number.compare?, compare_lt_iff_lt] using notSmall
          exact .inl ⟨n.toNat, by rw [Int.toNat_of_nonneg (not_lt.mp notLess)]; rfl⟩
      | float x => exact .inr ⟨x, Except.ok.inj isInteger, rfl⟩
      | _ => cases isNumber

/-! ## Whole runs -/

theorem reports_first {found : List RuleOutcome} {messages : List Message} (now : String) (context : Value)
    (counted : ∀ message ∈ messages, message.Counted) (limit : Nat) :
    RunOutcome.Reports ⟨found, messages, Report.ofMessages now (messages.take limit) context⟩ limit := by
  refine ⟨?_, ?_, ?_, Report.totalErrors_ofMessages, ?_⟩
  · rw [Report.ofMessages, List.length_map, List.length_take]
  · rw [Report.ofMessages, List.map_map]
    rfl
  · rw [Report.totals_ofMessages, Report.ofMessages, List.length_map]
  · rw [Report.totalWarnings_ofMessages]
    refine List.countP_congr fun message member => ?_
    rw [Message.not_isError_iff (counted message (List.mem_of_mem_take member))]

theorem limited_nat (limit : Nat) (messages : List Message) :
    limited (.int limit) messages = .ok (messages.take limit) := by
  have notNegative : ¬(limit : Int) < 0 := not_lt.mpr (Int.natCast_nonneg limit)
  rw [limited]
  dsimp only
  rw [if_neg notNegative, Int.toNat_natCast]

/-- The messages of a run over compiled rules are errors and warnings, wherever they come from. -/
theorem counted_messages {compiled : List CompiledRule} (built : o.buildRegistry host = .ok start)
    (ruleCounted : ∀ rule ∈ compiled, ∀ message ∈ rule.result.messages, message.Counted)
    (inquiries : List Inquiry) :
    ∀ message ∈ start.setupMessages ++ compiled.flatMap (·.result.messages) ++
      inquiries.filterMap Inquiry.complaint?, message.Counted := by
  intro message member
  rw [List.mem_append, List.mem_append] at member
  rcases member with (ofSetup | ofRule) | ofMatcher
  · exact onlyCounted_buildRegistry built message ofSetup
  · obtain ⟨rule, isRule, member⟩ := List.mem_flatMap.mp ofRule
    exact ruleCounted rule isRule message member
  · obtain ⟨inquiry, _, complains⟩ := List.mem_filterMap.mp ofMatcher
    exact .inl (Inquiry.isError_of_complaint? complains)

/-- In a configuration that is valid and not strict, over rules of built-in types and elements whose children are
listed, a run shows all messages and reports the first of them, as many as an integer limits.  With a limit that is
a double it fails, although the configuration is valid. -/
theorem run_reports (noOverrides : NoOverrides host) (isDefault : o.configuration.schema = defaultSchema)
    (basic : o.configuration.validators = basicValidators) (isValid : o.configuration.IsValid)
    (lenient : o.configuration.get host "error_handling.strict_mode" (.bool false) = .ok (.bool false))
    (built : o.buildRegistry host = .ok start)
    (isEvent : Event.ofValue event = .ok ⟨rules, .list elements, context⟩)
    (builtin : ∀ rule ∈ rules, NamesBuiltin rule) (listed : ∀ element ∈ elements, element.ChildrenListed)
    (now : String) :
    (∃ (limit : Nat) (trees : List Tree) (compiled : List CompiledRule) (outcome : RunOutcome),
      o.configuration.get host "error_handling.max_errors" (.int 100) = .ok (.int limit) ∧
        Tree.forest (.list elements) = .ok trees ∧
          (compileFrom host 0 rules).perform start = (.ok compiled, start) ∧
            o.run host now event = .ok outcome ∧
              outcome.messages = start.setupMessages ++ compiled.flatMap (·.result.messages) ++
                (inquiries (Tree.walk trees) start compiled).filterMap Inquiry.complaint? ∧
              outcome.Reports limit) ∨
      ∃ x, Decimal.isInteger x = true ∧
        o.configuration.get host "error_handling.max_errors" (.int 100) = .ok (.float x) ∧
          o.run host now event = .error (.misuse .type) := by
  obtain ⟨compiled, performed, ruleCounted⟩ := compileFrom_builtin built builtin 0
  obtain ⟨trees, isForest, _⟩ := Tree.exists_walk listed
  obtain ⟨ended, evaluated, kept⟩ := evaluateAll_perform (Tree.walk trees) compiled start
  have counted := counted_messages built ruleCounted (inquiries (Tree.walk trees) start compiled)
  generalize isMessages : start.setupMessages ++ compiled.flatMap (·.result.messages) ++
    (inquiries (Tree.walk trees) start compiled).filterMap Inquiry.complaint? = messages at counted
  have shown : ended.setupMessages ++ compiled.flatMap (·.result.messages) ++
      ((inquiries (Tree.walk trees) start compiled).map fun inquiry =>
        (inquiry.outcome, inquiry.complaint?.toList)).flatMap (·.2) = messages := by
    rw [← isMessages, kept, List.flatMap_map]
    simp [List.filterMap_eq_flatMap_toList]
  have ran {limit : Value} := @run_eq o host event (.list elements) context rules start start ended compiled trees _
    limit now isEvent built performed (checkStrict_lenient lenient compiled) isForest evaluated
  rw [shown] at ran
  rcases exists_limit noOverrides (isValid.conforms isDefault basic) with
    ⟨limit, isLimit⟩ | ⟨x, isWhole, isLimit⟩
  · have returned := ran isLimit
    rw [limited_nat] at returned
    exact .inl ⟨limit, trees, compiled, _, isLimit, isForest, performed, returned, isMessages.symm,
      reports_first now context counted limit⟩
  · refine .inr ⟨x, isWhole, isLimit, ?_⟩
    rw [ran isLimit]
    rfl

/-! ## Limits that are integers and limits that are doubles -/

/-- A mapping that sets the limit of reports and does without transforms. -/
def limitMapping (limit : Value) : List (Value × Value) :=
  [(.str "transforms", .ofFields [("enabled", .bool false)]),
    (.str "error_handling", .ofFields [("max_errors", limit)])]

def limitOrchestrator (limit : Value) : Orchestrator := ⟨ofMapping bareHost (limitMapping limit), [], []⟩

/-- The registry of the built-in types. -/
def builtinRegistry : Registry := Registry.create none Diagnostics.standard true

section

variable (limit : Value)

theorem get_limit {path : String} {names : List String} (default : Value) (isPath : pathNames path = names) :
    (limitOrchestrator limit).configuration.get bareHost path default =
      .ok ((lookup names (.map (ofMapping bareHost (limitMapping limit)).entries)).getD default) :=
  get_of_noOverrides noOverrides_bareHost isPath default

theorem maxErrors_limit :
    (limitOrchestrator limit).configuration.get bareHost "error_handling.max_errors" (.int 100) =
      .ok (expanded bareHost limit) :=
  @get_limit limit _ ["error_handling", "max_errors"] _ rfl

theorem lenient_limit :
    (limitOrchestrator limit).configuration.get bareHost "error_handling.strict_mode" (.bool false) =
      .ok (.bool false) :=
  @get_limit limit _ ["error_handling", "strict_mode"] _ rfl

theorem buildRegistry_limit : (limitOrchestrator limit).buildRegistry bareHost = .ok builtinRegistry := by
  have noEngine : (limitOrchestrator limit).buildEngine bareHost = .ok none := by
    unfold buildEngine
    simp only [@get_limit limit "transforms.enabled" ["transforms", "enabled"] _ rfl]
    rfl
  have isPart : (limitOrchestrator limit).configuration.registryPart bareHost = .ok (partOf [] [] []) :=
    registryPart_of_noOverrides noOverrides_bareHost
  have isMode : (limitOrchestrator limit).configuration.get bareHost "error_handling.fallback_strategy"
      (.str "ignore") = .ok (.str "ignore") :=
    @get_limit limit _ ["error_handling", "fallback_strategy"] _ rfl
  have modeSet : (setFallbackMode (.str "ignore")).perform builtinRegistry = (.ok (), builtinRegistry) := rfl
  have loaded : (loadConfiguration bareHost (partOf [] [] [])).perform builtinRegistry = (.ok (), builtinRegistry) := rfl
  have tidy : Tidy builtinRegistry := tidy_create none Diagnostics.standard true
  obtain ⟨types, isListed⟩ := availableTypes_texts ⟨tidy.matcherTexts, tidy.transformTexts⟩
  have stages : Stages takeStep (limitOrchestrator limit) bareHost (.str "ignore") (partOf [] [] []) builtinRegistry
      builtinRegistry builtinRegistry builtinRegistry builtinRegistry :=
    ⟨isMode, modeSet, rfl, isPart, loaded, rfl⟩
  rw [buildRegistry, buildBy_of_setUp noEngine stages.setUpBy_perform, isListed]
  rfl

end

/-- A rule whose options cannot be read. -/
def brokenRule : Value :=
  .ofFields [("type", .str "run"), ("options", .ofFields [("styleName", .map [])])]

def brokenEvent : Value := .ofFields [("rules", .list [brokenRule, brokenRule])]

/-- Of two errors the report details one. -/
theorem run_reports_one :
    ∃ outcome, (limitOrchestrator (.int 1)).run bareHost "now" brokenEvent = .ok outcome ∧
      outcome.messages.length = 2 ∧ outcome.report.details.length = 1 ∧ outcome.report.totalErrors = 1 := by
  have reviewed : (limitOrchestrator (.int 1)).configuration.review = .ok () := by decide +kernel
  have builtin : ∀ rule ∈ [brokenRule, brokenRule], NamesBuiltin rule := by
    intro rule member
    simp only [List.mem_cons, List.not_mem_nil, or_false, or_self] at member
    exact ⟨_, "run", member, member ▸ rfl, by decide⟩
  have compiledRules : (compileFrom bareHost 0 [brokenRule, brokenRule]).perform builtinRegistry =
      (.ok [⟨0, .str "run", .failed (.missingKey "'operand'")⟩,
        ⟨1, .str "run", .failed (.missingKey "'operand'")⟩], builtinRegistry) := rfl
  have isEvent : Event.ofValue brokenEvent = .ok ⟨[brokenRule, brokenRule], .list [], .map []⟩ := rfl
  rcases run_reports noOverrides_bareHost rfl rfl (isValid_of_review rfl reviewed) (lenient_limit (.int 1))
      (buildRegistry_limit (.int 1)) isEvent builtin nofun "now" with
    ⟨limit, trees, compiled, outcome, isLimit, isForest, performed, ran, shown, reports⟩ | ⟨x, _, isLimit, _⟩
  · rw [maxErrors_limit] at isLimit
    obtain rfl : 1 = limit := Int.ofNat_inj.mp (Value.int.inj (Except.ok.inj isLimit))
    rw [compiledRules] at performed
    cases performed
    cases isForest
    have messages : outcome.messages =
        [.error (.missingKey "'operand'"), .error (.missingKey "'operand'")] := shown
    refine ⟨outcome, ran, by rw [messages]; rfl, ?_, ?_⟩
    · rw [reports.length, messages]
      rfl
    · rw [reports.errors, messages]
      rfl
  · rw [maxErrors_limit] at isLimit
    cases isLimit

def paragraphRule : Value := .ofFields [("type", .str "paragraph")]

def paragraphEvent : Value := .ofFields [("rules", .list [paragraphRule]), ("elements", .list [])]

/-- A whole number that is written as a double is accepted, the registry is built, and the run fails. -/
theorem run_fails_at_double :
    ∃ c, Configuration.create bareHost { assignmentFile := .null, config := .map (limitMapping (.float 5.0)) } =
        .ok (bareHost, c) ∧
      create c .null = .ok (limitOrchestrator (.float 5.0)) ∧
        (limitOrchestrator (.float 5.0)).buildRegistry bareHost = .ok builtinRegistry ∧
          (limitOrchestrator (.float 5.0)).run bareHost "now" paragraphEvent = .error (.misuse .type) := by
  have reviewed : (ofMapping bareHost (limitMapping (.float 5.0))).review = .ok () := by decide +kernel
  have created := create_ofMapping bareHost (limitMapping (.float 5.0))
  rw [reviewed] at created
  refine ⟨_, created, rfl, buildRegistry_limit _, ?_⟩
  have isEvent : Event.ofValue paragraphEvent = .ok ⟨[paragraphRule], .list [], .map []⟩ := rfl
  have compiledRules : (compileFrom bareHost 0 [paragraphRule]).perform builtinRegistry =
      (.ok [⟨0, .str "paragraph", .success (.matcher (.element (.str "paragraph") .null none .null))⟩],
        builtinRegistry) := rfl
  obtain ⟨found, ended, evaluated⟩ := evaluateAll_succeeds (Tree.walk []) _ _
  rw [run_eq "now" isEvent (buildRegistry_limit _) compiledRules (checkStrict_lenient (lenient_limit _) _) rfl
    evaluated (maxErrors_limit _)]
  rfl

end Orchestrator

end StyleRules
