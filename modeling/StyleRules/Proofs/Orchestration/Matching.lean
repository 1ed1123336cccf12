import StyleRules.Proofs.Element.Walking
import StyleRules.Proofs.Orchestration.Interference
import StyleRules.Proofs.Registry.Asking

/-!
# What a run finds

A run asks the matcher of every compiled rule about every element of the document, in the order of the walk.
The rule matches the paths of the elements for which its matcher gave a truthy value.  A failure of the
matcher counts as a non-match, and all failures of a rule together are reported once.
-/

namespace StyleRules

namespace Orchestrator

/-! ## Asking about all elements -/

/-- What a matcher gave for the element at a path. -/
structure Answer where
  path : List Nat
  element : Value
  given : Outcome Value

/-- The answers of a matcher about elements in order.  Each question finds the registry as the one before it
has left it. -/
def answers (matcher : Value) (r : Registry) : List (List Nat × Value) → List Answer
  | [] => []
  | (path, element) :: rest =>
    ⟨path, element, ((Registry.ask matcher element).perform r).1⟩ ::
      answers matcher ((Registry.ask matcher element).perform r).2 rest

def afterAnswers (matcher : Value) (r : Registry) (walked : List (List Nat × Value)) : Registry :=
  walked.foldl (fun r (_, element) => ((Registry.ask matcher element).perform r).2) r

/-- A compiled rule with the answers of its matcher. -/
structure Inquiry where
  rule : CompiledRule
  answers : List Answer

namespace Inquiry

/-- The paths of the elements for which the matcher gave a truthy value. -/
def matched (inquiry : Inquiry) : List (List Nat) :=
  (inquiry.answers.filter (·.given.accepted)).map (·.path)

def failures (inquiry : Inquiry) : List Failure :=
  inquiry.answers.filterMap fun answer =>
    match answer.given with
    | .ok _ => none
    | .error reason => some reason

/-- The message about the failures of the matcher, which names their number and the first of them. -/
def complaint? (inquiry : Inquiry) : Option Message :=
  inquiry.failures.head?.map fun first =>
    let rule := inquiry.rule
    let count := inquiry.failures.length
    let about := s!"Matcher for rule {rule.index} ({rule.type.text}) failed on {count} elements: "
    ⟨Message.errorKind, about ++ first.kind ++ ": " ++ first.message, some (.failure first)⟩

end Inquiry

/-- The questions of a run: every rule that was compiled asks its matcher about all elements. -/
def inquiries (walked : List (List Nat × Value)) (r : Registry) : List CompiledRule → List Inquiry
  | [] => []
  | rule :: rest =>
    if rule.result.isSuccess then
      ⟨rule, answers rule.result.value r walked⟩ ::
        inquiries walked (afterAnswers rule.result.value r walked) rest
    else ⟨rule, []⟩ :: inquiries walked r rest

variable {r : Registry} {walked : List (List Nat × Value)} {rules : List CompiledRule}

theorem answers_elements (matcher : Value) (r : Registry) (walked : List (List Nat × Value)) :
    (answers matcher r walked).map (fun answer => (answer.path, answer.element)) = walked := by
  induction walked generalizing r with
  | nil => rfl
  | cons entry rest ih =>
      obtain ⟨path, element⟩ := entry
      rw [answers, List.map_cons, ih]

theorem answers_by_itself {matcher : Value} (r : Registry) (walked : List (List Nat × Value))
    (byItself : ∀ template parameters useCache,
      matcher ≠ .matcher (.transform template parameters useCache)) :
    ∀ answer ∈ answers matcher r walked, answer.given = matcher.matches answer.element := by
  induction walked generalizing r with
  | nil => simp [answers]
  | cons entry rest ih =>
      obtain ⟨path, element⟩ := entry
      rw [answers, List.forall_mem_cons, Registry.ask_by_itself r element byItself]
      exact ⟨rfl, ih r⟩

theorem answers_engineMatcher (template useCache : Value) (parameters : List (Value × Value))
    (r : Registry) (walked : List (List Nat × Value)) :
    ∀ answer ∈ answers (.matcher (.transform template parameters useCache)) r walked,
      ∃ verdict, answer.given = .ok (.bool verdict) := by
  induction walked generalizing r with
  | nil => simp [answers]
  | cons entry rest ih =>
      obtain ⟨path, element⟩ := entry
      rw [answers, List.forall_mem_cons]
      exact ⟨Registry.ask_engineMatcher template useCache element parameters r, ih _⟩

theorem afterAnswers_keeps (matcher : Value) (r : Registry) (walked : List (List Nat × Value)) :
    (afterAnswers matcher r walked).setupMessages = r.setupMessages := by
  induction walked generalizing r with
  | nil => rfl
  | cons entry rest ih =>
      obtain ⟨path, element⟩ := entry
      obtain ⟨engine, kept⟩ := Registry.ask_keeps matcher element r
      have rest := ih ((Registry.ask matcher element).perform r).2
      rw [kept] at rest
      rw [← rest, ← kept]
      rfl

/-! ## Tallies -/

/-- The tally of a rule whose matcher has given these answers. -/
def Inquiry.tally (inquiry : Inquiry) : Tally :=
  ⟨inquiry.matched, inquiry.failures.length, inquiry.failures.head?⟩

theorem foldl_note (rule : CompiledRule) (given : List Answer) (tally : Tally) :
    given.foldl (fun tally answer => tally.note answer.path answer.given) tally =
      ⟨tally.matched ++ (Inquiry.mk rule given).matched,
        tally.failures + (Inquiry.mk rule given).failures.length,
        tally.firstFailure.or (Inquiry.mk rule given).failures.head?⟩ := by
  induction given generalizing tally with
  | nil => simp [Inquiry.matched, Inquiry.failures]
  | cons answer rest ih =>
      obtain ⟨path, element, given⟩ := answer
      rw [List.foldl_cons, ih]
      -- Only a truthy value adds a path, and only the first failure is kept, while all are counted.
      cases given with
      | ok verdict =>
          by_cases isTrue : verdict.truthy = true <;>
            simp [Tally.note, Inquiry.matched, Inquiry.failures, Outcome.accepted, isTrue]
      | error reason =>
          cases first : tally.firstFailure <;>
            simp [Tally.note, Inquiry.matched, Inquiry.failures, Outcome.accepted, first] <;> omega

theorem askAll_perform (matcher : Value) (tally : Tally) (r : Registry)
    (walked : List (List Nat × Value)) :
    (askAll matcher tally walked).perform r =
      (.ok ((answers matcher r walked).foldl
          (fun tally answer => tally.note answer.path answer.given) tally),
        afterAnswers matcher r walked) := by
  induction walked generalizing tally r with
  | nil => rfl
  | cons entry rest ih =>
      obtain ⟨path, element⟩ := entry
      rw [askAll, Action.perform_bind_ok (Action.perform_attempt _ r), ih]
      rfl

/-! ## Rules -/

/-- The outcome of a rule whose matcher has given these answers. -/
def Inquiry.outcome (inquiry : Inquiry) : RuleOutcome :=
  ⟨inquiry.rule.index, inquiry.rule.type, inquiry.rule.result.isSuccess, inquiry.matched⟩

theorem failureMessage_tally (inquiry : Inquiry) :
    failureMessage inquiry.rule inquiry.tally = inquiry.complaint?.toList := by
  rw [failureMessage, Inquiry.tally, Inquiry.complaint?]
  cases inquiry.failures.head? with
  | none => rfl
  | some first => rfl

theorem evaluateAll_perform (walked : List (List Nat × Value)) (rules : List CompiledRule)
    (r : Registry) :
    ∃ changed, (evaluateAll walked rules).perform r =
        (.ok ((inquiries walked r rules).map fun inquiry =>
          (inquiry.outcome, inquiry.complaint?.toList)), changed) ∧
      changed.setupMessages = r.setupMessages := by
  induction rules generalizing r with
  | nil => exact ⟨r, rfl, rfl⟩
  | cons rule rest ih =>
      by_cases success : rule.result.isSuccess = true
      · obtain ⟨changed, performed, kept⟩ := ih (afterAnswers rule.result.value r walked)
        refine ⟨changed, ?_, kept.trans (afterAnswers_keeps _ r walked)⟩
        have tallied : (askAll rule.result.value {} walked).perform r =
            (.ok (Inquiry.tally ⟨rule, answers rule.result.value r walked⟩),
              afterAnswers rule.result.value r walked) := by
          rw [askAll_perform, foldl_note rule]
          simp [Inquiry.tally]
        have evaluated : (evaluateRule walked rule).perform r =
            (.ok (Inquiry.outcome ⟨rule, answers rule.result.value r walked⟩,
                failureMessage rule (Inquiry.tally ⟨rule, answers rule.result.value r walked⟩)),
              afterAnswers rule.result.value r walked) := by
          rw [evaluateRule, if_pos success, Action.perform_bind_ok tallied]
          rfl
        rw [evaluateAll, Action.perform_bind_ok evaluated, Action.perform_bind_ok performed, inquiries,
          if_pos success, List.map_cons, ← failureMessage_tally]
        rfl
      · obtain ⟨changed, performed, kept⟩ := ih r
        refine ⟨changed, ?_, kept⟩
        have evaluated : (evaluateRule walked rule).perform r =
            (.ok (Inquiry.outcome ⟨rule, []⟩, []), r) := by
          rw [evaluateRule, if_neg success]
          rfl
        rw [evaluateAll, Action.perform_bind_ok evaluated, Action.perform_bind_ok performed, inquiries,
          if_neg success, List.map_cons]
        rfl

/-! ## Whole runs -/

theorem inquiries_rules (walked : List (List Nat × Value)) (r : Registry) (rules : List CompiledRule) :
    (inquiries walked r rules).map (·.rule) = rules := by
  induction rules generalizing r with
  | nil => rfl
  | cons rule rest ih =>
      rw [inquiries]
      split <;> rw [List.map_cons, ih]

/-- A rule that was compiled has the answers of its matcher about all elements, given in some registry. -/
theorem inquiries_answers {inquiry : Inquiry} (member : inquiry ∈ inquiries walked r rules)
    (success : inquiry.rule.result.isSuccess = true) :
    ∃ before, inquiry.answers = answers inquiry.rule.result.value before walked := by
  induction rules generalizing r with
  | nil => simp [inquiries] at member
  | cons rule rest ih =>
      rw [inquiries] at member
      split at member
      · rcases List.mem_cons.mp member with rfl | further
        · exact ⟨r, rfl⟩
        · exact ih further
      · rename_i notSuccess
        rcases List.mem_cons.mp member with rfl | further
        · exact absurd success notSuccess
        · exact ih further

theorem Inquiry.complaint?_isSome_iff (inquiry : Inquiry) :
    inquiry.complaint?.isSome ↔
      ∃ answer ∈ inquiry.answers, ∃ reason, answer.given = .error reason := by
  rw [complaint?, Option.isSome_map, List.isSome_head?, ne_eq, ← List.isEmpty_iff, Bool.not_eq_true,
    List.isEmpty_eq_false_iff_exists_mem]
  simp only [failures, List.mem_filterMap]
  constructor
  · rintro ⟨reason, answer, member, failed⟩
    refine ⟨answer, member, reason, ?_⟩
    cases given : answer.given <;> simp_all
  · rintro ⟨answer, member, reason, failed⟩
    exact ⟨reason, answer, member, by rw [failed]⟩

theorem keepsMessages_compileFrom (host : Host) (index : Nat) (rules : List Value)
    (messages : List Message) :
    (compileFrom host index rules).Keeps (·.setupMessages = messages) := by
  induction rules generalizing index with
  | nil => exact Action.Keeps.pure []
  | cons rule rest ih =>
      refine (Action.Keeps.ofOutcome _).bind fun type => ?_
      refine (Action.Keeps.ofOutcome _).bind fun options => ?_
      have compiles : (Registry.createMatcher host type options).Keeps (·.setupMessages = messages) := by
        intro r kept
        obtain ⟨engine, same⟩ := Registry.createMatcher_keeps host type options r
        rw [same]
        exact kept
      exact compiles.bind fun result => (ih (index + 1)).bind fun others => Action.Keeps.pure _

/-- Walking through a document whose children are listed meets exactly the elements at its paths, in the
lexicographic order of the paths.  In a run over it the matcher of every compiled rule is asked about every
element once in this order: the rule matches the paths where it gave a truthy value, and it has one error
message when the matcher failed on some element, and none otherwise. -/
theorem document_matches {elements : List Value}
    (listed : ∀ element ∈ elements, element.ChildrenListed) :
    ∃ trees, Tree.forest (.list elements) = .ok trees ∧
      (∀ path element, (path, element) ∈ Tree.walk trees ↔
        path ≠ [] ∧ Value.elementAt? elements path = some element) ∧
      ((Tree.walk trees).map (·.1)).Pairwise (· < ·) ∧
      ∀ (o : Orchestrator) (host : Host) (now : String) (event : Value) (rules : List Value)
        (context : Value) (outcome : RunOutcome),
        Event.ofValue event = .ok ⟨rules, .list elements, context⟩ →
        o.run host now event = .ok outcome →
          ∃ start compiled last, o.buildRegistry host = .ok start ∧
            (compileFrom host 0 rules).perform start = (.ok compiled, last) ∧
            (inquiries (Tree.walk trees) last compiled).map (·.rule) = compiled ∧
            (∀ inquiry ∈ inquiries (Tree.walk trees) last compiled,
              inquiry.rule.result.isSuccess = true →
                inquiry.answers.map (fun answer => (answer.path, answer.element)) = Tree.walk trees ∧
                ((∀ template parameters useCache,
                    inquiry.rule.result.value ≠ .matcher (.transform template parameters useCache)) →
                  ∀ answer ∈ inquiry.answers,
                    answer.given = inquiry.rule.result.value.matches answer.element) ∧
                (∀ template parameters useCache,
                  inquiry.rule.result.value = .matcher (.transform template parameters useCache) →
                    ∀ answer ∈ inquiry.answers, ∃ verdict, answer.given = .ok (.bool verdict))) ∧
            (∀ inquiry ∈ inquiries (Tree.walk trees) last compiled,
              inquiry.complaint?.isSome ↔
                ∃ answer ∈ inquiry.answers, ∃ reason, answer.given = .error reason) ∧
            outcome.rules = (inquiries (Tree.walk trees) last compiled).map (fun inquiry =>
              ⟨inquiry.rule.index, inquiry.rule.type, inquiry.rule.result.isSuccess,
                (inquiry.answers.filter (·.given.accepted)).map (·.path)⟩) ∧
            outcome.messages = start.setupMessages ++ compiled.flatMap (·.result.messages) ++
              (inquiries (Tree.walk trees) last compiled).filterMap Inquiry.complaint? := by
  obtain ⟨trees, isForest, shown⟩ := Tree.exists_walk listed
  refine ⟨trees, isForest, ?_, Tree.pairwise_walkFrom [] 0 trees, ?_⟩
  · intro path element
    rw [Tree.mem_walk_iff shown]
    cases path <;> simp [Value.elementAt?]
  intro o host now event rules context outcome isEvent ran
  obtain ⟨start, compiled, last, walked, found, ended, built, compiledRules, isWalked, evaluated,
    isOutcome, isMessages⟩ := run_steps isEvent ran
  rw [isForest] at isWalked
  cases isWalked
  obtain ⟨changed, performed, kept⟩ := evaluateAll_perform (Tree.walk trees) compiled last
  rw [evaluated] at performed
  cases performed
  -- Neither compiling nor asking adds a setup message, so those of the report are from the setup.
  have messages : last.setupMessages = start.setupMessages := by
    have keeps := keepsMessages_compileFrom host 0 rules start.setupMessages start rfl
    rw [compiledRules] at keeps
    exact keeps
  refine ⟨start, compiled, last, built, compiledRules, inquiries_rules _ _ _, ?_, ?_, ?_, ?_⟩
  · intro inquiry member success
    obtain ⟨before, given⟩ := inquiries_answers member success
    rw [given]
    refine ⟨answers_elements _ before _, answers_by_itself before _, ?_⟩
    intro template parameters useCache isMatcher
    rw [isMatcher]
    exact answers_engineMatcher template useCache parameters before _
  · exact fun inquiry _ => inquiry.complaint?_isSome_iff
  · rw [isOutcome, List.map_map]
    rfl
  · rw [isMessages, kept, messages, List.flatMap_map]
    simp [List.filterMap_eq_flatMap_toList]

/-! ## A section with a title -/

/-- A matcher of titles, which fails for an element without a kind. -/
def titleMatcher : Value :=
  .matcher (.scripted (.callable (.written fun
    | [.map ((.str "kind", .str kind) :: _)] => .ok (.bool (kind = "title"))
    | _ => .error (.missingKey "'kind'"))))

def titleOrchestrator : Orchestrator :=
  ⟨flagConfiguration, [], [⟨.str "title", .callable (.constant titleMatcher), []⟩]⟩

def kindOnly (kind : String) : Value := .ofFields [("kind", .str kind)]

/-- A section without a kind that has a title and a text. -/
def titledSection : Value := .ofFields [("children", .list [kindOnly "title", kindOnly "text"])]

def titleRule : Value := .ofFields [("type", .str "title")]

def titleEvent : Value :=
  .ofFields [("rules", .list [titleRule]), ("elements", .list [titledSection])]

def titleRegistry : Registry :=
  { flagRegistry with
    matchers := flagRegistry.matchers ++
      [(.str "title", ⟨.callable (.constant titleMatcher), .int 0, .str "default", .null,
        .str "Custom matcher for title"⟩)] }

/-- An orchestrator that registers the type of titles with a function. -/
def registeringTitle (factory : Value) : Orchestrator :=
  ⟨flagConfiguration, [], [⟨.str "title", factory, []⟩]⟩

def titledRegistry (factory : Value) : Registry :=
  { flagRegistry with
    matchers := flagRegistry.matchers ++
      [(.str "title", ⟨factory, .int 0, .str "default", .null, .str "Custom matcher for title"⟩)] }

theorem buildRegistry_titled (factory : Value) :
    (registeringTitle factory).buildRegistry flagHost = .ok (titledRegistry factory) :=
  @buildRegistry_registering flagOrchestrator _ _ _ _ _ rfl buildRegistry_flag rfl rfl

theorem buildRegistry_title : titleOrchestrator.buildRegistry flagHost = .ok titleRegistry :=
  buildRegistry_titled (.callable (.constant titleMatcher))

theorem childrenListed_titledSection : titledSection.ChildrenListed := by
  refine .parent rfl ?_
  intro item member
  rcases List.mem_pair.mp member with rfl | rfl
  · exact .childless rfl
  · exact .childless rfl

/-- The title is matched, and the failure for the section is reported. -/
theorem document_matches_title :
    (∀ element ∈ [titledSection], element.ChildrenListed) ∧
      ∃ outcome, titleOrchestrator.run flagHost "now" titleEvent = .ok outcome ∧
        outcome.rules = [⟨0, .str "title", true, [[0, 0]]⟩] ∧ outcome.messages.length = 1 := by
  have listed : ∀ element ∈ [titledSection], element.ChildrenListed := by
    intro element member
    rw [List.mem_singleton.mp member]
    exact childrenListed_titledSection
  obtain ⟨outcome, ran⟩ :=
    @run_returns _ flagHost titleEvent _ _ _ _ _ _ _ _ "now" rfl buildRegistry_title rfl rfl rfl limit_flag
  refine ⟨listed, outcome, ran, ?_⟩
  obtain ⟨trees, isForest, _, _, finds⟩ := document_matches listed
  have isTree : Tree.forest (.list [titledSection]) =
      .ok [.node titledSection [.leaf (kindOnly "title"), .leaf (kindOnly "text")]] := rfl
  have walk : Tree.walk [.node titledSection [.leaf (kindOnly "title"), .leaf (kindOnly "text")]] =
      [([0], titledSection), ([0, 0], kindOnly "title"), ([0, 1], kindOnly "text")] := by
    simp [Tree.walk, Tree.walkFrom, Tree.leaf]
  rw [isTree] at isForest
  cases isForest
  obtain ⟨start, compiled, last, built, compiledRules, _, _, _, isRules, isMessages⟩ :=
    finds titleOrchestrator flagHost "now" titleEvent _ _ outcome rfl ran
  rw [buildRegistry_title] at built
  cases built
  cases compiledRules
  rw [isRules, isMessages, walk]
  exact ⟨rfl, rfl⟩

end Orchestrator

end StyleRules
