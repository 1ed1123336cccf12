import StyleRules.Proofs.Json.Flat
import StyleRules.Proofs.Transform.Asking
import StyleRules.Proofs.Transform.Keys
import StyleRules.Proofs.Transform.Programs

/-!
# Queries to the common templates

An engine with the shipped backend and the common templates is asked about elements by matchers of these templates.
The keys of such queries tell documents, templates and parameters apart.  So whatever was asked before, a query is
answered by running its stylesheet over the document of its element.
-/

namespace StyleRules

namespace Engine

def stockSheets : List Stylesheet := [.style, .complex, .attribute]

/-- The engine has the common templates, and runs them with the backend for stylesheets. -/
def HasStock (e : Engine) : Prop :=
  ∀ sheet ∈ stockSheets, ∃ template found, Mapping.find? (.str sheet.name) e.templates = some template ∧
    template.body = .str sheet.source ∧ template.parameters = [] ∧
      e.resolve template .null = .ok (some found) ∧
        found.2.processor = .processor Processor.stylesheets

/-! ## Queries -/

/-- A question to a matcher of a common template, with the parameters of the matcher as they are given. -/
structure Query where
  sheet : Stylesheet
  element : Value
  parameters : List (Value × Value)
  useCache : Value

namespace Query

def options (q : Query) : Value :=
  .ofFields [("parameters", .map q.parameters), ("use_cache", q.useCache)]

/-- Make the matcher and ask it. -/
def ask (q : Query) : Action Engine Value := do
  let made ← Action.ofOutcome ((← get).createMatcher (.str q.sheet.name) q.options)
  Engine.ask made.value q.element

/-- The element is one that XML can show, and the parameters are texts and integers under different names. -/
structure Sound (q : Query) : Prop where
  stock : q.sheet ∈ stockSheets
  showable : Xml.Showable q.element
  flat : Json.Flat q.parameters

end Query

/-- The engine after a sequence of queries. -/
def afterQueries (history : List Query) (start : Engine) : Engine :=
  history.foldl (fun e q => (q.ask.perform e).2) start

/-! ## The keys of queries -/

/-- The calls that sound queries make. -/
def StockCalls : Calls := fun xml name parameters =>
  ∃ q : Query, q.Sound ∧ Xml.ofElement q.element = .ok xml ∧ name = q.sheet.name ∧ parameters = q.parameters

theorem name_noBar {sheet : Stylesheet} (stock : sheet ∈ stockSheets) : '|' ∉ sheet.name.toList := by
  have noBar : ∀ sheet ∈ stockSheets, '|' ∉ sheet.name.toList := by decide
  exact noBar sheet stock

/-- The keys of sound queries tell documents, templates and parameters apart. -/
theorem keysSeparate_stockCalls : KeysSeparate StockCalls := by
  rintro xml name parameters xml' name' parameters' ⟨q, sound, written, rfl, rfl⟩
    ⟨other, otherSound, otherWritten, rfl, rfl⟩ key isKey isOtherKey
  obtain ⟨sameXml, sameName, reordered⟩ := reordered_of_cacheKey (name_noBar sound.stock)
    (name_noBar otherSound.stock) sound.flat.isJson otherSound.flat.isJson isKey isOtherKey
  exact ⟨sameXml, sameName, sound.flat.perm_of_reordered otherSound.flat reordered⟩

/-! ## Answers -/

variable {e : Engine} {q : Query}

theorem HasStock.plan (stock : HasStock e) {sheet : Stylesheet} (isStock : sheet ∈ stockSheets)
    (xml given : Value) : ∃ template found, template.body = .str sheet.source ∧ template.parameters = [] ∧
      e.plan xml (.str sheet.name) given .null = (cacheKey xml (.str sheet.name) given).map fun key =>
        .ok ⟨template, found, .processor Processor.stylesheets, key, e.compile⟩ := by
  obtain ⟨template, found, isTemplate, isBody, noDefaults, resolved, isBackend⟩ := stock sheet isStock
  refine ⟨template, found.1, isBody, noDefaults, ?_⟩
  rw [Engine.plan, template?, Value.lookIn_str, isTemplate]
  simp only [bind, Except.bind, resolved, isBackend]
  cases cacheKey xml (.str sheet.name) given <;> rfl

theorem HasStock.runsSheet (stock : HasStock e) {sheet : Stylesheet} (isStock : sheet ∈ stockSheets) :
    RunsSheet e sheet.name := by
  intro xml given job planned
  obtain ⟨template, found, _, noDefaults, isPlan⟩ := stock.plan isStock xml given
  rw [isPlan] at planned
  cases isKey : cacheKey xml (.str sheet.name) given with
  | error reason =>
      rw [isKey] at planned
      cases planned
  | ok key =>
      rw [isKey] at planned
      cases planned
      exact ⟨rfl, noDefaults⟩

/-- The output of a stylesheet that decides is read as its decision. -/
theorem ofOutput_resultDocument (answer : Bool) :
    Verdict.ofOutput (.str (Stylesheet.resultDocument (Stylesheet.truthText answer))) = answer := by
  cases answer <;> decide +kernel

/-- What is answered when the parameters were read, or were refused. -/
def answerOf (sheet : Stylesheet) (root : Xml.Node) (given : Outcome SheetParameters) : Bool :=
  match given >>= sheet.output root with
  | .ok output => Verdict.ofOutput (.str output)
  | .error _ => false

/-- With parameters whose prefixes are bound, the answer is the one that the stylesheet decides. -/
theorem answerOf_bound {sheet : Stylesheet} {root : Xml.Node} {given : SheetParameters} {answer : Bool}
    (bound : ∀ entry ∈ given, SheetParameters.isBound entry.1 = true)
    (decides : sheet.resultText root given = Stylesheet.truthText answer) :
    answerOf sheet root (.ok given) = answer := by
  rw [answerOf, Outcome.ok_bind, Stylesheet.output, if_pos (List.all_eq_true.mpr bound), decides]
  exact ofOutput_resultDocument answer

/-- The order of the parameters does not matter. -/
theorem answerOf_perm (sheet : Stylesheet) (root : Xml.Node) {entries others : List (Value × Value)}
    (distinct : (Mapping.keys entries).Nodup) (permuted : entries.Perm others) :
    answerOf sheet root (SheetParameters.ofEntries entries) =
      answerOf sheet root (SheetParameters.ofEntries others) := by
  rcases SheetParameters.ofEntries_perm distinct permuted with
    ⟨first, second, read, otherRead, reordered⟩ | ⟨reason, fails, otherFails⟩
  · rw [read, otherRead, answerOf, answerOf, Outcome.ok_bind, Outcome.ok_bind,
      sheet.output_reordered root reordered]
  · rw [fails, otherFails]

/-- Without the cache, a query is answered by running its stylesheet over the document of its element. -/
theorem HasStock.queryAccepts (stock : HasStock e) (sound : q.Sound)
    (recognised : Stylesheet.ofSource? q.sheet.source = some q.sheet) {root : Xml.Node}
    (written : Xml.ofElement q.element = .ok root.write) (read : Xml.read? root.write = some root) :
    e.freshAccepts q.sheet.name q.parameters q.element =
      answerOf q.sheet root (SheetParameters.ofEntries q.parameters) := by
  obtain ⟨template, found, isBody, noDefaults, isPlan⟩ :=
    stock.plan sound.stock (.str root.write) (.map q.parameters)
  obtain ⟨key, isKey⟩ : ∃ key, cacheKey (.str root.write) (.str q.sheet.name) (.map q.parameters) = .ok key := by
    obtain ⟨_, _, _, isKey⟩ := exists_cacheKey root.write q.sheet.name sound.flat.isJson
    exact ⟨_, isKey⟩
  rw [isKey] at isPlan
  have ran : Job.output ⟨template, found, .processor Processor.stylesheets, key, e.compile⟩ (.str root.write)
      (.map q.parameters) = (SheetParameters.ofEntries q.parameters >>= q.sheet.output root).map .str := by
    rw [output_sheet ⟨sound.flat.texts, sound.flat.distinct⟩ rfl noDefaults, Stylesheet.run, isBody,
      Stylesheet.items_orElse]
    simp only [LoadedSheet.ofTemplate, Value.isKey, recognised, LoadedSheet.onDocument, read, bind, Except.bind]
    cases SheetParameters.ofEntries q.parameters with
    | error reason => rfl
    | ok given => cases q.sheet.output root given <;> rfl
  rw [freshAccepts, written]
  dsimp only
  rw [freshResult_job (orElse_map q.parameters ▸ isPlan), orElse_map, Job.result, ran]
  rw [answerOf]
  cases SheetParameters.ofEntries q.parameters >>= q.sheet.output root with
  | error reason => rfl
  | ok output => simp only [Except.map, Result.success, Value.isNull, Bool.not_false, Bool.true_and]

/-! ## Asking -/

theorem Query.createMatcher {template : EngineTemplate}
    (present : Mapping.find? (.str q.sheet.name) e.templates = some template) :
    e.createMatcher (.str q.sheet.name) q.options =
      .ok (.success (.matcher (.transform (.str q.sheet.name) q.parameters q.useCache))) := by
  have settings : Matcher.ofTransform (.str q.sheet.name) q.options = (do
      let parameters ← ((Value.map q.parameters).orElse (.map [])).toEntries
      return .transform (.str q.sheet.name) parameters q.useCache) := rfl
  rw [Engine.createMatcher, template?, Value.lookIn_str, present, settings, orElse_map]
  rfl

variable {base : Engine}

/-- A sound query is answered as if nothing were remembered. -/
theorem Steady.askQuery (steady : Steady base StockCalls e) (stock : HasStock base) (sound : q.Sound) :
    ∃ changed, q.ask.perform e = (.ok (.bool (base.freshAccepts q.sheet.name q.parameters q.element)), changed) ∧
      Steady base StockCalls changed := by
  obtain ⟨template, _, isTemplate, _⟩ := stock q.sheet sound.stock
  have present : Mapping.find? (.str q.sheet.name) e.templates = some template := by
    rw [steady.same.templates, isTemplate]
  have admissible : Admissible base StockCalls := by
    refine ⟨?_, keysSeparate_stockCalls, ?_⟩
    · rintro _ _ _ ⟨other, otherSound, _, rfl, _⟩
      exact stock.runsSheet otherSound.stock
    · rintro _ _ _ ⟨other, otherSound, _, _, rfl⟩
      exact ⟨otherSound.flat.texts, otherSound.flat.distinct⟩
  have covers : Covers StockCalls (.matcher (.transform (.str q.sheet.name) q.parameters q.useCache))
      q.element := by
    rintro _ _ _ ⟨⟩
    exact ⟨q.sheet.name, rfl, fun xml written => ⟨q, sound, written, rfl, rfl⟩⟩
  obtain ⟨changed, performed, still⟩ := steady.ask admissible covers
  refine ⟨changed, ?_, still⟩
  rw [Query.ask, Action.perform_bind_ok (Action.perform_get e), Query.createMatcher present,
    Action.perform_bind_ok (Action.perform_ofOutcome _ e)]
  exact performed

theorem steady_afterQueries (stock : HasStock base) {history : List Query}
    (sound : ∀ q ∈ history, q.Sound) (steady : Steady base StockCalls e) :
    Steady base StockCalls (afterQueries history e) := by
  induction history generalizing e with
  | nil => exact steady
  | cons q rest ih =>
      obtain ⟨first, others⟩ := List.forall_mem_cons.mp sound
      obtain ⟨changed, performed, still⟩ := steady.askQuery stock first
      rw [afterQueries, List.foldl_cons, performed]
      exact ih others still

theorem Query.answered (stock : HasStock base) (noEntries : base.cache.entries = [])
    {history : List Query} (sound : ∀ other ∈ q :: history, other.Sound) :
    (q.ask.perform (afterQueries history base)).1 =
      .ok (.bool (base.freshAccepts q.sheet.name q.parameters q.element)) := by
  obtain ⟨isSound, others⟩ := List.forall_mem_cons.mp sound
  have steady := steady_afterQueries stock others (Steady.refl noEntries StockCalls)
  obtain ⟨changed, performed, _⟩ := steady.askQuery stock isSound
  rw [performed]

/-! ## An engine that is set up -/

/-- Enabling the backend and defining the common templates. -/
def setUpStock : Action Engine Unit := do
  enableBackends [.str "lxml"]
  defineCommonTemplates

def stockTemplate (sheet : Stylesheet) : EngineTemplate :=
  ⟨.str sheet.name, .str sheet.source, .str "lxml", [], [], .str "1.0"⟩

theorem setUpStock_perform (byDefault : e.defaultProcessor = .str "lxml") :
    setUpStock.perform e = (.ok (), { e with
      processors := Mapping.insert (.str "lxml") ⟨.processor Processor.stylesheets, 0⟩ e.processors
      templates := Mapping.insertAll (stockSheets.map fun sheet => (.str sheet.name, stockTemplate sheet))
        e.templates }) := by
  obtain ⟨cacheEnabled, cache, defaultProcessor, searchPath, processors, templates, compile⟩ := e
  cases byDefault
  rfl

/-- Setting up leaves an engine with the backend and the common templates. -/
theorem hasStock_setUp (byDefault : e.defaultProcessor = .str "lxml") :
    HasStock (setUpStock.perform e).2 := by
  rw [setUpStock_perform byDefault]
  intro sheet isStock
  refine ⟨stockTemplate sheet, (.str "lxml", ⟨.processor Processor.stylesheets, 0⟩), ?_, rfl, rfl, ?_, rfl⟩
  · simp only [stockSheets, List.map_cons, List.map_nil, Mapping.insertAll_cons, Mapping.insertAll_nil,
      Mapping.find?_insert]
    simp only [stockSheets, List.mem_cons, List.not_mem_nil, or_false] at isStock
    rcases isStock with rfl | rfl | rfl <;> simp [Stylesheet.name]
  · have asked : (Value.null).orElse (stockTemplate sheet).processor = .str "lxml" := rfl
    have notAuto : (Value.str "lxml").isText autoName = false := by decide
    rw [resolve, asked, notAuto]
    simp [Value.lookIn_str, Mapping.find?_insert, bind, Except.bind, pure, Except.pure]

def stockEngine : Engine := (setUpStock.perform initial).2

end Engine

end StyleRules
