import StyleRules.Proofs.Transform.StockQueries

/-!
# The matchers of styles and attributes

Whatever an engine with the common templates was asked before, the matchers of styles and attributes answer as a
direct look at the element does: documents, parameters and results are written and read back on the way without a
loss, and what the cache holds under the key of a call is the output of the same work.
-/

namespace StyleRules

namespace Engine

/-! ## Questions -/

/-- A question to a matcher of a common template, with the parameters of the matcher. -/
structure Question where
  sheet : Stylesheet
  element : Value
  given : SheetParameters
  useCache : Value

namespace Question

def parameters (q : Question) : List (Value × Value) := q.given.map fun entry => (.str entry.1, .str entry.2)

def options (q : Question) : Value :=
  .ofFields [("parameters", .map q.parameters), ("use_cache", q.useCache)]

/-- Make the matcher and ask it. -/
def ask (q : Question) : Action Engine Value := do
  let made ← Action.ofOutcome ((← get).createMatcher (.str q.sheet.name) q.options)
  Engine.ask made.value q.element

/-- The text of a parameter. -/
def text (q : Question) (name default : String) : String := (q.given.lookup name).getD default

/-- The element is one that XML can show, and the parameters are different texts that XML can hold. -/
structure Sound (q : Question) : Prop where
  stock : q.sheet ∈ stockSheets
  showable : Xml.Showable q.element
  distinct : (q.given.map (·.1)).Nodup
  names : ∀ entry ∈ q.given, SheetParameters.isWritable entry.1 = true ∧ SheetParameters.isBound entry.1 = true
  values : ∀ entry ∈ q.given, SheetParameters.isWritable entry.2 = true

variable {q : Question}

/-- The question as a query. -/
def query (q : Question) : Query := ⟨q.sheet, q.element, q.parameters, q.useCache⟩

theorem parameters_eq (q : Question) : q.parameters =
    (q.given.map fun entry => (entry.1, Value.str entry.2)).map fun (name, value) => (.str name, value) := by
  rw [parameters, List.map_map]
  rfl

theorem Sound.flat (sound : q.Sound) : Json.Flat q.parameters := by
  rw [parameters_eq]
  refine Json.flat_fields ?_ fun field member => ?_
  · rw [List.map_map]
    exact sound.distinct
  · obtain ⟨entry, _, rfl⟩ := List.mem_map.mp member
    exact .inl ⟨entry.2, rfl⟩

theorem ask_query (q : Question) : q.ask = q.query.ask := rfl

theorem Sound.query (sound : q.Sound) : q.query.Sound := ⟨sound.stock, sound.showable, sound.flat⟩

/-- The parameters of a call are read as they were given. -/
theorem Sound.ofEntries (sound : q.Sound) : SheetParameters.ofEntries q.parameters = .ok q.given := by
  have same : (q.given.map fun entry => (entry.1, Value.str entry.2)).map
      (fun (name, value) => (name, SheetParameters.textOf value)) = q.given := by
    rw [List.map_map]
    exact List.map_id _
  rw [parameters_eq, SheetParameters.ofEntries_named, same]
  · intro field member
    obtain ⟨entry, _, rfl⟩ := List.mem_map.mp member
    rfl
  · intro field member
    obtain ⟨entry, isGiven, rfl⟩ := List.mem_map.mp member
    exact (sound.names entry isGiven).1
  · intro field member
    obtain ⟨entry, isGiven, rfl⟩ := List.mem_map.mp member
    exact sound.values entry isGiven

end Question

/-- The engine after a sequence of questions. -/
def afterAsking (history : List Question) (start : Engine) : Engine :=
  history.foldl (fun e q => (q.ask.perform e).2) start

theorem afterAsking_eq (history : List Question) (start : Engine) :
    afterAsking history start = afterQueries (history.map Question.query) start := by
  rw [afterAsking, afterQueries, List.foldl_map]
  rfl

/-! ## Answers -/

variable {e base : Engine} {q : Question}

theorem HasStock.freshAccepts (stock : HasStock e) (sound : q.Sound)
    (recognised : Stylesheet.ofSource? q.sheet.source = some q.sheet) {root : Xml.Node}
    (written : Xml.ofElement q.element = .ok root.write) (read : Xml.read? root.write = some root)
    {answer : Bool} (decides : q.sheet.resultText root q.given = Stylesheet.truthText answer) :
    e.freshAccepts q.sheet.name q.parameters q.element = answer := by
  refine (stock.queryAccepts sound.query recognised written read).trans ?_
  rw [Question.query, sound.ofEntries]
  exact answerOf_bound (fun entry isGiven => (sound.names entry isGiven).2) decides

theorem Question.answered (stock : HasStock base) (noEntries : base.cache.entries = [])
    {history : List Question} (sound : ∀ other ∈ q :: history, other.Sound) :
    (q.ask.perform (afterAsking history base)).1 =
      .ok (.bool (base.freshAccepts q.sheet.name q.parameters q.element)) := by
  have queries : ∀ other ∈ (q :: history).map Question.query, other.Sound := by
    intro other member
    obtain ⟨question, isQuestion, rfl⟩ := List.mem_map.mp member
    exact (sound question isQuestion).query
  rw [afterAsking_eq, Question.ask_query]
  exact Query.answered stock noEntries queries

/-- Whatever matchers of the common templates were asked before, those of styles and attributes answer as a
direct look at the element does. -/
theorem stock_matchers_agree (base : Engine) (stock : HasStock base) (noEntries : base.cache.entries = [])
    (history : List Question) (q : Question) (sound : ∀ other ∈ q :: history, other.Sound) :
    (q.sheet = .style → ∃ answer : Bool,
      (q.ask.perform (afterAsking history base)).1 = .ok (.bool answer) ∧
        (answer = true ↔ StyleAgrees q.element.formatted (q.text "styleId" "") (q.text "styleName" "")
          (q.text "matchType" "exact"))) ∧
    (q.sheet = .attribute → ∃ answer : Bool,
      (q.ask.perform (afterAsking history base)).1 = .ok (.bool answer) ∧
        (answer = true ↔ AttributeAgrees q.element (q.text "attribute" "") (q.text "value" ""))) := by
  have isSound := sound q List.mem_cons_self
  obtain ⟨root, written, read, shows, _⟩ := Xml.exists_document isSound.showable
  have asked := Question.answered stock noEntries sound
  constructor
  · intro isStyle
    obtain ⟨answer, decides, agrees⟩ := Stylesheet.style_decides shows isSound.showable q.given
    have recognised : Stylesheet.ofSource? q.sheet.source = some q.sheet := by
      rw [isStyle, Stylesheet.ofSource?_style]
    rw [← isStyle] at decides
    exact ⟨answer, asked.trans (by rw [stock.freshAccepts isSound recognised written read decides]), agrees⟩
  · intro isAttribute
    obtain ⟨answer, decides, agrees⟩ := Stylesheet.attribute_decides shows isSound.showable q.given
    have recognised : Stylesheet.ofSource? q.sheet.source = some q.sheet := by
      rw [isAttribute, Stylesheet.ofSource?_attribute]
    rw [← isAttribute] at decides
    exact ⟨answer, asked.trans (by rw [stock.freshAccepts isSound recognised written read decides]), agrees⟩

/-! ## An engine that is set up -/

/-- Is the style id of an element a text with markup characters? -/
def styleQuestion : Question := ⟨.style, Xml.markedTitle, [("styleId", "\"<&>'")], .bool true⟩

/-- Does the attribute map of an element have a text with white space as its entry `lang`? -/
def attributeQuestion : Question :=
  ⟨.attribute, Xml.markedTitle, [("attribute", "lang"), ("value", "a\tb")], .bool true⟩

theorem sound_questions : ∀ q ∈ [styleQuestion, attributeQuestion, styleQuestion], q.Sound := by
  have byStyle : styleQuestion.Sound := ⟨by decide, Xml.showable_markedTitle, by decide, by decide, by decide⟩
  have byAttribute : attributeQuestion.Sound :=
    ⟨by decide, Xml.showable_markedTitle, by decide, by decide, by decide⟩
  intro q member
  simp only [List.mem_cons, List.not_mem_nil, or_false] at member
  rcases member with rfl | rfl | rfl
  · exact byStyle
  · exact byAttribute
  · exact byStyle

theorem stock_matchers_agree_markedTitle :
    (styleQuestion.ask.perform (afterAsking [attributeQuestion, styleQuestion] stockEngine)).1 =
        .ok (.bool true) ∧
      (attributeQuestion.ask.perform (afterAsking [styleQuestion] stockEngine)).1 = .ok (.bool true) := by
  have stock : HasStock stockEngine := hasStock_setUp rfl
  constructor
  · obtain ⟨answer, asked, agrees⟩ := (stock_matchers_agree stockEngine stock rfl
      [attributeQuestion, styleQuestion] styleQuestion sound_questions).1 rfl
    have isTrue : answer = true := agrees.mpr (Or.inl ⟨by decide, rfl⟩)
    rw [asked, isTrue]
  · obtain ⟨answer, asked, agrees⟩ := (stock_matchers_agree stockEngine stock rfl [styleQuestion]
      attributeQuestion fun q member => sound_questions q (List.mem_cons_of_mem _ member)).2 rfl
    have isTrue : answer = true := agrees.mpr ⟨by decide, _, _, rfl, rfl, rfl⟩
    rw [asked, isTrue]

end Engine

end StyleRules
