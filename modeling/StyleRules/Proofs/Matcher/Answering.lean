import StyleRules.Matcher.Evaluate
import StyleRules.Proofs.Outcomes
import StyleRules.Proofs.Value.Reading

/-!
# When matchers fail

Most matchers of the library compare fields, which is possible for all values.  Matchers of media and of
containers also search, count and look up values that they find in the element, and this fails for values of the
wrong kind.  Here it is said of each of these checks when it fails, and what the matchers then answer.
-/

namespace StyleRules

namespace Outcome

/-- The answer is a failure if something stumbles, and a truth value otherwise. -/
def AnswersUnless (stumbles : Prop) (answer : Outcome Value) : Prop :=
  (stumbles → ∃ reason, answer = .error reason) ∧ (¬stumbles → ∃ verdict, answer = .ok (.bool verdict))

theorem answersUnless_of_fails_iff {stumbles : Prop} {outcome : Outcome Bool} (fails : outcome.Fails ↔ stumbles) :
    AnswersUnless stumbles (do return .bool (← outcome)) := by
  rw [← fails]
  cases outcome with
  | error reason => exact ⟨fun _ => ⟨reason, rfl⟩, fun never => absurd ⟨reason, rfl⟩ never⟩
  | ok verdict => exact ⟨fun fails => absurd fails (not_fails_ok verdict), fun _ => ⟨verdict, rfl⟩⟩

theorem answer_holds_iff {outcome : Outcome Bool} :
    (do return Value.bool (← outcome)) = .ok (.bool true) ↔ outcome = .ok true := by
  match outcome with
  | .error reason => exact iff_of_false nofun nofun
  | .ok false => exact iff_of_false nofun nofun
  | .ok true => exact iff_of_true rfl rfl

end Outcome

namespace Value

open Outcome

/-! ## Searching, looking up and comparing -/

/-- It can be told whether the container has the value. -/
def Searchable (container x : Value) : Prop :=
  match container with
  | .list _ => True
  | .map _ => x.isKey = true
  | .str _ => x.IsText
  | .bytes _ => ∃ n : Int, x = .int n ∧ 0 ≤ n ∧ n < 256
  | _ => False

theorem contains_fails_iff (container x : Value) : (container.contains x).Fails ↔ ¬container.Searchable x := by
  cases container with
  | list items => exact iff_of_false (not_fails_ok _) (not_not_intro trivial)
  | map entries => cases isKey : x.isKey <;> simp [contains, Searchable, isKey, Fails, wrongType]
  | str s => cases x <;> simp [contains, Searchable, IsText, Fails, wrongType]
  | bytes b =>
      cases x with
      | int n => by_cases inRange : 0 ≤ n ∧ n < 256 <;> simp [contains, Searchable, inRange, Fails]
      | _ => simp [contains, Searchable, Fails, wrongType]
  | _ => exact iff_of_true (fails_error _) not_false

/-- The value can be asked for a field of the name. -/
def HasFieldsUnder (subject name : Value) : Prop :=
  match subject with
  | .null => True
  | .map _ => name.isKey = true
  | _ => name.IsText

theorem fieldAt_fails_iff (subject name : Value) : (subject.fieldAt name).Fails ↔ ¬subject.HasFieldsUnder name := by
  cases subject with
  | null => exact iff_of_false (not_fails_ok _) (not_not_intro trivial)
  | map entries => cases isKey : name.isKey <;> simp [fieldAt, fieldOr, HasFieldsUnder, isKey, Fails, wrongType]
  | _ => cases name <;> simp [fieldAt, fieldOr, HasFieldsUnder, IsText, Fails, wrongType]

theorem int_less_fails_iff (n : Int) (bound : Value) : ((Value.int n).less bound).Fails ↔ bound.number? = none := by
  cases bound <;> simp [less, number?, Fails, wrongType]

theorem less_int_fails_iff (bound : Value) (n : Int) : (bound.less (.int n)).Fails ↔ bound.number? = none := by
  cases bound <;> simp [less, number?, Fails, wrongType]

theorem length_fails_iff (v : Value) : v.length.Fails ↔ v.isSequence = false := by
  cases v <;> simp [length, isSequence, Fails, wrongType]

end Value

namespace Matcher

open Outcome

variable {element : Value}

/-! ## Checks of media objects and containers -/

/-- The part has to be searched for in what was found, and this cannot be done. -/
def PartStumbles (part found : Value) : Prop :=
  part.truthy = true ∧ found.truthy = true ∧ ¬found.Searchable part

theorem part_fails_iff (part found : Value) :
    Fails (if part.truthy then if found.truthy then found.contains part else .ok false else .ok true) ↔
      PartStumbles part found := by
  rw [PartStumbles, ← Value.contains_fails_iff]
  split
  · split <;> simp_all [not_fails_ok]
  · simp_all [not_fails_ok]

theorem sourceAgrees_fails_iff (source element : Value) :
    (sourceAgrees source element).Fails ↔ PartStumbles source (element.field "src") :=
  part_fails_iff source (element.field "src")

theorem classNameAgrees_fails_iff (className element : Value) :
    (classNameAgrees className element).Fails ↔ PartStumbles className (element.field "className") :=
  part_fails_iff className (element.field "className")

/-- Some entry has a name under which nothing can be looked up, and all entries before it agree. -/
def EntriesStumble (attributes : Value) (entries : List (Value × Value)) : Prop :=
  ∃ earlier entry later, entries = earlier ++ entry :: later ∧
    (∀ known ∈ earlier, ∃ actual, attributes.fieldAt known.1 = .ok actual ∧ actual.eq known.2 = true) ∧
      ¬attributes.HasFieldsUnder entry.1

theorem entriesStumble_cons {attributes : Value} {entry : Value × Value} {rest : List (Value × Value)} :
    EntriesStumble attributes (entry :: rest) ↔ ¬attributes.HasFieldsUnder entry.1 ∨
      (∃ actual, attributes.fieldAt entry.1 = .ok actual ∧ actual.eq entry.2 = true) ∧
        EntriesStumble attributes rest := by
  constructor
  · rintro ⟨earlier, stopping, later, split, agree, stumbles⟩
    cases earlier with
    | nil =>
        cases split
        exact .inl stumbles
    | cons first others =>
        cases split
        obtain ⟨firstAgrees, othersAgree⟩ := List.forall_mem_cons.mp agree
        exact .inr ⟨firstAgrees, others, stopping, later, rfl, othersAgree, stumbles⟩
  · rintro (stumbles | ⟨firstAgrees, earlier, stopping, later, rfl, othersAgree, stumbles⟩)
    · exact ⟨[], entry, rest, rfl, nofun, stumbles⟩
    · exact ⟨entry :: earlier, stopping, later, rfl, List.forall_mem_cons.mpr ⟨firstAgrees, othersAgree⟩, stumbles⟩

theorem entriesAgree_fails_iff (attributes : Value) (entries : List (Value × Value)) :
    (entriesAgree attributes entries).Fails ↔ EntriesStumble attributes entries := by
  -- an entry that does not agree ends the loop, so only entries behind agreeing ones can stumble
  induction entries with
  | nil =>
      refine iff_of_false (not_fails_ok true) ?_
      rintro ⟨earlier, stopping, later, split, _⟩
      simp at split
  | cons entry rest ih =>
      rw [entriesAgree, fails_bind, Value.fieldAt_fails_iff, entriesStumble_cons, ← ih]
      refine or_congr_right ⟨?_, ?_⟩
      · rintro ⟨actual, found, fails⟩
        split at fails
        · exact ⟨⟨actual, found, ‹_›⟩, fails⟩
        · exact absurd fails (not_fails_ok false)
      · rintro ⟨⟨actual, found, same⟩, fails⟩
        exact ⟨actual, found, by rwa [if_pos same]⟩

/-- Attributes are asked for and found, but those asked for are no mapping, or one of its names stumbles. -/
def AttributesStumble (expected found : Value) : Prop :=
  expected.truthy = true ∧ found.truthy = true ∧ ∀ entries, expected = .map entries → EntriesStumble found entries

theorem attributesAgree_fails_iff (expected element : Value) :
    (attributesAgree expected element).Fails ↔ AttributesStumble expected (element.field "attributes") := by
  have read : (expected.items >>= entriesAgree (element.field "attributes")).Fails ↔
      ∀ entries, expected = .map entries → EntriesStumble (element.field "attributes") entries := by
    cases expected with
    | map entries =>
        refine (entriesAgree_fails_iff _ entries).trans ⟨?_, fun each => each entries rfl⟩
        rintro stumbles _ ⟨⟩
        exact stumbles
    | _ => exact iff_of_true (fails_error _) nofun
  rw [attributesAgree, AttributesStumble, ← read]
  dsimp only
  split
  · split <;> simp_all [not_fails_ok]
  · simp_all [not_fails_ok]

/-! ## Counting children -/

/-- The number of children does not break a bound; a bound that counts as false is none. -/
def boundHolds (bound children : Value) (broken : Value → Outcome Bool) : Outcome Bool :=
  if bound.truthy then do return !(← broken (.int (← children.length))) else .ok true

def atLeast (least children : Value) : Outcome Bool := boundHolds least children (·.less least)

def atMost (most children : Value) : Outcome Bool := boundHolds most children most.less

theorem boundHolds_check (bound children : Value) (broken : Value → Outcome Bool) (rest : Outcome Bool) :
    (if bound.truthy then do
        let count ← children.length
        if ← broken (.int count) then return false else rest
      else rest) =
      (do if !(← boundHolds bound children broken) then return false else rest) := by
  unfold boundHolds
  split
  · cases children.length with
    | error reason => rfl
    | ok count =>
        rw [ok_bind, ok_bind]
        cases broken (.int count) with
        | error reason => rfl
        | ok isBroken => cases isBroken <;> rfl
  · rfl

theorem childCountAgrees_eq {bounds : Value} {entries : List (Value × Value)} (isMapping : bounds = .map entries)
    (counts : bounds.truthy = true) (present : (element.field "children").isNull = false) :
    childCountAgrees bounds element =
      (do if !(← atLeast (bounds.field "minCount") (element.field "children")) then return false
          else atMost (bounds.field "maxCount") (element.field "children")) := by
  have least : bounds.option "minCount" = .ok (bounds.field "minCount") := by rw [isMapping]; rfl
  have most : bounds.option "maxCount" = .ok (bounds.field "maxCount") := by rw [isMapping]; rfl
  have last (outcome : Outcome Bool) : (do if !(← outcome) then return false else return true) = outcome := by
    cases outcome with
    | error reason => rfl
    | ok verdict => cases verdict <;> rfl
  unfold childCountAgrees
  simp only [counts, present, Bool.not_false, Bool.and_self, if_true, least, most, ok_bind]
  -- the check of the upper bound is the rest behind the check of the lower one
  rw [boundHolds_check _ _ (bounds.field "maxCount").less, last, boundHolds_check _ _ (·.less _)]
  rfl

/-- The children have to be counted for a bound, but they are no sequence or the bound is no number. -/
def BoundStumbles (bound children : Value) : Prop :=
  bound.truthy = true ∧ (children.isSequence = false ∨ bound.number? = none)

theorem boundHolds_fails_iff {bound children : Value} {broken : Value → Outcome Bool}
    (compares : ∀ count : Int, (broken (.int count)).Fails ↔ bound.number? = none) :
    (boundHolds bound children broken).Fails ↔ BoundStumbles bound children := by
  rw [boundHolds, BoundStumbles]
  split
  · rename_i isBound
    rw [fails_bind, Value.length_fails_iff, and_iff_right isBound]
    cases counted : children.length with
    | error reason =>
        have uncountable : children.isSequence = false := (Value.length_fails_iff children).mp ⟨reason, counted⟩
        exact iff_of_true (.inl uncountable) (.inl uncountable)
    | ok count =>
        refine or_congr_right ⟨?_, fun notNumber => ⟨count, rfl, fails_return.mpr ((compares count).mpr notNumber)⟩⟩
        rintro ⟨_, _, fails⟩
        exact (compares _).mp (fails_return.mp fails)
  · simp_all [not_fails_ok]

/-- Bounds and children are given, but the bounds are no mapping, or one of them stumbles. -/
def ChildCountStumbles (bounds children : Value) : Prop :=
  bounds.truthy = true ∧ children ≠ .null ∧
    (bounds.isMapping = false ∨ BoundStumbles (bounds.field "minCount") children ∨
      atLeast (bounds.field "minCount") children = .ok true ∧ BoundStumbles (bounds.field "maxCount") children)

theorem childCountAgrees_fails_iff (bounds element : Value) :
    (childCountAgrees bounds element).Fails ↔ ChildCountStumbles bounds (element.field "children") := by
  rw [ChildCountStumbles]
  by_cases counts : bounds.truthy = true ∧ element.field "children" ≠ .null
  · obtain ⟨given, notNull⟩ := counts
    have present : (element.field "children").isNull = false := by
      cases children : element.field "children" <;> first | rfl | exact absurd children notNull
    rw [and_iff_right given, and_iff_right notNull]
    by_cases isMapping : ∃ entries, bounds = .map entries
    · obtain ⟨entries, isMap⟩ := isMapping
      have hasEntries : bounds.isMapping = true := by rw [isMap]; rfl
      rw [childCountAgrees_eq isMap given present, fails_check, atLeast,
        boundHolds_fails_iff fun count => Value.int_less_fails_iff count _, atMost,
        boundHolds_fails_iff fun count => Value.less_int_fails_iff _ count, hasEntries]
      simp
    · have noOption : bounds.option "minCount" = Outcome.noAttribute := by
        cases bounds <;> first | rfl | exact absurd ⟨_, rfl⟩ isMapping
      have noEntries : bounds.isMapping = false := by
        cases bounds <;> first | rfl | exact absurd ⟨_, rfl⟩ isMapping
      refine iff_of_true ?_ (.inl noEntries)
      unfold childCountAgrees
      simp only [given, present, Bool.not_false, Bool.and_self, if_true, noOption]
      exact fails_error _
  · have skipped : (bounds.truthy && !(element.field "children").isNull) = false := by
      rw [Bool.eq_false_iff]
      intro both
      obtain ⟨given, present⟩ := Bool.and_eq_true_iff.mp both
      refine counts ⟨given, fun isNull => ?_⟩
      rw [isNull] at present
      cases present
    refine iff_of_false ?_ fun ⟨given, notNull, _⟩ => counts ⟨given, notNull⟩
    unfold childCountAgrees
    simp only [skipped, Bool.false_eq_true, if_false]
    exact not_fails_ok true

/-! ## The matchers of media and of containers -/

def MediaStumbles (mediaType mimeType source element : Value) : Prop :=
  (typeIsOneOf ["media", "image", "video", "audio"] element = true ∧ mediaTypeAgrees mediaType element = true ∧
    element.fieldAgrees "mimeType" mimeType = true) ∧ PartStumbles source (element.field "src")

theorem matches_media (mediaType mimeType source element : Value) :
    AnswersUnless (MediaStumbles mediaType mimeType source element)
      ((Matcher.media mediaType mimeType source).matches element) := by
  rw [Matcher.matches, MediaStumbles, ← sourceAgrees_fails_iff, ← Bool.and_eq_true, ← Bool.and_eq_true,
    ← Bool.and_assoc]
  split
  · rename_i agrees
    exact answersUnless_of_fails_iff (and_iff_right agrees).symm
  · rename_i differs
    exact ⟨fun ⟨agrees, _⟩ => absurd agrees differs, fun _ => ⟨false, rfl⟩⟩

/-- An element is a container of the type asked for, and the first check that does not hold of it stumbles. -/
def ContainerStumbles (containerType className attributes bounds element : Value) : Prop :=
  isContainer element = true ∧ element.fieldAgrees "containerType" containerType = true ∧
    (PartStumbles className (element.field "className") ∨
      classNameAgrees className element = .ok true ∧
        (AttributesStumble attributes (element.field "attributes") ∨
          attributesAgree attributes element = .ok true ∧ ChildCountStumbles bounds (element.field "children")))

theorem matches_container (containerType className attributes bounds element : Value) :
    AnswersUnless (ContainerStumbles containerType className attributes bounds element)
      ((Matcher.container containerType className attributes bounds).matches element) := by
  rw [Matcher.matches]
  refine answersUnless_of_fails_iff ?_
  rw [ContainerStumbles, ← classNameAgrees_fails_iff, ← attributesAgree_fails_iff, ← childCountAgrees_fails_iff]
  have guarded (holds : Bool) (rest : Outcome Bool) :
      Fails (if (!holds) = true then pure false else rest) ↔ holds = true ∧ rest.Fails := by
    cases holds
    · exact iff_of_false (not_fails_ok false) nofun
    · exact (and_iff_right rfl).symm
  unfold containerAgrees
  rw [guarded, guarded, fails_check, fails_check]

/-- A container is matched when all checks hold of it. -/
theorem containerAgrees_eq_true {containerType className attributes bounds : Value} :
    containerAgrees containerType className attributes bounds element = .ok true ↔
      isContainer element = true ∧ element.fieldAgrees "containerType" containerType = true ∧
        classNameAgrees className element = .ok true ∧ attributesAgree attributes element = .ok true ∧
          childCountAgrees bounds element = .ok true := by
  unfold containerAgrees
  rw [guard_holds_iff, guard_holds_iff, check_holds_iff, check_holds_iff]

/-! ## The other matchers -/

/-- The matchers of the library that compare fields, or that count failures as non-matches. -/
def neverFails : Matcher Value → Bool
  | .media _ _ _ | .container _ _ _ _ | .scripted _ => false
  | _ => true

theorem matches_neverFails {m : Matcher Value} (never : m.neverFails = true) (element : Value) :
    ∃ verdict, m.matches element = .ok (.bool verdict) := by
  cases m with
  | media mediaType mimeType source => cases never
  | container containerType className attributes bounds => cases never
  | scripted test => cases never
  | _ => exact ⟨_, by rw [Matcher.matches]⟩

end Matcher

end StyleRules
