import StyleRules.Proofs.Registry.ShippedTypes

/-!
# Options only narrow

A matcher that is built from options asks of an element what its options set, and an option that is not set excludes
nothing.  So whatever a matcher with further options matches is matched without them as well.
-/

namespace StyleRules

namespace Value

/-- The constraint is the same, or it is not set. -/
def Loosens (kept given : Value) : Prop := kept = given ∨ kept = .null

/-- What an unset constraint does not exclude holds without the constraint whenever it holds with it. -/
theorem Loosens.holds {kept given : Value} (loosens : kept.Loosens given) (admits : Value → Prop)
    (unset : admits .null) (holds : admits given) : admits kept := by
  rcases loosens with rfl | rfl
  · exact holds
  · exact unset

variable {options more : Value}

/-- Both values are read as options, and each option of the first is also one of the second, with the same value. -/
def ExtendedBy (options more : Value) : Prop :=
  ∃ entries others, options.orElse (.map []) = .map entries ∧ more.orElse (.map []) = .map others ∧
    ∀ key value, Mapping.find? key entries = some value → Mapping.find? key others = some value

theorem ExtendedBy.orElse (extended : options.ExtendedBy more) :
    (options.orElse (.map [])).ExtendedBy (more.orElse (.map [])) := by
  simpa only [ExtendedBy, Registry.orElse_orElse] using extended

theorem ExtendedBy.option (extended : options.ExtendedBy more) (name : String) :
    ∃ kept given, (options.orElse (.map [])).option name = .ok kept ∧
      (more.orElse (.map [])).option name = .ok given ∧ kept.Loosens given := by
  obtain ⟨entries, others, areEntries, areOthers, subset⟩ := extended
  rw [areEntries, areOthers]
  refine ⟨_, _, rfl, rfl, ?_⟩
  cases found : Mapping.get? name entries with
  | none => exact .inr rfl
  | some value =>
      have alsoFound : Mapping.get? name others = some value := subset _ value found
      rw [alsoFound]
      exact .inl rfl

end Value

namespace Matcher

open Outcome

variable {kept given element : Value}

/-! ## Looser matchers -/

/-- The first matcher sets nothing that the second does not set in the same way. -/
inductive Loosens : Matcher Value → Matcher Value → Prop
  | element {styleId styleId' list list' : Value} {styleName styleName' : Option StyleName} (elementType : Value) :
    styleId.Loosens styleId' → (styleName = styleName' ∨ styleName = none) → list.Loosens list' →
      Loosens (.element elementType styleId styleName list) (.element elementType styleId' styleName' list')
  | highlight {color color' : Value} : color.Loosens color' → Loosens (.highlight color) (.highlight color')
  | formField {fieldType fieldType' name name' required required' placeholder placeholder' : Value} :
    fieldType.Loosens fieldType' → name.Loosens name' → required.Loosens required' →
      placeholder.Loosens placeholder' →
        Loosens (.formField fieldType name required placeholder) (.formField fieldType' name' required' placeholder')
  | equation {mathType mathType' writtenAs writtenAs' : Value} :
    mathType.Loosens mathType' → writtenAs.Loosens writtenAs' →
      Loosens (.equation mathType writtenAs) (.equation mathType' writtenAs')
  | media {mediaType mediaType' mimeType mimeType' source source' : Value} :
    mediaType.Loosens mediaType' → mimeType.Loosens mimeType' → source.Loosens source' →
      Loosens (.media mediaType mimeType source) (.media mediaType' mimeType' source')
  | container {containerType containerType' className className' attributes attributes' bounds bounds' : Value} :
    containerType.Loosens containerType' → className.Loosens className' → attributes.Loosens attributes' →
      bounds.Loosens bounds' →
        Loosens (.container containerType className (attributes.orElse (.map [])) bounds)
          (.container containerType' className' (attributes'.orElse (.map [])) bounds')

theorem fieldAgrees_of_loosens (loosens : kept.Loosens given) (name : String)
    (agrees : element.fieldAgrees name given = true) : element.fieldAgrees name kept = true :=
  loosens.holds (element.fieldAgrees name · = true) rfl agrees

theorem fieldAgreesUnlessNull_of_loosens (loosens : kept.Loosens given) (name : String)
    (agrees : element.fieldAgreesUnlessNull name given = true) : element.fieldAgreesUnlessNull name kept = true :=
  loosens.holds (element.fieldAgreesUnlessNull name · = true) rfl agrees

theorem styleNameAgrees_of_loosens {kept given : Option StyleName} (loosens : kept = given ∨ kept = none)
    (agrees : styleNameAgrees given element = true) : styleNameAgrees kept element = true := by
  rcases loosens with rfl | rfl
  · exact agrees
  · rfl

/-- No check of the looser matcher fails or does not hold, if all checks of the other one hold. -/
theorem Loosens.matches {lenient strict : Matcher Value} (loosens : lenient.Loosens strict)
    (matched : strict.matches element = .ok (.bool true)) : lenient.matches element = .ok (.bool true) := by
  cases loosens with
  | element elementType styleId styleName list =>
      simp only [Matcher.matches, Except.ok.injEq, Value.bool.injEq, Bool.and_eq_true] at matched ⊢
      obtain ⟨⟨⟨ofType, hasId⟩, hasName⟩, inList⟩ := matched
      exact ⟨⟨⟨ofType, fieldAgreesUnlessNull_of_loosens styleId _ hasId⟩, styleNameAgrees_of_loosens styleName hasName⟩,
        list.holds (listAgrees · element = true) rfl inList⟩
  | highlight color =>
      simp only [Matcher.matches, Except.ok.injEq, Value.bool.injEq, Bool.and_eq_true] at matched ⊢
      exact ⟨matched.1, fieldAgreesUnlessNull_of_loosens color _ matched.2⟩
  | formField fieldType name required placeholder =>
      simp only [Matcher.matches, Except.ok.injEq, Value.bool.injEq, Bool.and_eq_true] at matched ⊢
      obtain ⟨⟨⟨⟨isField, ofType⟩, hasName⟩, isRequired⟩, hasPlaceholder⟩ := matched
      exact ⟨⟨⟨⟨isField, fieldAgrees_of_loosens fieldType _ ofType⟩, fieldAgrees_of_loosens name _ hasName⟩,
        fieldAgreesUnlessNull_of_loosens required _ isRequired⟩, fieldAgrees_of_loosens placeholder _ hasPlaceholder⟩
  | equation mathType writtenAs =>
      simp only [Matcher.matches, Except.ok.injEq, Value.bool.injEq, Bool.and_eq_true] at matched ⊢
      obtain ⟨⟨isEquation, ofType⟩, isWritten⟩ := matched
      exact ⟨⟨isEquation, fieldAgrees_of_loosens mathType _ ofType⟩, fieldAgrees_of_loosens writtenAs _ isWritten⟩
  | media mediaType mimeType source =>
      simp only [Matcher.matches] at matched ⊢
      split at matched
      case isFalse => cases matched
      case isTrue agrees =>
        simp only [Bool.and_eq_true] at agrees
        obtain ⟨⟨isMedia, ofType⟩, ofMime⟩ := agrees
        have ofType := mediaType.holds (mediaTypeAgrees · element = true) rfl ofType
        rw [isMedia, ofType, fieldAgrees_of_loosens mimeType _ ofMime]
        exact answer_holds_iff.mpr
          (source.holds (sourceAgrees · element = .ok true) rfl (answer_holds_iff.mp matched))
  | container containerType className attributes bounds =>
      rw [Matcher.matches, answer_holds_iff, containerAgrees_eq_true] at matched ⊢
      obtain ⟨isContainer, ofType, inClass, hasAttributes, hasChildren⟩ := matched
      exact ⟨isContainer, fieldAgrees_of_loosens containerType _ ofType,
        className.holds (classNameAgrees · element = .ok true) rfl inClass,
        attributes.holds (fun v => attributesAgree (v.orElse (.map [])) element = .ok true) rfl hasAttributes,
        bounds.holds (childCountAgrees · element = .ok true) rfl hasChildren⟩

/-! ## Building with fewer options -/

variable {kind : MatcherKind} {options more : Value} {strict : Matcher Value}

/-- The kinds whose options are all constraints of their own. -/
def narrows : MatcherKind → Bool
  | .paragraph | .run | .table | .highlightOptions | .formField | .equation | .media | .container => true
  | _ => false

theorem ofOption_of_loosens {constraint : Option StyleName} (loosens : kept.Loosens given)
    (read : StyleName.ofOption given = .ok constraint) :
    ∃ looser, StyleName.ofOption kept = .ok looser ∧ (looser = constraint ∨ looser = none) := by
  rcases loosens with rfl | rfl
  · exact ⟨constraint, read, .inl rfl⟩
  · exact ⟨none, rfl, .inr rfl⟩

theorem ofElementOptions_of_extended (extended : options.ExtendedBy more) (elementType : Value)
    (built : ofElementOptions elementType more = .ok strict) :
    ∃ lenient, ofElementOptions elementType options = .ok lenient ∧ lenient.Loosens strict := by
  obtain ⟨styleId, givenId, hasId, hasGivenId, looserId⟩ := extended.option "styleId"
  obtain ⟨styleName, givenName, hasName, hasGivenName, looserName⟩ := extended.option "styleName"
  obtain ⟨list, givenList, hasList, hasGivenList, looserList⟩ := extended.option "list"
  simp only [ofElementOptions, hasGivenId, hasGivenName, hasGivenList, ok_bind] at built
  obtain ⟨constraint, read, isStrict⟩ := bind_ok built
  cases isStrict
  obtain ⟨looser, readLooser, looserName⟩ := ofOption_of_loosens looserName read
  refine ⟨.element elementType styleId looser list, ?_, .element elementType looserId looserName looserList⟩
  simp only [ofElementOptions, hasId, hasName, hasList, ok_bind, readLooser]
  rfl

/-- If a matcher can be built with further options, then one that is looser can be built without them. -/
theorem build_of_extended (narrowing : narrows kind = true) (extended : options.ExtendedBy more)
    (built : build kind [more] = .ok strict) :
    ∃ lenient, build kind [options] = .ok lenient ∧ lenient.Loosens strict := by
  cases kind with
  | paragraph | run | table => exact ofElementOptions_of_extended extended.orElse _ built
  | highlightOptions =>
      obtain ⟨color, givenColor, hasColor, hasGivenColor, looserColor⟩ := extended.option "color"
      simp only [build, ofOptions, hasColor, hasGivenColor, ok_bind] at built ⊢
      cases built
      exact ⟨_, rfl, .highlight looserColor⟩
  | formField =>
      obtain ⟨fieldType, givenType, hasType, hasGivenType, looserType⟩ := extended.option "fieldType"
      obtain ⟨name, givenName, hasName, hasGivenName, looserName⟩ := extended.option "fieldName"
      obtain ⟨required, givenRequired, hasRequired, hasGivenRequired, looserRequired⟩ := extended.option "required"
      obtain ⟨placeholder, givenPlaceholder, hasPlaceholder, hasGivenPlaceholder, looserPlaceholder⟩ :=
        extended.option "placeholder"
      simp only [build, ofOptions, hasType, hasGivenType, hasName, hasGivenName, hasRequired, hasGivenRequired,
        hasPlaceholder, hasGivenPlaceholder, ok_bind] at built ⊢
      cases built
      exact ⟨_, rfl, .formField looserType looserName looserRequired looserPlaceholder⟩
  | equation =>
      obtain ⟨mathType, givenType, hasType, hasGivenType, looserType⟩ := extended.option "mathType"
      obtain ⟨writtenAs, givenWritten, hasWritten, hasGivenWritten, looserWritten⟩ := extended.option "notation"
      simp only [build, ofOptions, hasType, hasGivenType, hasWritten, hasGivenWritten, ok_bind] at built ⊢
      cases built
      exact ⟨_, rfl, .equation looserType looserWritten⟩
  | media =>
      obtain ⟨mediaType, givenType, hasType, hasGivenType, looserType⟩ := extended.option "mediaType"
      obtain ⟨mimeType, givenMime, hasMime, hasGivenMime, looserMime⟩ := extended.option "mimeType"
      obtain ⟨source, givenSource, hasSource, hasGivenSource, looserSource⟩ := extended.option "source"
      simp only [build, ofOptions, hasType, hasGivenType, hasMime, hasGivenMime, hasSource, hasGivenSource,
        ok_bind] at built ⊢
      cases built
      exact ⟨_, rfl, .media looserType looserMime looserSource⟩
  | container =>
      obtain ⟨containerType, givenType, hasType, hasGivenType, looserType⟩ := extended.option "containerType"
      obtain ⟨className, givenClass, hasClass, hasGivenClass, looserClass⟩ := extended.option "className"
      obtain ⟨attributes, givenAttributes, hasAttributes, hasGivenAttributes, looserAttributes⟩ :=
        extended.option "attributes"
      obtain ⟨bounds, givenBounds, hasBounds, hasGivenBounds, looserBounds⟩ := extended.option "children"
      simp only [build, ofOptions, hasType, hasGivenType, hasClass, hasGivenClass, hasAttributes, hasGivenAttributes,
        hasBounds, hasGivenBounds, ok_bind] at built ⊢
      cases built
      exact ⟨_, rfl, .container looserType looserClass looserAttributes looserBounds⟩
  | _ => cases narrowing

end Matcher

namespace Registry

open Outcome

variable {name : String} {registered : RegisteredMatcher} {options more strict : Value}

/-- The types whose options only narrow. -/
def narrowingTypes : List String :=
  ["paragraph", "run", "table", "highlight", "form-field", "equation", "media", "container"]

/-- The entry builds matchers of a narrowing kind, unless its type is none of the types above. -/
def isNarrowingEntry : Value × RegisteredMatcher → Bool
  | (.str name, ⟨.callable (.build kind), _, _, _, _⟩) => !narrowingTypes.contains name || Matcher.narrows kind
  | (.str name, _) => !narrowingTypes.contains name
  | _ => false

theorem shippedEntries_narrow : shippedEntries.all isNarrowingEntry = true := by decide +kernel

theorem narrowingTypes_shipped (ofType : name ∈ narrowingTypes) :
    ∃ registered, (.str name, registered) ∈ shippedEntries := by
  simp only [narrowingTypes, List.mem_cons, List.not_mem_nil, or_false] at ofType
  rcases ofType with rfl | rfl | rfl | rfl | rfl | rfl | rfl | rfl
  all_goals exact ⟨_, Mapping.mem_of_find?_str rfl⟩

/-- What a matcher of such a type matches is also matched by the one that is built from fewer options. -/
theorem options_only_narrow (shipped : (.str name, registered) ∈ shippedEntries) (ofType : name ∈ narrowingTypes)
    (extended : options.ExtendedBy more) (built : registered.factory.call [more] = .ok strict) :
    ∃ lenient, registered.factory.call [options] = .ok lenient ∧
      ∀ element, strict.matches element = .ok (.bool true) → lenient.matches element = .ok (.bool true) := by
  have narrow : isNarrowingEntry (.str name, registered) = true := List.all_eq_true.mp shippedEntries_narrow _ shipped
  have contained : narrowingTypes.contains name = true := List.contains_iff_mem.mpr ofType
  unfold isNarrowingEntry at narrow
  split at narrow
  case h_1 kind priority space validation description isEntry =>
    cases isEntry
    rw [contained] at narrow
    obtain ⟨m, builtMatcher, isStrict⟩ := bind_ok built
    cases isStrict
    obtain ⟨lenient, builtLenient, loosens⟩ := Matcher.build_of_extended narrow extended builtMatcher
    refine ⟨.matcher lenient, ?_, fun element matched => loosens.matches matched⟩
    simp only [Value.call, Callable.apply, builtLenient]
    rfl
  case h_2 isEntry =>
    cases isEntry
    rw [contained] at narrow
    cases narrow
  case h_3 => cases narrow

def containerRegistered : RegisteredMatcher :=
  ⟨.callable (.build .container), .int 15, .str "custom-elements", .callable (.check .container),
    .str "Matches custom container elements with nested content"⟩

theorem containerRegistered_shipped : (.str "container", containerRegistered) ∈ shippedEntries :=
  Mapping.mem_of_find?_str rfl

/-- A note with one child is matched by its class name and number of children, and then by its class name alone. -/
theorem options_only_narrow_container :
    let options := .map [(.str "className", .str "note")]
    let more := .map [(.str "className", .str "note"), (.str "children", .map [(.str "minCount", .int 1)])]
    let note := .map [(.str "type", .str "div"), (.str "className", .str "note"), (.str "children", .list [.null])]
    options.ExtendedBy more ∧ ∃ strict lenient, containerRegistered.factory.call [more] = .ok strict ∧
      containerRegistered.factory.call [options] = .ok lenient ∧ strict.matches note = .ok (.bool true) ∧
        lenient.matches note = .ok (.bool true) := by
  intro options more note
  have extended : options.ExtendedBy more := by
    refine ⟨_, _, rfl, rfl, fun key value found => ?_⟩
    simp only [Mapping.find?] at found ⊢
    split at found
    · rename_i same
      rw [if_pos same]
      exact found
    · cases found
  have builtMore : containerRegistered.factory.call [more] =
      .ok (.matcher (.container .null (.str "note") (.map []) (.map [(.str "minCount", .int 1)]))) := rfl
  obtain ⟨lenient, built, matched⟩ :=
    options_only_narrow containerRegistered_shipped (by decide) extended builtMore
  exact ⟨extended, _, lenient, builtMore, built, rfl, matched note rfl⟩

end Registry

end StyleRules
