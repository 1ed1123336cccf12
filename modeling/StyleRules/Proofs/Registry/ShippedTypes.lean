import StyleRules.Proofs.Json.ReadBack
import StyleRules.Proofs.Matcher.Answering
import StyleRules.Proofs.Registry.Asking
import StyleRules.Proofs.Registry.Escaping

/-!
# What matchers of shipped types answer

The library ships the built-in types and those of two plugins.  Whatever options a matcher of such a type was
built from, it answers with a truth value about every element, with two exceptions: the types `media` and
`container` read parts of an element without asking for their kind.
-/

namespace StyleRules

namespace Matcher

open Outcome

variable {kind : MatcherKind} {options : Value}

/-! ## Building from options -/

theorem ofElementOptions_neverFails (elementType options : Value) :
    (ofElementOptions elementType options).Ensures (·.neverFails = true) :=
  .bind fun _ _ => .bind fun _ _ => .bind fun _ _ => .bind fun _ _ => .pure rfl

/-- Of one argument, all other kinds build matchers that never fail. -/
theorem build_neverFails (notMedia : kind ≠ .media) (notContainer : kind ≠ .container) (options : Value) :
    (build kind [options]).Ensures (·.neverFails = true) := by
  cases kind with
  | media => exact absurd rfl notMedia
  | container => exact absurd rfl notContainer
  | noop | conditional | plainBreak | highlight | styleTemplate => exact .pure rfl
  | unbound | transform => exact ensures_wrongType
  | element => exact ofElementOptions_neverFails options .null
  | paragraph | run | table => exact ofElementOptions_neverFails _ _
  | highlightOptions => exact .bind fun _ _ => .pure rfl
  | conditionalBreak | sectionBreak | wrapBreak | equation | structural =>
    exact .bind fun _ _ => .bind fun _ _ => .pure rfl
  | clearBreak => exact .bind fun _ _ => .pure rfl
  | formField => exact .bind fun _ _ => .bind fun _ _ => .bind fun _ _ => .bind fun _ _ => .pure rfl

theorem option_eq {name : String} {given : Value} (read : options.option name = .ok given) :
    given = options.field name := by
  cases options <;> cases read
  rfl

theorem build_media (options : Value) :
    let settings := options.orElse (.map [])
    (build .media [options]).Ensures
      (· = .media (settings.field "mediaType") (settings.field "mimeType") (settings.field "source")) := by
  refine .bind fun _ mediaType => .bind fun _ mimeType => .bind fun _ source => .pure ?_
  rw [option_eq mediaType, option_eq mimeType, option_eq source]

theorem build_container (options : Value) :
    let settings := options.orElse (.map [])
    (build .container [options]).Ensures
      (· = .container (settings.field "containerType") (settings.field "className")
        ((settings.field "attributes").orElse (.map [])) (settings.field "children")) := by
  refine .bind fun _ containerType => .bind fun _ className => .bind fun _ attributes => .bind fun _ children =>
    .pure ?_
  rw [option_eq containerType, option_eq className, option_eq attributes, option_eq children]

theorem neverFails_detach {m : Matcher Value} (never : m.neverFails = true) : m.detach.neverFails = true := by
  cases m <;> first | rfl | cases never

end Matcher

namespace Registry

open Outcome

variable {r ended : Registry} {name : String} {registered : RegisteredMatcher} {result : Result Value}

/-! ## Shipped types -/

/-- The entries of the built-in types and of the two plugins. -/
def shippedEntries : List (Value × RegisteredMatcher) :=
  builtinMatchers ++ (Footprint.ofEntries PluginEntry.extendedBreaks).matchers ++
    (Footprint.ofEntries PluginEntry.customElements).matchers

/-- The entry gives a matcher that never fails, or it builds one from options; only the types `media` and
`container` build matchers of their kinds. -/
def isShippedEntry : Value × RegisteredMatcher → Bool
  | (.str name, ⟨.callable (.constant (.matcher m)), _, _, _, _⟩) =>
    m.neverFails && name ≠ "media" && name ≠ "container"
  | (.str name, ⟨.callable (.build kind), _, _, _, _⟩) =>
    (decide (kind = .media) == decide (name = "media")) &&
      (decide (kind = .container) == decide (name = "container"))
  | _ => false

theorem shippedEntries_all : shippedEntries.all isShippedEntry = true := by decide +kernel

theorem build_success {type options : Value} (success : (build registered type options).isSuccess = true) :
    ∃ value, registered.factory.call [options] = .ok value ∧
      (build registered type options).value = value.detach := by
  rw [build] at success ⊢
  split at success
  · cases success
  · cases success
  · split at success
    · cases success
    · rename_i checked value given
      exact ⟨value, given, rfl⟩

/-- What stumbles when an element is asked about by a matcher of a shipped type, which was built from settings. -/
def TypeStumbles (name : String) (settings element : Value) : Prop :=
  (name = "media" ∧
    Matcher.MediaStumbles (settings.field "mediaType") (settings.field "mimeType") (settings.field "source")
      element) ∨
  (name = "container" ∧
    Matcher.ContainerStumbles (settings.field "containerType") (settings.field "className")
      ((settings.field "attributes").orElse (.map [])) (settings.field "children") element)

theorem typeStumbles_media (settings element : Value) :
    TypeStumbles "media" settings element ↔
      Matcher.MediaStumbles (settings.field "mediaType") (settings.field "mimeType") (settings.field "source")
        element := by
  simp [TypeStumbles]

theorem typeStumbles_container (settings element : Value) :
    TypeStumbles "container" settings element ↔
      Matcher.ContainerStumbles (settings.field "containerType") (settings.field "className")
        ((settings.field "attributes").orElse (.map [])) (settings.field "children") element := by
  simp [TypeStumbles]

theorem answersUnless_neverFails {m : Matcher Value} (never : m.neverFails = true) (notMedia : name ≠ "media")
    (notContainer : name ≠ "container") (settings element : Value) :
    AnswersUnless (TypeStumbles name settings element) (m.matches element) := by
  refine ⟨?_, fun _ => Matcher.matches_neverFails never element⟩
  rintro (⟨isMedia, _⟩ | ⟨isContainer, _⟩)
  · exact absurd isMedia notMedia
  · exact absurd isContainer notContainer

theorem shipped_built {options value : Value} (shipped : isShippedEntry (.str name, registered) = true)
    (given : registered.factory.call [options] = .ok value) :
    ∃ m, value.detach = .matcher m ∧
      ∀ element, AnswersUnless (TypeStumbles name (options.orElse (.map [])) element) (m.matches element) := by
  unfold isShippedEntry at shipped
  split at shipped
  · rename_i m priority space validation description isEntry
    cases isEntry
    cases given
    rw [Bool.and_eq_true, Bool.and_eq_true] at shipped
    obtain ⟨⟨never, notMedia⟩, notContainer⟩ := shipped
    exact ⟨_, rfl, answersUnless_neverFails (Matcher.neverFails_detach never) (of_decide_eq_true notMedia)
      (of_decide_eq_true notContainer) _⟩
  · rename_i kind priority space validation description isEntry
    cases isEntry
    obtain ⟨m, built, isMatcher⟩ := bind_ok given
    cases isMatcher
    rw [Bool.and_eq_true, beq_iff_eq, beq_iff_eq, decide_eq_decide, decide_eq_decide] at shipped
    obtain ⟨namesMedia, namesContainer⟩ := shipped
    by_cases isMedia : kind = .media
    · subst isMedia
      obtain rfl : name = "media" := namesMedia.mp rfl
      cases Matcher.build_media options _ built
      refine ⟨_, rfl, fun element => ?_⟩
      rw [typeStumbles_media]
      exact Matcher.matches_media _ _ _ element
    by_cases isContainer : kind = .container
    · subst isContainer
      obtain rfl : name = "container" := namesContainer.mp rfl
      cases Matcher.build_container options _ built
      refine ⟨_, rfl, fun element => ?_⟩
      rw [typeStumbles_container]
      exact Matcher.matches_container _ _ _ _ element
    -- all other kinds build matchers that cannot stumble, under other names
    exact ⟨_, rfl, answersUnless_neverFails
      (Matcher.neverFails_detach (Matcher.build_neverFails isMedia isContainer options _ built))
      (fun isName => isMedia (namesMedia.mpr isName)) (fun isName => isContainer (namesContainer.mpr isName)) _⟩
  · cases shipped

/-- A matcher of a shipped type, built from any options, answers about any element with a truth value, unless the
element stumbles. -/
theorem shipped_matchers_answer (host : Host) (options : Value) (shipped : (.str name, registered) ∈ shippedEntries)
    (found : Mapping.find? (.str name) r.matchers = some registered)
    (made : (createMatcher host (.str name) options).perform r = (.ok result, ended))
    (success : result.isSuccess = true) (element : Value) (later : Registry) :
    (∃ m, result.value = .matcher m) ∧
      ((ask result.value element).perform later).2 = later ∧
        AnswersUnless (TypeStumbles name (options.orElse (.map [])) element)
          ((ask result.value element).perform later).1 := by
  rw [createMatcher_direct host options found] at made
  cases made
  obtain ⟨value, given, isValue⟩ := build_success success
  obtain ⟨m, isMatcher, answers⟩ := shipped_built (List.all_eq_true.mp shippedEntries_all _ shipped) given
  rw [isValue, ask_detached, isMatcher]
  rw [orElse_orElse] at answers
  exact ⟨⟨m, rfl⟩, rfl, answers element⟩

/-- A new registry with the plugin of custom elements. -/
def customElementsRegistry : Registry :=
  reached none .standard true [.registerPlugin (.plugin (Plugin.ofBuiltin .customElements))]

def mediaRegistered : RegisteredMatcher :=
  ⟨.callable (.build .media), .int 20, .str "custom-elements", .callable (.check .media),
    .str "Matches media objects (audio, video, embedded content)"⟩

/-- A media object with a source. -/
def mediaObject : Value := .map [(.str "type", .str "media"), (.str "src", .str "a.png")]

/-- The matcher of media objects for options with nothing but a source. -/
def sourceMatcher (source : Value) : Value := .matcher (.media .null .null source)

theorem created_sourceMatcher (source : Value) :
    (createMatcher .bare (.str "media") (.map [(.str "source", source)])).perform customElementsRegistry =
      (.ok (.success (sourceMatcher source)), customElementsRegistry) :=
  rfl

theorem mediaRegistered_shipped : (.str "media", mediaRegistered) ∈ shippedEntries :=
  List.mem_of_getElem? (rfl : shippedEntries[20]? = some (.str "media", mediaRegistered))

theorem find?_customElementsRegistry :
    Mapping.find? (.str "media") customElementsRegistry.matchers = some mediaRegistered :=
  rfl

theorem shipped_matchers_answer_media :
    let r := customElementsRegistry
    (createMatcher .bare (.str "media") (.map [(.str "source", .str "a")])).perform r =
        (.ok (.success (sourceMatcher (.str "a"))), r) ∧
      ∃ verdict, (ask (sourceMatcher (.str "a")) mediaObject).perform r = (.ok (.bool verdict), r) := by
  intro r
  have made := created_sourceMatcher (.str "a")
  obtain ⟨_, stays, _, answers⟩ :=
    shipped_matchers_answer _ _ mediaRegistered_shipped find?_customElementsRegistry made rfl mediaObject r
  have searchable : ¬TypeStumbles "media" (.map [(.str "source", .str "a")]) mediaObject := by
    rw [typeStumbles_media]
    rintro ⟨_, _, _, unsearchable⟩
    exact unsearchable ⟨"a", rfl⟩
  obtain ⟨verdict, answered⟩ := answers searchable
  exact ⟨made, verdict, Prod.ext answered stays⟩

/-- A source that is no text cannot be searched for in the text of an element. -/
theorem shipped_matcher_fails :
    let r := customElementsRegistry
    (.str "media", mediaRegistered) ∈ shippedEntries ∧
      Mapping.find? (.str "media") r.matchers = some mediaRegistered ∧
        (createMatcher .bare (.str "media") (.map [(.str "source", .int 5)])).perform r =
            (.ok (.success (sourceMatcher (.int 5))), r) ∧
          IsJson mediaObject ∧
            (ask (sourceMatcher (.int 5)) mediaObject).perform r = (.error (.misuse .type), r) :=
  ⟨mediaRegistered_shipped, find?_customElementsRegistry, created_sourceMatcher (.int 5),
    by simp [mediaObject, Mapping.keys], rfl⟩

end Registry

end StyleRules
