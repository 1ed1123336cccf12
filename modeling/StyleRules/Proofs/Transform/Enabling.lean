import StyleRules.Proofs.Value.Numbers
import StyleRules.Transform.Engine

/-!
# Setting up an engine

An engine can be set up with a capacity that is a positive integer, of either kind, and with paths that are texts.
Then shipped processors are enabled one after the other, up to the first name that none of them has.
-/

namespace StyleRules

namespace Decimal

/-- A double that is not below one has an integer part that is not below one. -/
theorem one_le_truncate {x : Float} {n : Int} (notBelow : compareInt? 1 x ≠ some .gt)
    (isWhole : truncate? x = some n) : 1 ≤ n := by
  unfold compareInt? at notBelow
  unfold truncate? at isWhole
  cases decoded : Binary.ofFloat x with
  | nan => simp [decoded] at isWhole
  | infinite negative => simp [decoded] at isWhole
  | finite negative mantissa exponent =>
      have positive := fraction_den_pos mantissa exponent
      simp only [decoded] at notBelow isWhole
      generalize fraction mantissa exponent = parts at notBelow isWhole positive
      obtain ⟨num, den⟩ := parts
      simp only [Int.one_mul, Option.some.injEq, ne_eq, Int.compare_eq_gt] at notBelow isWhole positive
      cases negative with
      | true =>
          simp only [if_true] at notBelow
          omega
      | false =>
          have whole : 1 ≤ num / den := by
            rw [Nat.one_le_div_iff positive]
            simp only [Bool.false_eq_true, if_false] at notBelow
            omega
          simp only [Bool.false_eq_true, if_false] at isWhole
          omega

end Decimal

namespace Engine

variable {size : Value} {name : String}

/-! ## Capacity and paths -/

theorem exists_truncate {x : Float} (isInteger : Decimal.isInteger x = true) :
    ∃ n, Decimal.truncate? x = some n := by
  rw [Decimal.isInteger] at isInteger
  rw [Decimal.truncate?]
  split at isInteger
  · exact ⟨_, rfl⟩
  · cases isInteger

theorem exists_capacity_int {n : Int} (positive : 1 ≤ n) : ∃ capacity, capacityOf (.int n) = .ok capacity := by
  rw [capacityOf, if_neg (by omega)]
  exact ⟨_, rfl⟩

theorem exists_capacity_float {x : Float} (isInteger : Decimal.isInteger x = true)
    (positive : Decimal.compareInt? 1 x ≠ some .gt) : ∃ capacity, capacityOf (.float x) = .ok capacity := by
  obtain ⟨n, isWhole⟩ := exists_truncate isInteger
  rw [capacityOf, if_neg positive, isWhole]
  exact ⟨_, rfl⟩

/-- A capacity is positive. -/
theorem one_le_capacity {capacity : Nat} (isCapacity : capacityOf size = .ok capacity) : 1 ≤ capacity := by
  unfold capacityOf at isCapacity
  split at isCapacity
  · split at isCapacity
    · cases isCapacity
    · cases isCapacity
      omega
  · rename_i x
    split at isCapacity
    · cases isCapacity
    · rename_i notBelow
      cases isWhole : Decimal.truncate? x with
      | none => simp [isWhole] at isCapacity
      | some n =>
          have positive := Decimal.one_le_truncate notBelow isWhole
          simp only [isWhole, Except.ok.injEq] at isCapacity
          omega
  · cases isCapacity

theorem mapM_toPath (names : List String) :
    (names.map Value.str).mapM Value.toPath = .ok (names.map Path.ofString) := by
  induction names with
  | nil => rfl
  | cons name rest ih => rw [List.map_cons, List.mapM_cons, ih]; rfl

/-- An engine without processors of its own can be set up if its capacity and its paths can be read. -/
theorem exists_create {options : EngineOptions} {names : List String} (noProcessors : options.processors = .null)
    (hasCapacity : ∃ capacity, capacityOf options.maxCacheSize = .ok capacity)
    (hasPaths : (options.transformPaths.orElse (.list [.str "./transforms"])).iterate = .ok (names.map .str)) :
    ∃ e, create options = .ok e := by
  obtain ⟨capacity, isCapacity⟩ := hasCapacity
  rw [create, isCapacity, hasPaths, noProcessors]
  simp only [bind, Except.bind]
  rw [mapM_toPath]
  exact ⟨_, rfl⟩

/-! ## Processors and templates -/

/-- A shipped processor has the name. -/
def isBackend (name : String) : Bool := (backends.lookup name).isSome

/-- The failure to find a shipped processor. -/
def noBackend (name : String) : Failure := .unknownBackend name (Text.join ", " (backends.map (·.1)))

theorem find?_names {α : Type} (table : List (String × α)) (name : String) :
    Mapping.find? (.str name) (table.map fun (known, item) => (Value.str known, item)) = table.lookup name := by
  induction table with
  | nil => rfl
  | cons entry rest ih =>
      obtain ⟨known, item⟩ := entry
      rw [List.map_cons, Mapping.find?_cons_str, ih, List.lookup_cons]
      by_cases same : known = name
      · simp [same]
      · have different : (name == known) = false := beq_eq_false_iff_ne.mpr (Ne.symm same)
        simp [same, different]

theorem lookIn_backends (name : String) :
    (Value.str name).lookIn (backends.map fun (known, processor) => (Value.str known, processor)) =
      .ok (backends.lookup name) :=
  congrArg Except.ok (find?_names backends name)

theorem exists_registerProcessor (name : String) (p : Processor Value) (e : Engine) :
    ∃ reached, (registerProcessor (.str name) (.processor p)).perform e = (.ok (), reached) :=
  ⟨_, rfl⟩

/-- What enabling processors by their names comes to. -/
def enabling (names : List String) : Outcome Unit :=
  match names.find? fun name => !isBackend name with
  | some unknown => .error (noBackend unknown)
  | none => .ok ()

/-- Enabling processors by texts ends at the first one that no shipped processor has for a name. -/
theorem enableBackends_texts (names : List String) (e : Engine) :
    ∃ reached, (enableBackends (names.map .str)).perform e = (enabling names, reached) := by
  induction names generalizing e with
  | nil => exact ⟨e, rfl⟩
  | cons name rest ih =>
      rw [List.map_cons, enableBackends, lookIn_backends, Action.perform_bind_ok (Action.perform_ofOutcome _ e),
        enabling, List.find?_cons, isBackend]
      cases backends.lookup name with
      | none => exact ⟨e, rfl⟩
      | some processor =>
          obtain ⟨reached, registered⟩ := exists_registerProcessor name processor e
          dsimp only
          rw [Action.perform_bind_ok registered]
          exact ih reached

theorem perform_registerTemplate {name body : Value} (isKey : name.isKey = true) (e : Engine) :
    (registerTemplate name body {}).perform e =
      (.ok (), { e with
        templates :=
          Mapping.insert name ⟨name, body, e.defaultProcessor, [], [], .str "1.0"⟩ e.templates }) := by
  simp [registerTemplate, Action.perform_bind, isKey, Value.orElse, Value.truthy, Value.toEntries]

theorem exists_registerSheets (sheets : List Stylesheet) (e : Engine) :
    ∃ reached, (registerSheets sheets).perform e = (.ok (), reached) := by
  induction sheets generalizing e with
  | nil => exact ⟨e, rfl⟩
  | cons sheet rest ih =>
      rw [registerSheets, Action.perform_bind_ok (perform_registerTemplate rfl e)]
      exact ih _

theorem exists_defineCommonTemplates (e : Engine) :
    ∃ reached, defineCommonTemplates.perform e = (.ok (), reached) :=
  exists_registerSheets _ e

/-! ## What calls keep

A property of engines that does not look at the templates is kept by all calls that register templates, and one
that a new processor does not break is kept by all calls that register processors. -/

section Keeping

variable {holds : Engine → Prop}

theorem keeps_registerTemplate (ignores : ∀ e templates, holds e → holds { e with templates })
    (name body : Value) (options : TemplateOptions) : (registerTemplate name body options).Keeps holds := by
  refine (Action.Keeps.ofOutcome _).bind fun _ => ?_
  refine (Action.Keeps.ofOutcome _).bind fun _ => ?_
  by_cases isKey : (!name.isKey) = true
  · rw [if_pos isKey]
    exact (Action.Keeps.throw _).bind fun _ => Action.Keeps.modify fun e => ignores e _
  · rw [if_neg isKey]
    exact Action.Keeps.modify fun e => ignores e _

theorem keeps_loadTemplate (ignores : ∀ e templates, holds e → holds { e with templates })
    (host : Host) (name path : Value) (options : TemplateOptions) :
    (loadTemplate host name path options).Keeps holds := by
  refine (Action.Keeps.ofOutcome _).bind fun _ => Action.Keeps.get.bind fun _ => ?_
  refine (Action.Keeps.ofOutcome _).bind fun text => ?_
  cases text with
  | none => exact Action.Keeps.throw _
  | some text => exact keeps_registerTemplate ignores _ _ _

theorem keeps_registerSheets (ignores : ∀ e templates, holds e → holds { e with templates })
    (sheets : List Stylesheet) : (registerSheets sheets).Keeps holds := by
  induction sheets with
  | nil => exact Action.Keeps.pure ()
  | cons sheet rest ih => exact (keeps_registerTemplate ignores _ _ _).bind fun _ => ih

theorem keeps_registerProcessor {name processor : Value}
    (inserts : ∀ e, holds e → holds { e with
      processors := Mapping.insert name ⟨processor, 0⟩ e.processors }) :
    (registerProcessor name processor).Keeps holds := by
  refine (Action.Keeps.ofOutcome _).bind fun _ => ?_
  by_cases isKey : (!name.isKey) = true
  · rw [if_pos isKey]
    exact (Action.Keeps.throw _).bind fun _ => Action.Keeps.modify inserts
  · rw [if_neg isKey]
    exact Action.Keeps.modify inserts

/-- Only the texts that stand in a table lead to its items. -/
theorem mem_of_find?_names {α : Type} {table : List (String × α)} {name : Value} {item : α}
    (found : Mapping.find? name (table.map fun (known, item) => (Value.str known, item)) = some item) :
    ∃ known, name = .str known ∧ (known, item) ∈ table := by
  induction table with
  | nil => cases found
  | cons entry rest ih =>
      rw [List.map_cons, Mapping.find?] at found
      split at found
      · rename_i same
        cases found
        exact ⟨entry.1, Value.str_eq_iff.mp same, List.mem_cons_self⟩
      · obtain ⟨known, isName, member⟩ := ih found
        exact ⟨known, isName, List.mem_cons_of_mem _ member⟩

/-- Enabling processors by their names registers shipped ones under their own names only. -/
theorem keeps_enableBackends
    (inserts : ∀ known processor, (known, processor) ∈ backends → ∀ e, holds e → holds { e with
      processors := Mapping.insert (.str known) ⟨.processor processor, 0⟩ e.processors })
    (names : List Value) : (enableBackends names).Keeps holds := by
  induction names with
  | nil => exact Action.Keeps.pure ()
  | cons name rest ih =>
      rw [enableBackends]
      cases looked : name.lookIn (backends.map fun (known, processor) => (Value.str known, processor)) with
      | error reason => exact fun _ held => held
      | ok found =>
          cases found with
          | none => exact fun _ held => held
          | some processor =>
              rw [Value.lookIn] at looked
              split at looked
              · obtain ⟨known, rfl, member⟩ := mem_of_find?_names (Except.ok.inj looked)
                exact (keeps_registerProcessor (inserts known processor member)).bind fun _ => ih
              · cases looked

theorem keeps_registerAll {processors : List Value}
    (inserts : ∀ name, ∀ processor ∈ processors, ∀ e, holds e → holds { e with
      processors := Mapping.insert name ⟨processor, 0⟩ e.processors }) :
    (registerAll processors).Keeps holds := by
  induction processors with
  | nil => exact Action.Keeps.pure ()
  | cons processor rest ih =>
      refine (Action.Keeps.ofOutcome _).bind fun name => ?_
      refine (keeps_registerProcessor (inserts name processor List.mem_cons_self)).bind fun _ => ?_
      exact ih fun name other member => inserts name other (List.mem_cons_of_mem _ member)

end Keeping

end Engine

end StyleRules
