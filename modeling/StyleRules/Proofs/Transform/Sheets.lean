import StyleRules.Proofs.Lists
import StyleRules.Proofs.Value.TextKeys
import StyleRules.Transform.Evaluate

/-!
# The order of parameters

A stylesheet looks parameters up by name.  So the order in which the parameters of a call are written does
not matter, neither to the output of the stylesheet nor to whether it can be run at all.
-/

namespace StyleRules

namespace SheetParameters

theorem textGiven_error {entry : Value × Value} {other : Failure}
    (refused : textGiven entry = .error other) : other = .unwritableText := by
  rw [textGiven] at refused
  split at refused
  · cases refused
  · cases refused
    rfl

theorem named_error {entry : Value × String} {other : Failure} (refused : named entry = .error other) :
    other = .misuse .type := by
  obtain ⟨name, text⟩ := entry
  cases name <;> cases refused <;> rfl

theorem textGiven_key {result : Value × String} {given : Value × Value}
    (read : textGiven given = .ok result) : result.1 = given.1 := by
  rw [textGiven] at read
  split at read
  · cases read
    rfl
  · cases read

theorem named_key {entry : Value × String} {result : String × String}
    (read : named entry = .ok result) : Value.str result.1 = entry.1 := by
  obtain ⟨name, text⟩ := entry
  cases name <;> cases read
  rfl

/-- Parameters under texts are read when XML can hold their names and their texts. -/
theorem ofEntries_named {fields : List (String × Value)} (noNulls : ∀ field ∈ fields, field.2.isNull = false)
    (names : ∀ field ∈ fields, isWritable field.1 = true)
    (values : ∀ field ∈ fields, isWritable (textOf field.2) = true) :
    ofEntries (fields.map fun (name, value) => (.str name, value)) =
      .ok (fields.map fun (name, value) => (name, textOf value)) := by
  have all : (fields.map fun (name, value) => (Value.str name, value)).filter (fun entry => !entry.2.isNull) =
      fields.map fun (name, value) => (.str name, value) := by
    rw [List.filter_eq_self]
    intro entry member
    obtain ⟨field, isField, rfl⟩ := List.mem_map.mp member
    simp [noNulls field isField]
  have texts : (fields.map fun (name, value) => (Value.str name, value)).mapM textGiven =
      .ok (fields.map fun (name, value) => (.str name, textOf value)) := by
    rw [List.mapM_map]
    exact mapM_eq_pure_map fun field isField => if_pos (values field isField)
  have keyed : (fields.map fun (name, value) => (Value.str name, textOf value)).mapM named =
      .ok (fields.map fun (name, value) => (name, textOf value)) := by
    rw [List.mapM_map]
    exact mapM_eq_pure_map fun field isField => rfl
  have writable : ((fields.map fun (name, value) => (name, textOf value)).all fun entry => isWritable entry.1) =
      true := by
    rw [List.all_map]
    exact List.all_eq_true.mpr names
  rw [ofEntries, all, texts]
  simp only [bind, Except.bind, keyed, writable, if_true]
  rfl

/-- The same parameters in another order. -/
structure Reordered (first second : SheetParameters) : Prop where
  permuted : first.Perm second
  distinct : (first.map Prod.fst).Nodup

theorem Reordered.lookup {first second : SheetParameters} (reordered : Reordered first second)
    (name : String) : first.lookup name = second.lookup name :=
  lookup_perm name reordered.distinct reordered.permuted

/-- Reading parameters in another order gives the same parameters in another order, or the same failure. -/
theorem ofEntries_perm {entries others : List (Value × Value)}
    (distinct : (Mapping.keys entries).Nodup) (permuted : entries.Perm others) :
    (∃ first second, ofEntries entries = .ok first ∧ ofEntries others = .ok second ∧
        Reordered first second) ∨
      ∃ reason, ofEntries entries = .error reason ∧ ofEntries others = .error reason := by
  have given := mapM_perm (fun item other => @textGiven_error item other)
    (permuted.filter fun entry => !entry.2.isNull)
  rw [ofEntries, ofEntries]
  rcases given with ⟨texts, otherTexts, read, otherRead, sameTexts⟩ | ⟨fails, otherFails⟩
  · have namedAll := mapM_perm (fun item other => @named_error item other) sameTexts
    rw [read, otherRead]
    rcases namedAll with ⟨first, second, named, otherNamed, same⟩ | ⟨fails, otherFails⟩
    · simp only [bind, Except.bind, named, otherNamed, same.all_eq]
      have names : (first.map Prod.fst).map Value.str =
          Mapping.keys (entries.filter fun entry => !entry.2.isNull) := by
        have textKeys := mapM_ok_map (fun _ _ => textGiven_key) read
        have firstKeys := mapM_ok_map (fun _ _ => named_key) named
        rw [List.map_map]
        exact firstKeys.trans textKeys
      have kept : (Mapping.keys (entries.filter fun entry => !entry.2.isNull)).Nodup :=
        distinct.sublist (List.filter_sublist.map Prod.fst)
      rw [← names] at kept
      split
      · exact Or.inl ⟨first, second, rfl, rfl, same, List.Nodup.of_map _ kept⟩
      · exact Or.inr ⟨_, rfl, rfl⟩
    · simp only [bind, Except.bind, fails, otherFails]
      exact Or.inr ⟨_, rfl, rfl⟩
  · rw [fails, otherFails]
    exact Or.inr ⟨_, rfl, rfl⟩

end SheetParameters

namespace Stylesheet

theorem resultText_reordered (sheet : Stylesheet) (root : Xml.Node) {first second : SheetParameters}
    (reordered : SheetParameters.Reordered first second) :
    sheet.resultText root first = sheet.resultText root second := by
  have value (parameter : SheetParameter) : parameter.value first root = parameter.value second root := by
    rw [SheetParameter.value, SheetParameter.value, reordered.lookup]
  simp only [resultText, SheetProgram.run, value]

theorem output_reordered (sheet : Stylesheet) (root : Xml.Node) {first second : SheetParameters}
    (reordered : SheetParameters.Reordered first second) :
    sheet.output root first = sheet.output root second := by
  rw [output, output, reordered.permuted.all_eq, resultText_reordered sheet root reordered]

theorem items_orElse (entries : List (Value × Value)) :
    ((Value.map entries).orElse (.map [])).items = .ok entries := by
  cases entries with
  | nil => rfl
  | cons entry rest => rfl

end Stylesheet

/-- A common stylesheet and a compiled one both look their parameters up by name. -/
theorem LoadedSheet.onDocument_reordered {sheet : LoadedSheet} {xml : Value} {work : SheetParameters → Outcome String}
    (reads : sheet.onDocument xml = .ok work) {first second : SheetParameters}
    (reordered : SheetParameters.Reordered first second) : work first = work second := by
  cases xml with
  | str text =>
      cases sheet with
      | common sheet =>
          rw [onDocument] at reads
          split at reads
          · cases reads
            exact sheet.output_reordered _ reordered
          · cases reads
      | compiled read =>
          rw [onDocument] at reads
          cases compiled : read text with
          | error reason => rw [compiled] at reads; cases reads
          | ok answer =>
              rw [compiled] at reads
              cases reads
              exact congrArg answer (funext reordered.lookup)
  | _ => cases reads

/-- A stylesheet gives the same for the same parameters in another order, whatever it is compiled to. -/
theorem Stylesheet.run_perm (compile : String → Outcome CompiledSheet) (xml template : Value)
    {entries others : List (Value × Value)} (distinct : (Mapping.keys entries).Nodup)
    (permuted : entries.Perm others) :
    run compile xml template (.map entries) = run compile xml template (.map others) := by
  have readBoth := SheetParameters.ofEntries_perm distinct permuted
  rw [run, run, items_orElse, items_orElse]
  cases LoadedSheet.ofTemplate compile template with
  | error reason => rfl
  | ok sheet =>
      simp only [bind, Except.bind]
      cases reads : sheet.onDocument xml with
      | error reason => rfl
      | ok work =>
          rcases readBoth with ⟨first, second, read, otherRead, reordered⟩ | ⟨reason, fails, otherFails⟩
          · simp only [read, otherRead, LoadedSheet.onDocument_reordered reads reordered]
          · simp only [fails, otherFails]

end StyleRules
