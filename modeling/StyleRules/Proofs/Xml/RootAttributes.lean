import StyleRules.Proofs.Xml.Attributes
import StyleRules.Proofs.Xml.ReadBack

/-!
# The attributes of a root that is read

The root of a document has the attributes that are read in its first tag, whatever the rest of the document is like.
Attributes that are added behind the others change none of them: a declaration binds no prefix that is bound already,
other than `xml`, which it can only bind to its own namespace.
-/

namespace StyleRules.Xml

/-! ## Putting tokens together -/

/-- The outermost element that is open, or the root once it is complete, has these attributes. -/
inductive Rooted (attributes : List (String × String)) : Option Node → List OpenElement → Prop
  | complete (name : Name) (content : List Node) :
      Rooted attributes (some (.element name (plainly attributes) content)) []
  | opened {opened : List OpenElement} {outermost : OpenElement} (isLast : opened.getLast? = some outermost)
      (same : outermost.attributes = attributes) : Rooted attributes none opened

section Rooted

variable {attributes : List (String × String)} {root : Option Node} {inner changed : OpenElement}
  {outer : List OpenElement}

theorem Rooted.replace (rooted : Rooted attributes root (inner :: outer))
    (same : changed.attributes = inner.attributes) : Rooted attributes root (changed :: outer) := by
  cases rooted with
  | opened isLast isOutermost =>
      cases outer with
      | nil =>
          cases isLast
          exact .opened rfl (same.trans isOutermost)
      | cons next others =>
          rw [List.getLast?_cons_cons] at isLast
          exact .opened (by rwa [List.getLast?_cons_cons]) isOutermost

theorem Rooted.cons (rooted : Rooted attributes root (inner :: outer)) (new : OpenElement) :
    Rooted attributes root (new :: inner :: outer) := by
  cases rooted with
  | opened isLast isOutermost => exact .opened (by rwa [List.getLast?_cons_cons]) isOutermost

theorem OpenElement.attributes_add (node : Node) (element : OpenElement) :
    (element.add node).attributes = element.attributes := by
  unfold OpenElement.add
  split <;> rfl

theorem Rooted.close (rooted : Rooted attributes root (inner :: outer)) {rest : List Token} {node : Node}
    (made : assemble.place root outer inner rest = some node) :
    ∃ root opened, Rooted attributes root opened ∧ assemble root opened rest = some node := by
  cases outer with
  | nil =>
      rw [assemble.place] at made
      cases rooted with
      | opened isLast isOutermost =>
          cases isLast
          cases isOutermost
          exact ⟨_, _, .complete _ _, made⟩
  | cons next others =>
      rw [assemble.place] at made
      refine ⟨root, _, ?_, made⟩
      cases rooted with
      | opened isLast isOutermost =>
          rw [List.getLast?_cons_cons] at isLast
          exact (Rooted.opened isLast isOutermost).replace (OpenElement.attributes_add _ _)

/-- Whatever tokens follow, the node that they complete has the attributes of the root. -/
theorem Rooted.attributes_eq {tokens : List Token} {node : Node} {opened : List OpenElement}
    (rooted : Rooted attributes root opened) (made : assemble root opened tokens = some node) :
    ∃ name content, node = .element name (plainly attributes) content := by
  induction tokens generalizing root opened with
  | nil =>
      rw [assemble] at made
      cases rooted with
      | complete name content =>
          cases made
          exact ⟨name, content, rfl⟩
      | opened isLast same =>
          split at made <;> cases made
  | cons token rest ih =>
      cases token with
      | silent =>
          rw [assemble] at made
          exact ih rooted made
      | doctype =>
          rw [assemble] at made
          split at made
          · exact ih rooted made
          · cases made
      | text chars =>
          cases opened with
          | nil =>
              rw [assemble] at made
              split at made
              · exact ih rooted made
              · cases made
          | cons inner outer =>
              rw [assemble] at made
              split at made
              · exact ih rooted made
              · exact ih (rooted.replace (OpenElement.attributes_add _ _)) made
      | closing label =>
          cases opened with
          | nil =>
              rw [assemble] at made
              cases made
          | cons inner outer =>
              rw [assemble] at made
              split at made
              · obtain ⟨root, opened, still, made⟩ := rooted.close made
                exact ih still made
              · cases made
      | opening label attributes empty =>
          cases opened with
          | nil =>
              cases rooted with
              | complete name content =>
                  rw [assemble] at made
                  cases made
              | opened isLast _ => cases isLast
          | cons inner outer =>
              rw [assemble] at made
              split at made
              · cases made
              · split at made
                · rw [assemble.place] at made
                  exact ih (rooted.replace (OpenElement.attributes_add _ _)) made
                · exact ih (rooted.cons _) made

end Rooted

/-! ## The first tag -/

theorem Token.all?_first {chars : List Char} {tokens : List Token} (nonempty : chars ≠ [])
    (cut : Token.all? chars = some tokens) :
    ∃ token rest others, next? chars = some (token, rest) ∧ tokens = token :: others := by
  rw [all?, if_neg (by simpa using nonempty)] at cut
  split at cut
  · cases cut
  · rename_i token rest read
    split at cut
    · obtain ⟨others, _, rfl⟩ := Option.map_eq_some_iff.mp cut
      exact ⟨token, rest, others, read, rfl⟩
    · cases cut

theorem normalizeLineEnds_append {chars rest : List Char} (noFeed : rest.head? ≠ some '\n') :
    normalizeLineEnds (chars ++ rest) = normalizeLineEnds chars ++ normalizeLineEnds rest := by
  induction chars using normalizeLineEnds.induct with
  | case1 => rfl
  | case2 others ih =>
      rw [List.cons_append, List.cons_append, normalizeLineEnds, normalizeLineEnds, ih]
      rfl
  | case3 c others notBoth ih =>
      rw [List.cons_append, normalizeLineEnds, normalizeLineEnds, ih]
      · rfl
      · exact notBoth
      · rintro behind rfl spelled
        cases others with
        | nil => exact noFeed (by rw [show rest = '\n' :: behind from spelled]; rfl)
        | cons d others =>
            obtain ⟨rfl, rfl⟩ := List.cons.inj spelled
            exact notBoth others rfl rfl

theorem normalizeLineEnds_cons {c : Char} (noReturn : c ≠ '\r') (rest : List Char) :
    normalizeLineEnds (c :: rest) = c :: normalizeLineEnds rest := by
  rw [normalizeLineEnds, if_neg noReturn]
  exact fun _ isReturn => absurd isReturn noReturn

theorem read?_reads {chars : List Char} {root : Node} (read : read? (String.ofList ('<' :: chars)) = some root) :
    ∃ content tokens node, dropDeclaration? (normalizeLineEnds ('<' :: chars)) = some content ∧
      Token.all? content = some tokens ∧ assemble none [] tokens = some node ∧
        Bindings.bind? [("xml", Bindings.xmlSpace)] node = some root := by
  rw [read?, String.toList_ofList] at read
  change (if ('<' :: chars).all isXmlChar then do
    let chars ← dropDeclaration? (normalizeLineEnds ('<' :: chars))
    let root ← assemble none [] (← Token.all? chars)
    Bindings.bind? [("xml", Bindings.xmlSpace)] root
    else none) = some root at read
  split at read
  · obtain ⟨content, isContent, read⟩ := Option.bind_eq_some_iff.mp read
    obtain ⟨tokens, areTokens, read⟩ := Option.bind_eq_some_iff.mp read
    obtain ⟨node, isNode, read⟩ := Option.bind_eq_some_iff.mp read
    exact ⟨content, tokens, node, isContent, areTokens, isNode, read⟩
  · cases read

/-- The root is what binding the prefixes makes of an element with the attributes that its first tag is read with. -/
theorem read?_first_tag {label : String} (isLabel : IsLabel label) {stop : Char} {more : List Char} {root : Node}
    (noName : isNameChar stop = false) (noColon : stop ≠ ':') (noEnd : stop ≠ '\r' ∧ stop ≠ '\n')
    (read : read? (String.ofList ('<' :: (label.toList ++ stop :: more))) = some root) :
    ∃ entries empty left name content,
      Token.attributes? (normalizeLineEnds (stop :: more)) = some ((entries, empty), left) ∧
        Bindings.bind? [("xml", Bindings.xmlSpace)] (.element name (plainly entries) content) = some root := by
  obtain ⟨first, inner, spelled, starts, _⟩ := isLabel.exists_cons
  have noReturn : '\r' ∉ label.toList := fun member => absurd (isLabel.all_isNameChar _ member) (by decide)
  have normalized : normalizeLineEnds ('<' :: (label.toList ++ stop :: more)) =
      '<' :: (label.toList ++ normalizeLineEnds (stop :: more)) := by
    rw [normalizeLineEnds_cons (by decide), normalizeLineEnds_append (by simp [noEnd.2]), normalizeLineEnds_eq noReturn]
  obtain ⟨chars, tokens, node, isContent, cut, isNode, isRoot⟩ := read?_reads read
  rw [normalized, spelled, List.cons_append, dropDeclaration?_tag starts, ← List.cons_append, ← spelled] at isContent
  cases isContent
  obtain ⟨token, rest, others, isToken, rfl⟩ := Token.all?_first (by simp) cut
  rw [normalizeLineEnds_cons noEnd.1] at isToken ⊢
  rw [Token.next?_tag isLabel noName noColon] at isToken
  obtain ⟨⟨⟨entries, empty⟩, left⟩, inTag, same⟩ := Option.map_eq_some_iff.mp isToken
  cases same
  obtain ⟨name, content, rfl⟩ : ∃ name content, node = .element name (plainly entries) content := by
    rw [assemble] at isNode
    split at isNode
    · cases isNode
    · split at isNode
      · rw [assemble.place] at isNode
        exact (Rooted.complete _ _).attributes_eq isNode
      · exact (Rooted.opened rfl rfl).attributes_eq isNode
  exact ⟨entries, empty, _, name, content, inTag, isRoot⟩

/-! ## Names in namespaces -/

namespace Bindings

/-- What the declarations among attributes bind, innermost first. -/
def ownBindings? (entries : List (String × String)) : Option Bindings :=
  (entries.mapM fun entry => declared? entry.1 entry.2).map List.flatten

/-- The attributes that are no declarations. -/
def shownOf (entries : List (String × String)) : List (String × String) :=
  entries.filter fun entry => !isDeclaration entry.1

theorem shownOf_append (entries added : List (String × String)) :
    shownOf (entries ++ added) = shownOf entries ++ shownOf added := List.filter_append entries added

def namesOf? (bindings : Bindings) (entries : List (String × String)) : Option (List Name) :=
  (shownOf entries).mapM fun entry => attributeName? bindings entry.1

theorem bind?_entries {bindings : Bindings} {name : Name} {entries : List (String × String)} {content : List Node}
    {root : Node} (bound : bind? bindings (.element name (plainly entries) content) = some root) :
    ∃ own names, ownBindings? entries = some own ∧ namesOf? (own ++ bindings) entries = some names ∧
      distinct names = true ∧ root.attributes = names.zip ((shownOf entries).map (·.2)) := by
  have shown : (plainly entries).filter (fun entry => !isDeclaration entry.1.label) = plainly (shownOf entries) := by
    rw [plainly, List.filter_map]
    rfl
  rw [bind?] at bound
  obtain ⟨own, isOwn, bound⟩ := Option.bind_eq_some_iff.mp bound
  obtain ⟨names, areNames, bound⟩ := Option.bind_eq_some_iff.mp bound
  rw [plainly, List.mapM_map] at isOwn
  rw [shown, plainly, List.mapM_map] at areNames
  have isOwn : ownBindings? entries = some own.flatten := by
    rw [ownBindings?]
    exact congrArg (Option.map List.flatten) isOwn
  split at bound
  · rename_i checked
    obtain ⟨_, _, bound⟩ := Option.bind_eq_some_iff.mp bound
    obtain ⟨_, _, bound⟩ := Option.bind_eq_some_iff.mp bound
    cases bound
    refine ⟨own.flatten, names, isOwn, areNames, (Bool.and_eq_true_iff.mp checked).2, ?_⟩
    rw [Node.attributes, shown, plainly, List.map_map]
    rfl
  · cases bound

theorem ownBindings?_append {entries added : List (String × String)} {all : Bindings}
    (bound : ownBindings? (entries ++ added) = some all) :
    ∃ own further, ownBindings? entries = some own ∧ ownBindings? added = some further ∧ all = own ++ further := by
  obtain ⟨lists, read, rfl⟩ := Option.map_eq_some_iff.mp bound
  rw [List.mapM_append] at read
  obtain ⟨own, isOwn, read⟩ := Option.bind_eq_some_iff.mp read
  obtain ⟨further, isFurther, read⟩ := Option.bind_eq_some_iff.mp read
  cases read
  exact ⟨own.flatten, further.flatten, by rw [ownBindings?, isOwn]; rfl, by rw [ownBindings?, isFurther]; rfl,
    List.flatten_append⟩

theorem namesOf?_append {bindings : Bindings} {entries added : List (String × String)} {all : List Name}
    (named : namesOf? bindings (entries ++ added) = some all) :
    ∃ names further, namesOf? bindings entries = some names ∧ namesOf? bindings added = some further ∧
      all = names ++ further := by
  rw [namesOf?, shownOf_append, List.mapM_append] at named
  obtain ⟨names, areNames, named⟩ := Option.bind_eq_some_iff.mp named
  obtain ⟨further, areFurther, named⟩ := Option.bind_eq_some_iff.mp named
  cases named
  exact ⟨names, further, areNames, areFurther, rfl⟩

/-- A declaration binds the prefix `xml` to its own namespace only. -/
theorem declared?_xml {label value space : String} {own : Bindings} (declares : declared? label value = some own)
    (member : ("xml", space) ∈ own) : space = xmlSpace := by
  simp only [declared?] at declares
  split at declares
  · split at declares
    · cases declares
      have isEmpty : "xml" = "" := congrArg Prod.fst (List.mem_singleton.mp member)
      exact absurd isEmpty (by decide)
    · cases declares
  · split at declares
    · split at declares
      · cases declares
      · rename_i allowed
        cases declares
        obtain ⟨isXml, isSpace⟩ := Prod.mk.inj (List.mem_singleton.mp member)
        simp only [Bool.or_eq_true, not_or, decide_eq_true_eq, ne_eq, not_not] at allowed
        rw [isSpace]
        exact allowed.2.mp isXml.symm
    · cases declares
      cases member

/-- Declarations that are added leave the prefixes that are bound already as they are. -/
theorem lookup_added {own further : Bindings} {added : List (String × String)}
    (declared : ownBindings? added = some further) {before space : String}
    (found : (own ++ [("xml", xmlSpace)]).lookup before = some space) :
    (own ++ further ++ [("xml", xmlSpace)]).lookup before = some space := by
  rw [List.lookup_append] at found
  rw [List.append_assoc, List.lookup_append, List.lookup_append]
  cases inOwn : own.lookup before with
  | some bound => simpa [inOwn] using found
  | none =>
      rw [inOwn, Option.none_or] at found
      rw [Option.none_or, found]
      cases inFurther : further.lookup before with
      | none => rfl
      | some other =>
          obtain ⟨rfl, rfl⟩ : before = "xml" ∧ space = xmlSpace := by simpa using mem_of_lookup found
          obtain ⟨lists, read, rfl⟩ := Option.map_eq_some_iff.mp declared
          obtain ⟨list, isList, member⟩ := List.mem_flatten.mp (mem_of_lookup inFurther)
          obtain ⟨entry, _, declares⟩ := exists_of_forall₂ (mapM_eq_some_iff.mp read).flip list isList
          exact congrArg some (declared?_xml declares member)

theorem attributeName?_added {own further : Bindings} {added : List (String × String)}
    (declared : ownBindings? added = some further) {label : String} {name : Name}
    (named : attributeName? (own ++ [("xml", xmlSpace)]) label = some name) :
    attributeName? (own ++ further ++ [("xml", xmlSpace)]) label = some name := by
  rw [attributeName?] at named ⊢
  dsimp only at named ⊢
  split at named
  · rename_i plain
    rw [if_pos plain]
    exact named
  · rename_i prefixed
    obtain ⟨space, found, same⟩ := Option.map_eq_some_iff.mp named
    rw [if_neg prefixed, lookup_added declared found]
    exact congrArg some same

theorem label_of_attributeName? {bindings : Bindings} {label : String} {name : Name}
    (named : attributeName? bindings label = some name) : name.label = label := by
  rw [attributeName?] at named
  dsimp only at named
  split at named
  · cases named
    rfl
  · obtain ⟨_, _, rfl⟩ := Option.map_eq_some_iff.mp named
    rfl

theorem differs_of_distinct {first others : List Name} {name other : Name}
    (areDistinct : distinct (first ++ name :: others) = true) (member : other ∈ first) :
    name.space ≠ other.space ∨ name.localPart ≠ other.localPart := by
  induction first with
  | nil => cases member
  | cons head rest ih =>
      rw [List.cons_append, distinct, Bool.and_eq_true] at areDistinct
      rcases List.mem_cons.mp member with rfl | inRest
      · have apart := List.all_eq_true.mp areDistinct.1 name (by simp)
        simp only [Bool.and_eq_true, Bool.or_eq_true, decide_eq_true_eq] at apart
        exact apart.2
      · exact ih areDistinct.2 inRest

end Bindings

/-! ## Values of attributes -/

/-- The value of the attribute with a local name in a namespace. -/
def Node.valueOf? (node : Node) (space part : String) : Option String :=
  (node.attributes.find? fun entry => entry.1.space = space && entry.1.localPart = part).map (·.2)

/-- The attributes under all names but one are the same, with the same values. -/
def SameElsewhere (name : String) (before after : Node) : Prop :=
  ∀ space part, (space, part) ≠ ("", name) → before.valueOf? space part = after.valueOf? space part

/-- The second root has the attributes of the first one and behind them those that are added; all their names are
different. -/
structure Grows (added : List (String × String)) (names : List Name) (before after : Node) : Prop where
  named : ∃ bindings, Bindings.namesOf? bindings added = some names
  appended : after.attributes = before.attributes ++ names.zip ((Bindings.shownOf added).map (·.2))
  distinct : Bindings.distinct (before.attributes.map (·.1) ++ names) = true

section Grows

open Bindings

variable {before after : Node} {added : List (String × String)}

theorem exists_grows {name changedName : Name} {content changedContent : List Node}
    {entries : List (String × String)}
    (bound : bind? [("xml", xmlSpace)] (.element name (plainly entries) content) = some before)
    (changed : bind? [("xml", xmlSpace)] (.element changedName (plainly (entries ++ added)) changedContent) =
      some after) : ∃ names, Grows added names before after := by
  obtain ⟨own, names, isOwn, areNames, _, attributes⟩ := bind?_entries bound
  obtain ⟨all, allNames, isAll, areAll, areDistinct, changedAttributes⟩ := bind?_entries changed
  obtain ⟨same, further, isSame, isFurther, rfl⟩ := ownBindings?_append isAll
  obtain rfl : own = same := Option.some.inj (isOwn.symm.trans isSame)
  obtain ⟨sameNames, addedNames, areSame, areAdded, rfl⟩ := namesOf?_append areAll
  have kept : namesOf? (own ++ further ++ [("xml", xmlSpace)]) entries = some names :=
    mapM_eq_some_iff.mpr ((mapM_eq_some_iff.mp areNames).imp fun _ _ => attributeName?_added isFurther)
  obtain rfl : names = sameNames := Option.some.inj (kept.symm.trans areSame)
  have asMany : names.length = ((shownOf entries).map (·.2)).length := by
    rw [List.length_map]
    exact (mapM_eq_some_iff.mp areNames).length_eq.symm
  refine ⟨addedNames, ⟨_, areAdded⟩, ?_, ?_⟩
  · rw [changedAttributes, attributes, shownOf_append, List.map_append, List.zip_append asMany]
  · rw [attributes, List.map_fst_zip (Nat.le_of_eq asMany)]
    exact areDistinct

variable {name : String} {names : List Name}

theorem Grows.sameElsewhere (grows : Grows added names before after)
    (declare : ∀ entry ∈ added, isDeclaration entry.1 = true) : SameElsewhere name before after := by
  have nothing : shownOf added = [] := by
    rw [shownOf, List.filter_eq_nil_iff]
    intro entry member
    rw [declare entry member]
    simp
  have same : after.attributes = before.attributes := by
    rw [grows.appended, nothing, List.map_nil, List.zip_nil_right, List.append_nil]
  intro space part _
  rw [Node.valueOf?, Node.valueOf?, same]

/-- An attribute that is added is one that was not there, so its local name has to be the one that is left out. -/
theorem Grows.not_sameElsewhere (grows : Grows added names before after)
    (otherwise : ∀ entry ∈ added, (splitLabel entry.1).2 ≠ name)
    (shows : ∃ entry ∈ added, isDeclaration entry.1 = false) : ¬SameElsewhere name before after := by
  obtain ⟨entry, member, free⟩ := shows
  have isShown : entry ∈ shownOf added := List.mem_filter.mpr ⟨member, by rw [free]; rfl⟩
  obtain ⟨⟨bindings, named⟩, appended, areDistinct⟩ := grows
  rw [namesOf?, mapM_eq_some_iff] at named
  cases areShown : shownOf added with
  | nil =>
      rw [areShown] at isShown
      cases isShown
  | cons first others =>
      rw [areShown] at named appended
      cases named with
      | @cons _ newName _ newNames isName _ =>
          have isAdded : first ∈ added := List.mem_of_mem_filter (areShown ▸ List.mem_cons_self : first ∈ shownOf added)
          have otherPart : newName.localPart ≠ name := by
            rw [Name.localPart, label_of_attributeName? isName]
            exact otherwise first isAdded
          have notBefore : before.valueOf? newName.space newName.localPart = none := by
            rw [Node.valueOf?, Option.map_eq_none_iff, List.find?_eq_none]
            intro old isOld
            have differs := differs_of_distinct areDistinct (List.mem_map_of_mem isOld)
            rw [Bool.and_eq_true, decide_eq_true_eq, decide_eq_true_eq]
            rintro ⟨sameSpace, samePart⟩
            exact differs.elim (fun otherSpace => otherSpace sameSpace.symm) (fun other => other samePart.symm)
          have isAfter : after.valueOf? newName.space newName.localPart = some first.2 := by
            rw [Node.valueOf?, Option.map_eq_none_iff] at notBefore
            rw [Node.valueOf?, appended, List.find?_append, notBefore]
            simp
          intro same
          have equal := same newName.space newName.localPart (fun isOwn => otherPart (Prod.mk.inj isOwn).2)
          rw [notBefore, isAfter] at equal
          cases equal

end Grows

end StyleRules.Xml
