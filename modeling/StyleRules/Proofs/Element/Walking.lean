import Mathlib.Data.List.Forall2
import StyleRules.Element
import StyleRules.Proofs.Value.TextKeys

/-!
# Walking through a document

An element of a document has a path: its position among the elements at the top, then the positions of its
ancestors and its own position among the children of its parent.  Walking through the document meets every
path that leads to an element, with that element, and it meets the paths in lexicographic order, where an
element comes before everything below it.
-/

namespace StyleRules

/-! ## Trees of elements -/

namespace Tree

theorem ofItems_eq_mapM (items : List Value) : ofItems items = items.mapM ofElement := by
  induction items with
  | nil => rfl
  | cons element rest ih => rw [ofItems, ih, List.mapM_cons]

theorem ofEntries_eq_ofChildren (entries : List (Value × Value)) :
    ofEntries entries = ofChildren ((Value.map entries).field "children") := by
  induction entries with
  | nil => rfl
  | cons entry rest ih =>
      obtain ⟨key, value⟩ := entry
      have isField : (Value.map ((key, value) :: rest)).field "children" =
          if key.eq (.str "children") then value else (Value.map rest).field "children" := by
        simp only [Value.field, Value.field?, Mapping.get?, Mapping.find?_cons_str]
        split <;> rfl
      rw [ofEntries, isField, ih]
      by_cases isChildren : key = .str "children"
      · simp [isChildren, Value.isText]
      · have notText : key.isText "children" = false := by
          cases key <;> simp_all [Value.isText]
        simp [isChildren, notText]

theorem ofFields_eq_ofChildren (tag : Nat) (fields : List (String × Value)) :
    ofFields fields = ofChildren ((Value.record tag fields).field "children") := by
  induction fields with
  | nil => rfl
  | cons field rest ih =>
      obtain ⟨name, value⟩ := field
      by_cases isChildren : name = "children"
      · subst isChildren
        rfl
      · have different : ("children" == name) = false := by simp [Ne.symm isChildren]
        have further : (Value.record tag ((name, value) :: rest)).field "children" =
            (Value.record tag rest).field "children" := by
          simp only [Value.field, Value.field?, Value.attribute?, Value.dataAttributes, Value.isKey, if_true,
            List.lookup_cons, different]
          rfl
        rw [ofFields, if_neg isChildren, further, ih]

/-- The tree of an element has the trees of the items of its field `children`. -/
theorem ofElement_eq_ofChildren (element : Value) :
    ofElement element = do return .node element (← ofChildren (element.field "children")) := by
  cases element with
  | map entries => rw [ofElement, ofEntries_eq_ofChildren]
  | record tag fields => rw [ofElement, ofFields_eq_ofChildren tag]
  | _ => rfl

end Tree

/-! ## Paths -/

namespace Value

/-- The items of the field `children`, when it is a list. -/
def listedChildren (element : Value) : List Value :=
  match element.field "children" with
  | .list items => items
  | _ => []

/-- The element below another one at a path of positions among children. -/
def descendant? (element : Value) : List Nat → Option Value
  | [] => some element
  | index :: rest => element.listedChildren[index]?.bind (·.descendant? rest)

/-- The element of a document at a path; no element is at the empty path. -/
def elementAt? (elements : List Value) : List Nat → Option Value
  | [] => none
  | index :: rest => elements[index]?.bind (·.descendant? rest)

/-- In an element and in everything below it, the field `children` is absent, null or a list. -/
inductive ChildrenListed : Value → Prop
  | childless {element : Value} (noField : element.field "children" = .null) : ChildrenListed element
  | parent {element : Value} {items : List Value} (isList : element.field "children" = .list items)
      (further : ∀ item ∈ items, ChildrenListed item) : ChildrenListed element

end Value

namespace Tree

/-- The element of a tree at a path below its root. -/
def descendant? : Tree → List Nat → Option Value
  | .node element _, [] => some element
  | .node _ children, index :: rest => children[index]?.bind (descendant? · rest)

/-- The tree stands for the element: the same elements are at the same paths. -/
def Shows (tree : Tree) (element : Value) : Prop := ∀ path, tree.descendant? path = element.descendant? path

theorem bind_descendant? {trees : List Tree} {elements : List Value}
    (shown : List.Forall₂ Shows trees elements) (index : Nat) (rest : List Nat) :
    trees[index]?.bind (descendant? · rest) = elements[index]?.bind (·.descendant? rest) := by
  induction shown generalizing index with
  | nil => rfl
  | cons first _ ih =>
      cases index with
      | zero => exact first rest
      | succ index => simpa using ih index

theorem exists_forest {elements : List Value}
    (each : ∀ element ∈ elements, ∃ tree, ofElement element = .ok tree ∧ tree.Shows element) :
    ∃ trees, elements.mapM ofElement = .ok trees ∧ List.Forall₂ Shows trees elements := by
  induction elements with
  | nil => exact ⟨[], rfl, .nil⟩
  | cons element rest ih =>
      obtain ⟨⟨tree, made, shows⟩, others⟩ := List.forall_mem_cons.mp each
      obtain ⟨trees, restMade, restShown⟩ := ih others
      refine ⟨tree :: trees, ?_, .cons shows restShown⟩
      rw [List.mapM_cons, made, restMade]
      rfl

theorem exists_shows {element : Value} (listed : element.ChildrenListed) :
    ∃ tree, ofElement element = .ok tree ∧ tree.Shows element := by
  induction listed with
  | @childless element noField =>
      refine ⟨.node element [], ?_, ?_⟩
      · rw [ofElement_eq_ofChildren, noField]
        rfl
      · intro path
        cases path with
        | nil => rfl
        | cons index rest => simp [descendant?, Value.descendant?, Value.listedChildren, noField]
  | @parent element items isList _ ih =>
      obtain ⟨trees, made, shown⟩ := exists_forest ih
      refine ⟨.node element trees, ?_, ?_⟩
      · rw [ofElement_eq_ofChildren, isList, ofChildren, ofItems_eq_mapM, made]
        rfl
      · intro path
        cases path with
        | nil => rfl
        | cons index rest =>
            rw [descendant?, Value.descendant?, Value.listedChildren, isList]
            exact bind_descendant? shown index rest

/-! ## Walking -/

/-- A walk meets an element at a path exactly when the path continues the given one by the position of a tree
and a path in this tree. -/
theorem mem_walkFrom_iff (path : List Nat) (index : Nat) (trees : List Tree) (found : List Nat)
    (element : Value) :
    (found, element) ∈ walkFrom path index trees ↔
      ∃ offset rest, found = path ++ (index + offset) :: rest ∧
        trees[offset]?.bind (descendant? · rest) = some element := by
  induction path, index, trees using walkFrom.induct with
  | case1 path index => simp [walkFrom]
  | case2 path index root children others here inside later =>
      rw [walkFrom, List.mem_append, List.mem_cons, inside, later]
      -- The root is at offset zero with nothing after it, what is below the root is at offset zero with
      -- more after it, and the other trees are at the offsets above.
      constructor
      · rintro ((isRoot | ⟨offset, rest, isFound, isBelow⟩) | ⟨offset, rest, isFound, isBelow⟩)
        · obtain ⟨rfl, rfl⟩ := Prod.mk.inj isRoot
          exact ⟨0, [], rfl, rfl⟩
        · refine ⟨0, offset :: rest, ?_, isBelow⟩
          rw [isFound]
          simp [here]
        · refine ⟨offset + 1, rest, ?_, by simpa using isBelow⟩
          rw [isFound, Nat.add_right_comm]
          rfl
      · rintro ⟨offset, rest, isFound, isBelow⟩
        cases offset with
        | zero =>
            left
            cases rest with
            | nil =>
                cases isBelow
                exact Or.inl (by rw [isFound]; rfl)
            | cons offset rest =>
                refine Or.inr ⟨offset, rest, ?_, isBelow⟩
                rw [isFound]
                simp [here]
        | succ offset =>
            right
            refine ⟨offset, rest, ?_, by simpa using isBelow⟩
            rw [isFound, Nat.add_right_comm]
            rfl

theorem lt_append_cons (path : List Nat) (index : Nat) (rest : List Nat) :
    path < path ++ index :: rest := by
  simpa using @List.append_left_lt Nat _ path [] (index :: rest) (List.nil_lt_cons index rest)

/-- A walk meets the paths in lexicographic order, each of them once. -/
theorem pairwise_walkFrom (path : List Nat) (index : Nat) (trees : List Tree) :
    ((walkFrom path index trees).map (·.1)).Pairwise (· < ·) := by
  induction path, index, trees using walkFrom.induct with
  | case1 path index => simp [walkFrom]
  | case2 path index root children others here inside later =>
      rw [walkFrom, List.map_append, List.map_cons]
      refine List.pairwise_append.mpr ⟨List.pairwise_cons.mpr ⟨?_, inside⟩, later, ?_⟩
      · intro found member
        obtain ⟨⟨_, element⟩, walked, rfl⟩ := List.mem_map.mp member
        obtain ⟨offset, rest, rfl, _⟩ := (mem_walkFrom_iff _ _ _ _ _).mp walked
        exact lt_append_cons here _ rest
      · -- The paths into the first tree share its position, which is below the positions of the others.
        intro earlier isEarlier after isAfter
        have inHere : ∃ rest, earlier = path ++ index :: rest := by
          rcases List.mem_cons.mp isEarlier with rfl | member
          · exact ⟨[], rfl⟩
          · obtain ⟨⟨_, element⟩, walked, rfl⟩ := List.mem_map.mp member
            obtain ⟨offset, rest, rfl, _⟩ := (mem_walkFrom_iff _ _ _ _ _).mp walked
            exact ⟨(0 + offset) :: rest, by simp⟩
        obtain ⟨rest, rfl⟩ := inHere
        obtain ⟨⟨_, element⟩, walked, rfl⟩ := List.mem_map.mp isAfter
        obtain ⟨offset, further, rfl, _⟩ := (mem_walkFrom_iff _ _ _ _ _).mp walked
        apply List.append_left_lt
        apply List.cons_lt_cons_iff.mpr
        omega

/-- Walking through a document meets exactly the elements at its paths. -/
theorem mem_walk_iff {elements : List Value} {trees : List Tree}
    (shown : List.Forall₂ Shows trees elements) (path : List Nat) (element : Value) :
    (path, element) ∈ walk trees ↔ Value.elementAt? elements path = some element := by
  rw [walk, mem_walkFrom_iff]
  cases path with
  | nil => simp [Value.elementAt?]
  | cons index rest =>
      rw [Value.elementAt?, ← bind_descendant? shown]
      simp

/-- A document whose children are listed can be walked through. -/
theorem exists_walk {elements : List Value} (listed : ∀ element ∈ elements, element.ChildrenListed) :
    ∃ trees, forest (.list elements) = .ok trees ∧ List.Forall₂ Shows trees elements :=
  exists_forest fun element member => exists_shows (listed element member)

end Tree

end StyleRules
