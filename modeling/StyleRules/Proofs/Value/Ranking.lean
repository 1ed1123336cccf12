import StyleRules.Proofs.Value.Comparing

/-!
# Ranking by integers

Items are ranked by descending keys, and items with equal keys stand in the order in which they came.  This
determines their order, and the item that stands first.  Sorting by keys that are integers ranks the items, also
when all but the last ones were ranked before.
-/

namespace StyleRules

section Ranked

variable {α : Type} {rank : α → Int} {items sorted others : List α} {item : α}

/-- The items in the order of descending ranks; those of one rank stand in the order in which they came. -/
structure Ranked (rank : α → Int) (items sorted : List α) : Prop where
  descending : sorted.Pairwise fun first second => rank second ≤ rank first
  ties : ∀ k, (sorted.filter fun item => rank item = k) = items.filter fun item => rank item = k

theorem Ranked.nil (rank : α → Int) : Ranked rank [] [] :=
  ⟨.nil, fun _ => rfl⟩

theorem Ranked.mem_iff (ranked : Ranked rank items sorted) : item ∈ sorted ↔ item ∈ items := by
  have tied := congrArg (item ∈ ·) (ranked.ties (rank item))
  simpa using tied

/-- There is one such order only. -/
theorem Ranked.unique (ranked : Ranked rank items sorted) (again : Ranked rank items others) : sorted = others := by
  obtain ⟨descending, ties⟩ := ranked
  obtain ⟨otherDescending, otherTies⟩ := again
  have same (k : Int) := (ties k).trans (otherTies k).symm
  clear ties otherTies
  induction sorted generalizing others with
  | nil =>
      cases others with
      | nil => rfl
      | cons second rest => simpa using same (rank second)
  | cons first rest ih =>
      cases others with
      | nil => simpa using same (rank first)
      | cons second more =>
          obtain ⟨firstLeads, restDescending⟩ := List.pairwise_cons.mp descending
          obtain ⟨secondLeads, moreDescending⟩ := List.pairwise_cons.mp otherDescending
          -- each of the first items occurs in the other list, so neither has the higher rank
          have within : first ∈ second :: more := by
            have occurs : first ∈ (second :: more).filter fun item => rank item = rank first := by
              rw [← same]
              simp
            exact List.mem_of_mem_filter occurs
          have around : second ∈ first :: rest := by
            have occurs : second ∈ (first :: rest).filter fun item => rank item = rank second := by
              rw [same]
              simp
            exact List.mem_of_mem_filter occurs
          have sameRank : rank first = rank second := by
            rcases List.mem_cons.mp within with rfl | further
            · rfl
            · rcases List.mem_cons.mp around with rfl | beyond
              · rfl
              · exact le_antisymm (secondLeads first further) (firstLeads second beyond)
          have heads := same (rank first)
          rw [List.filter_cons_of_pos (by simp), List.filter_cons_of_pos (by simp [sameRank])] at heads
          obtain rfl := (List.cons.inj heads).1
          have tails (k : Int) : (rest.filter fun item => rank item = k) = more.filter fun item => rank item = k := by
            have tied := same k
            rw [List.filter_cons, List.filter_cons] at tied
            split at tied
            · exact (List.cons.inj tied).2
            · exact tied
          rw [ih restDescending moreDescending tails]

/-- An item may stand before or behind the items of lower ranks. -/
theorem filter_cons_of_lower (lower : ∀ other ∈ items, rank other < rank item) (k : Int) :
    ((item :: items).filter fun item => rank item = k) = (items ++ [item]).filter fun item => rank item = k := by
  rw [List.filter_append]
  by_cases isRank : rank item = k
  · have none : (items.filter fun item => rank item = k) = [] := by
      rw [List.filter_eq_nil_iff]
      intro other member
      have := lower other member
      simp only [decide_eq_true_eq]
      omega
    simp [none, isRank]
  · simp [isRank]

/-- Ranking the ranked items again, with further items behind them, ranks all of them. -/
theorem Ranked.append {more : List α} (ranked : Ranked rank items sorted)
    (again : Ranked rank (sorted ++ more) others) : Ranked rank (items ++ more) others := by
  refine ⟨again.descending, fun k => ?_⟩
  rw [again.ties, List.filter_append, ranked.ties, List.filter_append]

theorem Ranked.filter (ranked : Ranked rank items sorted) (keep : α → Bool) :
    Ranked rank (items.filter keep) (sorted.filter keep) := by
  constructor
  · exact ranked.descending.filter keep
  · intro k
    rw [List.filter_comm, ranked.ties, List.filter_comm]

/-! ## The first of the highest items -/

/-- No item has a higher rank, and among the items of its rank this one comes first. -/
structure Leads (rank : α → Int) (items : List α) (item : α) : Prop where
  highest : ∀ other ∈ items, rank other ≤ rank item
  first : (items.filter fun other => rank other = rank item).head? = some item

theorem Leads.mem (leads : Leads rank items item) : item ∈ items :=
  List.mem_of_mem_filter (List.mem_of_head? leads.first)

/-- Only one item can do so. -/
theorem Leads.unique {other : α} (leads : Leads rank items item) (again : Leads rank items other) : item = other := by
  have sameRank : rank item = rank other :=
    le_antisymm (again.highest item leads.mem) (leads.highest other again.mem)
  have isFirst := leads.first
  rw [sameRank, again.first] at isFirst
  exact (Option.some.inj isFirst).symm

theorem Leads.map {β : Type} {rankOf : β → Int} {f : α → β} (same : ∀ other, rankOf (f other) = rank other)
    (leads : Leads rank items item) : Leads rankOf (items.map f) (f item) := by
  constructor
  · intro other member
    obtain ⟨source, among, rfl⟩ := List.mem_map.mp member
    rw [same, same]
    exact leads.highest source among
  · rw [List.filter_map, List.head?_map]
    simp only [Function.comp_def, same, leads.first, Option.map_some]

theorem leads_singleton (item : α) : Leads rank [item] item :=
  ⟨by simp, by simp⟩

/-- An item of a lower rank in front does not lead. -/
theorem Leads.cons_lower {other : α} (leads : Leads rank items item) (lower : rank other < rank item) :
    Leads rank (other :: items) item := by
  constructor
  · exact List.forall_mem_cons.mpr ⟨lower.le, leads.highest⟩
  · rw [List.filter_cons_of_neg (by simpa using lower.ne)]
    exact leads.first

/-- Neither does an item that stands behind one of at least its rank. -/
theorem Leads.cons_behind {first other : α} (leads : Leads rank (first :: items) item)
    (notHigher : rank other ≤ rank first) : Leads rank (first :: other :: items) item := by
  obtain ⟨firstBelow, othersBelow⟩ := List.forall_mem_cons.mp leads.highest
  constructor
  · simp only [List.forall_mem_cons]
    exact ⟨firstBelow, notHigher.trans firstBelow, othersBelow⟩
  · have isFirst := leads.first
    by_cases same : rank first = rank item
    · rw [List.filter_cons_of_pos (by simpa using same)] at isFirst ⊢
      exact isFirst
    · have lower : rank other ≠ rank item := (notHigher.trans_lt (lt_of_le_of_ne firstBelow same)).ne
      rw [List.filter_cons_of_neg (by simpa using same)] at isFirst ⊢
      rwa [List.filter_cons_of_neg (by simpa using lower)]

/-- The first of the ranked items leads the items. -/
theorem Ranked.leads_head (ranked : Ranked rank items (item :: sorted)) : Leads rank items item := by
  constructor
  · intro other member
    rcases List.mem_cons.mp (ranked.mem_iff.mpr member) with rfl | further
    · exact le_rfl
    · exact (List.pairwise_cons.mp ranked.descending).1 other further
  · rw [← ranked.ties, List.filter_cons_of_pos (by simp)]
    rfl

end Ranked

namespace Value

/-- The value is an integer, or a truth value that counts as one. -/
def IsInteger (v : Value) : Prop := ∃ n, v.number? = some (.int n)

/-- The integer that a value is; other values count as 0. -/
def integer (v : Value) : Int :=
  match v.number? with
  | some (.int n) => n
  | _ => 0

variable {α : Type} {key : α → Value} {item : α} {items sorted : List α}

theorem less_of_isInteger {a b : Value} (first : a.IsInteger) (second : b.IsInteger) :
    less a b = .ok (decide (a.integer < b.integer)) := by
  obtain ⟨m, isFirst⟩ := first
  obtain ⟨n, isSecond⟩ := second
  rw [less_of_number isFirst isSecond, integer, isFirst, integer, isSecond]
  simp only [Number.compare?, Option.some.injEq, compare_lt_iff_lt]

theorem isLess_of_isInteger {a b : Value} (first : a.IsInteger) (second : b.IsInteger) :
    isLess a b = decide (a.integer < b.integer) := by
  rw [isLess, less_of_isInteger first second]

theorem IsInteger.isSome {v : Value} (isInteger : v.IsInteger) : v.number?.isSome = true :=
  let ⟨_, isNumber⟩ := isInteger
  Option.isSome_of_eq_some isNumber

theorem allComparable_of_isInteger {keys : List Value} (integers : ∀ key ∈ keys, key.IsInteger) :
    allComparable keys = true :=
  allComparable_of_number fun key member => (integers key member).isSome

/-- An item is put behind all items whose rank is not lower. -/
theorem ranked_insertDescending (isInteger : (key item).IsInteger)
    (integers : ∀ other ∈ sorted, (key other).IsInteger) (ranked : Ranked (integer <| key ·) items sorted) :
    Ranked (integer <| key ·) (items ++ [item]) (insertDescending key item sorted) := by
  refine Ranked.append ranked ?_
  have descending := ranked.descending
  clear ranked
  induction sorted with
  | nil => exact ⟨List.pairwise_singleton _ _, fun _ => rfl⟩
  | cons first rest ih =>
      obtain ⟨firstInteger, others⟩ := List.forall_mem_cons.mp integers
      obtain ⟨leads, restDescending⟩ := List.pairwise_cons.mp descending
      rw [insertDescending, isLess_of_isInteger firstInteger isInteger]
      split
      · rename_i lower
        rw [decide_eq_true_iff] at lower
        have below : ∀ other ∈ first :: rest, (key other).integer < (key item).integer :=
          List.forall_mem_cons.mpr ⟨lower, fun other member => lt_of_le_of_lt (leads other member) lower⟩
        refine ⟨List.pairwise_cons.mpr ⟨fun other member => (below other member).le, descending⟩, fun k => ?_⟩
        exact filter_cons_of_lower below k
      · rename_i notLower
        rw [decide_eq_true_iff, not_lt] at notLower
        obtain ⟨restRanked, ties⟩ := ih others restDescending
        refine ⟨List.pairwise_cons.mpr ⟨fun other member => ?_, restRanked⟩, fun k => ?_⟩
        · rcases List.mem_cons.mp ((insertDescending_perm item rest).mem_iff.mp member) with rfl | further
          · exact notLower
          · exact leads other further
        · rw [List.filter_cons, ties, List.cons_append, List.filter_cons]

/-- Sorting by descending integers ranks the items. -/
theorem sortDescending_ranked (integers : ∀ item ∈ items, (key item).IsInteger) :
    ∃ sorted, sortDescending key items = .ok sorted ∧ Ranked (integer <| key ·) items sorted := by
  have inserted (before after sorted : List α) (known : ∀ item ∈ before ++ after, (key item).IsInteger)
      (ranked : Ranked (integer <| key ·) before sorted) :
      Ranked (integer <| key ·) (before ++ after)
        (after.foldl (fun done item => insertDescending key item done) sorted) := by
    induction after generalizing before sorted with
    | nil => rwa [List.append_nil]
    | cons item rest ih =>
        rw [List.foldl_cons, List.append_cons]
        rw [List.append_cons] at known
        refine ih _ _ known (ranked_insertDescending ?_ (fun other member => ?_) ranked)
        · exact known item (by simp)
        · exact known other (by simp [ranked.mem_iff.mp member])
  refine ⟨_, ?_, inserted [] items [] integers (Ranked.nil _)⟩
  rw [sortDescending, if_pos (allComparable_of_isInteger (List.forall_mem_map.mpr integers))]

/-- Adding one more item to the ranked ones ranks all of them. -/
theorem addSorted_ranked (ranked : Ranked (integer <| key ·) items sorted)
    (integers : ∀ other ∈ items, (key other).IsInteger) (isInteger : (key item).IsInteger) :
    Ranked (integer <| key ·) (items ++ [item]) (addSorted key item sorted).2 := by
  obtain ⟨changed, isSorted, again⟩ := sortDescending_ranked (List.forall_mem_append.mpr
    ⟨fun other member => integers other (ranked.mem_iff.mp member), List.forall_mem_singleton.mpr isInteger⟩)
  rw [addSorted, isSorted]
  exact ranked.append again

end Value

end StyleRules
