import StyleRules.Failure

/-!
# Actions

An action changes a state and may fail.  A failing action keeps the changes that it made before the failure,
so a batch that fails half way leaves its first half done.
-/

namespace StyleRules

/-- A step that may change a state of type `σ` and may fail. -/
abbrev Action (σ : Type) := ExceptT Failure (StateM σ)

namespace Action

variable {σ τ α β : Type}

/-- Perform an action: its outcome and the state after it. -/
def perform (action : Action σ α) (state : σ) : Outcome α × σ := action.run.run state

/-- The outcome of a computation that leaves the state alone. -/
def ofOutcome (outcome : Outcome α) : Action σ α := ExceptT.mk (pure outcome)

/-- Perform an action on a part of the state. -/
def onPart (part : σ → τ) (replace : τ → σ → σ) (action : Action τ α) : Action σ α :=
  ExceptT.mk fun state =>
    let (outcome, changed) := action.perform (part state)
    (outcome, replace changed state)

/-- The outcome of an action as a value; the action as a whole does not fail. -/
def attempt (action : Action σ α) : Action σ (Outcome α) :=
  ExceptT.mk fun state =>
    let (outcome, changed) := action.perform state
    (.ok outcome, changed)

/-! ## Performing composed actions -/

@[simp]
theorem perform_pure (value : α) (state : σ) :
    Action.perform (pure value : Action σ α) state = (.ok value, state) :=
  rfl

@[simp]
theorem perform_throw (reason : Failure) (state : σ) :
    Action.perform (throw reason : Action σ α) state = (.error reason, state) :=
  rfl

@[simp]
theorem perform_ofOutcome (outcome : Outcome α) (state : σ) :
    (ofOutcome outcome : Action σ α).perform state = (outcome, state) :=
  rfl

@[simp]
theorem perform_get (state : σ) :
    Action.perform (get : Action σ σ) state = (.ok state, state) :=
  rfl

@[simp]
theorem perform_modify (change : σ → σ) (state : σ) :
    Action.perform (modify change : Action σ Unit) state = (.ok (), change state) :=
  rfl

@[simp]
theorem perform_attempt (action : Action σ α) (state : σ) :
    action.attempt.perform state =
      (.ok (action.perform state).1, (action.perform state).2) :=
  rfl

theorem ofOutcome_pure (value : α) : (pure value : Action σ α) = ofOutcome (pure value) :=
  rfl

/-- Computations that leave the state alone compose to one that does. -/
theorem ofOutcome_bind (first : Outcome α) (next : α → Outcome β) :
    (ofOutcome first >>= fun value => ofOutcome (next value) : Action σ β) =
      ofOutcome (first >>= next) := by
  cases first <;> rfl

/-- The second part of a composed action starts where the first one ended, unless the first one failed. -/
theorem perform_bind (first : Action σ α) (next : α → Action σ β) (state : σ) :
    Action.perform (first >>= next) state =
      match first.perform state with
      | (.ok value, changed) => (next value).perform changed
      | (.error reason, changed) => (.error reason, changed) := by
  change Action.perform (ExceptT.bind first next) state = _
  simp only [Action.perform, ExceptT.bind, ExceptT.run, ExceptT.mk, StateT.run, bind, StateT.bind]
  cases outcome : first state with
  | mk result changed =>
      cases result <;> rfl

theorem perform_bind_ok {first : Action σ α} {next : α → Action σ β} {state changed : σ} {value : α}
    (performed : first.perform state = (.ok value, changed)) :
    Action.perform (first >>= next) state = (next value).perform changed := by
  rw [perform_bind, performed]

theorem perform_bind_error {first : Action σ α} {next : α → Action σ β} {state changed : σ}
    {reason : Failure} (performed : first.perform state = (.error reason, changed)) :
    Action.perform (first >>= next) state = (.error reason, changed) := by
  rw [perform_bind, performed]

/-- The second part leaves the state where the first one ended, if it changes nothing. -/
theorem state_bind_idle {first : Action σ α} {next : α → Action σ β} (state : σ)
    (idle : ∀ value reached, ((next value).perform reached).2 = reached) :
    (Action.perform (first >>= next) state).2 = (first.perform state).2 := by
  rw [perform_bind]
  split <;> rename_i performed <;> rw [performed]
  exact idle _ _

/-- A composed action succeeds when both parts do. -/
theorem bind_ok {first : Action σ α} {next : α → Action σ β} {state ended : σ} {result : β}
    (performed : Action.perform (first >>= next) state = (.ok result, ended)) :
    ∃ value reached, first.perform state = (.ok value, reached) ∧
      (next value).perform reached = (.ok result, ended) := by
  rw [perform_bind] at performed
  split at performed
  · rename_i value reached firstPerformed
    exact ⟨value, reached, firstPerformed, performed⟩
  · cases performed

theorem ofOutcome_bind_ok {outcome : Outcome α} {next : α → Action σ β} {state ended : σ} {result : β}
    (performed : Action.perform (ofOutcome outcome >>= next) state = (.ok result, ended)) :
    ∃ value, outcome = .ok value ∧ (next value).perform state = (.ok result, ended) := by
  obtain ⟨value, reached, first, rest⟩ := bind_ok performed
  rw [perform_ofOutcome] at first
  obtain ⟨isValue, rfl⟩ := Prod.mk.inj first
  exact ⟨value, isValue, rest⟩

/-! ## Keeping a property of the state -/

/-- The action keeps a property of the state, whether it fails or not. -/
def Keeps (holds : σ → Prop) (action : Action σ α) : Prop :=
  ∀ state, holds state → holds (action.perform state).2

variable {holds : σ → Prop}

theorem Keeps.ofOutcome (outcome : Outcome α) : Keeps holds (ofOutcome outcome) :=
  fun _ held => held

theorem Keeps.pure (value : α) : Keeps holds (pure value : Action σ α) :=
  fun _ held => held

theorem Keeps.throw (reason : Failure) : Keeps holds (throw reason : Action σ α) :=
  fun _ held => held

theorem Keeps.get : Keeps holds (get : Action σ σ) :=
  fun _ held => held

theorem Keeps.modify {change : σ → σ} (keeps : ∀ state, holds state → holds (change state)) :
    Keeps holds (modify change : Action σ Unit) :=
  keeps

theorem Keeps.bind {first : Action σ α} {next : α → Action σ β} (firstKeeps : Keeps holds first)
    (nextKeeps : ∀ value, Keeps holds (next value)) : Keeps holds (first >>= next) := by
  intro state held
  have reached := firstKeeps state held
  rw [perform_bind]
  split <;> rename_i performed <;> rw [performed] at reached
  · exact nextKeeps _ _ reached
  · exact reached

end Action

end StyleRules
