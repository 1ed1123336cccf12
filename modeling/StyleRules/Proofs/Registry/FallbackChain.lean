import StyleRules.Proofs.Registry.History
import StyleRules.Proofs.Registry.Resolution
import StyleRules.Proofs.Registry.Strategies

/-!
# What the chain of strategies gives

The strategies are called one after the other until one of them gives a value.  Its result is the result of the
chain, and those behind it are not called.  The messages of results without a value are only told when there is no
value at all.
-/

namespace StyleRules.Registry

variable {r : Registry} {type options : Value} {strategy : Strategy} {strategies rest : List Strategy}
  {result : Result Value}

/-! ## What a strategy gives -/

/-- Go on behind an answer, or end with its result. -/
def afterAnswer {m : Type → Type} [Monad m] (kept : List Message)
    (next : List Message → m (Outcome (Result Value))) (answer : Value) : m (Outcome (Result Value)) :=
  match answer.toResult with
  | .error reason => return .error reason
  | .ok result => if result.isSuccess then return .ok result else next (kept ++ result.messages)

/-- Ask strategies in order, where calling a strategy may have effects. -/
def askCalling {m : Type → Type} [Monad m] (r : Registry) (type : Value) (call : Strategy → m (Outcome Value))
    (kept : List Message) : List Strategy → m (Outcome (Result Value))
  | [] => return (do return ⟨.null, kept ++ [← r.unresolved type]⟩)
  | strategy :: rest => do
    match ← call strategy with
    | .error _ => askCalling r type call kept rest
    | .ok .null => askCalling r type call kept rest
    | .ok answer => afterAnswer kept (fun kept => askCalling r type call kept rest) answer

/-- Without effects this is how strategies are asked. -/
theorem askCalling_pure (r : Registry) (type options : Value) (kept : List Message) (strategies : List Strategy) :
    askCalling (m := Id) r type (·.handle r type options) kept strategies =
      r.askStrategies type options kept strategies := by
  induction strategies generalizing kept with
  | nil => rfl
  | cons strategy rest ih =>
      have after (answer : Value) :
          afterAnswer (m := Id) kept (fun kept => askCalling (m := Id) r type (·.handle r type options) kept rest)
              answer = answer.toResult >>= fun result =>
            if result.isSuccess then pure result
            else r.askStrategies type options (kept ++ result.messages) rest := by
        rw [afterAnswer]
        cases answer.toResult with
        | error reason => rfl
        | ok result => exact congrArg (ite _ _) (ih _)
      rw [askCalling, askStrategies.eq_def]
      dsimp only [bind]
      cases strategy.handle r type options with
      | error reason => exact ih kept
      | ok answer => cases answer <;> first | exact ih kept | exact after _

variable {kept : List Message} {called : List Strategy}

end StyleRules.Registry
