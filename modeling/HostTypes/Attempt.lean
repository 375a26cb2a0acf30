/-!
Calls that change a state and may fail. What a call changes before it fails stays changed, so that a
failed call leaves the state as it was has to be shown of each call.
-/

namespace HostTypes

abbrev Attempt (ε σ : Type) (m : Type → Type) := ExceptT ε (StateT σ m)

variable {ε σ α : Type} {m : Type → Type} [Monad m]

/-- What comes of a call: its result with the state it leaves, unless it fails. -/
def outcomeOf (call : Attempt ε σ m α) (state : σ) : m (Except ε (α × σ)) := do
  let (outcome, next) ← call.run.run state
  return outcome.map fun result => (result, next)

theorem run_get_bind [LawfulMonad m] (call : σ → Attempt ε σ m α) (state : σ) :
    (get >>= call).run.run state = (call state).run.run state := by
  change (ExceptT.run (ExceptT.lift get >>= call)).run state = _
  simp

theorem run_lift_bind [LawfulMonad m] {β : Type} (query : m β) (call : β → Attempt ε σ m α)
    (state : σ) :
    ((query : Attempt ε σ m β) >>= call).run.run state =
      query >>= fun answer => (call answer).run.run state := by
  change (ExceptT.run (ExceptT.lift (StateT.lift query) >>= call)).run state = _
  simp

end HostTypes
