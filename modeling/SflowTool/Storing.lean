import SflowTool.Discipline

/-! The values a run stores in a variable, in their order. What the variable holds in the
end is the last of them, or what it held before when the run stores none. -/
namespace Decoding

variable {sig : Signature} {α : Type}

def storedBy (var : sig.Var) : Op sig → List (sig.val var)
  | .set other value => if same : other = var then [same ▸ value] else []
  | _ => []

def stored (buffer : Buffer) (var : sig.Var) : Decoder sig α → State sig → List (sig.val var)
  | .pure _, _ => []
  | .act op next, state => storedBy var op ++
      match (perform buffer op state).outcome with
      | .ok reply => stored buffer var (next reply) (perform buffer op state).state
      | .error _ => []

theorem storedBy_last (buffer : Buffer) (var : sig.Var) (op : Op sig) (state : State sig) :
    (perform buffer op state).state.store var =
      (storedBy var op).getLast?.getD (state.store var) := by
  cases op with
  | set other value =>
      rw [storedBy]
      by_cases same : other = var
      · subst same
        simp [perform, Run.reply, State.assigned]
      · have untouched : var ≠ other := fun back => same back.symm
        simp [perform, Run.reply, State.assigned, same, Function.update_of_ne untouched]
  | take count =>
      rw [perform]
      split <;> rfl
  | skip count =>
      rw [perform]
      split <;> rfl
  | _ => rfl

/-- A later value stands in for an earlier one, however early that is. -/
theorem getLast_append {value : Type} (first second : List value) (before : value) :
    (first ++ second).getLast?.getD before =
      second.getLast?.getD (first.getLast?.getD before) := by
  rw [List.getLast?_append]
  cases second.getLast? <;> rfl

theorem stored_last (buffer : Buffer) (var : sig.Var) (program : Decoder sig α)
    (state : State sig) : (run buffer program state).state.store var =
      (stored buffer var program state).getLast?.getD (state.store var) := by
  induction program generalizing state with
  | pure value => rfl
  | act op next ih =>
      -- the operation stores at most one value, and the rest of the run starts from it
      have single := storedBy_last buffer var op state
      rw [stored, getLast_append, ← single, run_act]
      generalize perform buffer op state = performed
      obtain ⟨outcome, middle, trace, notes⟩ := performed
      cases outcome with
      | error reason => rfl
      | ok reply => exact ih reply middle

end Decoding
