import SflowTool.Confinement

/-! What holds of a run: each of its operations meets a condition where it is performed,
and where the run returns, its value, its final state and its events meet another. The
two are followed together, one step after the other. -/
namespace Decoding

variable {sig : Signature} {α β : Type}

/-- Where the run returns, its value, its final state and its events meet `holds`. -/
def Run.Concluding (performed : Run sig α)
    (holds : α → State sig → List sig.Event → Prop) : Prop :=
  match performed.outcome with
  | .ok value => holds value performed.state (performed.trace.map Stamped.event)
  | .error _ => True

theorem Run.Concluding.of_ok {performed : Run sig α}
    {holds : α → State sig → List sig.Event → Prop} (concluding : performed.Concluding holds)
    {value : α} (done : performed.outcome = .ok value) :
    holds value performed.state (performed.trace.map Stamped.event) := by
  unfold Run.Concluding at concluding
  rw [done] at concluding
  exact concluding

theorem Run.Concluding.mono {performed : Run sig α}
    {strong weak : α → State sig → List sig.Event → Prop} (concluding : performed.Concluding strong)
    (implies : ∀ value state events, strong value state events → weak value state events) :
    performed.Concluding weak := by
  obtain ⟨outcome, state, trace, notes⟩ := performed
  cases outcome with
  | error reason => trivial
  | ok value => exact implies value state _ concluding

/-- Every operation of the run meets `holds` and the run concludes as `ends` says. -/
structure Follows (buffer : Buffer) (holds : State sig → Op sig → Prop)
    (program : Decoder sig α) (state : State sig)
    (ends : α → State sig → List sig.Event → Prop) : Prop where
  along : Along buffer holds program state
  concluding : (run buffer program state).Concluding ends

variable {buffer : Buffer} {holds : State sig → Op sig → Prop} {state : State sig}

theorem Follows.mono {program : Decoder sig α} {strong weak : α → State sig → List sig.Event → Prop}
    (follows : Follows buffer holds program state strong)
    (implies : ∀ value state events, strong value state events → weak value state events) :
    Follows buffer holds program state weak :=
  ⟨follows.along, follows.concluding.mono implies⟩

theorem follows_pure {ends : α → State sig → List sig.Event → Prop} (value : α)
    (ended : ends value state []) : Follows buffer holds (Pure.pure value) state ends :=
  ⟨trivial, ended⟩

theorem follows_single (op : Op sig) {ends : op.Reply → State sig → List sig.Event → Prop}
    (met : holds state op) (ended : (perform buffer op state).Concluding ends) :
    Follows buffer holds (.act op .pure) state ends := by
  refine ⟨⟨met, ?_⟩, ?_⟩
  · unfold Run.Returning
    split <;> trivial
  · rw [run_single]
    exact ended

/-- A composition is followed through its first program and then through the second. -/
theorem follows_bind (program : Decoder sig α) (next : α → Decoder sig β)
    (ends : β → State sig → List sig.Event → Prop)
    (both : Follows buffer holds program state fun value middle events =>
      Follows buffer holds (next value) middle fun result final later =>
        ends result final (events ++ later)) :
    Follows buffer holds (program.bind next) state ends := by
  obtain ⟨along, concluding⟩ := both
  refine ⟨(along_bind buffer holds program next state).mpr ⟨along, ?_⟩, ?_⟩
  · generalize run buffer program state = first at concluding ⊢
    obtain ⟨outcome, middle, trace, notes⟩ := first
    cases outcome with
    | error reason => trivial
    | ok value => exact concluding.along
  · rw [run_bind]
    generalize run buffer program state = first at concluding ⊢
    obtain ⟨outcome, middle, trace, notes⟩ := first
    cases outcome with
    | error reason => trivial
    | ok value =>
        have second := concluding.concluding
        simp only [Run.bind, Run.after]
        generalize run buffer (next value) middle = last at second ⊢
        obtain ⟨outcome, final, later, further⟩ := last
        cases outcome with
        | error reason => trivial
        | ok result => simpa [Run.Concluding] using second

theorem follows_when {guard : Prop} [Decidable guard] {program : Decoder sig Unit}
    {ends : Unit → State sig → List sig.Event → Prop}
    (yes : guard → Follows buffer holds program state ends) (no : ¬guard → ends () state []) :
    Follows buffer holds (Decoder.when guard program) state ends := by
  by_cases met : guard
  · rw [Decoder.when_pos met]
    exact yes met
  · rw [Decoder.when_neg met]
    exact follows_pure () (no met)

end Decoding
