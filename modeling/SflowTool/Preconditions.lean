import SflowTool.Confinement
import SflowTool.Yielding

/-! The weakest precondition of a decoder: what its operations must meet where they are
performed, and what the value and the state it returns must. It is computed along the
program, so that a program without a loop is settled by rewriting. -/
namespace Decoding

variable {sig : Signature} {α β : Type}

/-- Every operation of the run from a state meets `holds`, and where the run returns, its
value and its final state meet `post`. -/
def Weakest (buffer : Buffer) (holds : State sig → Op sig → Prop) :
    Decoder sig α → (α → State sig → Prop) → State sig → Prop
  | .pure value, post, state => post value state
  | .act op next, post, state => holds state op ∧
      (perform buffer op state).Returning fun reply middle =>
        Weakest buffer holds (next reply) post middle

variable {buffer : Buffer} {holds : State sig → Op sig → Prop} {state : State sig}

theorem weakest_iff (program : Decoder sig α) (post : α → State sig → Prop) :
    Weakest buffer holds program post state ↔
      Along buffer holds program state ∧ (run buffer program state).Returning post := by
  induction program generalizing state with
  | pure value => exact ⟨fun ended => ⟨trivial, ended⟩, And.right⟩
  | act op next ih =>
      rw [run_act, Weakest, Along]
      generalize perform buffer op state = performed
      obtain ⟨outcome, middle, trace, notes⟩ := performed
      cases outcome with
      | error reason => exact ⟨fun met => ⟨⟨met.1, trivial⟩, trivial⟩, fun met => met.1⟩
      | ok reply =>
          simp only [Run.Returning, Run.bind, Run.after, ih, and_assoc]

theorem weakest_pure (value : α) (post : α → State sig → Prop) :
    Weakest buffer holds (Pure.pure value) post state ↔ post value state := Iff.rfl

/-- A program is settled before one that follows it. -/
theorem weakest_bind (program : Decoder sig α) (next : α → Decoder sig β)
    (post : β → State sig → Prop) :
    Weakest buffer holds (program >>= next) post state ↔
      Weakest buffer holds program
        (fun value middle => Weakest buffer holds (next value) post middle) state := by
  rw [Decoder.bind_eq]
  induction program generalizing state with
  | pure value => exact Iff.rfl
  | act op rest ih =>
      simp only [Decoder.bind, Weakest, ih]

theorem weakest_ite (guard : Prop) [Decidable guard] (yes no : Decoder sig α)
    (post : α → State sig → Prop) :
    Weakest buffer holds (if guard then yes else no) post state ↔
      if guard then Weakest buffer holds yes post state else Weakest buffer holds no post state := by
  by_cases met : guard
  · rw [if_pos met, if_pos met]
  · rw [if_neg met, if_neg met]

/-- Two conditions on the end of a run that agree where the run ends. -/
theorem weakest_congr (program : Decoder sig α) (post other : α → State sig → Prop)
    (agree : ∀ value, post value (run buffer program state).state ↔
      other value (run buffer program state).state) :
    Weakest buffer holds program post state ↔ Weakest buffer holds program other state := by
  rw [weakest_iff, weakest_iff]
  apply and_congr_right
  intro _
  unfold Run.Returning
  split
  · exact agree _
  · exact Iff.rfl

/-- Of a program that is known to go well only the state it leaves matters. -/
theorem weakest_yields {program : Decoder sig α} {value : α} {final : State sig}
    (along : Along buffer holds program state) (yields : (run buffer program state).Yields value final)
    (post : α → State sig → Prop) :
    Weakest buffer holds program post state ↔ post value final := by
  rw [weakest_iff, Run.Returning, yields.outcome, yields.state]
  exact ⟨And.right, fun met => ⟨along, met⟩⟩

end Decoding
