import SflowTool.Discipline

/-! Events that carry a label. A label is read off the state; a program labels its events
when it leaves the label as it is and each event it emits fits the label. -/
namespace Decoding
variable {sig : Signature} {α β : Type}

/-- A label of states, and the events that fit it. -/
structure Labelling (sig : Signature) where
  Label : Type
  of : State sig → Label
  fits : Label → sig.Event → Prop

/-- The run ends with the label, and its events fit it. -/
structure Run.Labelled (labelling : Labelling sig) (label : labelling.Label)
    (performed : Run sig α) : Prop where
  kept : labelling.of performed.state = label
  fits : ∀ sent ∈ performed.trace, labelling.fits label sent.event

/-- Every run of the program labels its events. -/
class Labels (labelling : Labelling sig) (program : Decoder sig α) : Prop where
  labels : ∀ (buffer : Buffer) (state : State sig),
    (run buffer program state).Labelled labelling (labelling.of state)

section Labels
variable {labelling : Labelling sig}

theorem Run.Labelled.bind {label : labelling.Label} {first : Run sig α}
    {next : α → State sig → Run sig β} (earlier : first.Labelled labelling label)
    (later : ∀ value, labelling.of first.state = label →
      (next value first.state).Labelled labelling label) :
    (first.bind next).Labelled labelling label := by
  obtain ⟨outcome, middle, trace, notes⟩ := first
  cases outcome with
  | error reason => exact ⟨earlier.kept, earlier.fits⟩
  | ok value =>
      obtain ⟨kept, fits⟩ := later value earlier.kept
      refine ⟨kept, fun sent member => ?_⟩
      rcases List.mem_append.mp member with member | member
      · exact earlier.fits sent member
      · exact fits sent member

/-- The label stays over a program that labels its events. -/
theorem labelled_after {label : labelling.Label} (buffer : Buffer) (program : Decoder sig α)
    (next : α → Decoder sig β) (state : State sig) (labels : Labels labelling program)
    (here : labelling.of state = label)
    (rest : ∀ value middle, labelling.of middle = label →
      (run buffer (next value) middle).Labelled labelling label) :
    (run buffer (program >>= next) state).Labelled labelling label := by
  have earlier := labels.labels buffer state
  rw [here] at earlier
  rw [run_seq]
  exact earlier.bind fun value kept => rest value _ kept

instance labels_pure (value : α) : Labels labelling (Pure.pure value : Decoder sig α) where
  labels _ _ := ⟨rfl, List.forall_mem_nil _⟩

instance labels_bind (program : Decoder sig α) (next : α → Decoder sig β)
    [first : Labels labelling program] [rest : ∀ value, Labels labelling (next value)] :
    Labels labelling (program >>= next) where
  labels buffer state := by
    refine labelled_after buffer program next state first rfl fun value middle kept => ?_
    rw [← kept]
    exact (rest value).labels buffer middle

instance labels_ite (guard : Prop) [Decidable guard] (yes no : Decoder sig α)
    [one : Labels labelling yes] [two : Labels labelling no] :
    Labels labelling (if guard then yes else no) := by
  split
  · exact one
  · exact two

instance labels_when (guard : Prop) [Decidable guard] (program : Decoder sig Unit)
    [body : Labels labelling program] : Labels labelling (Decoder.when guard program) := by
  unfold Decoder.when
  split
  · exact body
  · exact labels_pure ()

/-- The operations leave the label alone, and what they emit fits every label. -/
class Unlabelled (labelling : Labelling sig) (allowed : outParam (Op sig → Prop)) : Prop where
  single : ∀ op, allowed op → ∀ (buffer : Buffer) (state : State sig),
    (perform buffer op state).Labelled labelling (labelling.of state)

instance (priority := low) labels_of_uses {allowed : Op sig → Prop} (program : Decoder sig α)
    [unlabelled : Unlabelled labelling allowed] [uses : Uses allowed program] :
    Labels labelling program := by
  induction uses with
  | pure value => exact labels_pure value
  | act op next allow _ ih =>
      constructor
      intro buffer state
      rw [run_act]
      refine (unlabelled.single op allow buffer state).bind fun reply kept => ?_
      rw [← kept]
      exact (ih reply).labels buffer _

end Labels

end Decoding
