import SflowTool.Confinement
import SflowTool.Discipline

/-! What operations promise along a run that others are assumed to keep to. An invariant of
the states is carried by the steps, and a program grants its promise part by part. -/
namespace Decoding

variable {sig : Signature} {α β : Type}

section Along

variable {buffer : Buffer} {program : Decoder sig α} {state : State sig}

/-- What each allowed operation keeps holds in every state of the run, the last included. -/
theorem along_invariant (buffer : Buffer) (invariant : State sig → Prop) (holds : State sig → Op sig → Prop)
    (step : ∀ state op, invariant state → holds state op → invariant (perform buffer op state).state)
    (program : Decoder sig α) (state : State sig) (first : invariant state)
    (along : Along buffer holds program state) :
    Along buffer (fun state _ => invariant state) program state ∧
      invariant (run buffer program state).state := by
  induction program generalizing state with
  | pure value => exact ⟨trivial, first⟩
  | act op next ih =>
      have kept := step state op first along.1
      have rest := along.2
      rw [run_act, Along]
      generalize perform buffer op state = performed at kept rest ⊢
      obtain ⟨outcome, middle, trace, notes⟩ := performed
      cases outcome with
      | error reason => exact ⟨⟨first, trivial⟩, kept⟩
      | ok reply =>
          obtain ⟨later, ended⟩ := ih reply middle kept rest
          exact ⟨⟨first, later⟩, ended⟩

/-- What a program can perform at all it performs along every run. -/
theorem Uses.along {allowed : Op sig → Prop} (uses : Uses allowed program) (buffer : Buffer) (state : State sig) :
    Along buffer (fun _ op => allowed op) program state := by
  induction uses generalizing state with
  | pure value => trivial
  | act op next allow _ ih =>
      refine ⟨allow, ?_⟩
      unfold Run.Returning
      split
      · exact ih _ _
      · trivial

/-- What holds of every state and operation holds along every run. -/
theorem Along.weaken {strong weak : State sig → Op sig → Prop}
    (along : Along buffer strong program state)
    (implies : ∀ state op, strong state op → weak state op) : Along buffer weak program state := by
  induction program generalizing state with
  | pure value => trivial
  | act op next ih =>
      refine ⟨implies state op along.1, ?_⟩
      have rest := along.2
      generalize perform buffer op state = performed at rest ⊢
      obtain ⟨outcome, middle, trace, notes⟩ := performed
      cases outcome with
      | error reason => trivial
      | ok reply => exact ih reply rest

theorem Along.and {first second : State sig → Op sig → Prop}
    (one : Along buffer first program state) (two : Along buffer second program state) :
    Along buffer (fun state op => first state op ∧ second state op) program state := by
  induction program generalizing state with
  | pure value => trivial
  | act op next ih =>
      refine ⟨⟨one.1, two.1⟩, ?_⟩
      have early := one.2
      have late := two.2
      generalize perform buffer op state = performed at early late ⊢
      obtain ⟨outcome, middle, trace, notes⟩ := performed
      cases outcome with
      | error reason => trivial
      | ok reply => exact ih reply early late

/-- What each note of a run meets. -/
theorem notes_along (meets : sig.Note → Prop)
    (along : Along buffer (fun _ op => ∀ mark, op = .note mark → meets mark) program state) :
    ∀ noted ∈ (run buffer program state).notes, meets noted.1 := by
  induction program generalizing state with
  | pure value => exact List.forall_mem_nil _
  | act op next ih =>
      have single : ∀ noted ∈ (perform buffer op state).notes, meets noted.1 := by
        cases op with
        | take count => simp only [perform]; split <;> exact List.forall_mem_nil _
        | skip count => simp only [perform]; split <;> exact List.forall_mem_nil _
        | note mark =>
            intro noted member
            cases List.mem_singleton.mp member
            exact along.1 mark rfl
        | _ => exact List.forall_mem_nil _
      have rest := along.2
      rw [run_act]
      generalize perform buffer op state = performed at single rest ⊢
      obtain ⟨outcome, middle, trace, notes⟩ := performed
      cases outcome with
      | error reason => exact single
      | ok reply =>
          intro noted member
          rcases List.mem_append.mp member with early | late
          · exact single noted early
          · exact ih reply rest noted late

theorem along_true (buffer : Buffer) (program : Decoder sig α) (state : State sig) :
    Along buffer (fun _ _ => True) program state := by
  induction program generalizing state with
  | pure value => trivial
  | act op next ih =>
      refine ⟨trivial, ?_⟩
      unfold Run.Returning
      split
      · exact ih _ _
      · trivial

/-- The notes of a run are those of the operations along it. -/
theorem along_of_notes (meets : sig.Note → Prop)
    (noted : ∀ note ∈ (run buffer program state).notes, meets note.1) :
    Along buffer (fun _ op => ∀ mark, op = .note mark → meets mark) program state := by
  induction program generalizing state with
  | pure value => trivial
  | act op next ih =>
      rw [run_act] at noted
      have single : ∀ mark, op = .note mark → meets mark := by
        intro mark same
        subst same
        exact noted (mark, state.cursor) List.mem_cons_self
      refine ⟨single, ?_⟩
      generalize perform buffer op state = performed at noted ⊢
      obtain ⟨outcome, middle, trace, notes⟩ := performed
      cases outcome with
      | error reason => trivial
      | ok reply =>
          apply ih reply
          intro note member
          exact noted note (List.mem_append_right _ member)

end Along

section Grants

/-- Where the operations of a run keep to what is assumed, they keep to what is promised. -/
class Grants (assumed promised : Buffer → State sig → Op sig → Prop) (program : Decoder sig α) :
    Prop where
  grants : ∀ (buffer : Buffer) (state : State sig), Along buffer (assumed buffer) program state →
    Along buffer (promised buffer) program state

variable {assumed promised : Buffer → State sig → Op sig → Prop}

instance grants_pure (value : α) :
    Grants assumed promised (Pure.pure value : Decoder sig α) where
  grants _ _ _ := trivial

instance grants_bind (program : Decoder sig α) (next : α → Decoder sig β)
    [earlier : Grants assumed promised program]
    [rest : ∀ value, Grants assumed promised (next value)] :
    Grants assumed promised (program >>= next) where
  grants buffer state along := by
    rw [Decoder.bind_eq, along_bind] at along ⊢
    refine ⟨earlier.grants buffer state along.1, ?_⟩
    have later := along.2
    generalize run buffer program state = performed at later ⊢
    obtain ⟨outcome, middle, trace, notes⟩ := performed
    cases outcome with
    | error reason => trivial
    | ok value => exact (rest value).grants buffer middle later

instance grants_ite (guard : Prop) [Decidable guard] (yes no : Decoder sig α)
    [one : Grants assumed promised yes] [two : Grants assumed promised no] :
    Grants assumed promised (if guard then yes else no) := by
  split
  · exact one
  · exact two

instance grants_when (guard : Prop) [Decidable guard] (program : Decoder sig Unit)
    [body : Grants assumed promised program] :
    Grants assumed promised (Decoder.when guard program) := by
  unfold Decoder.when
  split
  · exact body
  · exact grants_pure ()

/-- A program whose operations all promise what is asked for needs no assumption. -/
theorem Uses.grants {allowed : Op sig → Prop} {program : Decoder sig α} (uses : Uses allowed program)
    (promise : ∀ buffer state op, allowed op → promised buffer state op) :
    Grants assumed promised program where
  grants buffer state _ := (uses.along buffer state).weaken fun state op => promise buffer state op

/-- What is granted without an assumption holds along every run. -/
theorem along_granted (buffer : Buffer) (program : Decoder sig α) (state : State sig)
    [grants : Grants (fun _ _ _ => True) promised program] :
    Along buffer (promised buffer) program state :=
  grants.grants buffer state (along_true buffer program state)

end Grants

section Matches

/-- The operations of a run keep to the one exactly where they keep to the other. -/
class Matches (first second : Buffer → State sig → Op sig → Prop) (program : Decoder sig α) :
    Prop where
  iff : ∀ (buffer : Buffer) (state : State sig), Along buffer (first buffer) program state ↔
    Along buffer (second buffer) program state

variable {first second : Buffer → State sig → Op sig → Prop}

instance matches_pure (value : α) :
    Matches first second (Pure.pure value : Decoder sig α) where
  iff _ _ := Iff.rfl

instance matches_bind (program : Decoder sig α) (next : α → Decoder sig β)
    [earlier : Matches first second program] [rest : ∀ value, Matches first second (next value)] :
    Matches first second (program >>= next) where
  iff buffer state := by
    rw [Decoder.bind_eq, along_bind, along_bind, earlier.iff buffer state]
    apply and_congr_right'
    generalize run buffer program state = performed
    obtain ⟨outcome, middle, trace, notes⟩ := performed
    cases outcome with
    | error reason => exact Iff.rfl
    | ok value => exact (rest value).iff buffer middle

instance matches_ite (guard : Prop) [Decidable guard] (yes no : Decoder sig α)
    [one : Matches first second yes] [two : Matches first second no] :
    Matches first second (if guard then yes else no) := by
  split
  · exact one
  · exact two

instance matches_when (guard : Prop) [Decidable guard] (program : Decoder sig Unit)
    [body : Matches first second program] :
    Matches first second (Decoder.when guard program) := by
  unfold Decoder.when
  split
  · exact body
  · exact matches_pure ()

/-- Operations that keep to both in any case. -/
theorem Uses.keepsBoth {allowed : Op sig → Prop} {program : Decoder sig α} (uses : Uses allowed program)
    (one : ∀ buffer state op, allowed op → first buffer state op)
    (two : ∀ buffer state op, allowed op → second buffer state op) :
    Matches first second program where
  iff buffer state := iff_of_true
    ((uses.along buffer state).weaken fun state op => one buffer state op)
    ((uses.along buffer state).weaken fun state op => two buffer state op)

end Matches

end Decoding
