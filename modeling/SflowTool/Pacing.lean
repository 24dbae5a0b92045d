import SflowTool.Discipline

/-! Loops whose number of rounds is read from the input. A round is noted when it is
complete. A program keeps the pace when every round it completes has taken a quantum of
received bytes that no other round has taken; then no input pays for more rounds than it
has quanta, whatever numbers it announces. -/
namespace Decoding
variable {sig : Signature} {α β : Type}

/-- The notes that say that a round is complete, and the bytes a round has to take. -/
structure Pace (sig : Signature) where
  counted : sig.Note → Bool
  quantum : Nat

namespace Pace

/-- The rounds that were completed. -/
def rounds (pace : Pace sig) (notes : List (sig.Note × Nat)) : Nat :=
  notes.countP fun noted => pace.counted noted.1

theorem rounds_append (pace : Pace sig) (first second : List (sig.Note × Nat)) :
    pace.rounds (first ++ second) = pace.rounds first + pace.rounds second :=
  List.countP_append ..

end Pace

/-- The rounds of a run are paid for: out of the received bytes behind `start` at any
rate, and where the run returns out of those it moved over, with `spare` quanta left. -/
structure Run.Paced (pace : Pace sig) (buffer : Buffer) (spare start : Nat)
    (performed : Run sig α) : Prop where
  within : min start buffer.length + pace.quantum * pace.rounds performed.notes ≤ buffer.length
  returned : performed.Finishing fun _ final notes =>
    start + pace.quantum * (pace.rounds notes + spare) ≤ final.cursor ∧
    min start buffer.length + pace.quantum * (pace.rounds notes + spare) ≤
      min final.cursor buffer.length

/-- Every run of the program keeps the pace. -/
class Paces (pace : Pace sig) (spare : Nat) (program : Decoder sig α) : Prop where
  paces : ∀ (buffer : Buffer) (state : State sig),
    (run buffer program state).Paced pace buffer spare state.cursor

/-- An operation that completes no round. -/
def Unpaced (pace : Pace sig) : Op sig → Prop
  | .note mark => pace.counted mark = false
  | _ => True

section Paces
variable {pace : Pace sig}

theorem Run.Paced.bind {buffer : Buffer} {first : Run sig α} {next : α → State sig → Run sig β}
    {one two start : Nat} (earlier : first.Paced pace buffer one start)
    (later : ∀ value state, (next value state).Paced pace buffer two state.cursor) :
    (first.bind next).Paced pace buffer (one + two) start := by
  obtain ⟨outcome, middle, trace, notes⟩ := first
  cases outcome with
  | error reason => exact ⟨earlier.within, trivial⟩
  | ok value =>
      obtain ⟨forward, received⟩ : start + pace.quantum * (pace.rounds notes + one) ≤ middle.cursor ∧
        min start buffer.length + pace.quantum * (pace.rounds notes + one) ≤
          min middle.cursor buffer.length := earlier.returned
      obtain ⟨within, returned⟩ := later value middle
      simp only [Run.bind]
      generalize next value middle = rest at within returned ⊢
      obtain ⟨outcome, final, further, more⟩ := rest
      rw [Nat.mul_add] at forward received
      constructor
      · simp only [Run.after, pace.rounds_append, Nat.mul_add] at within ⊢
        omega
      · cases outcome with
        | error reason => trivial
        | ok result =>
            have returned : middle.cursor + pace.quantum * (pace.rounds more + two) ≤ final.cursor ∧
              min middle.cursor buffer.length + pace.quantum * (pace.rounds more + two) ≤
                min final.cursor buffer.length := returned
            simp only [Run.after, Run.Finishing, pace.rounds_append, Nat.mul_add] at returned ⊢
            omega

theorem paced_reply (buffer : Buffer) (value : α) (state : State sig) :
    (Run.reply value state).Paced pace buffer 0 state.cursor := by
  refine ⟨?_, ?_⟩
  · exact Nat.min_le_right _ _
  · exact ⟨Nat.le_refl _, Nat.le_refl _⟩

instance paces_pure (value : α) : Paces pace 0 (Pure.pure value : Decoder sig α) where
  paces buffer state := paced_reply buffer value state

theorem Paces.bind {program : Decoder sig α} {next : α → Decoder sig β} {one two : Nat}
    (first : Paces pace one program) (rest : ∀ value, Paces pace two (next value)) :
    Paces pace (one + two) (program >>= next) where
  paces buffer state := by
    rw [Decoder.bind_eq, run_bind]
    exact (first.paces buffer state).bind fun value middle => (rest value).paces buffer middle

instance paces_bind (program : Decoder sig α) (next : α → Decoder sig β)
    [first : Paces pace 0 program] [rest : ∀ value, Paces pace 0 (next value)] :
    Paces pace 0 (program >>= next) :=
  first.bind rest

instance paces_ite (spare : Nat) (guard : Prop) [Decidable guard] (yes no : Decoder sig α)
    [first : Paces pace spare yes] [second : Paces pace spare no] :
    Paces pace spare (if guard then yes else no) := by
  split
  · exact first
  · exact second

instance paces_when (guard : Prop) [Decidable guard] (program : Decoder sig Unit)
    [body : Paces pace 0 program] : Paces pace 0 (Decoder.when guard program) := by
  unfold Decoder.when
  split
  · exact body
  · exact paces_pure ()

theorem perform_paced (op : Op sig) (allow : Unpaced pace op) (buffer : Buffer)
    (state : State sig) : (perform buffer op state).Paced pace buffer 0 state.cursor := by
  have silent : pace.rounds (perform buffer op state).notes = 0 := by
    cases op with
    | take count => simp only [perform]; split <;> rfl
    | skip count => simp only [perform]; split <;> rfl
    | note mark => simp [perform, Pace.rounds, show pace.counted mark = false from allow]
    | _ => rfl
  have forward := perform_cursor buffer op state
  generalize perform buffer op state = performed at silent forward ⊢
  obtain ⟨outcome, final, trace, notes⟩ := performed
  constructor
  · rw [silent]
    exact Nat.min_le_right _ _
  · cases outcome with
    | error reason => trivial
    | ok reply =>
        have forward : state.cursor ≤ final.cursor := forward
        have silent : pace.rounds notes = 0 := silent
        simp only [Run.Finishing, silent]
        omega

theorem paces_of_uses (program : Decoder sig α) (uses : Uses (Unpaced pace) program) :
    Paces pace 0 program := by
  induction uses with
  | pure value => exact paces_pure value
  | act op next allow _ ih =>
      constructor
      intro buffer state
      rw [run_act]
      exact (perform_paced op allow buffer state).bind fun reply => (ih reply).paces buffer

instance (priority := low) paces_of_unpaced (program : Decoder sig α)
    [uses : Uses (Unpaced pace) program] : Paces pace 0 program :=
  paces_of_uses program uses

/-- Bytes that are moved over under a check can pay for a round. -/
theorem paces_moved (op : Op sig) (count : Nat) (enough : pace.quantum ≤ count)
    (checked : ∀ (buffer : Buffer) (state : State sig),
      (∃ reason, perform buffer op state = .halt reason (state.moved count)) ∨
      state.cursor + count ≤ buffer.length ∧
        ∃ reply, perform buffer op state = .reply reply (state.moved count)) :
    Paces pace 1 (Decoder.act op .pure) where
  paces buffer state := by
    rw [run_single]
    rcases checked buffer state with ⟨reason, stopped⟩ | ⟨room, reply, returned⟩
    · rw [stopped]
      exact ⟨Nat.min_le_right _ _, trivial⟩
    · rw [returned]
      refine ⟨Nat.min_le_right _ _, ?_⟩
      show state.cursor + pace.quantum * (0 + 1) ≤ state.cursor + count ∧
        min state.cursor buffer.length + pace.quantum * (0 + 1) ≤
          min (state.cursor + count) buffer.length
      omega

theorem paces_take (count : Nat) (enough : pace.quantum ≤ count) :
    Paces pace 1 (@Decoder.take sig count) := by
  refine paces_moved (.take count) count enough fun buffer state => ?_
  simp only [perform]
  split
  · next room => exact .inr ⟨room, _, rfl⟩
  · exact .inl ⟨_, rfl⟩

theorem paces_skip (count : UInt32) (enough : pace.quantum ≤ quadBytes count) :
    Paces pace 1 (@Decoder.skip sig count) := by
  refine paces_moved (.skip count) (quadBytes count) enough fun buffer state => ?_
  simp only [perform]
  split
  · next room => exact .inr ⟨room.2, _, rfl⟩
  · exact .inl ⟨_, rfl⟩

/-- A program whose first part pays for the round. -/
theorem paces_first (program : Decoder sig α) (next : α → Decoder sig β)
    (first : Paces pace 1 program) (rest : ∀ value, Paces pace 0 (next value)) :
    Paces pace 1 (program >>= next) :=
  first.bind rest

/-- A program whose later part pays for the round. -/
theorem paces_rest (program : Decoder sig α) (next : α → Decoder sig β)
    (first : Paces pace 0 program) (rest : ∀ value, Paces pace 1 (next value)) :
    Paces pace 1 (program >>= next) := by
  exact first.bind rest

/-- A round that was paid for is noted. -/
theorem paces_noted (body : Decoder sig Unit) (mark : sig.Note) (paid : Paces pace 1 body) :
    Paces pace 0 (do body; Decoder.note mark) where
  paces buffer state := by
    have performed := paid.paces buffer state
    rw [Decoder.bind_eq, run_bind]
    generalize run buffer body state = first at performed ⊢
    obtain ⟨outcome, middle, trace, notes⟩ := first
    cases outcome with
    | error reason => exact ⟨performed.within, trivial⟩
    | ok value =>
        have single : pace.rounds [(mark, middle.cursor)] ≤ 1 :=
          List.countP_le_length
        have returned : state.cursor + pace.quantum * (pace.rounds notes + 1) ≤ middle.cursor ∧
          min state.cursor buffer.length + pace.quantum * (pace.rounds notes + 1) ≤
            min middle.cursor buffer.length := performed.returned
        have total : pace.quantum * pace.rounds (notes ++ [(mark, middle.cursor)]) ≤
            pace.quantum * (pace.rounds notes + 1) := by
          rw [pace.rounds_append]
          exact Nat.mul_le_mul_left _ (Nat.add_le_add_left single _)
        constructor
        · show min state.cursor buffer.length +
            pace.quantum * pace.rounds (notes ++ [(mark, middle.cursor)]) ≤ buffer.length
          omega
        · show state.cursor + pace.quantum * (pace.rounds (notes ++ [(mark, middle.cursor)]) + 0) ≤
              middle.cursor ∧
            min state.cursor buffer.length +
              pace.quantum * (pace.rounds (notes ++ [(mark, middle.cursor)]) + 0) ≤
              min middle.cursor buffer.length
          rw [Nat.add_zero]
          omega

/-- A paid round and then what follows it. -/
theorem paces_round (body rest : Decoder sig Unit) (mark : sig.Note) (paid : Paces pace 1 body)
    (follow : Paces pace 0 rest) : Paces pace 0 (do body; Decoder.note mark; rest) := by
  have noted := paces_noted body mark paid
  have both := noted.bind fun _ => follow
  rw [LawfulMonad.bind_assoc] at both
  exact both

end Paces

/-- The notes of a run lie in order between where it began and where it ended. -/
theorem run_notes_ordered (buffer : Buffer) (program : Decoder sig α) (state : State sig) :
    ((run buffer program state).notes.map Prod.snd).Pairwise (· ≤ ·) ∧
      ∀ noted ∈ (run buffer program state).notes,
        state.cursor ≤ noted.2 ∧ noted.2 ≤ (run buffer program state).state.cursor := by
  induction program generalizing state with
  | pure value => exact ⟨.nil, List.forall_mem_nil _⟩
  | act op next ih =>
      have single : ((perform buffer op state).notes.map Prod.snd).Pairwise (· ≤ ·) ∧
          ∀ noted ∈ (perform buffer op state).notes,
            state.cursor ≤ noted.2 ∧ noted.2 ≤ (perform buffer op state).state.cursor := by
        cases op with
        | take count => simp only [perform]; split <;> exact ⟨.nil, List.forall_mem_nil _⟩
        | skip count => simp only [perform]; split <;> exact ⟨.nil, List.forall_mem_nil _⟩
        | note mark =>
            refine ⟨List.pairwise_singleton _ _, ?_⟩
            intro noted member
            rw [List.mem_singleton.mp member]
            exact ⟨Nat.le_refl _, Nat.le_refl _⟩
        | _ => exact ⟨.nil, List.forall_mem_nil _⟩
      have forward := perform_cursor buffer op state
      rw [run_act]
      generalize perform buffer op state = performed at single forward ⊢
      obtain ⟨outcome, middle, trace, notes⟩ := performed
      cases outcome with
      | error reason => exact single
      | ok reply =>
          obtain ⟨ordered, between⟩ := ih reply middle
          have further := run_cursor buffer (next reply) middle
          simp only [Run.bind, Run.after]
          generalize run buffer (next reply) middle = rest at ordered between further ⊢
          constructor
          · rw [List.map_append, List.pairwise_append]
            refine ⟨single.1, ordered, ?_⟩
            intro first early second late
            obtain ⟨one, inFirst, rfl⟩ := List.mem_map.mp early
            obtain ⟨two, inSecond, rfl⟩ := List.mem_map.mp late
            exact Nat.le_trans (single.2 one inFirst).2 (between two inSecond).1
          · intro noted member
            rcases List.mem_append.mp member with member | member
            · exact ⟨(single.2 noted member).1, Nat.le_trans (single.2 noted member).2 further⟩
            · exact ⟨Nat.le_trans forward (between noted member).1, (between noted member).2⟩

end Decoding
