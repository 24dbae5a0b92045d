import SflowTool.Discipline

/-! The value and the state a run comes to, with what it reports left out. A program
that only looks, stores and reports is followed step by step with these rules. -/
namespace Decoding

variable {sig : Signature} {α β : Type}

/-- The run returns this value in this state, whatever it reports on the way. -/
structure Run.Yields (performed : Run sig α) (value : α) (final : State sig) : Prop where
  outcome : performed.outcome = .ok value
  state : performed.state = final

theorem Run.Yields.bind {first : Run sig α} {next : α → State sig → Run sig β} {value : α}
    {middle final : State sig} {result : β} (yielded : first.Yields value middle)
    (rest : (next value middle).Yields result final) : (first.bind next).Yields result final := by
  obtain ⟨outcome, state, trace, notes⟩ := first
  obtain ⟨returned, reached⟩ := yielded
  cases returned
  cases reached
  exact ⟨rest.outcome, rest.state⟩

variable {state middle final : State sig} {value : α} {result : β}

theorem yields_bind (buffer : Buffer) (program : Decoder sig α) (next : α → Decoder sig β)
    (yielded : (run buffer program state).Yields value middle)
    (rest : (run buffer (next value) middle).Yields result final) :
    (run buffer (program >>= next) state).Yields result final := by
  rw [run_seq]
  exact yielded.bind rest

/-- Behind a program that yields, a composition ends as its second program does. -/
theorem state_behind (buffer : Buffer) {program : Decoder sig α} (next : α → Decoder sig β)
    (yielded : (run buffer program state).Yields value middle) :
    (run buffer (program >>= next) state).state = (run buffer (next value) middle).state := by
  rw [run_seq]
  obtain ⟨returned, reached⟩ := yielded
  generalize run buffer program state = first at returned reached ⊢
  obtain ⟨outcome, after, trace, notes⟩ := first
  cases returned
  cases reached
  rfl

/-- What a composition returns there is what its second program returns. -/
theorem returning_behind (buffer : Buffer) {program : Decoder sig α} (next : α → Decoder sig β)
    {holds : β → State sig → Prop} (yielded : (run buffer program state).Yields value middle)
    (rest : (run buffer (next value) middle).Returning holds) :
    (run buffer (program >>= next) state).Returning holds := by
  rw [run_seq]
  obtain ⟨returned, reached⟩ := yielded
  generalize run buffer program state = first at returned reached ⊢
  obtain ⟨outcome, after, trace, notes⟩ := first
  cases returned
  cases reached
  exact rest

/-- A composition that returns has come through its first program. -/
theorem returned_bind (buffer : Buffer) (program : Decoder sig α) (next : α → Decoder sig β)
    (returned : (run buffer (program >>= next) state).outcome = .ok result) :
    ∃ value middle, (run buffer program state).Yields value middle ∧
      (run buffer (next value) middle).outcome = .ok result := by
  rw [run_seq] at returned
  generalize run buffer program state = first at returned ⊢
  obtain ⟨outcome, middle, trace, notes⟩ := first
  cases outcome with
  | error reason => cases returned
  | ok value => exact ⟨value, middle, ⟨rfl, rfl⟩, returned⟩

/-- A composition that yields has come through its first program. -/
theorem yields_split (buffer : Buffer) {program : Decoder sig α} {next : α → Decoder sig β}
    (yielded : (run buffer (program >>= next) state).Yields result final) :
    ∃ value middle, (run buffer program state).Yields value middle ∧
      (run buffer (next value) middle).Yields result final := by
  obtain ⟨value, middle, first, outcome⟩ := returned_bind buffer program next yielded.outcome
  have reached := state_behind buffer next first
  exact ⟨value, middle, first, outcome, reached ▸ yielded.state⟩

theorem yields_pure (buffer : Buffer) (value : α) (state : State sig) :
    (run buffer (Pure.pure value) state).Yields value state := ⟨rfl, rfl⟩

theorem yields_peek (buffer : Buffer) (name : sig.Mark) (offset count : Nat) (state : State sig) :
    (run buffer (.peek name offset count) state).Yields
      (buffer.slice (state.marks name + offset) count) state := ⟨rfl, rfl⟩

theorem yields_peekText (buffer : Buffer) (name : sig.Mark) (offset : Nat) (state : State sig) :
    (run buffer (.peekText name offset) state).Yields
      (buffer.text (state.marks name + offset)) state := ⟨rfl, rfl⟩

theorem yields_jump (buffer : Buffer) (count : Nat) (state : State sig) :
    (run buffer (.jump count) state).Yields () (state.moved count) := ⟨rfl, rfl⟩

theorem yields_take (buffer : Buffer) (count : Nat) (state : State sig)
    (room : state.cursor + count ≤ buffer.length) : (run buffer (.take count) state).Yields
      (buffer.slice state.cursor count) (state.moved count) := by
  rw [run_take buffer count state room]
  exact ⟨rfl, rfl⟩

theorem yields_skip (buffer : Buffer) (count : UInt32) (state : State sig)
    (known : count.toNat ≤ buffer.length)
    (room : state.cursor + quadBytes count ≤ buffer.length) :
    (run buffer (.skip count) state).Yields (buffer.slice state.cursor (quadBytes count))
      (state.moved (quadBytes count)) := by
  rw [run_skip buffer count state known room]
  exact ⟨rfl, rfl⟩

theorem yields_mark (buffer : Buffer) (name : sig.Mark) (state : State sig) :
    (run buffer (.mark name) state).Yields () (state.marked name) := ⟨rfl, rfl⟩

theorem yields_emit (buffer : Buffer) (event : sig.Event) (state : State sig) :
    (run buffer (.emit event) state).Yields () state := ⟨rfl, rfl⟩

theorem yields_note (buffer : Buffer) (note : sig.Note) (state : State sig) :
    (run buffer (.note note) state).Yields () state := ⟨rfl, rfl⟩

theorem yields_pos (buffer : Buffer) {guard : Prop} [Decidable guard] {yes no : Decoder sig α}
    (holds : guard) (yields : (run buffer yes state).Yields value final) :
    (run buffer (if guard then yes else no) state).Yields value final := by
  rw [if_pos holds]
  exact yields

theorem yields_neg (buffer : Buffer) {guard : Prop} [Decidable guard] {yes no : Decoder sig α}
    (fails : ¬guard) (yields : (run buffer no state).Yields value final) :
    (run buffer (if guard then yes else no) state).Yields value final := by
  rw [if_neg fails]
  exact yields

theorem yields_when (buffer : Buffer) (guard : Prop) [Decidable guard]
    (program : Decoder sig Unit) (state : State sig)
    (yields : guard → (run buffer program state).Yields () final)
    (same : ¬guard → final = state) :
    (run buffer (Decoder.when guard program) state).Yields () final := by
  by_cases holds : guard
  · rw [Decoder.when_pos holds]
    exact yields holds
  · rw [Decoder.when_neg holds, same holds]
    exact yields_pure buffer () state

end Decoding
