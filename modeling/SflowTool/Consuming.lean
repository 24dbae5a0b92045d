import SflowTool.Granting
import SflowTool.Yielding

/-! Programs that take a known number of bytes whatever these are: they return where the bytes
were received and stop where they were not. Behind such a program only its place is known of
the state, and often that is all a program that follows depends on. -/
namespace Decoding

variable {sig : Signature} {α β : Type}

/-- So many bytes are left; none are needed for none. -/
def Room (buffer : Buffer) (state : State sig) (size : Nat) : Prop :=
  size = 0 ∨ state.cursor + size ≤ buffer.length

/-- The program takes `size` bytes, or stops where there are fewer. -/
class Consumes (program : Decoder sig α) (size : outParam Nat) : Prop where
  takes : ∀ (buffer : Buffer) (state : State sig), Room buffer state size →
    (∃ value, (run buffer program state).outcome = .ok value) ∧
      (run buffer program state).state.cursor = state.cursor + size
  stops : ∀ (buffer : Buffer) (state : State sig), ¬Room buffer state size →
    ∃ reason, (run buffer program state).outcome = .error reason

section Consumes

instance consumes_pure (value : α) : Consumes (Pure.pure value : Decoder sig α) 0 where
  takes _ _ _ := ⟨⟨value, rfl⟩, rfl⟩
  stops _ _ full := absurd (.inl rfl) full

instance consumes_take (count : Nat) [NeZero count] :
    Consumes (Decoder.take count : Decoder sig _) count where
  takes buffer state room := by
    rw [run_take buffer count state (room.resolve_left (NeZero.ne count))]
    exact ⟨⟨_, rfl⟩, rfl⟩
  stops buffer state full := by
    have stopped : run buffer (Decoder.take count) state = .halt sig.eos (state.moved count) :=
      (run_single buffer (.take count) state).trans (if_neg fun fits => full (.inr fits))
    rw [stopped]
    exact ⟨_, rfl⟩

/-- A skip of a length that is known and not rounded. -/
theorem consumes_skip (count : UInt32) (size : Nat) (whole : quadBytes count = size)
    (positive : 0 < size) (known : count.toNat ≤ size) :
    Consumes (Decoder.skip count : Decoder sig _) size where
  takes buffer state room := by
    have fits := room.resolve_left (Nat.pos_iff_ne_zero.mp positive)
    rw [run_skip buffer count state (by omega) (by omega), whole]
    exact ⟨⟨_, rfl⟩, rfl⟩
  stops buffer state full := by
    have stopped : run buffer (Decoder.skip count) state =
        .halt sig.eos (state.moved (quadBytes count)) :=
      (run_single buffer (.skip count) state).trans (if_neg fun fits => full (.inr (whole ▸ fits.2)))
    rw [stopped]
    exact ⟨_, rfl⟩

instance consumes_get (var : sig.Var) : Consumes (Decoder.get var : Decoder sig _) 0 where
  takes buffer state _ := ⟨⟨state.store var, rfl⟩, rfl⟩
  stops _ _ full := absurd (.inl rfl) full

instance consumes_set (var : sig.Var) (value : sig.val var) :
    Consumes (Decoder.set var value : Decoder sig _) 0 where
  takes _ _ _ := ⟨⟨(), rfl⟩, rfl⟩
  stops _ _ full := absurd (.inl rfl) full

instance consumes_emit (event : sig.Event) : Consumes (Decoder.emit event : Decoder sig _) 0 where
  takes _ _ _ := ⟨⟨(), rfl⟩, rfl⟩
  stops _ _ full := absurd (.inl rfl) full

instance consumes_note (mark : sig.Note) : Consumes (Decoder.note mark : Decoder sig _) 0 where
  takes _ _ _ := ⟨⟨(), rfl⟩, rfl⟩
  stops _ _ full := absurd (.inl rfl) full

instance consumes_bind (program : Decoder sig α) (next : α → Decoder sig β) (size rest : Nat)
    [first : Consumes program size] [second : ∀ value, Consumes (next value) rest] :
    Consumes (program >>= next) (size + rest) where
  takes buffer state room := by
    have early : Room buffer state size := by
      unfold Room at room ⊢
      omega
    obtain ⟨⟨value, done⟩, place⟩ := first.takes buffer state early
    rw [run_seq]
    generalize run buffer program state = performed at done place ⊢
    obtain ⟨outcome, middle, trace, notes⟩ := performed
    cases done
    have late : Room buffer middle rest := by
      unfold Room at room ⊢
      simp only at place
      omega
    obtain ⟨returned, ended⟩ := (second value).takes buffer middle late
    refine ⟨returned, ended.trans ?_⟩
    rw [place, Nat.add_assoc]
  stops buffer state full := by
    rw [run_seq]
    by_cases early : Room buffer state size
    · obtain ⟨⟨value, done⟩, place⟩ := first.takes buffer state early
      generalize run buffer program state = performed at done place ⊢
      obtain ⟨outcome, middle, trace, notes⟩ := performed
      cases done
      apply (second value).stops buffer middle
      unfold Room at full early ⊢
      simp only at place
      omega
    · obtain ⟨reason, stopped⟩ := first.stops buffer state early
      generalize run buffer program state = performed at stopped ⊢
      obtain ⟨outcome, middle, trace, notes⟩ := performed
      cases stopped
      exact ⟨reason, rfl⟩

theorem consumes_ite (guard : Prop) [Decidable guard] (yes no : Decoder sig α) (size : Nat)
    (one : Consumes yes size) (two : Consumes no size) :
    Consumes (if guard then yes else no) size := by
  split
  · exact one
  · exact two

instance consumes_when (guard : Prop) [Decidable guard] (program : Decoder sig Unit)
    [body : Consumes program 0] : Consumes (Decoder.when guard program) 0 :=
  consumes_ite guard program _ 0 body (consumes_pure ())

end Consumes

section Behind

variable {buffer : Buffer} {state : State sig} {holds : State sig → Op sig → Prop}

/-- What follows a program is reached where there is room. -/
theorem along_then (program : Decoder sig α) (next : α → Decoder sig β) (size : Nat)
    [consumes : Consumes program size] (rest : Prop)
    (later : Room buffer state size → ∀ value middle, (run buffer program state).Yields value middle →
      middle.cursor = state.cursor + size → (Along buffer holds (next value) middle ↔ rest)) :
    Along buffer holds (program >>= next) state ↔
      Along buffer holds program state ∧ (Room buffer state size → rest) := by
  rw [Decoder.bind_eq, along_bind]
  apply and_congr_right'
  by_cases room : Room buffer state size
  · obtain ⟨⟨value, done⟩, place⟩ := consumes.takes buffer state room
    rw [Run.Returning, done]
    exact (later room value _ ⟨done, rfl⟩ place).trans ⟨fun met _ => met, fun met => met room⟩
  · obtain ⟨reason, stopped⟩ := consumes.stops buffer state room
    rw [Run.Returning, stopped]
    exact iff_of_true trivial fun fits => absurd fits room

/-- The same behind a program that is met all along. -/
theorem along_behind (program : Decoder sig α) (next : α → Decoder sig β) (size : Nat)
    [Consumes program size] (met : Along buffer holds program state) (rest : Prop)
    (later : Room buffer state size → ∀ value middle, (run buffer program state).Yields value middle →
      middle.cursor = state.cursor + size → (Along buffer holds (next value) middle ↔ rest)) :
    Along buffer holds (program >>= next) state ↔ (Room buffer state size → rest) :=
  (along_then program next size rest later).trans (and_iff_right met)

/-- Only a program with room returns. -/
theorem consumes_returning (program : Decoder sig α) (size : Nat) [consumes : Consumes program size] :
    (run buffer program state).Returning fun _ final =>
      Room buffer state size ∧ final.cursor = state.cursor + size := by
  unfold Run.Returning
  split
  · next value returned =>
      by_cases room : Room buffer state size
      · exact ⟨room, (consumes.takes buffer state room).2⟩
      · obtain ⟨reason, stopped⟩ := consumes.stops buffer state room
        cases returned.symm.trans stopped
  · trivial

end Behind

end Decoding
