import SflowTool.Confinement
import SflowTool.Discipline

/-! One memory of which more or less was received. The checks of a decoder compare with the number
of received bytes and are passed wherever they are passed with fewer; so a run on fewer bytes is
the run on more of them, or is stopped where it would have gone beyond its end. -/
namespace Decoding
variable {sig : Signature} {α β : Type}

/-- The same memory, of which no more bytes were received. -/
structure Buffer.Shortens (short long : Buffer) : Prop where
  bytes : short.bytes = long.bytes
  length : short.length ≤ long.length

theorem Buffer.Shortens.slice {short long : Buffer} (shorter : short.Shortens long)
    (start count : Nat) : short.slice start count = long.slice start count := by
  simp only [Buffer.slice, Buffer.byte, shorter.bytes]

theorem Buffer.Shortens.text {short long : Buffer} (shorter : short.Shortens long) (start : Nat) :
    short.text start = long.text start := by
  have reads (fuel place : Nat) : short.textFrom place fuel = long.textFrom place fuel := by
    induction fuel generalizing place with
    | zero => rfl
    | succ fuel ih =>
        have same : short.byte place = long.byte place := by
          simp only [Buffer.byte, shorter.bytes]
        by_cases zero : long.byte place = 0
        · simp only [Buffer.textFrom, same, zero, ↓reduceIte]
        · simp only [Buffer.textFrom, same, zero, ↓reduceIte, ih]
  unfold Buffer.text
  rw [reads, shorter.bytes]

/-- What a run on `received` bytes can be beside the run on more of them. -/
inductive Run.Cut (received : Nat) (short long : Run sig α) : Prop where
  | same (same : short = long)
  | stopped (outcome : short.outcome = .error sig.eos) (beyond : received < long.state.cursor)
  | failed (reason : sig.Stop) (one : short.outcome = .error reason)
      (other : long.outcome = .error reason)

namespace Run.Cut
variable {received : Nat} {short long : Run sig α}

theorem bind (cut : Cut received short long) {one two : α → State sig → Run sig β}
    (forward : ∀ value state, state.cursor ≤ (two value state).state.cursor)
    (rest : ∀ value, short = long → long.outcome = .ok value →
      Cut received (one value long.state) (two value long.state)) :
    Cut received (short.bind one) (long.bind two) := by
  obtain ⟨outcome, middle, trace, notes⟩ := long
  cases cut with
  | same same =>
      subst same
      cases outcome with
      | error reason => exact .same rfl
      | ok value =>
          cases rest value rfl rfl with
          | same later =>
              refine .same ?_
              simp only [Run.bind, later]
          | stopped ended beyond => exact .stopped ended beyond
          | failed reason first second => exact .failed reason first second
  | stopped ended beyond =>
      -- the longer run goes on, and never back
      refine .stopped (by simp only [Run.bind, ended]) ?_
      cases outcome with
      | error reason => exact beyond
      | ok value => exact Nat.lt_of_lt_of_le beyond (forward value middle)
  | failed reason first second =>
      cases second
      exact .failed reason (by simp only [Run.bind, first]) rfl

theorem of_accepted (cut : Cut received short long) {value : α} (accepted : long.outcome = .ok value) :
    short = long ∨ short.outcome = .error sig.eos ∧ received < long.state.cursor := by
  cases cut with
  | same same => exact .inl same
  | stopped ended beyond => exact .inr ⟨ended, beyond⟩
  | failed reason one other => exact absurd (accepted.symm.trans other) nofun

theorem of_kept (cut : Cut received short long) {value : α} (accepted : short.outcome = .ok value) :
    short = long := by
  cases cut with
  | same same => exact same
  | stopped ended beyond => exact absurd (accepted.symm.trans ended) nofun
  | failed reason one other => exact absurd (accepted.symm.trans one) nofun

end Run.Cut

/-- The operation does not look at the whole datagram. -/
def Unsurveyed : Op sig → Prop
  | .survey => False
  | _ => True

/-- The operation makes no unchecked move. -/
def Checked (op : Op sig) : Prop := ∀ count, op ≠ .jump count

instance decidableChecked : (op : Op sig) → Decidable (Checked op)
  | .jump count => .isFalse fun checked => checked count rfl
  | .take _ | .skip _ | .survey | .mark _ | .since _ | .peek _ _ _ | .peekText _ _ | .get _
  | .set _ _ | .emit _ | .tick _ | .note _ | .stop _ => .isTrue nofun

/-- A single operation that does not look at the whole datagram passes where it passes with fewer
bytes. A count that rounds to less than itself is never received. -/
theorem perform_cut {short long : Buffer} (shorter : short.Shortens long)
    (small : long.length < 2 ^ 32 - 3) (op : Op sig) (plain : Unsurveyed op) (state : State sig) :
    (perform short op state).Cut short.length (perform long op state) := by
  have fewer := shorter.length
  cases op with
  | take count =>
      by_cases room : state.cursor + count ≤ short.length
      · refine .same ?_
        simp only [perform, if_pos room, if_pos (Nat.le_trans room fewer), shorter.slice]
      · refine .stopped (by simp only [perform, if_neg room, Run.halt]) ?_
        simp only [perform]
        split <;> exact Nat.lt_of_not_le room
  | skip count =>
      by_cases room : count.toNat ≤ short.length ∧ state.cursor + quadBytes count ≤ short.length
      · refine .same ?_
        simp only [perform, if_pos room, shorter.slice,
          if_pos (show count.toNat ≤ long.length ∧ state.cursor + quadBytes count ≤ long.length from
            ⟨Nat.le_trans room.1 fewer, Nat.le_trans room.2 fewer⟩)]
      · -- a count that wraps when it is rounded up is refused on both sides
        by_cases known : count.toNat ≤ long.length
        · have rounded := le_quadBytes count (by omega)
          refine .stopped (by simp only [perform, if_neg room, Run.halt]) ?_
          have beyond : short.length < state.cursor + quadBytes count := by omega
          simp only [perform]
          split <;> exact beyond
        · refine .failed sig.eos (by simp only [perform, if_neg room, Run.halt]) ?_
          simp only [perform, if_neg (show ¬(count.toNat ≤ long.length ∧ _) from
            fun both => known both.1), Run.halt]
  | survey => exact absurd plain id
  | peek name offset count =>
      refine .same ?_
      simp only [perform, shorter.slice]
  | peekText name offset =>
      refine .same ?_
      simp only [perform, shorter.text]
  | _ => exact .same rfl

/-- A program that is cut off with its datagram, and makes no unchecked move where it makes none
on more bytes. -/
class Truncates (program : Decoder sig α) : Prop where
  cut : ∀ short long : Buffer, short.Shortens long → long.length < 2 ^ 32 - 3 →
    ∀ state : State sig, (run short program state).Cut short.length (run long program state)
  checked : ∀ short long : Buffer, short.Shortens long → long.length < 2 ^ 32 - 3 →
    ∀ state : State sig, Along long (fun _ => Checked) program state →
      Along short (fun _ => Checked) program state

instance truncates_pure (value : α) : Truncates (Pure.pure value : Decoder sig α) where
  cut _ _ _ _ _ := .same rfl
  checked _ _ _ _ _ _ := trivial

instance truncates_bind (program : Decoder sig α) (next : α → Decoder sig β)
    [first : Truncates program] [rest : ∀ value, Truncates (next value)] :
    Truncates (program >>= next) where
  cut short long shorter small state := by
    rw [run_seq, run_seq]
    exact (first.cut short long shorter small state).bind
      (fun value middle => run_cursor long (next value) middle)
      fun value _ _ => (rest value).cut short long shorter small _
  checked short long shorter small state along := by
    obtain ⟨early, late⟩ := (along_bind long _ program next state).mp along
    refine (along_bind short _ program next state).mpr
      ⟨first.checked short long shorter small state early, ?_⟩
    unfold Run.Returning
    split
    · next value returned =>
        have same := (first.cut short long shorter small state).of_kept returned
        rw [same]
        exact (rest value).checked short long shorter small _ (late.of_ok (same ▸ returned))
    · trivial

instance truncates_ite {guard : Prop} [Decidable guard] (yes no : Decoder sig α)
    [first : Truncates yes] [second : Truncates no] : Truncates (if guard then yes else no) := by
  split
  · exact first
  · exact second

instance truncates_when (guard : Prop) [Decidable guard] (program : Decoder sig Unit)
    [body : Truncates program] : Truncates (Decoder.when guard program) := by
  unfold Decoder.when
  split
  · exact body
  · exact truncates_pure ()

/-- What never looks at the whole datagram is cut off with it. -/
theorem truncates_of_uses (program : Decoder sig α) (uses : Uses Unsurveyed program) :
    Truncates program where
  cut short long shorter small state := by
    induction uses generalizing state with
    | pure value => exact .same rfl
    | act op next plain _ ih =>
        rw [run_act, run_act]
        exact (perform_cut shorter small op plain state).bind
          (fun reply middle => run_cursor long (next reply) middle) fun reply _ _ => ih reply _
  checked short long shorter small state along := by
    induction uses generalizing state with
    | pure value => trivial
    | act op next plain _ ih =>
        refine ⟨along.1, ?_⟩
        -- where the shorter run gets on at all, both have come the same way
        have cut := perform_cut shorter small op plain state
        have late := along.2
        unfold Run.Returning
        split
        · next reply returned =>
            have same := cut.of_kept returned
            rw [same]
            exact ih reply _ (late.of_ok (same ▸ returned))
        · trivial

/-- A program that makes no unchecked move makes none along any of its runs. -/
theorem along_of_uses {allowed : Op sig → Prop} {program : Decoder sig α}
    (uses : Uses allowed program) {holds : Op sig → Prop} (implies : ∀ op, allowed op → holds op)
    (buffer : Buffer) (state : State sig) : Along buffer (fun _ => holds) program state := by
  induction uses generalizing state with
  | pure value => trivial
  | act op next allow _ ih =>
      refine ⟨implies op allow, ?_⟩
      unfold Run.Returning
      split
      · exact ih _ _
      · trivial

/-- What never returns is cut off nowhere, whatever it looks at. -/
theorem truncates_of_failing (program : Decoder sig α) (reason : sig.Stop)
    (fails : ∀ buffer state, (run buffer program state).outcome = .error reason)
    (uses : Uses Checked program) : Truncates program where
  cut _ _ _ _ _ := .failed reason (fails _ _) (fails _ _)
  checked short _ _ _ state _ := along_of_uses uses (fun _ allow => allow) short state

/-- Without an unchecked move along it, no run that returns leaves the received bytes. -/
theorem along_within (buffer : Buffer) (program : Decoder sig α) (state : State sig)
    (inside : state.cursor ≤ buffer.length)
    (along : Along buffer (fun _ => Checked) program state) :
    (run buffer program state).Returning fun _ final => final.cursor ≤ buffer.length := by
  induction program generalizing state with
  | pure value => exact inside
  | act op next ih =>
      have first : (perform buffer op state).Returning
          fun _ middle => middle.cursor ≤ buffer.length := by
        cases op with
        | take count =>
            simp only [perform]
            split
            · next room => exact room
            · trivial
        | skip count =>
            simp only [perform]
            split
            · next room => exact room.2
            · trivial
        | jump count => exact absurd rfl (along.1 count)
        | stop reason => trivial
        | _ => exact inside
      have late := along.2
      rw [run_act]
      generalize perform buffer op state = performed at first late ⊢
      obtain ⟨outcome, middle, trace, notes⟩ := performed
      cases outcome with
      | error reason => trivial
      | ok reply => exact ih reply middle first late

end Decoding
