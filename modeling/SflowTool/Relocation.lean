import SflowTool.Confinement
import SflowTool.Discipline

/-! Runs on relocated bytes. Two buffers that go on alike, each from a place of its own,
answer every checked read behind these places alike, and every unchecked one that starts
from a pointer which has moved along. A program that looks only at such pointers does the
same in both, whether it returns or stops. What a pointer from before shows is up to a tie
between the two states that the program has to keep. -/
namespace Decoding
variable {sig : Signature} {α β : Type}

namespace Buffer

/-- From `left` in the first buffer and from `right` in the second on, the memory is the
same, and as much of it was received. -/
structure SameTail (first second : Buffer) (left right : Nat) : Prop where
  bytes : first.bytes.drop left = second.bytes.drop right
  received : ∃ rest, first.length = left + rest ∧ second.length = right + rest
  small : first.length < 2 ^ 32 - 3 ∧ second.length < 2 ^ 32 - 3

variable {first second : Buffer} {left right : Nat}

theorem SameTail.byte (tail : first.SameTail second left right) (index : Nat) :
    first.byte (left + index) = second.byte (right + index) := by
  have here := congrArg (fun bytes => bytes.getD index 0) tail.bytes
  simpa [Buffer.byte, List.getD_eq_getElem?_getD, List.getElem?_drop] using here

theorem SameTail.slice (tail : first.SameTail second left right) (index count : Nat) :
    second.slice (right + index) count = first.slice (left + index) count :=
  (slice_congr first second _ _ count fun further _ => by
    simpa only [Nat.add_assoc] using tail.byte (index + further)).symm

theorem textFrom_same (one two fuel : Nat)
    (same : ∀ index, first.byte (one + index) = second.byte (two + index)) :
    second.textFrom two fuel = first.textFrom one fuel := by
  induction fuel generalizing one two with
  | zero => rfl
  | succ fuel ih =>
      have head := same 0
      have rest := ih (one + 1) (two + 1) fun index => by
        simpa only [Nat.add_assoc, Nat.add_comm 1] using same (index + 1)
      simp only [Nat.add_zero] at head
      simp only [textFrom, head, rest]

theorem SameTail.text (tail : first.SameTail second left right) (index : Nat) :
    second.text (right + index) = first.text (left + index) := by
  have same := congrArg List.length tail.bytes
  obtain ⟨rest, one, two⟩ := tail.received
  have held := first.held
  have other := second.held
  simp only [List.length_drop] at same
  have fuel : second.bytes.length - (right + index) = first.bytes.length - (left + index) := by
    omega
  rw [Buffer.text, Buffer.text, fuel]
  exact textFrom_same _ _ _ fun further => by
    simpa only [Nat.add_assoc] using tail.byte (index + further)

end Buffer

/-- Two states that hold the same, but for where the places behind `left` and `right` lie.
Nothing is said of the stale pointers. -/
structure Relocated (stale : sig.Mark → Prop) (left right : Nat) (one two : State sig) :
    Prop where
  cursor : ∃ offset, one.cursor = left + offset ∧ two.cursor = right + offset
  store : two.store = one.store
  ticks : two.ticks = one.ticks
  marks : ∀ name, ¬stale name →
    ∃ offset, one.marks name = left + offset ∧ two.marks name = right + offset

/-- The stale pointers that are left once one is taken anew. -/
def without (stale : sig.Mark → Prop) (name : sig.Mark) : sig.Mark → Prop :=
  fun other => other ≠ name ∧ stale other

namespace Relocated
variable {stale : sig.Mark → Prop} {left right : Nat} {one two : State sig}

theorem moved (related : Relocated stale left right one two) (count : Nat) :
    Relocated stale left right (one.moved count) (two.moved count) := by
  obtain ⟨offset, here, there⟩ := related.cursor
  refine ⟨⟨offset + count, ?_, ?_⟩, related.store, related.ticks, related.marks⟩
  · rw [State.moved_cursor, here, Nat.add_assoc]
  · rw [State.moved_cursor, there, Nat.add_assoc]

theorem assigned (related : Relocated stale left right one two) (var : sig.Var)
    (value : sig.val var) :
    Relocated stale left right (one.assigned var value) (two.assigned var value) where
  cursor := related.cursor
  store := by simp only [State.assigned, related.store]
  ticks := related.ticks
  marks := related.marks

theorem ticked (related : Relocated stale left right one two) (counter : sig.Counter) :
    Relocated stale left right (one.ticked counter) (two.ticked counter) where
  cursor := related.cursor
  store := related.store
  ticks := by simp only [State.ticked, related.ticks]
  marks := related.marks

theorem marked (related : Relocated stale left right one two) (name : sig.Mark) :
    Relocated (without stale name) left right (one.marked name) (two.marked name) where
  cursor := related.cursor
  store := related.store
  ticks := related.ticks
  marks other fresh := by
    by_cases same : other = name
    · subst same
      simpa [State.marked] using related.cursor
    · simp only [State.marked, Function.update_of_ne same]
      exact related.marks other fun old => fresh ⟨same, old⟩

theorem weaken {fewer : sig.Mark → Prop} (related : Relocated fewer left right one two)
    (more : ∀ name, fewer name → stale name) : Relocated stale left right one two :=
  ⟨related.cursor, related.store, related.ticks,
    fun name fresh => related.marks name fun old => fresh (more name old)⟩

theorem forget {name : sig.Mark} (related : Relocated (without stale name) left right one two) :
    Relocated stale left right one two :=
  related.weaken fun _ old => old.2

end Relocated

/-- Two runs that show the same and end alike. -/
structure Relocates (stale : sig.Mark → Prop) (left right : Nat) (first second : Run sig α) :
    Prop where
  outcome : second.outcome = first.outcome
  state : Relocated stale left right first.state second.state
  trace : second.trace = first.trace
  notes : second.notes.map Prod.fst = first.notes.map Prod.fst

/-- An operation looks behind no stale pointer, and not at the datagram as a whole. -/
def LooksFresh (stale : sig.Mark → Prop) : Op sig → Prop
  | .since name | .peek name _ _ | .peekText name _ => ¬stale name
  | .survey => False
  | _ => True

theorem perform_relocated {first second : Buffer} {left right : Nat}
    (tail : first.SameTail second left right) (stale : sig.Mark → Prop) (op : Op sig)
    (fresh : LooksFresh stale op) (one two : State sig)
    (related : Relocated stale left right one two) :
    Relocates stale left right (perform first op one) (perform second op two) := by
  obtain ⟨offset, here, there⟩ := related.cursor
  obtain ⟨rest, length, other⟩ := tail.received
  have small := tail.small
  cases op with
  | take count =>
      simp only [perform, here, there, tail.slice]
      by_cases room : left + offset + count ≤ first.length
      · rw [if_pos room, if_pos (by omega)]
        exact ⟨rfl, related.moved count, rfl, rfl⟩
      · rw [if_neg room, if_neg (by omega)]
        exact ⟨rfl, related.moved count, rfl, rfl⟩
  | skip count =>
      simp only [perform, here, there, tail.slice]
      by_cases room : count.toNat ≤ first.length ∧
          left + offset + quadBytes count ≤ first.length
      · have rounded := le_quadBytes count (by omega)
        rw [if_pos room, if_pos ⟨by omega, by omega⟩]
        exact ⟨rfl, related.moved (quadBytes count), rfl, rfl⟩
      · have refused : ¬(count.toNat ≤ second.length ∧
            right + offset + quadBytes count ≤ second.length) := by
          rintro ⟨known, within⟩
          have rounded := le_quadBytes count (by omega)
          exact room ⟨by omega, by omega⟩
        rw [if_neg room, if_neg refused]
        exact ⟨rfl, related.moved (quadBytes count), rfl, rfl⟩
  | jump count => exact ⟨rfl, related.moved count, rfl, rfl⟩
  | survey => exact absurd fresh id
  | mark name => exact ⟨rfl, (related.marked name).forget, rfl, rfl⟩
  | since name =>
      obtain ⟨base, old, new⟩ := related.marks name fresh
      refine ⟨?_, related, rfl, rfl⟩
      simp only [perform, Run.reply, here, there, old, new, Nat.add_sub_add_left]
  | peek name start count =>
      obtain ⟨base, old, new⟩ := related.marks name fresh
      refine ⟨?_, related, rfl, rfl⟩
      simp only [perform, Run.reply, old, new, Nat.add_assoc, tail.slice]
  | peekText name start =>
      obtain ⟨base, old, new⟩ := related.marks name fresh
      refine ⟨?_, related, rfl, rfl⟩
      simp only [perform, Run.reply, old, new, Nat.add_assoc, tail.text]
  | get var =>
      refine ⟨?_, related, rfl, rfl⟩
      simp only [perform, Run.reply, related.store]
  | set var value => exact ⟨rfl, related.assigned var value, rfl, rfl⟩
  | emit event =>
      refine ⟨rfl, related, ?_, rfl⟩
      simp only [perform, related.ticks]
  | tick counter => exact ⟨rfl, related.ticked counter, rfl, rfl⟩
  | note mark => exact ⟨rfl, related, rfl, rfl⟩
  | stop reason => exact ⟨rfl, related, rfl, rfl⟩

/-- Operations that look at no byte and move nowhere. -/
def Offline : Op sig → Prop
  | .get _ | .set _ _ | .emit _ | .tick _ | .note _ => True
  | _ => False

/-- Two runs that show the same, from and to states with the same contents. -/
structure Concurs (one two : State sig) (first second : Run sig α) : Prop where
  outcome : second.outcome = first.outcome
  store : second.state.store = first.state.store
  ticks : second.state.ticks = first.state.ticks
  trace : second.trace = first.trace
  stays : first.state.cursor = one.cursor ∧ second.state.cursor = two.cursor
  marks : first.state.marks = one.marks ∧ second.state.marks = two.marks

/-- What looks at no byte does the same on all bytes. -/
theorem run_concurs (first second : Buffer) (program : Decoder sig α) (uses : Uses Offline program)
    (one two : State sig) (store : two.store = one.store) (ticks : two.ticks = one.ticks) :
    Concurs one two (run first program one) (run second program two) := by
  induction uses generalizing one two with
  | pure value => exact ⟨rfl, store, ticks, rfl, ⟨rfl, rfl⟩, rfl, rfl⟩
  | act op next allow _ ih =>
      have single : Concurs one two (perform first op one) (perform second op two) := by
        cases op with
        | get var =>
            refine ⟨?_, store, ticks, rfl, ⟨rfl, rfl⟩, rfl, rfl⟩
            simp only [perform, Run.reply, store]
        | set var value =>
            refine ⟨rfl, ?_, ticks, rfl, ⟨rfl, rfl⟩, rfl, rfl⟩
            simp only [perform, Run.reply, State.assigned, store]
        | emit event =>
            refine ⟨rfl, store, ticks, ?_, ⟨rfl, rfl⟩, rfl, rfl⟩
            simp only [perform, ticks]
        | tick counter =>
            refine ⟨rfl, store, ?_, rfl, ⟨rfl, rfl⟩, rfl, rfl⟩
            simp only [perform, Run.reply, State.ticked, ticks]
        | note mark => exact ⟨rfl, store, ticks, rfl, ⟨rfl, rfl⟩, rfl, rfl⟩
        | _ => exact absurd allow id
      rw [run_act, run_act]
      generalize perform first op one = performed at single ⊢
      generalize perform second op two = performed' at single ⊢
      obtain ⟨outcome, middle, trace, notes⟩ := performed
      obtain ⟨outcome', middle', trace', notes'⟩ := performed'
      obtain ⟨same, store, ticks, shown, stays, marks⟩ := single
      cases same
      cases shown
      cases outcome with
      | error reason => exact ⟨rfl, store, ticks, rfl, stays, marks⟩
      | ok reply =>
          have later := ih reply middle middle' store ticks
          refine ⟨later.outcome, later.store, later.ticks, ?_, ?_, ?_⟩
          · simp only [Run.bind, Run.after, later.trace]
          · exact ⟨later.stays.1.trans stays.1, later.stays.2.trans stays.2⟩
          · exact ⟨later.marks.1.trans marks.1, later.marks.2.trans marks.2⟩

/-- What two runs have in common besides, with the buffers they run on. -/
abbrev Tie (sig : Signature) := Buffer → Buffer → State sig → State sig → Prop

/-- From relocated states with the tie the program does the same, and keeps the tie. -/
class Relocatable (tie : Tie sig) (stale : sig.Mark → Prop) (program : Decoder sig α) :
    Prop where
  relocates : ∀ (first second : Buffer) (left right : Nat), first.SameTail second left right →
    ∀ one two : State sig, Relocated stale left right one two → tie first second one two →
      Relocates stale left right (run first program one) (run second program two) ∧
        tie first second (run first program one).state (run second program two).state

section Relocatable
variable {tie : Tie sig} {stale : sig.Mark → Prop}

instance relocatable_pure (value : α) :
    Relocatable tie stale (Pure.pure value : Decoder sig α) where
  relocates _ _ _ _ _ _ _ related tied := ⟨⟨rfl, related, rfl, rfl⟩, tied⟩

/-- Once the first runs do the same, so do the compositions, from where they end. -/
theorem relocates_bind {first second : Buffer} {left right : Nat} {one two : Run sig α}
    (next : α → Decoder sig β) (related : Relocates stale left right one two)
    (tied : ∀ reason, one.outcome = .error reason → tie first second one.state two.state)
    (rest : ∀ value, Relocates stale left right (run first (next value) one.state)
        (run second (next value) two.state) ∧
      tie first second (run first (next value) one.state).state
        (run second (next value) two.state).state) :
    Relocates stale left right (one.bind fun value middle => run first (next value) middle)
        (two.bind fun value middle => run second (next value) middle) ∧
      tie first second (one.bind fun value middle => run first (next value) middle).state
        (two.bind fun value middle => run second (next value) middle).state := by
  obtain ⟨outcome, state, trace, notes⟩ := one
  obtain ⟨other, final, events, later⟩ := two
  obtain ⟨same, state', trace', notes'⟩ := related
  cases same
  cases trace'
  cases outcome with
  | error reason => exact ⟨⟨rfl, state', rfl, notes'⟩, tied reason rfl⟩
  | ok value =>
      obtain ⟨later, kept⟩ := rest value
      refine ⟨⟨later.outcome, later.state, ?_, ?_⟩, kept⟩
      · simp only [Run.bind, Run.after, later.trace]
      · simpa only [Run.bind, Run.after, List.map_append, notes'] using
          congrArg (_ ++ ·) later.notes

instance relocatable_bind (program : Decoder sig α) (next : α → Decoder sig β)
    [earlier : Relocatable tie stale program] [rest : ∀ value, Relocatable tie stale (next value)] :
    Relocatable tie stale (program >>= next) where
  relocates first second left right tail one two related tied := by
    obtain ⟨before, kept⟩ := earlier.relocates first second left right tail one two related tied
    rw [Decoder.bind_eq, run_bind, run_bind]
    exact relocates_bind next before (fun _ _ => kept) fun value =>
      (rest value).relocates first second left right tail _ _ before.state kept

instance relocatable_ite (guard : Prop) [Decidable guard] (yes no : Decoder sig α)
    [one : Relocatable tie stale yes] [two : Relocatable tie stale no] :
    Relocatable tie stale (if guard then yes else no) := by
  split
  · exact one
  · exact two

instance relocatable_when (guard : Prop) [Decidable guard] (program : Decoder sig Unit)
    [body : Relocatable tie stale program] : Relocatable tie stale (Decoder.when guard program) := by
  unfold Decoder.when
  split
  · exact body
  · exact relocatable_pure ()

/-- A pointer that the tie leaves to be taken anew. -/
class Retakes (tie : Tie sig) (name : sig.Mark) : Prop where
  tied : ∀ (first second : Buffer) (left right : Nat), first.SameTail second left right →
    ∀ (stale : sig.Mark → Prop) (one two : State sig), Relocated stale left right one two →
      tie first second one two → tie first second (one.marked name) (two.marked name)

/-- Behind a pointer that has been taken anew it may be looked. -/
theorem relocatable_mark_bind (name : sig.Mark) (next : Unit → Decoder sig α)
    [retakes : Retakes tie name] [rest : Relocatable tie (without stale name) (next ())] :
    Relocatable tie stale (Decoder.mark name >>= next) where
  relocates first second left right tail one two related tied := by
    obtain ⟨later, kept⟩ := rest.relocates first second left right tail _ _ (related.marked name)
      (retakes.tied first second left right tail stale one two related tied)
    exact ⟨⟨later.outcome, later.state.forget, later.trace, later.notes⟩, kept⟩

/-- Pointers that are not stale. -/
class Fresh (stale : sig.Mark → Prop) (name : sig.Mark) : Prop where
  fresh : ¬stale name

instance fresh_without (name : sig.Mark) : Fresh (without stale name) name where
  fresh old := old.1 rfl

instance fresh_further (name other : sig.Mark) [fresh : Fresh stale name] :
    Fresh (without stale other) name where
  fresh old := fresh.fresh old.2

/-- A program of operations that look fresh and keep the tie is relocatable. -/
theorem Uses.relocatable {allowed : Op sig → Prop} {program : Decoder sig α}
    (uses : Uses allowed program) (fresh : ∀ op, allowed op → LooksFresh stale op)
    (keeps : ∀ op, allowed op → ∀ (first second : Buffer) (left right : Nat),
      first.SameTail second left right → ∀ one two : State sig,
      Relocated stale left right one two → tie first second one two →
      Relocated stale left right (perform first op one).state (perform second op two).state →
      tie first second (perform first op one).state (perform second op two).state) :
    Relocatable tie stale program where
  relocates first second left right tail := by
    induction uses with
    | pure value => exact fun one two related tied => ⟨⟨rfl, related, rfl, rfl⟩, tied⟩
    | act op next allow _ ih =>
        intro one two related tied
        have single := perform_relocated tail stale op (fresh op allow) one two related
        have kept := keeps op allow first second left right tail one two related tied single.state
        exact relocates_bind next single (fun _ _ => kept) fun reply =>
          ih reply _ _ single.state kept

end Relocatable

end Decoding
