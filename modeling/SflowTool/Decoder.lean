import Mathlib

/-! Programs over a receive buffer with a decode cursor. A decoder is a tree of
operations. A checked take or skip moves the cursor and stops the decoder when it
would run past the received length; a jump moves it and a peek reads relative to a
named mark without any check; typed variables, emitted events and counters carry
the rest of the state. Programs never see an address: a position reaches them only
as a mark or as a distance to one. Notes are ghost records of where the decoder was;
no program can read them. The module names no record format. -/
namespace Decoding

/-- What a family of decoders computes with. `eos` is the stop raised by a take
that runs past the received bytes. -/
structure Signature where
  Var : Type
  val : Var → Type
  Mark : Type
  Counter : Type
  Event : Type
  Note : Type
  Stop : Type
  eos : Stop
  [decVar : DecidableEq Var]
  [decMark : DecidableEq Mark]
  [decCounter : DecidableEq Counter]

attribute [instance] Signature.decVar Signature.decMark Signature.decCounter

/-- The memory a datagram was received into: `length` bytes were received, and
the bytes from there on are whatever the memory held before. -/
structure Buffer where
  bytes : List UInt8
  length : Nat
  held : length ≤ bytes.length

namespace Buffer

def byte (buffer : Buffer) (index : Nat) : UInt8 := buffer.bytes.getD index 0

def slice (buffer : Buffer) (start count : Nat) : List UInt8 :=
  (List.range count).map fun index => buffer.byte (start + index)

def received (buffer : Buffer) : List UInt8 := buffer.bytes.take buffer.length

/-- The bytes from `start` up to the first zero, at most `fuel` of them. -/
def textFrom (buffer : Buffer) (start : Nat) : Nat → List UInt8
  | 0 => []
  | fuel + 1 =>
      if buffer.byte start = 0 then [] else buffer.byte start :: buffer.textFrom (start + 1) fuel

def text (buffer : Buffer) (start : Nat) : List UInt8 :=
  buffer.textFrom start (buffer.bytes.length - start)

@[simp] theorem length_slice (buffer : Buffer) (start count : Nat) :
    (buffer.slice start count).length = count := by
  simp [slice]

theorem slice_getElem (buffer : Buffer) (start count index : Nat)
    (bound : index < (buffer.slice start count).length) :
    (buffer.slice start count)[index] = buffer.byte (start + index) := by
  simp [slice]

theorem slice_congr (first second : Buffer) (left right count : Nat)
    (agree : ∀ index, index < count → first.byte (left + index) = second.byte (right + index)) :
    first.slice left count = second.slice right count :=
  List.map_congr_left fun index member => agree index (List.mem_range.mp member)

theorem slice_append (buffer : Buffer) (start first second : Nat) :
    buffer.slice start (first + second) =
      buffer.slice start first ++ buffer.slice (start + first) second := by
  simp [slice, List.range_add, Nat.add_assoc, Function.comp_def]

/-- A datagram that fills its memory. -/
def ofBytes (bytes : List UInt8) : Buffer := ⟨bytes, bytes.length, Nat.le_refl _⟩

/-- From `start` on the buffer received these bytes, and perhaps more. -/
def Holds (buffer : Buffer) (start : Nat) (bytes : List UInt8) : Prop :=
  start + bytes.length ≤ buffer.length ∧ buffer.slice start bytes.length = bytes

theorem Holds.room {buffer : Buffer} {start : Nat} {bytes : List UInt8}
    (holds : buffer.Holds start bytes) : start + bytes.length ≤ buffer.length := holds.1

theorem holds_append (buffer : Buffer) (start : Nat) (first second : List UInt8) :
    buffer.Holds start (first ++ second) ↔
      buffer.Holds start first ∧ buffer.Holds (start + first.length) second := by
  simp only [Holds, List.length_append, slice_append]
  constructor
  · rintro ⟨room, same⟩
    obtain ⟨left, right⟩ := List.append_inj same (by simp)
    exact ⟨⟨by omega, left⟩, by omega, right⟩
  · rintro ⟨⟨_, left⟩, room, right⟩
    exact ⟨by omega, by rw [left, right]⟩

theorem Holds.left {buffer : Buffer} {start : Nat} {first second : List UInt8}
    (holds : buffer.Holds start (first ++ second)) : buffer.Holds start first :=
  ((holds_append buffer start first second).mp holds).1

theorem Holds.right {buffer : Buffer} {start : Nat} {first second : List UInt8}
    (holds : buffer.Holds start (first ++ second)) :
    buffer.Holds (start + first.length) second :=
  ((holds_append buffer start first second).mp holds).2

end Buffer

/-- The bytes a skip moves over: `count` rounded up to whole quads, with the
rounding done in 32-bit arithmetic, so that it wraps for the three largest counts. -/
def quadBytes (count : UInt32) : Nat := 4 * ((count + 3) / 4).toNat

theorem quadBytes_toNat (count : UInt32) (small : count.toNat < 2 ^ 32 - 3) :
    quadBytes count = 4 * ((count.toNat + 3) / 4) := by
  simp only [quadBytes, UInt32.toNat_div, UInt32.toNat_add, UInt32.reduceToNat]
  rw [Nat.mod_eq_of_lt (by omega)]

theorem le_quadBytes (count : UInt32) (small : count.toNat < 2 ^ 32 - 3) :
    count.toNat ≤ quadBytes count := by
  rw [quadBytes_toNat count small]
  omega

structure State (sig : Signature) where
  cursor : Nat
  marks : sig.Mark → Nat
  store : (var : sig.Var) → sig.val var
  ticks : sig.Counter → Nat

/-- An emitted event with the counters as they stood when it was emitted. -/
structure Stamped (sig : Signature) where
  event : sig.Event
  ticks : sig.Counter → Nat

/-- What running a program produces. The state of a stopped run is kept: what
outlives a datagram is read from it. -/
structure Run (sig : Signature) (α : Type) where
  outcome : Except sig.Stop α
  state : State sig
  trace : List (Stamped sig)
  notes : List (sig.Note × Nat)

inductive Op (sig : Signature) where
  | take (count : Nat)
  | skip (count : UInt32)
  | jump (count : Nat)
  | survey
  | mark (name : sig.Mark)
  | since (name : sig.Mark)
  | peek (name : sig.Mark) (offset count : Nat)
  | peekText (name : sig.Mark) (offset : Nat)
  | get (var : sig.Var)
  | set (var : sig.Var) (value : sig.val var)
  | emit (event : sig.Event)
  | tick (counter : sig.Counter)
  | note (mark : sig.Note)
  | stop (reason : sig.Stop)

def Op.Reply {sig : Signature} : Op sig → Type
  | .take _ => List UInt8
  | .skip _ => List UInt8
  | .survey => List UInt8 × Nat
  | .since _ => Nat
  | .peek _ _ _ => List UInt8
  | .peekText _ _ => List UInt8
  | .get var => sig.val var
  | .stop _ => Empty
  | _ => Unit

inductive Decoder (sig : Signature) (α : Type) where
  | protected pure (value : α)
  | act (op : Op sig) (next : op.Reply → Decoder sig α)

variable {sig : Signature} {α β γ : Type}

namespace Decoder

protected def bind : Decoder sig α → (α → Decoder sig β) → Decoder sig β
  | .pure value, next => next value
  | .act op rest, next => .act op fun reply => (rest reply).bind next

instance : Monad (Decoder sig) where
  pure := Decoder.pure
  bind := Decoder.bind

theorem bind_pure (program : Decoder sig α) : program.bind Decoder.pure = program := by
  induction program with
  | pure value => rfl
  | act op next ih => exact congrArg (Decoder.act op) (funext ih)

theorem bind_assoc (program : Decoder sig α) (first : α → Decoder sig β)
    (second : β → Decoder sig γ) :
    (program.bind first).bind second = program.bind fun value => (first value).bind second := by
  induction program with
  | pure value => rfl
  | act op next ih => exact congrArg (Decoder.act op) (funext ih)

instance : LawfulMonad (Decoder sig) :=
  LawfulMonad.mk' (Decoder sig) bind_pure (fun _ _ => rfl) bind_assoc

@[simp] theorem pure_eq (value : α) : (pure value : Decoder sig α) = .pure value := rfl

@[simp] theorem bind_eq (program : Decoder sig α) (next : α → Decoder sig β) :
    program >>= next = program.bind next := rfl

def take (count : Nat) : Decoder sig (List UInt8) := .act (.take count) .pure
def skip (count : UInt32) : Decoder sig (List UInt8) := .act (.skip count) .pure
def jump (count : Nat) : Decoder sig Unit := .act (.jump count) .pure
def survey : Decoder sig (List UInt8 × Nat) := .act .survey .pure
def mark (name : sig.Mark) : Decoder sig Unit := .act (.mark name) .pure
def since (name : sig.Mark) : Decoder sig Nat := .act (.since name) .pure
def peek (name : sig.Mark) (offset count : Nat) : Decoder sig (List UInt8) :=
  .act (.peek name offset count) .pure
def peekText (name : sig.Mark) (offset : Nat) : Decoder sig (List UInt8) :=
  .act (.peekText name offset) .pure
def get (var : sig.Var) : Decoder sig (sig.val var) := .act (.get var) .pure
def set (var : sig.Var) (value : sig.val var) : Decoder sig Unit := .act (.set var value) .pure
def emit (event : sig.Event) : Decoder sig Unit := .act (.emit event) .pure
def tick (counter : sig.Counter) : Decoder sig Unit := .act (.tick counter) .pure
def note (mark : sig.Note) : Decoder sig Unit := .act (.note mark) .pure
def stop (reason : sig.Stop) : Decoder sig α := .act (.stop reason) fun reply => nomatch reply

def when (guard : Prop) [Decidable guard] (program : Decoder sig Unit) : Decoder sig Unit :=
  if guard then program else .pure ()

theorem when_pos {guard : Prop} [Decidable guard] (holds : guard) (program : Decoder sig Unit) :
    when guard program = program :=
  if_pos holds

theorem when_neg {guard : Prop} [Decidable guard] (fails : ¬guard) (program : Decoder sig Unit) :
    when guard program = Pure.pure () :=
  if_neg fails

end Decoder

namespace State

def moved (state : State sig) (count : Nat) : State sig :=
  { state with cursor := state.cursor + count }

def marked (state : State sig) (name : sig.Mark) : State sig :=
  { state with marks := Function.update state.marks name state.cursor }

def assigned (state : State sig) (var : sig.Var) (value : sig.val var) : State sig :=
  { state with store := Function.update state.store var value }

def ticked (state : State sig) (counter : sig.Counter) : State sig :=
  { state with ticks := Function.update state.ticks counter (state.ticks counter + 1) }

@[simp] theorem moved_cursor (state : State sig) (count : Nat) :
    (state.moved count).cursor = state.cursor + count := rfl
@[simp] theorem marked_cursor (state : State sig) (name : sig.Mark) :
    (state.marked name).cursor = state.cursor := rfl
@[simp] theorem marked_marks (state : State sig) (name : sig.Mark) :
    (state.marked name).marks name = state.cursor := Function.update_self ..
theorem marked_other (state : State sig) (name other : sig.Mark) (differs : other ≠ name) :
    (state.marked name).marks other = state.marks other := Function.update_of_ne differs ..
@[simp] theorem moved_marks (state : State sig) (count : Nat) :
    (state.moved count).marks = state.marks := rfl
@[simp] theorem assigned_marks (state : State sig) (var : sig.Var) (value : sig.val var) :
    (state.assigned var value).marks = state.marks := rfl
@[simp] theorem assigned_cursor (state : State sig) (var : sig.Var) (value : sig.val var) :
    (state.assigned var value).cursor = state.cursor := rfl
theorem assigned_comm (state : State sig) {one two : sig.Var} (differ : one ≠ two)
    (first : sig.val one) (second : sig.val two) :
    (state.assigned one first).assigned two second =
      (state.assigned two second).assigned one first := by
  simp only [assigned, Function.update_comm differ]
theorem assigned_self (state : State sig) (var : sig.Var) :
    state.assigned var (state.store var) = state := by
  simp only [assigned, Function.update_eq_self]
theorem assigned_twice (state : State sig) (var : sig.Var) (first second : sig.val var) :
    (state.assigned var first).assigned var second = state.assigned var second := by
  simp only [assigned, Function.update_idem]
@[simp] theorem assigned_store (state : State sig) (var : sig.Var) (value : sig.val var) :
    (state.assigned var value).store var = value := Function.update_self ..
@[simp] theorem ticked_cursor (state : State sig) (counter : sig.Counter) :
    (state.ticked counter).cursor = state.cursor := rfl

end State

namespace Run

def reply (value : α) (state : State sig) : Run sig α := ⟨.ok value, state, [], []⟩

def halt (reason : sig.Stop) (state : State sig) : Run sig α := ⟨.error reason, state, [], []⟩

/-- The run of a program after the run that led to it. -/
def after (later : Run sig β) (earlier : Run sig α) : Run sig β :=
  { later with trace := earlier.trace ++ later.trace, notes := earlier.notes ++ later.notes }

def bind (first : Run sig α) (next : α → State sig → Run sig β) : Run sig β :=
  match first.outcome with
  | .ok value => (next value first.state).after first
  | .error reason => ⟨.error reason, first.state, first.trace, first.notes⟩

/-- Where the run returns, its value and final state meet `holds`. -/
def Returning (first : Run sig α) (holds : α → State sig → Prop) : Prop :=
  match first.outcome with
  | .ok value => holds value first.state
  | .error _ => True

end Run

/-- One operation: the only place where the buffer and the state are touched. -/
def perform (buffer : Buffer) : (op : Op sig) → State sig → Run sig op.Reply
  | .take count, state =>
      if state.cursor + count ≤ buffer.length then
        .reply (buffer.slice state.cursor count) (state.moved count)
      else .halt sig.eos (state.moved count)
  | .skip count, state =>
      if count.toNat ≤ buffer.length ∧ state.cursor + quadBytes count ≤ buffer.length then
        .reply (buffer.slice state.cursor (quadBytes count)) (state.moved (quadBytes count))
      else .halt sig.eos (state.moved (quadBytes count))
  | .jump count, state => .reply () (state.moved count)
  | .survey, state => .reply (buffer.received, state.cursor) state
  | .mark name, state => .reply () (state.marked name)
  | .since name, state => .reply (state.cursor - state.marks name) state
  | .peek name offset count, state =>
      .reply (buffer.slice (state.marks name + offset) count) state
  | .peekText name offset, state => .reply (buffer.text (state.marks name + offset)) state
  | .get var, state => .reply (state.store var) state
  | .set var value, state => .reply () (state.assigned var value)
  | .emit event, state => ⟨.ok (), state, [⟨event, state.ticks⟩], []⟩
  | .tick counter, state => .reply () (state.ticked counter)
  | .note mark, state => ⟨.ok (), state, [], [(mark, state.cursor)]⟩
  | .stop reason, state => .halt reason state

def run (buffer : Buffer) : Decoder sig α → State sig → Run sig α
  | .pure value, state => .reply value state
  | .act op next, state =>
      (perform buffer op state).bind fun reply middle => run buffer (next reply) middle

namespace Run

@[simp] theorem reply_bind (value : α) (state : State sig) (next : α → State sig → Run sig β) :
    (reply value state).bind next = next value state := rfl

@[simp] theorem halt_bind (reason : sig.Stop) (state : State sig)
    (next : α → State sig → Run sig β) : (halt reason state).bind next = halt reason state := rfl

@[simp] theorem bind_reply (first : Run sig α) : first.bind reply = first := by
  obtain ⟨outcome, state, trace, notes⟩ := first
  cases outcome <;> simp [bind, after, reply]

theorem bind_assoc (first : Run sig α) (second : α → State sig → Run sig β)
    (third : β → State sig → Run sig γ) :
    (first.bind second).bind third =
      first.bind fun value state => (second value state).bind third := by
  obtain ⟨outcome, state, trace, notes⟩ := first
  cases outcome with
  | error reason => rfl
  | ok value =>
      simp only [bind, after]
      cases (second value state).outcome <;> simp [List.append_assoc]

end Run

@[simp] theorem run_pure (buffer : Buffer) (value : α) (state : State sig) :
    run buffer (.pure value) state = .reply value state := rfl

theorem run_act (buffer : Buffer) (op : Op sig) (next : op.Reply → Decoder sig α)
    (state : State sig) : run buffer (.act op next) state =
      (perform buffer op state).bind fun reply middle => run buffer (next reply) middle := rfl

/-- Running a composition is running the first program and then the rest from
the state it left. -/
theorem run_bind (buffer : Buffer) (program : Decoder sig α) (next : α → Decoder sig β)
    (state : State sig) : run buffer (program.bind next) state =
      (run buffer program state).bind fun value middle => run buffer (next value) middle := by
  induction program generalizing state with
  | pure value => rfl
  | act op rest ih =>
      rw [Decoder.bind, run_act, run_act, Run.bind_assoc]
      congr 1
      funext reply middle
      exact ih reply middle

theorem run_seq (buffer : Buffer) (program : Decoder sig α) (next : α → Decoder sig β)
    (state : State sig) : run buffer (program >>= next) state =
      (run buffer program state).bind fun value middle => run buffer (next value) middle :=
  run_bind buffer program next state

theorem perform_cursor (buffer : Buffer) (op : Op sig) (state : State sig) :
    state.cursor ≤ (perform buffer op state).state.cursor := by
  cases op with
  | take count => simp only [perform]; split <;> simp [Run.reply, Run.halt]
  | skip count => simp only [perform]; split <;> simp [Run.reply, Run.halt]
  | jump count => exact Nat.le_add_right _ _
  | _ => exact Nat.le_refl _

/-- No run moves the cursor back. -/
theorem run_cursor (buffer : Buffer) (program : Decoder sig α) (state : State sig) :
    state.cursor ≤ (run buffer program state).state.cursor := by
  induction program generalizing state with
  | pure value => exact Nat.le_refl _
  | act op next ih =>
      have first := perform_cursor buffer op state
      rw [run_act]
      generalize perform buffer op state = performed at first ⊢
      obtain ⟨outcome, middle, trace, notes⟩ := performed
      cases outcome with
      | error reason => exact first
      | ok reply => exact Nat.le_trans first (ih reply middle)

theorem run_single (buffer : Buffer) (op : Op sig) (state : State sig) :
    run buffer (.act op .pure) state = perform buffer op state :=
  Run.bind_reply _

theorem run_take (buffer : Buffer) (count : Nat) (state : State sig)
    (room : state.cursor + count ≤ buffer.length) : run buffer (.take count) state =
      .reply (buffer.slice state.cursor count) (state.moved count) :=
  (run_single buffer (.take count) state).trans (if_pos room)

theorem run_skip (buffer : Buffer) (count : UInt32) (state : State sig)
    (known : count.toNat ≤ buffer.length)
    (room : state.cursor + quadBytes count ≤ buffer.length) : run buffer (.skip count) state =
      .reply (buffer.slice state.cursor (quadBytes count)) (state.moved (quadBytes count)) :=
  (run_single buffer (.skip count) state).trans (if_pos ⟨known, room⟩)

end Decoding
