import SflowTool.Decoder

/-! Two-run facts about decoders. A run whose unchecked peeks all fall inside
the received bytes does not depend on what lies behind them; a run that writes
a cell before it reads it does not depend on what the cell held; and a run
confined to a window does the same wherever the window lies. Each side condition
is a predicate on the run itself, computed along the program. -/
namespace Decoding
variable {sig : Signature} {α β : Type}

/-- Something a run carries from one operation to the next. -/
abbrev Cell (sig : Signature) := sig.Var ⊕ sig.Mark

/-- The bytes an operation reads without a check lie in `[low, high)`. -/
def PeekInside (buffer : Buffer) (low high : Nat) (state : State sig) : Op sig → Prop
  | .peek name offset count => ∀ index < count,
      low ≤ state.marks name + offset + index ∧ state.marks name + offset + index < high
  | .peekText name offset => low ≤ state.marks name + offset ∧
      state.marks name + offset + (buffer.text (state.marks name + offset)).length < high
  | _ => True

instance decidablePeekInside (buffer : Buffer) (low high : Nat) (state : State sig) :
    (op : Op sig) → Decidable (PeekInside buffer low high state op)
  | .peek name offset count => inferInstanceAs (Decidable (∀ index < count,
      low ≤ state.marks name + offset + index ∧ state.marks name + offset + index < high))
  | .peekText name offset => inferInstanceAs (Decidable (low ≤ state.marks name + offset ∧
      state.marks name + offset + (buffer.text (state.marks name + offset)).length < high))
  | .take _ | .skip _ | .jump _ | .survey | .mark _ | .since _ | .get _ | .set _ _ | .emit _
  | .tick _ | .note _ | .stop _ => .isTrue trivial

/-- Every operation of the run from `state` meets `holds` where it is performed. -/
def Along (buffer : Buffer) (holds : State sig → Op sig → Prop) :
    Decoder sig α → State sig → Prop
  | .pure _, _ => True
  | .act op next, state => holds state op ∧
      (perform buffer op state).Returning fun reply middle => Along buffer holds (next reply) middle

instance decidableReturning (performed : Run sig α) (holds : α → State sig → Prop)
    [decide : ∀ value state, Decidable (holds value state)] :
    Decidable (performed.Returning holds) :=
  match performed with
  | ⟨.ok value, state, _, _⟩ => decide value state
  | ⟨.error _, _, _, _⟩ => .isTrue trivial

instance decidableAlong (buffer : Buffer) (holds : State sig → Op sig → Prop)
    [decide : ∀ state op, Decidable (holds state op)] :
    (program : Decoder sig α) → (state : State sig) → Decidable (Along buffer holds program state)
  | .pure _, _ => .isTrue trivial
  | .act op next, _ =>
      have (reply : op.Reply) (middle : State sig) :
          Decidable (Along buffer holds (next reply) middle) :=
        decidableAlong buffer holds (next reply) middle
      inferInstanceAs (Decidable (_ ∧ _))

/-- Every unchecked read of the run from `state` lies in `[low, high)`. -/
def PeeksInside (buffer : Buffer) (low high : Nat) (program : Decoder sig α)
    (state : State sig) : Prop :=
  Along buffer (PeekInside buffer low high) program state

instance (buffer : Buffer) (low high : Nat) (program : Decoder sig α) (state : State sig) :
    Decidable (PeeksInside buffer low high program state) :=
  decidableAlong buffer _ program state

/-- An operation reads no stale cell; surveying the datagram reads everything, and a look at no
bytes nothing. -/
def ReadsFresh (stale : Cell sig → Prop) : Op sig → Prop
  | .get var => ¬stale (.inl var)
  | .since name => ¬stale (.inr name)
  | .peek name _ count => count = 0 ∨ ¬stale (.inr name)
  | .peekText name _ => ¬stale (.inr name)
  | .survey => False
  | _ => True

instance decidableReadsFresh (stale : Cell sig → Prop) [decide : ∀ cell, Decidable (stale cell)] :
    (op : Op sig) → Decidable (ReadsFresh stale op)
  | .get var => inferInstanceAs (Decidable ¬stale (.inl var))
  | .since name | .peekText name _ => inferInstanceAs (Decidable ¬stale (.inr name))
  | .peek name _ count => inferInstanceAs (Decidable (count = 0 ∨ ¬stale (.inr name)))
  | .survey => .isFalse id
  | .take _ | .skip _ | .jump _ | .mark _ | .set _ _ | .emit _ | .tick _ | .note _ | .stop _ =>
      .isTrue trivial

/-- The cells still stale after an operation. -/
def settle (stale : Cell sig → Prop) : Op sig → Cell sig → Prop
  | .set var _ => fun cell => cell ≠ .inl var ∧ stale cell
  | .mark name => fun cell => cell ≠ .inr name ∧ stale cell
  | _ => stale

/-- The run from `state` writes every stale cell before it reads it. -/
def WritesFirst (buffer : Buffer) : (Cell sig → Prop) → Decoder sig α → State sig → Prop
  | _, .pure _, _ => True
  | stale, .act op next, state => ReadsFresh stale op ∧
      (perform buffer op state).Returning fun reply middle =>
        WritesFirst buffer (settle stale op) (next reply) middle

instance decidableSettle [DecidableEq sig.Var] [DecidableEq sig.Mark] (stale : Cell sig → Prop)
    [decide : ∀ cell, Decidable (stale cell)] :
    (op : Op sig) → (cell : Cell sig) → Decidable (settle stale op cell)
  | .set var _, cell => inferInstanceAs (Decidable (cell ≠ .inl var ∧ stale cell))
  | .mark name, cell => inferInstanceAs (Decidable (cell ≠ .inr name ∧ stale cell))
  | .take _, cell | .skip _, cell | .jump _, cell | .survey, cell | .since _, cell
  | .peek _ _ _, cell | .peekText _ _, cell | .get _, cell | .emit _, cell | .tick _, cell
  | .note _, cell | .stop _, cell => decide cell

instance decidableWritesFirst [DecidableEq sig.Var] [DecidableEq sig.Mark] (buffer : Buffer) :
    (stale : Cell sig → Prop) → [∀ cell, Decidable (stale cell)] → (program : Decoder sig α) →
    (state : State sig) → Decidable (WritesFirst buffer stale program state)
  | _, _, .pure _, _ => .isTrue trivial
  | stale, _, .act op next, _ =>
      have (reply : op.Reply) (middle : State sig) :
          Decidable (WritesFirst buffer (settle stale op) (next reply) middle) :=
        decidableWritesFirst buffer (settle stale op) (next reply) middle
      inferInstanceAs (Decidable (_ ∧ _))

theorem along_bind (buffer : Buffer) (holds : State sig → Op sig → Prop)
    (program : Decoder sig α) (next : α → Decoder sig β) (state : State sig) :
    Along buffer holds (program.bind next) state ↔ Along buffer holds program state ∧
      (run buffer program state).Returning fun value middle =>
        Along buffer holds (next value) middle := by
  induction program generalizing state with
  | pure value =>
      simp [Decoder.bind, Along, Run.reply, Run.Returning]
  | act op rest ih =>
      simp only [Decoder.bind, Along, run_act, Run.bind, Run.after]
      obtain ⟨outcome, middle, trace, notes⟩ := perform buffer op state
      cases outcome with
      | error reason => simp [Run.Returning]
      | ok reply => simp only [Run.Returning, ih, and_assoc]

/-- Two buffers that answer every operation of a run alike run the program alike. -/
theorem run_of_along (first second : Buffer) (holds : State sig → Op sig → Prop)
    (same : ∀ state op, holds state op → perform second op state = perform first op state)
    (program : Decoder sig α) (state : State sig) (along : Along first holds program state) :
    run second program state = run first program state := by
  induction program generalizing state with
  | pure value => rfl
  | act op next ih =>
      rw [run_act, run_act, same state op along.1]
      have rest := along.2
      generalize perform first op state = performed at rest ⊢
      obtain ⟨outcome, middle, trace, notes⟩ := performed
      cases outcome with
      | error reason => rfl
      | ok reply => simp only [Run.bind, ih reply middle rest]

namespace Buffer

theorem textFrom_congr (first second : Buffer) (left right : Nat) (one two : Nat)
    (ended : (first.textFrom left one).length < one)
    (agree : ∀ index, index ≤ (first.textFrom left one).length →
      first.byte (left + index) = second.byte (right + index))
    (room : (first.textFrom left one).length < two) :
    second.textFrom right two = first.textFrom left one := by
  induction one generalizing left right two with
  | zero => simp at ended
  | succ one ih =>
      obtain ⟨two, rfl⟩ : ∃ fuel, two = fuel + 1 := ⟨two - 1, by omega⟩
      have head := agree 0 (Nat.zero_le _)
      simp only [Nat.add_zero] at head
      by_cases zero : first.byte left = 0
      · simp [textFrom, zero, ← head]
      · simp only [textFrom, zero, ↓reduceIte, List.length_cons] at ended agree room ⊢
        rw [← head, if_neg zero, ih (left + 1) (right + 1) two (by omega) ?_ (by omega)]
        intro index bound
        have shifted := agree (index + 1) (by omega)
        simpa only [Nat.add_assoc, Nat.add_comm 1 index] using shifted

theorem text_congr (first second : Buffer) (left right : Nat)
    (ended : left + (first.text left).length < first.bytes.length)
    (room : right + (first.text left).length < second.bytes.length)
    (agree : ∀ index, index ≤ (first.text left).length →
      first.byte (left + index) = second.byte (right + index)) :
    second.text right = first.text left :=
  textFrom_congr first second left right _ _ (by unfold text at ended; omega) agree
    (by unfold text at room; omega)

/-- Two buffers hold the same bytes in a window of `width` bytes. -/
def SameWindow (first second : Buffer) (left right width : Nat) : Prop :=
  ∀ index, index < width → first.byte (left + index) = second.byte (right + index)

theorem received_congr (first second : Buffer) (same : first.length = second.length)
    (agree : SameWindow first second 0 0 first.length) : first.received = second.received := by
  have left := first.held
  have right := second.held
  apply List.ext_getElem
  · simp only [received, List.length_take]
    omega
  · intro index bound _
    simp only [received, List.length_take] at bound
    have equal := agree index (by omega)
    simp only [byte, Nat.zero_add] at equal
    simpa [received, List.getD_eq_getElem?_getD,
      List.getElem?_eq_getElem (show index < first.bytes.length by omega),
      List.getElem?_eq_getElem (show index < second.bytes.length by omega)] using equal

end Buffer

/-- Operations whose unchecked reads stay below the received length see only
received bytes. -/
theorem perform_local (first second : Buffer) (same : first.length = second.length)
    (agree : first.SameWindow second 0 0 first.length) (state : State sig) (op : Op sig)
    (inside : PeekInside first 0 first.length state op) :
    perform second op state = perform first op state := by
  have sliced (start count : Nat)
      (bound : ∀ index < count, start + index < first.length) :
      second.slice start count = first.slice start count :=
    (Buffer.slice_congr first second start start count fun index small => by
      simpa using agree (start + index) (bound index small)).symm
  cases op with
  | take count =>
      simp only [perform, ← same]
      split
      · rw [sliced _ _ (by omega)]
      · rfl
  | skip count =>
      simp only [perform, ← same]
      split
      · rw [sliced _ _ (by omega)]
      · rfl
  | survey => simp only [perform, Buffer.received_congr first second same agree]
  | peek name offset count =>
      simp only [perform, sliced _ _ fun index small => (inside index small).2]
  | peekText name offset =>
      have bound := inside.2
      have left := first.held
      have right := second.held
      have read := Buffer.text_congr first second (state.marks name + offset)
        (state.marks name + offset) (by omega) (by omega) fun index small => by
          simpa using agree (state.marks name + offset + index) (by omega)
      simp only [perform, read]
  | _ => rfl

/-- A run whose unchecked reads stay inside the received bytes is a function of
those bytes alone. -/
theorem run_local (first second : Buffer) (same : first.length = second.length)
    (agree : first.SameWindow second 0 0 first.length) (program : Decoder sig α)
    (state : State sig) (inside : PeeksInside first 0 first.length program state) :
    run second program state = run first program state :=
  run_of_along first second _ (perform_local first second same agree) program state inside

/-- Two states that differ by where their window lies and in stale cells. -/
structure Displaced (stale : Cell sig → Prop) (left right : Nat)
    (first second : State sig) : Prop where
  cursor : ∃ offset, first.cursor = left + offset ∧ second.cursor = right + offset
  store : ∀ var, ¬stale (.inl var) → second.store var = first.store var
  marks : ∀ name, ¬stale (.inr name) →
    ∃ offset, first.marks name = left + offset ∧ second.marks name = right + offset

/-- What writes some cells before it reads them does so for fewer. -/
theorem WritesFirst.mono {buffer : Buffer} {stale fewer : Cell sig → Prop}
    (subset : ∀ cell, fewer cell → stale cell) {program : Decoder sig α} {state : State sig}
    (fresh : WritesFirst buffer stale program state) : WritesFirst buffer fewer program state := by
  induction program generalizing stale fewer state with
  | pure value => trivial
  | act op next ih =>
      constructor
      · have first := fresh.1
        cases op with
        | get var => exact fun old => first (subset _ old)
        | since name => exact fun old => first (subset _ old)
        | peekText name offset => exact fun old => first (subset _ old)
        | peek name offset count => exact first.imp id fun other old => other (subset _ old)
        | survey => exact first
        | _ => trivial
      · have settled : ∀ cell, settle fewer op cell → settle stale op cell := by
          intro cell old
          cases op with
          | set var value => exact ⟨old.1, subset _ old.2⟩
          | mark name => exact ⟨old.1, subset _ old.2⟩
          | _ => exact subset _ old
        have later := fresh.2
        generalize perform buffer op state = performed at later ⊢
        obtain ⟨outcome, middle, trace, notes⟩ := performed
        cases outcome with
        | error reason => trivial
        | ok reply => exact ih reply settled later

/-- Two runs that produce the same, positions and counters aside. -/
structure Mirrors (stale : Cell sig → Prop) (left right : Nat)
    (first second : Run sig α) : Prop where
  outcome : second.outcome = first.outcome
  state : Displaced stale left right first.state second.state
  events : second.trace.map Stamped.event = first.trace.map Stamped.event
  notes : second.notes.map Prod.fst = first.notes.map Prod.fst

theorem Displaced.moved {stale : Cell sig → Prop} {left right : Nat} {first second : State sig}
    (related : Displaced stale left right first second) (count : Nat) :
    Displaced stale left right (first.moved count) (second.moved count) := by
  obtain ⟨offset, one, two⟩ := related.cursor
  refine ⟨⟨offset + count, ?_, ?_⟩, related.store, related.marks⟩
  · rw [State.moved_cursor, one, Nat.add_assoc]
  · rw [State.moved_cursor, two, Nat.add_assoc]

theorem Displaced.assigned {stale : Cell sig → Prop} {left right : Nat}
    {first second : State sig} (related : Displaced stale left right first second)
    (var : sig.Var) (value : sig.val var) :
    Displaced (settle stale (.set var value)) left right (first.assigned var value)
      (second.assigned var value) where
  cursor := related.cursor
  store other fresh := by
    by_cases same : other = var
    · subst same
      simp [State.assigned]
    · simp only [State.assigned, Function.update_of_ne same]
      exact related.store other fun old => fresh ⟨by simpa using same, old⟩
  marks name fresh := related.marks name fun old => fresh ⟨by simp, old⟩

theorem Displaced.marked {stale : Cell sig → Prop} {left right : Nat}
    {first second : State sig} (related : Displaced stale left right first second)
    (name : sig.Mark) :
    Displaced (settle stale (.mark name)) left right (first.marked name)
      (second.marked name) where
  cursor := related.cursor
  store var fresh := related.store var fun old => fresh ⟨by simp, old⟩
  marks other fresh := by
    by_cases same : other = name
    · subst same
      simpa [State.marked] using related.cursor
    · simp only [State.marked, Function.update_of_ne same]
      exact related.marks other fun old => fresh ⟨by simpa using same, old⟩

theorem Displaced.weaken {strong weak : Cell sig → Prop} {left right : Nat}
    {first second : State sig} (related : Displaced strong left right first second)
    (fewer : ∀ cell, strong cell → weak cell) : Displaced weak left right first second :=
  ⟨related.cursor, fun var fresh => related.store var fun old => fresh (fewer _ old),
    fun name fresh => related.marks name fun old => fresh (fewer _ old)⟩

theorem settle_subset (stale : Cell sig → Prop) (op : Op sig) (cell : Cell sig)
    (old : settle stale op cell) : stale cell := by
  cases op <;> first | exact old | exact old.2

/-- One operation does the same in both windows, once it is known to stay in
the first and to read nothing stale. -/
theorem perform_mirrors (first second : Buffer) (left right width : Nat)
    (window : first.SameWindow second left right width)
    (small : first.length < 2 ^ 32 - 3) (room : right + width ≤ second.length)
    (stale : Cell sig → Prop) (op : Op sig) (one two : State sig)
    (related : Displaced stale left right one two) (fresh : ReadsFresh stale op)
    (inside : PeekInside first left (left + width) one op) (within : left + width ≤ first.length)
    (fits : (perform first op one).state.cursor ≤ left + width)
    (reply : op.Reply) (done : (perform first op one).outcome = .ok reply) :
    Mirrors (settle stale op) left right (perform first op one) (perform second op two) := by
  obtain ⟨offset, here, there⟩ := related.cursor
  -- all that is read of a datagram is a slice of the window
  have sliced (start count : Nat) (bound : start + count ≤ width) :
      second.slice (right + start) count = first.slice (left + start) count :=
    (Buffer.slice_congr first second _ _ count fun index low => by
      simpa only [Nat.add_assoc] using window (start + index) (by omega)).symm
  cases op with
  | take count =>
      have bound : one.cursor + count ≤ left + width := by
        simp only [perform] at fits
        split at fits <;> exact fits
      simp only [perform, if_pos (show one.cursor + count ≤ first.length by omega),
        if_pos (show two.cursor + count ≤ second.length by omega)]
      rw [here, there, sliced offset count (by omega)]
      exact ⟨rfl, related.moved count, rfl, rfl⟩
  | skip count =>
      have bound : one.cursor + quadBytes count ≤ left + width := by
        simp only [perform] at fits
        split at fits <;> exact fits
      have known : count.toNat ≤ first.length := by
        simp only [perform] at done
        split at done
        · next both => exact both.1
        · cases done
      have rounded := le_quadBytes count (by omega)
      simp only [perform, if_pos (show count.toNat ≤ first.length ∧
          one.cursor + quadBytes count ≤ first.length by omega),
        if_pos (show count.toNat ≤ second.length ∧
          two.cursor + quadBytes count ≤ second.length by omega)]
      rw [here, there, sliced offset _ (by omega)]
      exact ⟨rfl, related.moved (quadBytes count), rfl, rfl⟩
  | jump count => exact ⟨rfl, related.moved count, rfl, rfl⟩
  | survey => exact absurd fresh id
  | mark name => exact ⟨rfl, related.marked name, rfl, rfl⟩
  | since name =>
      obtain ⟨base, old, new⟩ := related.marks name fresh
      refine ⟨?_, related, rfl, rfl⟩
      simp only [perform, Run.reply, here, there, old, new, Nat.add_sub_add_left]
  | peek name offset count =>
      refine ⟨?_, related, rfl, rfl⟩
      by_cases none : count = 0
      · subst none
        rfl
      · -- the last octet is inside, and with it those before
        obtain ⟨base, old, new⟩ := related.marks name (fresh.resolve_left none)
        have last := inside (count - 1) (by omega)
        simp only [perform, Run.reply, old, new, Nat.add_assoc]
        rw [sliced (base + offset) count (by omega)]
  | peekText name offset =>
      obtain ⟨base, old, new⟩ := related.marks name fresh
      have held := first.held
      have other := second.held
      have bound := inside.2
      rw [old] at bound
      refine ⟨?_, related, rfl, rfl⟩
      simp only [perform, Run.reply, old, new]
      rw [Buffer.text_congr first second (left + base + offset) (right + base + offset)
        (by omega) (by omega) fun index low => by
          simpa only [Nat.add_assoc] using window (base + offset + index) (by omega)]
  | get var =>
      refine ⟨?_, related, rfl, rfl⟩
      simp only [perform, Run.reply, related.store var fresh]
  | set var value => exact ⟨rfl, related.assigned var value, rfl, rfl⟩
  | emit event => exact ⟨rfl, related, rfl, rfl⟩
  | tick counter => exact ⟨rfl, ⟨related.cursor, related.store, related.marks⟩, rfl, rfl⟩
  | note mark => exact ⟨rfl, related, rfl, rfl⟩
  | stop reason => exact Empty.elim reply

theorem Mirrors.bind {stale strong : Cell sig → Prop} {left right : Nat}
    {first second : Run sig α} (related : Mirrors strong left right first second)
    (one two : α → State sig → Run sig β) (value : α) (done : first.outcome = .ok value)
    (rest : Mirrors stale left right (one value first.state) (two value second.state)) :
    Mirrors stale left right (first.bind one) (second.bind two) := by
  have other : second.outcome = .ok value := related.outcome.trans done
  simp only [Run.bind, done, other]
  exact ⟨rest.outcome, rest.state, by simp [Run.after, related.events, rest.events],
    by simp [Run.after, related.notes, rest.notes]⟩

/-- A run that returns inside its window, reads no stale cell before writing it
and peeks nowhere else does the same wherever the window lies. -/
theorem run_mirrors (first second : Buffer) (left right width : Nat)
    (window : first.SameWindow second left right width)
    (small : first.length < 2 ^ 32 - 3) (within : left + width ≤ first.length)
    (room : right + width ≤ second.length)
    (program : Decoder sig α) (stale : Cell sig → Prop) (one two : State sig)
    (related : Displaced stale left right one two)
    (fresh : WritesFirst first stale program one)
    (inside : PeeksInside first left (left + width) program one)
    (value : α) (done : (run first program one).outcome = .ok value)
    (fits : (run first program one).state.cursor ≤ left + width) :
    Mirrors stale left right (run first program one) (run second program two) := by
  induction program generalizing stale one two with
  | pure value => exact ⟨rfl, related, rfl, rfl⟩
  | act op next ih =>
      rw [run_act] at done fits
      rw [run_act, run_act]
      cases performed : (perform first op one).outcome with
      | error reason => simp [Run.bind, performed] at done
      | ok reply =>
          simp only [Run.bind, performed, Run.after] at done fits
          -- the cursor never goes back, so that it is inside all along if it is at the end
          have later := run_cursor first (next reply) (perform first op one).state
          have step := perform_mirrors first second left right width window small room stale op
            one two related fresh.1 inside.1 within (Nat.le_trans later fits) reply performed
          have fresh := fresh.2
          have inside := inside.2
          simp only [Run.Returning, performed] at fresh inside
          have rest := ih reply (settle stale op) _ _ step.state fresh inside done fits
          exact step.bind _ _ reply performed ⟨rest.outcome,
            rest.state.weaken (settle_subset stale op), rest.events, rest.notes⟩

end Decoding
