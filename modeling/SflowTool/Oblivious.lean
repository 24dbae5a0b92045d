import SflowTool.Discipline

/-! Programs that show nothing of what was there before them. Two runs start where the same
bytes are still to come, from states that share some variables and may differ in all others. A
variable that is not shared may be read, as long as what was read is only stored again. -/
namespace Decoding

variable {sig : Signature} {α β : Type}

/-- From `left` in the first buffer and from `right` in the second the same was received. -/
structure Buffer.SameRest (first second : Buffer) (left right : Nat) : Prop where
  received : ∃ rest, first.length = left + rest ∧ second.length = right + rest ∧
    ∀ index < rest, first.byte (left + index) = second.byte (right + index)
  small : first.length < 2 ^ 32 - 3 ∧ second.length < 2 ^ 32 - 3

theorem Buffer.SameRest.slice {first second : Buffer} {left right : Nat}
    (same : first.SameRest second left right) (index count : Nat)
    (room : left + index + count ≤ first.length) :
    second.slice (right + index) count = first.slice (left + index) count := by
  obtain ⟨rest, length, _, bytes⟩ := same.received
  apply Eq.symm
  apply slice_congr
  intro further bound
  simpa only [Nat.add_assoc] using bytes (index + further) (by omega)

/-- Two states as far into the same bytes, with the same in the shared variables. -/
structure Abreast (shared : sig.Var → Prop) (left right : Nat) (one two : State sig) : Prop where
  cursor : ∃ offset, one.cursor = left + offset ∧ two.cursor = right + offset
  store : ∀ var, shared var → two.store var = one.store var

/-- Two runs that end alike and show the same. -/
structure RunsAbreast (shared : sig.Var → Prop) (left right : Nat) (first second : Run sig α) :
    Prop where
  outcome : second.outcome = first.outcome
  state : Abreast shared left right first.state second.state
  events : second.trace.map Stamped.event = first.trace.map Stamped.event

section Abreast
variable {shared : sig.Var → Prop} {left right : Nat} {one two : State sig}

theorem Abreast.moved (abreast : Abreast shared left right one two) (count : Nat) :
    Abreast shared left right (one.moved count) (two.moved count) := by
  obtain ⟨offset, here, there⟩ := abreast.cursor
  refine ⟨⟨offset + count, ?_, ?_⟩, abreast.store⟩
  · rw [State.moved_cursor, here, Nat.add_assoc]
  · rw [State.moved_cursor, there, Nat.add_assoc]

/-- What is stored in a shared variable is the same in both runs. -/
theorem Abreast.assigned (abreast : Abreast shared left right one two) (var : sig.Var)
    (first second : sig.val var) (same : shared var → second = first) :
    Abreast shared left right (one.assigned var first) (two.assigned var second) where
  cursor := abreast.cursor
  store other known := by
    by_cases here : other = var
    · subst here
      simp [State.assigned, same known]
    · simp only [State.assigned, Function.update_of_ne here]
      exact abreast.store other known

end Abreast

/-- Operations that read shared variables only and look at the bytes to come only. -/
def Onward (shared : sig.Var → Prop) : Op sig → Prop
  | .get var => shared var
  | .survey | .since _ | .peek _ _ _ | .peekText _ _ => False
  | _ => True

theorem perform_abreast {first second : Buffer} {left right : Nat}
    (same : first.SameRest second left right) (shared : sig.Var → Prop) (op : Op sig)
    (onward : Onward shared op) (one two : State sig) (abreast : Abreast shared left right one two) :
    RunsAbreast shared left right (perform first op one) (perform second op two) := by
  obtain ⟨offset, here, there⟩ := abreast.cursor
  obtain ⟨rest, length, other, bytes⟩ := same.received
  have small := same.small
  cases op with
  | take count =>
      by_cases room : left + offset + count ≤ first.length
      · simp only [perform, here, there, same.slice offset count room]
        rw [if_pos room, if_pos (by omega)]
        exact ⟨rfl, abreast.moved count, rfl⟩
      · simp only [perform, here, there]
        rw [if_neg room, if_neg (by omega)]
        exact ⟨rfl, abreast.moved count, rfl⟩
  | skip count =>
      by_cases room : count.toNat ≤ first.length ∧
          left + offset + quadBytes count ≤ first.length
      · have rounded := le_quadBytes count (by omega)
        simp only [perform, here, there, same.slice offset _ room.2]
        rw [if_pos room, if_pos ⟨by omega, by omega⟩]
        exact ⟨rfl, abreast.moved (quadBytes count), rfl⟩
      · have refused : ¬(count.toNat ≤ second.length ∧
            right + offset + quadBytes count ≤ second.length) := by
          rintro ⟨known, within⟩
          have rounded := le_quadBytes count (by omega)
          exact room ⟨by omega, by omega⟩
        simp only [perform, here, there]
        rw [if_neg room, if_neg refused]
        exact ⟨rfl, abreast.moved (quadBytes count), rfl⟩
  | jump count => exact ⟨rfl, abreast.moved count, rfl⟩
  | get var =>
      refine ⟨?_, abreast, rfl⟩
      simp only [perform, Run.reply, abreast.store var onward]
  | set var value => exact ⟨rfl, abreast.assigned var value value fun _ => rfl, rfl⟩
  | mark name => exact ⟨rfl, ⟨abreast.cursor, abreast.store⟩, rfl⟩
  | tick counter => exact ⟨rfl, ⟨abreast.cursor, abreast.store⟩, rfl⟩
  | emit event => exact ⟨rfl, abreast, rfl⟩
  | note mark => exact ⟨rfl, abreast, rfl⟩
  | stop reason => exact ⟨rfl, abreast, rfl⟩
  | survey | since _ | peek _ _ _ | peekText _ _ => exact absurd onward id

/-- Two programs that do the same but for what they store in variables that are not shared. -/
inductive Similar (shared : sig.Var → Prop) : Decoder sig α → Decoder sig α → Prop where
  | pure (value : α) : Similar shared (.pure value) (.pure value)
  | onward (op : Op sig) (next next' : op.Reply → Decoder sig α) (allow : Onward shared op)
      (later : ∀ reply, Similar shared (next reply) (next' reply)) :
      Similar shared (.act op next) (.act op next')
  | get (var : sig.Var) (next next' : sig.val var → Decoder sig α)
      (later : ∀ one two, Similar shared (next one) (next' two)) :
      Similar shared (.act (.get var) next) (.act (.get var) next')
  | set (var : sig.Var) (one two : sig.val var) (next next' : Unit → Decoder sig α)
      (unshared : ¬shared var) (later : Similar shared (next ()) (next' ())) :
      Similar shared (.act (.set var one) next) (.act (.set var two) next')

theorem Similar.bind {shared : sig.Var → Prop} {program program' : Decoder sig α}
    (similar : Similar shared program program') {next next' : α → Decoder sig β}
    (rest : ∀ value, Similar shared (next value) (next' value)) :
    Similar shared (program.bind next) (program'.bind next') := by
  induction similar with
  | pure value => exact rest value
  | onward op _ _ allow _ ih => exact .onward op _ _ allow ih
  | get var _ _ _ ih => exact .get var _ _ ih
  | set var one two _ _ unshared _ ih => exact .set var one two _ _ unshared ih

theorem RunsAbreast.bind {first second : Buffer} {left right : Nat} {shared : sig.Var → Prop}
    {one two : Run sig α} (abreast : RunsAbreast shared left right one two)
    (next next' : α → State sig → Run sig β)
    (rest : ∀ value, RunsAbreast shared left right (next value one.state) (next' value two.state)) :
    RunsAbreast shared left right (one.bind next) (two.bind next') := by
  obtain ⟨outcome, state, trace, notes⟩ := one
  obtain ⟨outcome', state', trace', notes'⟩ := two
  obtain ⟨same, reached, events⟩ := abreast
  cases same
  cases outcome with
  | error reason => exact ⟨rfl, reached, events⟩
  | ok value =>
      have later := rest value
      refine ⟨later.outcome, later.state, ?_⟩
      simpa only [Run.bind, Run.after, List.map_append, events] using congrArg (_ ++ ·) later.events

/-- Similar programs show the same of the same bytes. -/
theorem run_similar {first second : Buffer} {left right : Nat}
    (same : first.SameRest second left right) {shared : sig.Var → Prop}
    {program program' : Decoder sig α} (similar : Similar shared program program')
    (one two : State sig) (abreast : Abreast shared left right one two) :
    RunsAbreast shared left right (run first program one) (run second program' two) := by
  induction similar generalizing one two with
  | pure value => exact ⟨rfl, abreast, rfl⟩
  | onward op next next' allow _ ih =>
      have single := perform_abreast same shared op allow one two abreast
      rw [run_act, run_act]
      generalize perform first op one = performed at single ⊢
      generalize perform second op two = performed' at single ⊢
      obtain ⟨outcome, middle, trace, notes⟩ := performed
      obtain ⟨outcome', middle', trace', notes'⟩ := performed'
      obtain ⟨replied, reached, events⟩ := single
      cases replied
      cases outcome with
      | error reason => exact ⟨rfl, reached, events⟩
      | ok reply =>
          have later := ih reply middle middle' reached
          refine ⟨later.outcome, later.state, ?_⟩
          simpa only [Run.bind, Run.after, List.map_append, events] using
            congrArg (_ ++ ·) later.events
  | get var next next' _ ih =>
      -- the replies may differ, and what follows is similar whatever they are
      have later := ih (one.store var) (two.store var) one two abreast
      exact ⟨later.outcome, later.state, later.events⟩
  | set var value value' next next' unshared _ ih =>
      have later := ih (one.assigned var value) (two.assigned var value')
        (abreast.assigned var value value' fun known => absurd known unshared)
      exact ⟨later.outcome, later.state, later.events⟩

/-- A program that shows nothing but what it reads from where it starts, and what the shared
variables held. -/
class Oblivious (shared : sig.Var → Prop) (program : Decoder sig α) : Prop where
  similar : Similar shared program program

section Oblivious
variable {shared : sig.Var → Prop}

instance oblivious_pure (value : α) : Oblivious shared (Pure.pure value : Decoder sig α) :=
  ⟨.pure value⟩

instance oblivious_bind (program : Decoder sig α) (next : α → Decoder sig β)
    [first : Oblivious shared program] [rest : ∀ value, Oblivious shared (next value)] :
    Oblivious shared (program >>= next) :=
  ⟨first.similar.bind fun value => (rest value).similar⟩

instance oblivious_ite (guard : Prop) [Decidable guard] (yes no : Decoder sig α)
    [one : Oblivious shared yes] [two : Oblivious shared no] :
    Oblivious shared (if guard then yes else no) := by
  split
  · exact one
  · exact two

instance oblivious_when (guard : Prop) [Decidable guard] (program : Decoder sig Unit)
    [body : Oblivious shared program] : Oblivious shared (Decoder.when guard program) := by
  unfold Decoder.when
  split
  · exact body
  · exact oblivious_pure ()

instance oblivious_forM {item : Type} (program : item → Decoder sig Unit) (items : List item)
    [each : ∀ value, Oblivious shared (program value)] : Oblivious shared (items.forM program) := by
  induction items with
  | nil => exact oblivious_pure ()
  | cons head tail ih => exact @oblivious_bind _ _ _ _ (program head) _ (each head) fun _ => ih

instance (priority := low) oblivious_of_uses (program : Decoder sig α)
    [uses : Uses (Onward shared) program] : Oblivious shared program := by
  constructor
  induction uses with
  | pure value => exact .pure value
  | act op next allow _ ih => exact .onward op next next allow ih

/-- A variable that is changed may be one that is not shared. -/
theorem oblivious_modify (var : sig.Var) (change : sig.val var → sig.val var)
    (unshared : ¬shared var) :
    Oblivious shared (Decoder.get var >>= fun value => Decoder.set var (change value)) :=
  ⟨.get var _ _ fun one two => .set var (change one) (change two) _ _ unshared (.pure ())⟩

end Oblivious

theorem run_oblivious {first second : Buffer} {left right : Nat}
    (same : first.SameRest second left right) {shared : sig.Var → Prop} (program : Decoder sig α)
    [oblivious : Oblivious shared program] (one two : State sig)
    (abreast : Abreast shared left right one two) :
    RunsAbreast shared left right (run first program one) (run second program two) :=
  run_similar same oblivious.similar one two abreast

end Decoding
