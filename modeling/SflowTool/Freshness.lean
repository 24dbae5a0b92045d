import SflowTool.Discipline

/-! Two runs on one buffer from states that differ in some variables. A run that sets each
of them before it reads it shows the same from both states, and what it has not set in the
end is all that the two still differ in. -/
namespace Decoding
variable {sig : Signature} {α β : Type}

/-- The operation reads no stale variable. -/
def ReadsNone (stale : sig.Var → Prop) : Op sig → Prop
  | .get var => ¬stale var
  | _ => True

/-- The variables that are still stale after an operation. -/
def unset (stale : sig.Var → Prop) : Op sig → sig.Var → Prop
  | .set var _ => fun other => other ≠ var ∧ stale other
  | _ => stale

/-- The run from `state` sets every stale variable before it reads it. -/
def SetsFirst (buffer : Buffer) : (sig.Var → Prop) → Decoder sig α → State sig → Prop
  | _, .pure _, _ => True
  | stale, .act op next, state => ReadsNone stale op ∧
      (perform buffer op state).Returning fun reply middle =>
        SetsFirst buffer (unset stale op) (next reply) middle

/-- Two states that agree but for the stale variables and the counters. -/
structure Agree (stale : sig.Var → Prop) (one two : State sig) : Prop where
  cursor : two.cursor = one.cursor
  marks : two.marks = one.marks
  store : ∀ var, ¬stale var → two.store var = one.store var

/-- Two runs that show the same and end in states that agree. -/
structure RunsAgree (stale : sig.Var → Prop) (first second : Run sig α) : Prop where
  outcome : second.outcome = first.outcome
  state : Agree stale first.state second.state
  events : second.trace.map Stamped.event = first.trace.map Stamped.event
  notes : second.notes = first.notes

namespace Agree
variable {stale : sig.Var → Prop} {one two : State sig}

theorem moved (agree : Agree stale one two) (count : Nat) :
    Agree stale (one.moved count) (two.moved count) := by
  refine ⟨?_, agree.marks, agree.store⟩
  rw [State.moved_cursor, State.moved_cursor, agree.cursor]

theorem marked (agree : Agree stale one two) (name : sig.Mark) :
    Agree stale (one.marked name) (two.marked name) := by
  refine ⟨agree.cursor, ?_, agree.store⟩
  simp only [State.marked, agree.marks, agree.cursor]

theorem assigned (agree : Agree stale one two) (var : sig.Var) (value : sig.val var) :
    Agree (unset stale (.set var value)) (one.assigned var value) (two.assigned var value) where
  cursor := agree.cursor
  marks := agree.marks
  store other fresh := by
    by_cases same : other = var
    · subst same
      simp [State.assigned]
    · simp only [State.assigned, Function.update_of_ne same]
      exact agree.store other fun old => fresh ⟨same, old⟩

theorem weaken {fewer : sig.Var → Prop} (agree : Agree fewer one two)
    (more : ∀ var, fewer var → stale var) : Agree stale one two :=
  ⟨agree.cursor, agree.marks, fun var fresh => agree.store var fun old => fresh (more var old)⟩

end Agree

theorem unset_subset (stale : sig.Var → Prop) (op : Op sig) (var : sig.Var)
    (still : unset stale op var) : stale var := by
  cases op with
  | set other value => exact still.2
  | _ => exact still

/-- One operation shows the same from both states once it reads nothing stale. -/
theorem perform_agrees (buffer : Buffer) (stale : sig.Var → Prop) (op : Op sig)
    (fresh : ReadsNone stale op) (one two : State sig) (agree : Agree stale one two) :
    RunsAgree (unset stale op) (perform buffer op one) (perform buffer op two) := by
  cases op with
  | take count =>
      simp only [perform, agree.cursor]
      by_cases room : one.cursor + count ≤ buffer.length
      · rw [if_pos room, if_pos room]
        exact ⟨rfl, agree.moved count, rfl, rfl⟩
      · rw [if_neg room, if_neg room]
        exact ⟨rfl, agree.moved count, rfl, rfl⟩
  | skip count =>
      simp only [perform, agree.cursor]
      by_cases room : count.toNat ≤ buffer.length ∧
          one.cursor + quadBytes count ≤ buffer.length
      · rw [if_pos room, if_pos room]
        exact ⟨rfl, agree.moved (quadBytes count), rfl, rfl⟩
      · rw [if_neg room, if_neg room]
        exact ⟨rfl, agree.moved (quadBytes count), rfl, rfl⟩
  | jump count => exact ⟨rfl, agree.moved count, rfl, rfl⟩
  | survey =>
      refine ⟨?_, agree, rfl, rfl⟩
      simp only [perform, Run.reply, agree.cursor]
  | mark name => exact ⟨rfl, agree.marked name, rfl, rfl⟩
  | since name =>
      refine ⟨?_, agree, rfl, rfl⟩
      simp only [perform, Run.reply, agree.cursor, agree.marks]
  | peek name offset count =>
      refine ⟨?_, agree, rfl, rfl⟩
      simp only [perform, Run.reply, agree.marks]
  | peekText name offset =>
      refine ⟨?_, agree, rfl, rfl⟩
      simp only [perform, Run.reply, agree.marks]
  | get var =>
      refine ⟨?_, agree, rfl, rfl⟩
      simp only [perform, Run.reply, agree.store var fresh]
  | set var value => exact ⟨rfl, agree.assigned var value, rfl, rfl⟩
  | emit event => exact ⟨rfl, agree, rfl, rfl⟩
  | tick counter => exact ⟨rfl, ⟨agree.cursor, agree.marks, agree.store⟩, rfl, rfl⟩
  | note mark =>
      refine ⟨rfl, agree, rfl, ?_⟩
      simp only [perform, agree.cursor]
  | stop reason => exact ⟨rfl, agree, rfl, rfl⟩

theorem RunsAgree.bind {stale strong : sig.Var → Prop} {first second : Run sig α}
    (agree : RunsAgree strong first second) (fewer : ∀ var, strong var → stale var)
    (one two : α → State sig → Run sig β)
    (rest : ∀ value, first.outcome = .ok value →
      RunsAgree stale (one value first.state) (two value second.state)) :
    RunsAgree stale (first.bind one) (second.bind two) := by
  obtain ⟨outcome, middle, trace, notes⟩ := first
  obtain ⟨outcome', middle', trace', notes'⟩ := second
  obtain ⟨same, state, events, noted⟩ := agree
  cases same
  cases noted
  cases outcome with
  | error reason => exact ⟨rfl, state.weaken fewer, events, rfl⟩
  | ok value =>
      have later := rest value rfl
      refine ⟨later.outcome, later.state, ?_, ?_⟩
      · simpa only [Run.bind, Run.after, List.map_append, events] using
          congrArg (_ ++ ·) later.events
      · simp only [Run.bind, Run.after, later.notes]

/-- A run that sets every stale variable before it reads it does the same whatever they held. -/
theorem run_agrees (buffer : Buffer) (program : Decoder sig α) (stale : sig.Var → Prop)
    (one two : State sig) (agree : Agree stale one two)
    (fresh : SetsFirst buffer stale program one) :
    RunsAgree stale (run buffer program one) (run buffer program two) := by
  induction program generalizing stale one two with
  | pure value => exact ⟨rfl, agree, rfl, rfl⟩
  | act op next ih =>
      have single := perform_agrees buffer stale op fresh.1 one two agree
      rw [run_act, run_act]
      refine single.bind (unset_subset stale op) _ _ fun reply performed => ?_
      have later := ih reply (unset stale op) _ _ single.state (fresh.2.of_ok performed)
      exact ⟨later.outcome, later.state.weaken (unset_subset stale op), later.events, later.notes⟩

/-- A program that never reads a stale variable sets none too late. -/
theorem Uses.setsFirst {allowed : Op sig → Prop} {program : Decoder sig α}
    (uses : Uses allowed program) (buffer : Buffer) (stale : sig.Var → Prop)
    (unread : ∀ op, allowed op → ReadsNone stale op) (state : State sig) :
    SetsFirst buffer stale program state := by
  induction uses generalizing stale state with
  | pure value => trivial
  | act op next allow _ ih =>
      refine ⟨unread op allow, ?_⟩
      have fewer (other : Op sig) (allowOther : allowed other) : ReadsNone (unset stale op) other := by
        have never := unread other allowOther
        cases other with
        | get var => exact fun old => never (unset_subset stale op var old)
        | _ => trivial
      unfold Run.Returning
      split
      · next reply _ => exact ih reply (unset stale op) fewer _
      · trivial

/-- What sets two kinds of variables before it reads them does so for both together. -/
theorem SetsFirst.union {buffer : Buffer} {stale other : sig.Var → Prop} {program : Decoder sig α}
    {state : State sig} (first : SetsFirst buffer stale program state)
    (second : SetsFirst buffer other program state) :
    SetsFirst buffer (fun var => stale var ∨ other var) program state := by
  induction program generalizing stale other state with
  | pure value => trivial
  | act op next ih =>
      have joined : unset (fun var => stale var ∨ other var) op =
          fun var => unset stale op var ∨ unset other op var := by
        cases op with
        | set var value =>
            funext other
            exact propext and_or_left
        | _ => rfl
      constructor
      · cases op with
        | get var => exact not_or.mpr ⟨first.1, second.1⟩
        | _ => trivial
      · have one := first.2
        have two := second.2
        rw [joined]
        generalize perform buffer op state = performed at one two ⊢
        obtain ⟨outcome, middle, trace, notes⟩ := performed
        cases outcome with
        | error reason => trivial
        | ok reply => exact ih reply one two

/-- The variables that are still stale after a run. -/
def leftover (buffer : Buffer) : (sig.Var → Prop) → Decoder sig α → State sig → sig.Var → Prop
  | stale, .pure _, _ => stale
  | stale, .act op next, state =>
      match (perform buffer op state).outcome with
      | .ok reply => leftover buffer (unset stale op) (next reply) (perform buffer op state).state
      | .error _ => stale

theorem leftover_subset (buffer : Buffer) (program : Decoder sig α) (stale : sig.Var → Prop)
    (state : State sig) (var : sig.Var) (still : leftover buffer stale program state var) :
    stale var := by
  induction program generalizing stale state with
  | pure value => exact still
  | act op next ih =>
      unfold leftover at still
      generalize perform buffer op state = performed at still
      obtain ⟨outcome, middle, trace, notes⟩ := performed
      cases outcome with
      | error reason => exact still
      | ok reply => exact unset_subset stale op var (ih reply _ _ still)

/-- One program and then the next, which finds what the first has left stale. -/
theorem setsFirst_bind (buffer : Buffer) (program : Decoder sig α) (next : α → Decoder sig β)
    (stale : sig.Var → Prop) (state : State sig) (first : SetsFirst buffer stale program state)
    (rest : (run buffer program state).Returning fun value middle =>
      SetsFirst buffer (leftover buffer stale program state) (next value) middle) :
    SetsFirst buffer stale (program >>= next) state := by
  induction program generalizing stale state with
  | pure value => exact rest
  | act op follow ih =>
      refine ⟨first.1, ?_⟩
      have later := first.2
      rw [run_act] at rest
      unfold leftover at rest
      generalize perform buffer op state = performed at later rest ⊢
      obtain ⟨outcome, middle, trace, notes⟩ := performed
      cases outcome with
      | error reason => trivial
      | ok reply => exact ih reply _ _ later rest

theorem leftover_bind (buffer : Buffer) (program : Decoder sig α) (next : α → Decoder sig β)
    (stale : sig.Var → Prop) (state : State sig) (value : α)
    (returned : (run buffer program state).outcome = .ok value) :
    leftover buffer stale (program >>= next) state =
      leftover buffer (leftover buffer stale program state) (next value)
        (run buffer program state).state := by
  induction program generalizing stale state with
  | pure result =>
      cases returned
      rfl
  | act op follow ih =>
      have first : Decoder.act op follow >>= next =
          Decoder.act op fun reply => follow reply >>= next := rfl
      rw [run_act] at returned ⊢
      rw [first, leftover, leftover]
      generalize perform buffer op state = performed at returned ⊢
      obtain ⟨outcome, middle, trace, notes⟩ := performed
      cases outcome with
      | error reason => cases returned
      | ok reply => exact ih reply _ _ returned

/-- What is stale before a program and what after it, where it sets every stale variable before
it reads it. -/
class Freshens (before after : (sig.Var → Prop) → State sig → Prop) (program : Decoder sig α) :
    Prop where
  freshens : ∀ (buffer : Buffer) (stale : sig.Var → Prop) (state : State sig), before stale state →
    SetsFirst buffer stale program state ∧
      (run buffer program state).Returning fun _ final =>
        after (leftover buffer stale program state) final

section Freshens
variable {before middle after : (sig.Var → Prop) → State sig → Prop}

theorem freshens_bind (program : Decoder sig α) (next : α → Decoder sig β)
    (first : Freshens before middle program) (rest : ∀ value, Freshens middle after (next value)) :
    Freshens before after (program >>= next) where
  freshens buffer stale state holds := by
    obtain ⟨fresh, kept⟩ := first.freshens buffer stale state holds
    constructor
    · refine setsFirst_bind buffer program next stale state fresh ?_
      exact kept.mono fun value place held => ((rest value).freshens buffer _ place held).1
    · rw [run_seq]
      unfold Run.Returning at kept
      generalize performed : run buffer program state = one at kept ⊢
      obtain ⟨outcome, place, trace, notes⟩ := one
      cases outcome with
      | error reason => trivial
      | ok value =>
          obtain ⟨-, later⟩ := (rest value).freshens buffer _ place kept
          have returned : (run buffer program state).outcome = .ok value := by rw [performed]
          have here : (run buffer program state).state = place := by rw [performed]
          rw [leftover_bind buffer program next stale state value returned, here]
          exact later

theorem freshens_pure (value : α) : Freshens before before (Pure.pure value : Decoder sig α) where
  freshens _ _ _ holds := ⟨trivial, holds⟩

theorem freshens_when (guard : Prop) [Decidable guard] (program : Decoder sig Unit)
    (body : Freshens before before program) :
    Freshens before before (Decoder.when guard program) := by
  unfold Decoder.when
  split
  · exact body
  · exact freshens_pure ()

/-- What is stale never grows, so a bound on it that the state does not matter for stays. -/
theorem freshens_after (bound : sig.Var → Prop) (program : Decoder sig α)
    (fresh : ∀ (buffer : Buffer) (stale : sig.Var → Prop) (state : State sig), before stale state →
      SetsFirst buffer stale program state)
    (within : ∀ stale state, before stale state → ∀ var, stale var → bound var) :
    Freshens before (fun stale _ => ∀ var, stale var → bound var) program where
  freshens buffer stale state holds := by
    refine ⟨fresh buffer stale state holds, ?_⟩
    unfold Run.Returning
    split
    · intro var still
      exact within stale state holds var (leftover_subset buffer program stale state var still)
    · trivial

end Freshens

end Decoding
