import SflowTool.Decoder

/-! Facts about a program that need no run of it, and what they give for every run.
`Uses` bounds the operations a program can perform; `Always` states a contract on
what a run shows that sequencing preserves; `Moves` and `Advances` say how far a
program that returns moves the cursor. Each is a class, so that the fact about a
decoder is found from the facts about the decoders it is made of. -/
namespace Decoding
variable {sig : Signature} {α β : Type}

/-- Every operation the program can perform is allowed. -/
class inductive Uses (allowed : Op sig → Prop) : Decoder sig α → Prop where
  | pure (value : α) : Uses allowed (.pure value)
  | act (op : Op sig) (next : op.Reply → Decoder sig α) (allow : allowed op)
      (rest : ∀ reply, Uses allowed (next reply)) : Uses allowed (.act op next)

section Uses
variable {allowed : Op sig → Prop}

instance uses_pure (value : α) : Uses allowed (Pure.pure value : Decoder sig α) := .pure value

theorem uses_single (op : Op sig) (allow : allowed op) :
    Uses allowed (Decoder.act op .pure) :=
  .act op _ allow fun reply => .pure reply

theorem Uses.bind {program : Decoder sig α} {next : α → Decoder sig β}
    (first : Uses allowed program) (rest : ∀ value, Uses allowed (next value)) :
    Uses allowed (program.bind next) := by
  induction first with
  | pure value => exact rest value
  | act op follow allow _ ih => exact .act op _ allow fun reply => ih reply

instance uses_bind (program : Decoder sig α) (next : α → Decoder sig β)
    [first : Uses allowed program] [rest : ∀ value, Uses allowed (next value)] :
    Uses allowed (program >>= next) :=
  first.bind rest

instance uses_ite (guard : Prop) [Decidable guard] (yes no : Decoder sig α)
    [first : Uses allowed yes] [second : Uses allowed no] :
    Uses allowed (if guard then yes else no) := by
  split
  · exact first
  · exact second

theorem uses_when_of (guard : Prop) [Decidable guard] (program : Decoder sig Unit)
    (body : guard → Uses allowed program) : Uses allowed (Decoder.when guard program) := by
  unfold Decoder.when
  split
  · next holds => exact body holds
  · exact .pure ()

instance uses_when (guard : Prop) [Decidable guard] (program : Decoder sig Unit)
    [body : Uses allowed program] : Uses allowed (Decoder.when guard program) :=
  uses_when_of guard program fun _ => body

theorem Uses.mono {stronger : Op sig → Prop} (implies : ∀ op, stronger op → allowed op)
    {program : Decoder sig α} (uses : Uses stronger program) : Uses allowed program := by
  induction uses with
  | pure value => exact .pure value
  | act op _ allow _ ih => exact .act op _ (implies op allow) ih

theorem uses_forM (program : α → Decoder sig Unit) (each : ∀ value, Uses allowed (program value))
    (values : List α) : Uses allowed (values.forM program) := by
  induction values with
  | nil => exact .pure ()
  | cons head tail ih => exact (each head).bind fun _ => ih

instance uses_forM_of (program : α → Decoder sig Unit) (values : List α)
    [each : ∀ value, Uses allowed (program value)] : Uses allowed (values.forM program) :=
  uses_forM program each values

end Uses

/-- What a run shows: where it stopped, if it did, how far it moved the cursor, what
it emitted and what it noted. -/
structure Shown (sig : Signature) where
  stopped : Option sig.Stop
  moved : Nat
  events : List sig.Event
  notes : List sig.Note

/-- One piece of a run and then the next. -/
def Shown.append (first second : Shown sig) : Shown sig where
  stopped := second.stopped
  moved := first.moved + second.moved
  events := first.events ++ second.events
  notes := first.notes ++ second.notes

def Run.shown (start : Nat) (performed : Run sig α) : Shown sig where
  stopped := match performed.outcome with
    | .ok _ => none
    | .error reason => some reason
  moved := performed.state.cursor - start
  events := performed.trace.map Stamped.event
  notes := performed.notes.map Prod.fst

/-- A contract that holds of nothing, and of two pieces once it holds of both. -/
class Sequential (holds : Shown sig → Prop) : Prop where
  nothing : holds ⟨none, 0, [], []⟩
  append : ∀ first second, first.stopped = none → holds first → holds second →
    holds (first.append second)

/-- Every run of the program meets the contract. -/
class Always (holds : Shown sig → Prop) (program : Decoder sig α) : Prop where
  all : ∀ (buffer : Buffer) (state : State sig),
    holds ((run buffer program state).shown state.cursor)

/-- The contract allows every operation of a kind. -/
class Harmless (holds : Shown sig → Prop) (allowed : outParam (Op sig → Prop)) : Prop where
  single : ∀ op, allowed op → ∀ (buffer : Buffer) (state : State sig),
    holds ((perform buffer op state).shown state.cursor)

section Always
variable {holds : Shown sig → Prop} [sequential : Sequential holds]

/-- What a run shows is what its first program shows and then, if that returned, what
the rest shows. -/
theorem shown_bind (first : Run sig α) (next : α → State sig → Run sig β) (start : Nat)
    (forward : start ≤ first.state.cursor)
    (later : ∀ value, first.state.cursor ≤ (next value first.state).state.cursor) :
    (first.bind next).shown start = match first.outcome with
      | .ok value =>
          (first.shown start).append ((next value first.state).shown first.state.cursor)
      | .error _ => first.shown start := by
  obtain ⟨outcome, state, trace, notes⟩ := first
  cases outcome with
  | error reason => rfl
  | ok value =>
      have further : state.cursor ≤ (next value state).state.cursor := later value
      have forward : start ≤ state.cursor := forward
      simp only [Run.bind, Run.after, Run.shown, Shown.append, List.map_append, Shown.mk.injEq,
        true_and, and_true]
      omega

theorem holds_bind (buffer : Buffer) (first : Run sig α) (next : α → Decoder sig β) (start : Nat)
    (forward : start ≤ first.state.cursor) (earlier : holds (first.shown start))
    (rest : ∀ value state, holds ((run buffer (next value) state).shown state.cursor)) :
    holds ((first.bind fun value state => run buffer (next value) state).shown start) := by
  rw [shown_bind first _ start forward fun value => run_cursor buffer (next value) first.state]
  obtain ⟨outcome, state, trace, notes⟩ := first
  cases outcome with
  | error reason => exact earlier
  | ok value => exact sequential.append _ _ rfl earlier (rest value state)

instance always_pure (value : α) : Always holds (Pure.pure value : Decoder sig α) where
  all _ state := by
    simpa [Run.reply, Run.shown] using sequential.nothing

instance always_bind (program : Decoder sig α) (next : α → Decoder sig β)
    [first : Always holds program] [rest : ∀ value, Always holds (next value)] :
    Always holds (program >>= next) where
  all buffer state := by
    rw [Decoder.bind_eq, run_bind]
    exact holds_bind buffer _ next _ (run_cursor buffer program state) (first.all buffer state)
      fun value => (rest value).all buffer

instance always_ite (guard : Prop) [Decidable guard] (yes no : Decoder sig α)
    [first : Always holds yes] [second : Always holds no] :
    Always holds (if guard then yes else no) := by
  split
  · exact first
  · exact second

theorem always_when_of (guard : Prop) [Decidable guard] (program : Decoder sig Unit)
    (body : guard → Always holds program) : Always holds (Decoder.when guard program) := by
  unfold Decoder.when
  split
  · next true => exact body true
  · exact always_pure ()

instance always_when (guard : Prop) [Decidable guard] (program : Decoder sig Unit)
    [body : Always holds program] : Always holds (Decoder.when guard program) :=
  always_when_of guard program fun _ => body

/-- A program of harmless operations keeps the contract. -/
theorem Uses.always {allowed : Op sig → Prop} {program : Decoder sig α}
    (uses : Uses allowed program) (harmless : Harmless holds allowed) : Always holds program := by
  induction uses with
  | pure value => exact always_pure value
  | act op next allow _ ih =>
      constructor
      intro buffer state
      rw [run_act]
      exact holds_bind buffer _ next _ (perform_cursor buffer op state)
        (harmless.single op allow buffer state) fun reply => (ih reply).all buffer

instance (priority := low) always_of_uses {allowed : Op sig → Prop} (program : Decoder sig α)
    [harmless : Harmless holds allowed] [uses : Uses allowed program] : Always holds program :=
  uses.always harmless

end Always

/-- A program that returns has moved the cursor by exactly `count`. -/
class Moves (program : Decoder sig α) (count : outParam Nat) : Prop where
  moves : ∀ (buffer : Buffer) (state : State sig), (run buffer program state).Returning
    fun _ final => final.cursor = state.cursor + count

/-- A program that returns has moved the cursor by at least `count`. -/
class Advances (count : Nat) (program : Decoder sig α) : Prop where
  advances : ∀ (buffer : Buffer) (state : State sig), (run buffer program state).Returning
    fun _ final => state.cursor + count ≤ final.cursor

theorem Run.Returning.mono {performed : Run sig α} {strong weak : α → State sig → Prop}
    (returning : performed.Returning strong)
    (implies : ∀ value state, strong value state → weak value state) :
    performed.Returning weak := by
  unfold Run.Returning at returning ⊢
  cases outcome : performed.outcome with
  | error reason => trivial
  | ok value =>
      rw [outcome] at returning
      exact implies value performed.state returning

theorem Run.Returning.bind {first : Run sig α} {next : α → State sig → Run sig β}
    {middle : α → State sig → Prop} {final : β → State sig → Prop}
    (earlier : first.Returning middle)
    (later : ∀ value state, middle value state → (next value state).Returning final) :
    (first.bind next).Returning final := by
  obtain ⟨outcome, state, trace, notes⟩ := first
  cases outcome with
  | error reason => trivial
  | ok value => exact later value state earlier

theorem Run.Returning.of_ok {performed : Run sig α} {holds : α → State sig → Prop}
    (returning : performed.Returning holds) {value : α} (done : performed.outcome = .ok value) :
    holds value performed.state := by
  unfold Run.Returning at returning
  rw [done] at returning
  exact returning

/-- A program that returns has left the cursor where it was. -/
class Stays (program : Decoder sig α) : Prop where
  stays : ∀ (buffer : Buffer) (state : State sig), (run buffer program state).Returning
    fun _ final => final.cursor = state.cursor

section Stays

instance stays_pure (value : α) : Stays (Pure.pure value : Decoder sig α) where
  stays _ _ := rfl

instance stays_bind (program : Decoder sig α) (next : α → Decoder sig β)
    [first : Stays program] [rest : ∀ value, Stays (next value)] : Stays (program >>= next) where
  stays buffer state := by
    rw [Decoder.bind_eq, run_bind]
    refine (first.stays buffer state).bind fun value middle arrived => ?_
    exact ((rest value).stays buffer middle).mono fun _ final stayed => stayed.trans arrived

instance stays_ite (guard : Prop) [Decidable guard] (yes no : Decoder sig α)
    [first : Stays yes] [second : Stays no] : Stays (if guard then yes else no) := by
  split
  · exact first
  · exact second

instance stays_when (guard : Prop) [Decidable guard] (program : Decoder sig Unit)
    [body : Stays program] : Stays (Decoder.when guard program) := by
  unfold Decoder.when
  split
  · exact body
  · exact stays_pure ()

instance stays_forM (program : α → Decoder sig Unit) (values : List α)
    [each : ∀ value, Stays (program value)] : Stays (values.forM program) := by
  induction values with
  | nil => exact stays_pure ()
  | cons head tail ih => exact stays_bind (program head) fun _ => tail.forM program

theorem stays_single (op : Op sig)
    (stays : ∀ (buffer : Buffer) (state : State sig),
      (perform buffer op state).state.cursor = state.cursor) :
    Stays (Decoder.act op .pure) where
  stays buffer state := by
    rw [run_single]
    unfold Run.Returning
    split
    · exact stays buffer state
    · trivial

instance stays_survey : Stays (@Decoder.survey sig) := stays_single _ fun _ _ => rfl
instance stays_mark (name : sig.Mark) : Stays (Decoder.mark name) := stays_single _ fun _ _ => rfl
instance stays_since (name : sig.Mark) : Stays (Decoder.since name) :=
  stays_single _ fun _ _ => rfl
instance stays_peek (name : sig.Mark) (offset count : Nat) :
    Stays (Decoder.peek name offset count) :=
  stays_single _ fun _ _ => rfl
instance stays_peekText (name : sig.Mark) (offset : Nat) : Stays (Decoder.peekText name offset) :=
  stays_single _ fun _ _ => rfl
instance stays_get (var : sig.Var) : Stays (Decoder.get var) := stays_single _ fun _ _ => rfl
instance stays_set (var : sig.Var) (value : sig.val var) : Stays (Decoder.set var value) :=
  stays_single _ fun _ _ => rfl
instance stays_emit (event : sig.Event) : Stays (Decoder.emit event) :=
  stays_single _ fun _ _ => rfl
instance stays_tick (counter : sig.Counter) : Stays (Decoder.tick counter) :=
  stays_single _ fun _ _ => rfl
instance stays_note (mark : sig.Note) : Stays (Decoder.note mark) := stays_single _ fun _ _ => rfl
instance stays_stop (reason : sig.Stop) : Stays (Decoder.stop reason : Decoder sig α) where
  stays _ _ := trivial

end Stays

section Moves

instance (priority := high) moves_of_stays (program : Decoder sig α) [stays : Stays program] :
    Moves program 0 where
  moves := stays.stays

instance moves_bind (program : Decoder sig α) (next : α → Decoder sig β) (one two : Nat)
    [first : Moves program one] [rest : ∀ value, Moves (next value) two] :
    Moves (program >>= next) (one + two) where
  moves buffer state := by
    rw [Decoder.bind_eq, run_bind]
    refine (first.moves buffer state).bind fun value middle arrived => ?_
    refine ((rest value).moves buffer middle).mono fun _ final moved => ?_
    rw [moved, arrived, Nat.add_assoc]

instance moves_ite (guard : Prop) [Decidable guard] (yes no : Decoder sig α) (count : Nat)
    [first : Moves yes count] [second : Moves no count] :
    Moves (if guard then yes else no) count := by
  split
  · exact first
  · exact second

theorem Moves.bind {program : Decoder sig α} {next : α → Decoder sig β} {one two : Nat}
    (first : Moves program one) (rest : ∀ value, Moves (next value) two) :
    Moves (program.bind next) (one + two) :=
  moves_bind program next one two

theorem Moves.congr {program : Decoder sig α} {one two : Nat} (moves : Moves program one)
    (same : one = two) : Moves program two :=
  same ▸ moves

theorem moves_single (op : Op sig) (count : Nat)
    (moves : ∀ (buffer : Buffer) (state : State sig), (perform buffer op state).Returning
      fun _ final => final.cursor = state.cursor + count) :
    Moves (Decoder.act op .pure) count where
  moves buffer state := by
    rw [run_single]
    exact moves buffer state

instance moves_take (count : Nat) : Moves (@Decoder.take sig count) count := by
  refine moves_single _ count fun buffer state => ?_
  simp only [perform]
  split
  · rfl
  · trivial

instance moves_skip (count : UInt32) : Moves (@Decoder.skip sig count) (quadBytes count) := by
  refine moves_single _ _ fun buffer state => ?_
  simp only [perform]
  split
  · rfl
  · trivial

instance moves_jump (count : Nat) : Moves (@Decoder.jump sig count) count :=
  moves_single _ count fun _ _ => rfl

end Moves

theorem advances_of_moves (program : Decoder sig α) (least count : Nat)
    (moves : Moves program count) (enough : least ≤ count) : Advances least program where
  advances buffer state := (moves.moves buffer state).mono fun _ final moved => by omega

/-- What the first program advances, the rest does not take back. -/
theorem advances_first (program : Decoder sig α) (next : α → Decoder sig β) (least : Nat)
    (first : Advances least program) : Advances least (program.bind next) where
  advances buffer state := by
    rw [run_bind]
    refine (first.advances buffer state).bind fun value middle arrived => ?_
    have further := run_cursor buffer (next value) middle
    unfold Run.Returning
    split
    · omega
    · trivial

theorem advances_rest (program : Decoder sig α) (next : α → Decoder sig β) (least : Nat)
    (rest : ∀ value, Advances least (next value)) : Advances least (program.bind next) where
  advances buffer state := by
    rw [run_bind]
    have before := run_cursor buffer program state
    generalize run buffer program state = performed at before ⊢
    obtain ⟨outcome, middle, trace, notes⟩ := performed
    cases outcome with
    | error reason => trivial
    | ok value =>
        have after : (run buffer (next value) middle).Returning
            fun _ final => state.cursor + least ≤ final.cursor :=
          ((rest value).advances buffer middle).mono fun _ final moved =>
            Nat.le_trans (Nat.add_le_add_right before least) moved
        exact after

/-- What an operation leaves alone it leaves alone in every program that uses no other. -/
theorem uses_preserves {allowed : Op sig → Prop} (keeps : State sig → State sig → Prop)
    (refl : ∀ state, keeps state state)
    (trans : ∀ first second third, keeps first second → keeps second third → keeps first third)
    (buffer : Buffer)
    (single : ∀ op, allowed op → ∀ state, keeps state (perform buffer op state).state)
    {program : Decoder sig α} (uses : Uses allowed program) (state : State sig) :
    keeps state (run buffer program state).state := by
  induction uses generalizing state with
  | pure value => exact refl state
  | act op next allow _ ih =>
      have first := single op allow state
      rw [run_act]
      generalize perform buffer op state = performed at first ⊢
      obtain ⟨outcome, middle, trace, notes⟩ := performed
      cases outcome with
      | error reason => exact first
      | ok reply => exact trans _ _ _ first (ih reply middle)

theorem perform_store (buffer : Buffer) (op : Op sig) (var : sig.Var)
    (other : ∀ value, op ≠ .set var value) (state : State sig) :
    (perform buffer op state).state.store var = state.store var := by
  cases op with
  | take count => simp only [perform]; split <;> rfl
  | skip count => simp only [perform]; split <;> rfl
  | set assigned value =>
      by_cases same : assigned = var
      · subst same
        exact absurd rfl (other value)
      · exact Function.update_of_ne (Ne.symm same) ..
  | _ => rfl

theorem perform_marks (buffer : Buffer) (op : Op sig) (name : sig.Mark)
    (other : op ≠ .mark name) (state : State sig) :
    (perform buffer op state).state.marks name = state.marks name := by
  cases op with
  | take count => simp only [perform]; split <;> rfl
  | skip count => simp only [perform]; split <;> rfl
  | mark marked =>
      have differs : marked ≠ name := fun same => other (congrArg Op.mark same)
      exact Function.update_of_ne (Ne.symm differs) ..
  | _ => rfl

/-- A program that never sets a variable leaves it as it was. -/
theorem uses_keeps (allowed : Op sig → Prop) (var : sig.Var)
    (never : ∀ value, ¬allowed (.set var value)) (buffer : Buffer) (program : Decoder sig α)
    (uses : Uses allowed program) (state : State sig) :
    (run buffer program state).state.store var = state.store var :=
  uses_preserves (fun first second => second.store var = first.store var) (fun _ => rfl)
    (fun _ _ _ one two => two.trans one) buffer
    (fun op allow state => perform_store buffer op var
      (fun value same => never value (same ▸ allow)) state) uses state

/-- A program that never sets a mark leaves it where it was. -/
theorem uses_keeps_mark (allowed : Op sig → Prop) (name : sig.Mark) (never : ¬allowed (.mark name))
    (buffer : Buffer) (program : Decoder sig α) (uses : Uses allowed program) (state : State sig) :
    (run buffer program state).state.marks name = state.marks name :=
  uses_preserves (fun first second => second.marks name = first.marks name) (fun _ => rfl)
    (fun _ _ _ one two => two.trans one) buffer
    (fun op allow state => perform_marks buffer op name
      (fun same => never (same ▸ allow)) state) uses state

/-- Whatever a program has emitted it was allowed to. -/
theorem uses_events {allowed : Op sig → Prop} {program : Decoder sig α} (uses : Uses allowed program)
    (buffer : Buffer) (state : State sig) :
    ∀ sent ∈ (run buffer program state).trace, allowed (.emit sent.event) := by
  induction uses generalizing state with
  | pure value => exact fun sent member => absurd member List.not_mem_nil
  | act op next allow _ ih =>
      -- no other operation leaves something in the trace
      have single : ∀ sent ∈ (perform buffer op state).trace, allowed (.emit sent.event) := by
        cases op with
        | emit event =>
            intro sent member
            rw [List.mem_singleton.mp member]
            exact allow
        | take count =>
            simp only [perform]
            split <;> exact fun sent member => absurd member List.not_mem_nil
        | skip count =>
            simp only [perform]
            split <;> exact fun sent member => absurd member List.not_mem_nil
        | _ => exact fun sent member => absurd member List.not_mem_nil
      rw [run_act]
      generalize perform buffer op state = performed at single ⊢
      obtain ⟨outcome, middle, trace, notes⟩ := performed
      cases outcome with
      | error reason => exact single
      | ok reply =>
          intro sent member
          rcases List.mem_append.mp member with here | later
          · exact single sent here
          · exact ih reply middle sent later

/-- Without a jump no run that returns leaves the received bytes. -/
theorem uses_within (allowed : Op sig → Prop) (never : ∀ count, ¬allowed (.jump count))
    (buffer : Buffer) (program : Decoder sig α) (uses : Uses allowed program) (state : State sig)
    (inside : state.cursor ≤ buffer.length) : (run buffer program state).Returning
      fun _ final => final.cursor ≤ buffer.length := by
  induction uses generalizing state with
  | pure value => exact inside
  | act op next allow _ ih =>
      have first : (perform buffer op state).Returning
          fun _ middle => middle.cursor ≤ buffer.length := by
        cases op with
        | take count =>
            simp only [perform]
            split
            · next room => exact room
            · trivial
        | skip count =>
            simp only [perform]
            split
            · next room => exact room.2
            · trivial
        | jump count => exact absurd allow (never count)
        | stop reason => trivial
        | _ => exact inside
      rw [run_act]
      exact first.bind fun reply middle inside => ih reply middle inside

/-- Operations that only look and report: none of them stops a run or touches a
variable. -/
def Reporting : Op sig → Prop
  | .survey | .since _ | .peek _ _ _ | .peekText _ _ | .get _ | .emit _ | .tick _ | .note _ => True
  | _ => False

theorem reporting_returns (buffer : Buffer) (program : Decoder sig α)
    (uses : Uses Reporting program) (state : State sig) :
    (∃ value, (run buffer program state).outcome = .ok value) ∧
      (run buffer program state).state.store = state.store := by
  induction uses generalizing state with
  | pure value => exact ⟨⟨value, rfl⟩, rfl⟩
  | act op next allow _ ih =>
      have single : (∃ reply, (perform buffer op state).outcome = .ok reply) ∧
          (perform buffer op state).state.store = state.store := by
        cases op with
        | survey | since _ | peek _ _ _ | peekText _ _ | get _ | emit _ | tick _ | note _ =>
            exact ⟨⟨_, rfl⟩, rfl⟩
        | _ => exact absurd allow id
      rw [run_act]
      generalize perform buffer op state = performed at single ⊢
      obtain ⟨outcome, middle, trace, notes⟩ := performed
      obtain ⟨⟨reply, returned⟩, kept⟩ := single
      cases returned
      obtain ⟨returns, same⟩ := ih reply middle
      exact ⟨returns, same.trans kept⟩

/-- Where the run returns, its value, its final state and its notes meet `holds`. -/
def Run.Finishing (performed : Run sig α)
    (holds : α → State sig → List (sig.Note × Nat) → Prop) : Prop :=
  match performed.outcome with
  | .ok value => holds value performed.state performed.notes
  | .error _ => True

namespace Run.Finishing

theorem mono {performed : Run sig α} {strong weak : α → State sig → List (sig.Note × Nat) → Prop}
    (finishing : performed.Finishing strong)
    (implies : ∀ value state notes, strong value state notes → weak value state notes) :
    performed.Finishing weak := by
  obtain ⟨outcome, state, trace, notes⟩ := performed
  cases outcome with
  | error reason => trivial
  | ok value => exact implies value state notes finishing

theorem of_ok {performed : Run sig α} {holds : α → State sig → List (sig.Note × Nat) → Prop}
    (finishing : performed.Finishing holds) {value : α} (done : performed.outcome = .ok value) :
    holds value performed.state performed.notes := by
  unfold Run.Finishing at finishing
  rw [done] at finishing
  exact finishing

theorem and {performed : Run sig α} {one two : α → State sig → List (sig.Note × Nat) → Prop}
    (first : performed.Finishing one) (second : performed.Finishing two) :
    performed.Finishing fun value state notes => one value state notes ∧ two value state notes := by
  obtain ⟨outcome, state, trace, notes⟩ := performed
  cases outcome with
  | error reason => trivial
  | ok value => exact ⟨first, second⟩

end Run.Finishing

theorem Run.Returning.finishing {performed : Run sig α} {holds : α → State sig → Prop}
    (returning : performed.Returning holds) :
    performed.Finishing fun value state _ => holds value state := returning

/-- A composition finishes as its second program does from where the first finished. -/
theorem finishing_bind (buffer : Buffer) (program : Decoder sig α) (next : α → Decoder sig β)
    (state : State sig) (holds : β → State sig → List (sig.Note × Nat) → Prop)
    (both : (run buffer program state).Finishing fun value middle before =>
      (run buffer (next value) middle).Finishing fun result final after =>
        holds result final (before ++ after)) :
    (run buffer (program.bind next) state).Finishing holds := by
  rw [run_bind]
  generalize run buffer program state = first at both ⊢
  obtain ⟨outcome, middle, trace, notes⟩ := first
  cases outcome with
  | error reason => trivial
  | ok value => exact both

end Decoding
