import SflowTool.Discipline

/-! Events that take their numbers from a counter. A run numbers such events when each
of them is stamped with the next number, without a gap and without a repeat, and the
counter is left at the number of the next one, wherever the run stops. -/
namespace Decoding
variable {sig : Signature} {α β : Type}

/-- A kind of events and the counter they take their numbers from. -/
structure Tally (sig : Signature) where
  counted : sig.Event → Bool
  counter : sig.Counter

/-- The numbers that the events of a kind were stamped with. -/
def stampedNumbers (tally : Tally sig) (trace : List (Stamped sig)) : List Nat :=
  (trace.filter fun sent => tally.counted sent.event).map fun sent => sent.ticks tally.counter

theorem stampedNumbers_append (tally : Tally sig) (first second : List (Stamped sig)) :
    stampedNumbers tally (first ++ second) =
      stampedNumbers tally first ++ stampedNumbers tally second := by
  simp [stampedNumbers]

/-- Numbers from `start` on that leave the counter where they end. -/
structure Numbered (start stop : Nat) (numbers : List Nat) : Prop where
  order : numbers = List.range' start numbers.length
  counter : stop = start + numbers.length

theorem Numbered.none (start : Nat) : Numbered start start [] := ⟨rfl, rfl⟩

theorem Numbered.append {start middle stop : Nat} {first second : List Nat}
    (earlier : Numbered start middle first) (later : Numbered middle stop second) :
    Numbered start stop (first ++ second) := by
  constructor
  · rw [List.length_append, ← List.range'_append_1, ← earlier.counter, ← earlier.order,
      ← later.order]
  · rw [List.length_append, later.counter, earlier.counter, Nat.add_assoc]

/-- What a run numbers. -/
def Run.Numbers (tally : Tally sig) (start : Nat) (performed : Run sig α) : Prop :=
  Numbered start (performed.state.ticks tally.counter) (stampedNumbers tally performed.trace)

/-- Every run of the program numbers the events of a kind. -/
class Numbers (tally : Tally sig) (program : Decoder sig α) : Prop where
  numbers : ∀ (buffer : Buffer) (state : State sig),
    (run buffer program state).Numbers tally (state.ticks tally.counter)

/-- An operation that neither counts nor is counted. -/
def Uncounted (tally : Tally sig) : Op sig → Prop
  | .emit event => tally.counted event = false
  | .tick ticked => ticked ≠ tally.counter
  | _ => True

section Numbers
variable {tally : Tally sig}

theorem Run.Numbers.bind {first : Run sig α} {next : α → State sig → Run sig β} {start : Nat}
    (earlier : first.Numbers tally start)
    (later : ∀ value state, (next value state).Numbers tally (state.ticks tally.counter)) :
    (first.bind next).Numbers tally start := by
  obtain ⟨outcome, state, trace, notes⟩ := first
  cases outcome with
  | error reason => exact earlier
  | ok value =>
      have both := Numbered.append earlier (later value state)
      rw [← stampedNumbers_append] at both
      exact both

instance numbers_pure (value : α) : Numbers tally (Pure.pure value : Decoder sig α) where
  numbers _ state := .none (state.ticks tally.counter)

instance numbers_bind (program : Decoder sig α) (next : α → Decoder sig β)
    [first : Numbers tally program] [rest : ∀ value, Numbers tally (next value)] :
    Numbers tally (program >>= next) where
  numbers buffer state := by
    rw [Decoder.bind_eq, run_bind]
    exact (first.numbers buffer state).bind fun value middle => (rest value).numbers buffer middle

instance numbers_ite (guard : Prop) [Decidable guard] (yes no : Decoder sig α)
    [first : Numbers tally yes] [second : Numbers tally no] :
    Numbers tally (if guard then yes else no) := by
  split
  · exact first
  · exact second

instance numbers_when (guard : Prop) [Decidable guard] (program : Decoder sig Unit)
    [body : Numbers tally program] : Numbers tally (Decoder.when guard program) := by
  unfold Decoder.when
  split
  · exact body
  · exact numbers_pure ()

theorem perform_uncounted (op : Op sig) (allow : Uncounted tally op) (buffer : Buffer)
    (state : State sig) :
    (perform buffer op state).Numbers tally (state.ticks tally.counter) := by
  cases op with
  | take count => simp only [perform]; split <;> exact .none _
  | skip count => simp only [perform]; split <;> exact .none _
  | emit event =>
      have plain : tally.counted event = false := allow
      simp only [perform, Run.Numbers, stampedNumbers, List.filter_cons, plain, Bool.false_eq_true,
        ↓reduceIte, List.filter_nil, List.map_nil]
      exact .none _
  | tick ticked =>
      have other : tally.counter ≠ ticked := fun same => allow same.symm
      have kept : (state.ticked ticked).ticks tally.counter = state.ticks tally.counter :=
        Function.update_of_ne other ..
      simp only [perform, Run.Numbers, Run.reply, kept]
      exact .none _
  | _ => exact .none _

theorem numbers_of_uses (program : Decoder sig α)
    (uses : Uses (Uncounted tally) program) : Numbers tally program := by
  induction uses with
  | pure value => exact numbers_pure value
  | act op next allow _ ih =>
      constructor
      intro buffer state
      rw [run_act]
      exact (perform_uncounted op allow buffer state).bind fun reply => (ih reply).numbers buffer

instance (priority := low) numbers_of_uncounted (program : Decoder sig α)
    [uses : Uses (Uncounted tally) program] : Numbers tally program :=
  numbers_of_uses program uses

/-- An uncounted program shows no event of the kind and leaves the counter alone. -/
theorem uncounted_silent (buffer : Buffer) (program : Decoder sig α)
    (uses : Uses (Uncounted tally) program) (state : State sig) :
    (∀ sent ∈ (run buffer program state).trace, tally.counted sent.event = false) ∧
      (run buffer program state).state.ticks tally.counter = state.ticks tally.counter := by
  induction uses generalizing state with
  | pure value => exact ⟨List.forall_mem_nil _, rfl⟩
  | act op next allow _ ih =>
      have single : (∀ sent ∈ (perform buffer op state).trace, tally.counted sent.event = false) ∧
          (perform buffer op state).state.ticks tally.counter = state.ticks tally.counter := by
        cases op with
        | take count => simp only [perform]; split <;> exact ⟨List.forall_mem_nil _, rfl⟩
        | skip count => simp only [perform]; split <;> exact ⟨List.forall_mem_nil _, rfl⟩
        | emit event =>
            refine ⟨?_, rfl⟩
            intro sent member
            rw [List.mem_singleton.mp member]
            exact allow
        | tick ticked =>
            have other : tally.counter ≠ ticked := fun same => allow same.symm
            exact ⟨List.forall_mem_nil _, Function.update_of_ne other ..⟩
        | _ => exact ⟨List.forall_mem_nil _, rfl⟩
      rw [run_act]
      generalize perform buffer op state = performed at single ⊢
      obtain ⟨outcome, middle, trace, notes⟩ := performed
      cases outcome with
      | error reason => exact single
      | ok reply =>
          obtain ⟨silent, kept⟩ := ih reply middle
          refine ⟨?_, kept.trans single.2⟩
          intro sent member
          rcases List.mem_append.mp member with member | member
          · exact single.1 sent member
          · exact silent sent member

/-- Counted events and the tick that follows each of them. -/
theorem numbers_emit_tick (event : sig.Event) (same : tally.counted event = true) (buffer : Buffer)
    (state : State sig) :
    (run buffer (do Decoder.emit event; Decoder.tick tally.counter) state).Numbers tally
      (state.ticks tally.counter) := by
  have performed : run buffer (do Decoder.emit event; Decoder.tick tally.counter) state =
      ⟨.ok (), state.ticked tally.counter, [⟨event, state.ticks⟩], []⟩ := rfl
  have counts : (state.ticked tally.counter).ticks tally.counter = state.ticks tally.counter + 1 :=
    Function.update_self ..
  rw [performed]
  simp only [Run.Numbers, stampedNumbers, List.filter_cons, same, ↓reduceIte, List.filter_nil,
    List.map_cons, List.map_nil, counts]
  exact ⟨rfl, rfl⟩

end Numbers

end Decoding
