import SflowTool.Discipline

/-! Programs that act on the outside at once or not at all. A program commits when every
run of it that returns has shown an event of a kind and no run that stops has; what
follows the event only looks and reports, so that nothing can stop it any more. -/
namespace Decoding
variable {sig : Signature} {α β : Type}

/-- The run has shown an event of the kind. -/
def Run.Shows (exported : sig.Event → Bool) (performed : Run sig α) : Prop :=
  ∃ sent ∈ performed.trace, exported sent.event = true

/-- A run that returns has shown an event of the kind just when `sends` holds; one that
stops has shown none. -/
def Run.Commits (exported : sig.Event → Bool) (sends : Prop) (performed : Run sig α) : Prop :=
  match performed.outcome with
  | .ok _ => performed.Shows exported ↔ sends
  | .error _ => ¬performed.Shows exported

/-- An operation that shows no event of the kind. -/
def Unshown (exported : sig.Event → Bool) : Op sig → Prop
  | .emit event => exported event = false
  | _ => True

section Commits
variable {exported : sig.Event → Bool}

/-- What a composition shows, its first part or what follows has shown. -/
theorem shows_bind (first : Run sig α) (next : α → State sig → Run sig β) (value : α)
    (returned : first.outcome = .ok value) : (first.bind next).Shows exported ↔
      first.Shows exported ∨ (next value first.state).Shows exported := by
  obtain ⟨outcome, state, trace, notes⟩ := first
  cases returned
  simp only [Run.Shows, Run.bind, Run.after, List.mem_append]
  constructor
  · rintro ⟨sent, member | member, shown⟩
    · exact .inl ⟨sent, member, shown⟩
    · exact .inr ⟨sent, member, shown⟩
  · rintro (⟨sent, member, shown⟩ | ⟨sent, member, shown⟩)
    · exact ⟨sent, .inl member, shown⟩
    · exact ⟨sent, .inr member, shown⟩

theorem shows_bind_error (first : Run sig α) (next : α → State sig → Run sig β)
    (reason : sig.Stop) (stopped : first.outcome = .error reason) :
    (first.bind next).Shows exported ↔ first.Shows exported := by
  unfold Run.bind
  rw [stopped]
  rfl

/-- Behind a silent first part only what follows can show anything. -/
theorem shows_behind {first : Run sig α} {next : α → State sig → Run sig β}
    (silent : ¬first.Shows exported) : (first.bind next).Shows exported ↔
      ∃ value, first.outcome = .ok value ∧ (next value first.state).Shows exported := by
  cases returned : first.outcome with
  | error reason =>
      rw [shows_bind_error first next reason returned]
      constructor
      · intro shown
        exact absurd shown silent
      · rintro ⟨value, same, _⟩
        cases same
  | ok value =>
      rw [shows_bind first next value returned, or_iff_right silent]
      constructor
      · intro shown
        exact ⟨value, rfl, shown⟩
      · rintro ⟨other, same, shown⟩
        cases same
        exact shown

/-- What is silent in the end shows no more than what came before it. -/
theorem shows_ahead {first : Run sig α} {next : α → State sig → Run sig β}
    (silent : ∀ value state, ¬(next value state).Shows exported) :
    (first.bind next).Shows exported ↔ first.Shows exported := by
  cases returned : first.outcome with
  | error reason => exact shows_bind_error first next reason returned
  | ok value => rw [shows_bind first next value returned, or_iff_left (silent value _)]

theorem unshown_silent (buffer : Buffer) (program : Decoder sig α)
    (uses : Uses (Unshown exported) program) (state : State sig) :
    ¬(run buffer program state).Shows exported := by
  induction uses generalizing state with
  | pure value =>
      rintro ⟨sent, member, _⟩
      cases member
  | act op next allow _ ih =>
      have single : ¬(perform buffer op state).Shows exported := by
        rintro ⟨sent, member, shown⟩
        cases op with
        | take count => simp only [perform] at member; split at member <;> cases member
        | skip count => simp only [perform] at member; split at member <;> cases member
        | emit event =>
            rw [List.mem_singleton.mp member] at shown
            exact absurd shown (by rw [show exported event = false from allow]; decide)
        | _ => cases member
      rw [run_act]
      cases returned : (perform buffer op state).outcome with
      | error reason =>
          rw [shows_bind_error _ _ reason returned]
          exact single
      | ok reply =>
          rw [shows_bind _ _ reply returned]
          rintro (shown | shown)
          · exact single shown
          · exact ih reply _ shown

theorem Run.Commits.of_silent {performed : Run sig α} (silent : ¬performed.Shows exported) :
    performed.Commits exported False := by
  unfold Run.Commits
  split
  · exact iff_of_false silent id
  · exact silent

/-- A silent first part leaves the commitment to what follows. -/
theorem Run.Commits.after {first : Run sig α} {next : α → State sig → Run sig β} {sends : Prop}
    (silent : ¬first.Shows exported)
    (later : ∀ value, first.outcome = .ok value →
      (next value first.state).Commits exported sends) :
    (first.bind next).Commits exported sends := by
  cases returned : first.outcome with
  | error reason =>
      unfold Run.bind Run.Commits
      rw [returned]
      exact silent
  | ok value =>
      have follows := later value returned
      have shows_iff := @shows_bind _ _ _ exported first next value returned
      have outcomes : (first.bind next).outcome = (next value first.state).outcome := by
        unfold Run.bind
        rw [returned]
        rfl
      unfold Run.Commits at follows ⊢
      rw [outcomes]
      cases last : (next value first.state).outcome with
      | error reason =>
          rw [last] at follows
          rw [shows_iff]
          exact not_or.mpr ⟨silent, follows⟩
      | ok result =>
          rw [last] at follows
          rw [shows_iff, or_iff_right silent]
          exact follows

/-- What cannot stop and shows nothing leaves a commitment as it is. -/
theorem Run.Commits.before {first : Run sig α} {next : α → State sig → Run sig β} {sends : Prop}
    (commits : first.Commits exported sends)
    (later : ∀ value state, (∃ result, (next value state).outcome = .ok result) ∧
      ¬(next value state).Shows exported) :
    (first.bind next).Commits exported sends := by
  cases returned : first.outcome with
  | error reason =>
      unfold Run.Commits at commits ⊢
      rw [returned] at commits
      unfold Run.bind
      rw [returned]
      exact commits
  | ok value =>
      obtain ⟨⟨result, returns⟩, silent⟩ := later value first.state
      have shows_iff := @shows_bind _ _ _ exported first next value returned
      have outcomes : (first.bind next).outcome = .ok result := by
        unfold Run.bind
        rw [returned]
        exact returns
      unfold Run.Commits at commits ⊢
      rw [returned] at commits
      rw [outcomes]
      rw [shows_iff, or_iff_left silent]
      exact commits

/-- What has been shown stays shown, if what follows cannot stop. -/
theorem Run.Commits.at_once {first : Run sig α} {next : α → State sig → Run sig β}
    (shown : first.Shows exported)
    (later : ∀ value state, ∃ result, (next value state).outcome = .ok result)
    (value : α) (returned : first.outcome = .ok value) :
    (first.bind next).Commits exported True := by
  obtain ⟨result, returns⟩ := later value first.state
  have outcomes : (first.bind next).outcome = .ok result := by
    unfold Run.bind
    rw [returned]
    exact returns
  unfold Run.Commits
  rw [outcomes, shows_bind first next value returned]
  exact iff_of_true (.inl shown) trivial

/-- Every run of the program commits. -/
class Commits (exported : sig.Event → Bool) (program : Decoder sig α) : Prop where
  commits : ∀ (buffer : Buffer) (state : State sig),
    (run buffer program state).Commits exported True

theorem commits_emit (event : sig.Event) (kind : exported event = true) :
    Commits exported (Decoder.emit event) where
  commits _ _ := iff_of_true ⟨_, List.mem_singleton_self _, kind⟩ trivial

theorem commits_after (program : Decoder sig α) (next : α → Decoder sig β)
    (silent : Uses (Unshown exported) program) (rest : ∀ value, Commits exported (next value)) :
    Commits exported (program >>= next) where
  commits buffer state := by
    rw [Decoder.bind_eq, run_bind]
    exact .after (unshown_silent buffer program silent state)
      fun value _ => (rest value).commits buffer _

/-- An operation that reports, and not an event of the kind. -/
def Trailing (exported : sig.Event → Bool) (op : Op sig) : Prop := Reporting op ∧ Unshown exported op

theorem commits_before (program : Decoder sig α) (next : α → Decoder sig β)
    (first : Commits exported program) (rest : ∀ value, Uses (Trailing exported) (next value)) :
    Commits exported (program >>= next) where
  commits buffer state := by
    rw [Decoder.bind_eq, run_bind]
    refine (first.commits buffer state).before fun value middle => ⟨?_, ?_⟩
    · exact (reporting_returns buffer _ ((rest value).mono fun _ allow => allow.1) middle).1
    · exact unshown_silent buffer _ ((rest value).mono fun _ allow => allow.2) middle

end Commits

end Decoding
