import SflowTool.Yielding

/-! The value, the state and the events a run comes to. A program whose events matter one by
one is followed with these rules, as one whose value matters is with those for its yield. -/
namespace Decoding

variable {sig : Signature} {α β : Type}

/-- The run returns this value in this state and has shown these events. -/
structure Run.Emits (performed : Run sig α) (value : α) (final : State sig)
    (events : List sig.Event) : Prop where
  yields : performed.Yields value final
  events : performed.trace.map Stamped.event = events

theorem Run.Emits.bind {first : Run sig α} {next : α → State sig → Run sig β} {value : α}
    {middle final : State sig} {result : β} {before after : List sig.Event}
    (emitted : first.Emits value middle before)
    (rest : (next value middle).Emits result final after) :
    (first.bind next).Emits result final (before ++ after) := by
  obtain ⟨outcome, state, trace, notes⟩ := first
  obtain ⟨⟨returned, reached⟩, shown⟩ := emitted
  cases returned
  cases reached
  refine ⟨⟨rest.yields.outcome, rest.yields.state⟩, ?_⟩
  rw [← shown, ← rest.events]
  exact List.map_append

variable {state middle final : State sig} {value : α} {result : β} {before after : List sig.Event}

theorem emits_bind (buffer : Buffer) (program : Decoder sig α) (next : α → Decoder sig β)
    (emitted : (run buffer program state).Emits value middle before)
    (rest : (run buffer (next value) middle).Emits result final after) :
    (run buffer (program >>= next) state).Emits result final (before ++ after) := by
  rw [run_seq]
  exact emitted.bind rest

theorem emits_pure (buffer : Buffer) (value : α) (state : State sig) :
    (run buffer (Pure.pure value) state).Emits value state [] := ⟨yields_pure buffer value state, rfl⟩

theorem emits_emit (buffer : Buffer) (event : sig.Event) (state : State sig) :
    (run buffer (.emit event) state).Emits () state [event] := ⟨yields_emit buffer event state, rfl⟩

theorem emits_get (buffer : Buffer) (var : sig.Var) (state : State sig) :
    (run buffer (.get var) state).Emits (state.store var) state [] := ⟨⟨rfl, rfl⟩, rfl⟩

theorem emits_set (buffer : Buffer) (var : sig.Var) (value : sig.val var) (state : State sig) :
    (run buffer (.set var value) state).Emits () (state.assigned var value) [] := ⟨⟨rfl, rfl⟩, rfl⟩

/-- A step that shows nothing is not seen among the events. -/
theorem emits_behind (buffer : Buffer) (program : Decoder sig α) (next : α → Decoder sig β)
    (emitted : (run buffer program state).Emits value middle [])
    (rest : (run buffer (next value) middle).Emits result final after) :
    (run buffer (program >>= next) state).Emits result final after :=
  emits_bind buffer program next emitted rest

/-- Each item of a list shows its events, and none of them changes the state. -/
theorem emits_forM (buffer : Buffer) (program : α → Decoder sig Unit) (shown : α → List sig.Event)
    (each : ∀ value, (run buffer (program value) state).Emits () state (shown value))
    (values : List α) :
    (run buffer (values.forM program) state).Emits () state (values.flatMap shown) := by
  induction values with
  | nil => exact emits_pure buffer () state
  | cons head tail ih => exact emits_bind buffer (program head) _ (each head) ih

/-- The run returns and has shown these events, whatever state it ends in. -/
def Run.Displays (performed : Run sig α) (events : List sig.Event) : Prop :=
  ∃ value final, performed.Emits value final events

theorem Run.Emits.displays {performed : Run sig α} (emitted : performed.Emits value final before) :
    performed.Displays before := ⟨value, final, emitted⟩

theorem displays_bind (buffer : Buffer) (program : Decoder sig α) (next : α → Decoder sig β)
    (emitted : (run buffer program state).Emits value middle before)
    (rest : (run buffer (next value) middle).Displays after) :
    (run buffer (program >>= next) state).Displays (before ++ after) := by
  obtain ⟨result, final, shown⟩ := rest
  exact (emits_bind buffer program next emitted shown).displays

theorem displays_behind (buffer : Buffer) (program : Decoder sig α) (next : α → Decoder sig β)
    (emitted : (run buffer program state).Emits value middle [])
    (rest : (run buffer (next value) middle).Displays after) :
    (run buffer (program >>= next) state).Displays after :=
  displays_bind buffer program next emitted rest

/-- The run stops and has shown these events. -/
def Run.Breaks (performed : Run sig α) (events : List sig.Event) : Prop :=
  (∃ reason, performed.outcome = .error reason) ∧ performed.trace.map Stamped.event = events

theorem breaks_first (buffer : Buffer) (program : Decoder sig α) (next : α → Decoder sig β)
    (broken : (run buffer program state).Breaks before) :
    (run buffer (program >>= next) state).Breaks before := by
  rw [run_seq]
  obtain ⟨⟨reason, stopped⟩, shown⟩ := broken
  unfold Run.bind
  rw [stopped]
  exact ⟨⟨reason, rfl⟩, shown⟩

theorem breaks_behind (buffer : Buffer) (program : Decoder sig α) (next : α → Decoder sig β)
    (emitted : (run buffer program state).Emits value middle [])
    (broken : (run buffer (next value) middle).Breaks after) :
    (run buffer (program >>= next) state).Breaks after := by
  rw [run_seq]
  generalize run buffer program state = first at emitted ⊢
  obtain ⟨outcome, reached, trace, notes⟩ := first
  obtain ⟨⟨returned, ended⟩, shown⟩ := emitted
  obtain ⟨⟨reason, stopped⟩, later⟩ := broken
  cases returned
  cases ended
  refine ⟨⟨reason, stopped⟩, ?_⟩
  have silent : trace = [] := List.map_eq_nil_iff.mp shown
  rw [← later]
  exact congrArg (List.map Stamped.event) (by rw [silent]; exact List.nil_append _)

end Decoding
