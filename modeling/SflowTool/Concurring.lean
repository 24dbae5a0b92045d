import SflowTool.Discipline

/-! Two programs that take the same course. Started in states that differ at most in variables
that are hidden from the comparison, they end alike, in states that differ at most in these, and
what they show is related. Each part of one program is compared with the same part of the other,
so that a part may also be something that only one of them does. -/
namespace Decoding

variable {sig : Signature} {α β : Type}

/-- A relation between what two programs show that holds of the whole if it holds of the parts. -/
class Piecewise {event : Type} (shows : List event → List event → Prop) : Prop where
  nothing : shows [] []
  append : ∀ one two three four, shows one two → shows three four →
    shows (one ++ three) (two ++ four)

/-- Two states that differ in hidden variables and in the counters at most. -/
structure SameBut (hidden : sig.Var → Prop) (one two : State sig) : Prop where
  cursor : two.cursor = one.cursor
  marks : two.marks = one.marks
  store : ∀ var, ¬hidden var → two.store var = one.store var

/-- Two runs that end alike. -/
structure RunsAlike (shows : List sig.Event → List sig.Event → Prop) (hidden : sig.Var → Prop)
    (first second : Run sig α) : Prop where
  outcome : second.outcome = first.outcome
  state : SameBut hidden first.state second.state
  events : shows (first.trace.map Stamped.event) (second.trace.map Stamped.event)

/-- Two programs that take the same course on every datagram. -/
class Peers (shows : List sig.Event → List sig.Event → Prop) (hidden : sig.Var → Prop)
    (first second : Decoder sig α) : Prop where
  runs : ∀ buffer one two, SameBut hidden one two →
    RunsAlike shows hidden (run buffer first one) (run buffer second two)

section States
variable {hidden : sig.Var → Prop} {one two : State sig}

theorem SameBut.refl (state : State sig) : SameBut hidden state state := ⟨rfl, rfl, fun _ _ => rfl⟩

theorem SameBut.moved (same : SameBut hidden one two) (count : Nat) :
    SameBut hidden (one.moved count) (two.moved count) :=
  ⟨congrArg (· + count) same.cursor, same.marks, same.store⟩

theorem SameBut.marked (same : SameBut hidden one two) (name : sig.Mark) :
    SameBut hidden (one.marked name) (two.marked name) := by
  refine ⟨same.cursor, ?_, same.store⟩
  unfold State.marked
  rw [same.marks, same.cursor]

theorem SameBut.assigned (same : SameBut hidden one two) (var : sig.Var) (value : sig.val var) :
    SameBut hidden (one.assigned var value) (two.assigned var value) := by
  refine ⟨same.cursor, same.marks, fun other shown => ?_⟩
  by_cases here : other = var
  · subst here
    simp [State.assigned]
  · simp only [State.assigned, Function.update_of_ne here]
    exact same.store other shown

/-- A hidden variable may be set in one of the states only. -/
theorem SameBut.assigned_right (same : SameBut hidden one two) (var : sig.Var) (value : sig.val var)
    (unseen : hidden var) : SameBut hidden one (two.assigned var value) := by
  refine ⟨same.cursor, same.marks, fun other shown => ?_⟩
  have apart : other ≠ var := fun here => shown (here ▸ unseen)
  simp only [State.assigned, Function.update_of_ne apart]
  exact same.store other shown

theorem SameBut.symm (same : SameBut hidden one two) : SameBut hidden two one :=
  ⟨same.cursor.symm, same.marks.symm, fun var shown => (same.store var shown).symm⟩

theorem SameBut.trans {three : State sig} (same : SameBut hidden one two)
    (further : SameBut hidden two three) : SameBut hidden one three :=
  ⟨further.cursor.trans same.cursor, further.marks.trans same.marks,
    fun var shown => (further.store var shown).trans (same.store var shown)⟩

end States

/-- Operations that read no hidden variable and show what may be shown on both sides. -/
def InCommon (shows : List sig.Event → List sig.Event → Prop) (hidden : sig.Var → Prop) :
    Op sig → Prop
  | .get var => ¬hidden var
  | .emit event => shows [event] [event]
  | _ => True

section Programs
variable {shows : List sig.Event → List sig.Event → Prop} {hidden : sig.Var → Prop}

theorem RunsAlike.bind [pieces : Piecewise shows] {first second : Run sig α}
    (alike : RunsAlike shows hidden first second) (next next' : α → State sig → Run sig β)
    (rest : ∀ value, RunsAlike shows hidden (next value first.state) (next' value second.state)) :
    RunsAlike shows hidden (first.bind next) (second.bind next') := by
  obtain ⟨outcome, state, trace, notes⟩ := first
  obtain ⟨outcome', state', trace', notes'⟩ := second
  obtain ⟨same, reached, events⟩ := alike
  cases same
  cases outcome with
  | error reason => exact ⟨rfl, reached, events⟩
  | ok value =>
      have later := rest value
      refine ⟨later.outcome, later.state, ?_⟩
      simpa only [Run.bind, Run.after, List.map_append] using
        pieces.append _ _ _ _ events later.events

variable [pieces : Piecewise shows]

theorem perform_alike (buffer : Buffer) (op : Op sig) (common : InCommon shows hidden op)
    (one two : State sig) (same : SameBut hidden one two) :
    RunsAlike shows hidden (perform buffer op one) (perform buffer op two) := by
  cases op with
  | take count =>
      simp only [perform, same.cursor]
      split
      · exact ⟨rfl, same.moved count, pieces.nothing⟩
      · exact ⟨rfl, same.moved count, pieces.nothing⟩
  | skip count =>
      simp only [perform, same.cursor]
      split
      · exact ⟨rfl, same.moved _, pieces.nothing⟩
      · exact ⟨rfl, same.moved _, pieces.nothing⟩
  | get var =>
      refine ⟨?_, same, pieces.nothing⟩
      simp only [perform, Run.reply, same.store var common]
  | set var value => exact ⟨rfl, same.assigned var value, pieces.nothing⟩
  | mark name => exact ⟨rfl, same.marked name, pieces.nothing⟩
  | jump count => exact ⟨rfl, same.moved count, pieces.nothing⟩
  | emit event => exact ⟨rfl, same, common⟩
  | tick counter => exact ⟨rfl, ⟨same.cursor, same.marks, same.store⟩, pieces.nothing⟩
  | survey | since _ | peek _ _ _ | peekText _ _ =>
      refine ⟨?_, same, pieces.nothing⟩
      simp only [perform, Run.reply, same.cursor, same.marks]
  | note mark => exact ⟨rfl, same, pieces.nothing⟩
  | stop reason => exact ⟨rfl, same, pieces.nothing⟩

instance alike_bind (first second : Decoder sig α) (next next' : α → Decoder sig β)
    [begun : Peers shows hidden first second]
    [rest : ∀ value, Peers shows hidden (next value) (next' value)] :
    Peers shows hidden (first >>= next) (second >>= next') where
  runs buffer one two same := by
    rw [run_seq, run_seq]
    have alike := begun.runs buffer one two same
    exact alike.bind _ _ fun value => (rest value).runs buffer _ _ alike.state

instance alike_pure (value : α) : Peers shows hidden (Pure.pure value : Decoder sig α) (Pure.pure value) where
  runs _ _ _ same := ⟨rfl, same, pieces.nothing⟩

/-- A program that reads no hidden variable takes the same course as itself. -/
instance (priority := low) alike_of_uses (program : Decoder sig α)
    [uses : Uses (InCommon shows hidden) program] : Peers shows hidden program program where
  runs buffer one two same := by
    induction uses generalizing one two with
    | pure value => exact ⟨rfl, same, pieces.nothing⟩
    | act op next allow _ ih =>
        have single := perform_alike buffer op allow one two same
        exact single.bind _ _ fun reply => ih reply _ _ single.state

instance alike_ite (guard : Prop) [Decidable guard] (yes no yes' no' : Decoder sig α)
    [one : Peers shows hidden yes yes'] [two : Peers shows hidden no no'] :
    Peers shows hidden (if guard then yes else no) (if guard then yes' else no') := by
  split
  · exact one
  · exact two

instance alike_when (guard : Prop) [Decidable guard] (program program' : Decoder sig Unit)
    [body : Peers shows hidden program program'] :
    Peers shows hidden (Decoder.when guard program) (Decoder.when guard program') := by
  unfold Decoder.when
  split
  · exact body
  · exact alike_pure ()

instance alike_forM {item : Type} (program program' : item → Decoder sig Unit) (items : List item)
    [each : ∀ value, Peers shows hidden (program value) (program' value)] :
    Peers shows hidden (items.forM program) (items.forM program') := by
  induction items with
  | nil => exact alike_pure ()
  | cons head tail ih => exact @alike_bind _ _ _ _ _ _ (program head) _ _ _ (each head) fun _ => ih

end Programs

section Seen

/-! A relation of this kind: the same is shown, as far as it is looked at. -/

variable {event : Type}

def SameSeen (seen : event → Bool) (first second : List event) : Prop :=
  second.filter seen = first.filter seen

instance (seen : event → Bool) : Piecewise (SameSeen seen) where
  nothing := rfl
  append one two three four same further := by
    unfold SameSeen at *
    rw [List.filter_append, List.filter_append, same, further]

/-- Another one: what the second program shows of the first is what is kept. -/
def Keeps (kept : event → Bool) (first second : List event) : Prop := second = first.filter kept

instance (kept : event → Bool) : Piecewise (Keeps kept) where
  nothing := rfl
  append one two three four same further := by
    unfold Keeps at *
    rw [same, further, List.filter_append]

/-- Operations that nobody sees: they look, change hidden variables and show what is not looked
at. -/
def Aside (hidden : sig.Var → Prop) (seen : sig.Event → Bool) : Op sig → Prop
  | .survey | .since _ | .peek _ _ _ | .peekText _ _ | .get _ | .tick _ | .note _ => True
  | .set var _ => hidden var
  | .emit event => seen event = false
  | _ => False

variable {hidden : sig.Var → Prop} {seen : sig.Event → Bool}

theorem aside_returns (buffer : Buffer) (program : Decoder sig α)
    (uses : Uses (Aside hidden seen) program) (state : State sig) :
    (∃ value, (run buffer program state).outcome = .ok value) ∧
      SameBut hidden state (run buffer program state).state ∧
      ((run buffer program state).trace.map Stamped.event).filter seen = [] := by
  induction uses generalizing state with
  | pure value => exact ⟨⟨value, rfl⟩, .refl state, rfl⟩
  | act op next allow _ ih =>
      have single : (∃ reply, (perform buffer op state).outcome = .ok reply) ∧
          SameBut hidden state (perform buffer op state).state ∧
          ((perform buffer op state).trace.map Stamped.event).filter seen = [] := by
        cases op with
        | survey | since _ | peek _ _ _ | peekText _ _ | get _ | tick _ | note _ =>
            exact ⟨⟨_, rfl⟩, ⟨rfl, rfl, fun _ _ => rfl⟩, rfl⟩
        | set var value => exact ⟨⟨_, rfl⟩, (SameBut.refl state).assigned_right var value allow, rfl⟩
        | emit event =>
            refine ⟨⟨_, rfl⟩, .refl state, List.filter_eq_nil_iff.mpr fun other member => ?_⟩
            rw [List.mem_singleton.mp member]
            exact Bool.eq_false_iff.mp allow
        | _ => exact absurd allow id
      rw [run_act]
      -- the first operation by itself, and the rest from the state it leaves
      generalize perform buffer op state = performed at single ⊢
      obtain ⟨outcome, middle, trace, notes⟩ := performed
      obtain ⟨⟨reply, returned⟩, kept, unseen⟩ := single
      cases returned
      obtain ⟨returns, same, later⟩ := ih reply middle
      refine ⟨returns, kept.trans same, ?_⟩
      simp only [Run.bind, Run.after, List.map_append, List.filter_append, unseen, later,
        List.append_nil]

/-- Whatever is done aside, the course is the same. -/
theorem alike_aside (first second : Decoder sig Unit) (one : Uses (Aside hidden seen) first)
    (two : Uses (Aside hidden seen) second) : Peers (SameSeen seen) hidden first second where
  runs buffer state state' same := by
    obtain ⟨⟨_, returned⟩, kept, unseen⟩ := aside_returns buffer first one state
    obtain ⟨⟨_, returned'⟩, kept', unseen'⟩ := aside_returns buffer second two state'
    refine ⟨returned'.trans returned.symm, kept.symm.trans (same.trans kept'), ?_⟩
    exact unseen'.trans unseen.symm

end Seen

end Decoding
