import SflowTool.Discipline
import SflowTool.Preconditions

/-! The looks a run takes at the datagram without a check, in their order. -/
namespace Decoding

variable {sig : Signature} {α β : Type}

/-- A look at so many bytes, or at a text and the zero that ends it. -/
inductive Look where
  | octets (start count : Nat)
  | text (start length : Nat)
deriving DecidableEq

/-- The bytes looked at lie in `[low, high)`. -/
def Look.Inside (low high : Nat) : Look → Prop
  | octets start count => ∀ index < count, low ≤ start + index ∧ start + index < high
  | text start length => low ≤ start ∧ start + length < high

def looksOf (buffer : Buffer) (state : State sig) : Op sig → List Look
  | .peek name offset count => [.octets (state.marks name + offset) count]
  | .peekText name offset =>
      [.text (state.marks name + offset) (buffer.text (state.marks name + offset)).length]
  | _ => []

def looks (buffer : Buffer) : Decoder sig α → State sig → List Look
  | .pure _, _ => []
  | .act op next, state => looksOf buffer state op ++
      match (perform buffer op state).outcome with
      | .ok reply => looks buffer (next reply) (perform buffer op state).state
      | .error _ => []

theorem peekInside_iff (buffer : Buffer) (low high : Nat) (state : State sig) (op : Op sig) :
    PeekInside buffer low high state op ↔
      ∀ look ∈ looksOf buffer state op, look.Inside low high := by
  cases op with
  | peek name offset count =>
      rw [looksOf, List.forall_mem_singleton]
      exact Iff.rfl
  | peekText name offset =>
      rw [looksOf, List.forall_mem_singleton]
      exact Iff.rfl
  | _ => exact iff_of_true trivial (List.forall_mem_nil _)

theorem peeksInside_iff (buffer : Buffer) (low high : Nat) (program : Decoder sig α)
    (state : State sig) : PeeksInside buffer low high program state ↔
      ∀ look ∈ looks buffer program state, look.Inside low high := by
  unfold PeeksInside
  induction program generalizing state with
  | pure value => exact iff_of_true trivial (List.forall_mem_nil _)
  | act op next ih =>
      rw [Along, looks, List.forall_mem_append, peekInside_iff]
      apply and_congr_right'
      generalize perform buffer op state = performed
      obtain ⟨outcome, middle, trace, notes⟩ := performed
      cases outcome with
      | error reason => exact iff_of_true trivial (List.forall_mem_nil _)
      | ok reply => exact ih reply middle

theorem looks_bind (buffer : Buffer) (program : Decoder sig α) (next : α → Decoder sig β)
    (state : State sig) : looks buffer (program >>= next) state = looks buffer program state ++
      match (run buffer program state).outcome with
      | .ok value => looks buffer (next value) (run buffer program state).state
      | .error _ => [] := by
  rw [Decoder.bind_eq]
  induction program generalizing state with
  | pure value => rfl
  | act op rest ih =>
      rw [Decoder.bind, looks, looks, run_act, List.append_assoc]
      apply congrArg
      generalize perform buffer op state = performed
      obtain ⟨outcome, middle, trace, notes⟩ := performed
      cases outcome with
      | error reason => rfl
      | ok reply => exact ih reply middle

variable {buffer : Buffer} {program : Decoder sig α} {next : α → Decoder sig β}
  {state middle : State sig} {value : α}

/-- Behind a program that yields, a composition looks on as its second program does. -/
theorem looks_behind (yielded : (run buffer program state).Yields value middle) :
    looks buffer (program >>= next) state =
      looks buffer program state ++ looks buffer (next value) middle := by
  rw [looks_bind]
  obtain ⟨returned, reached⟩ := yielded
  rw [returned, ← reached]

theorem looks_quiet {rest : List Look} (yielded : (run buffer program state).Yields value middle)
    (quiet : looks buffer program state = [])
    (later : looks buffer (next value) middle = rest) :
    looks buffer (program >>= next) state = rest := by
  rw [looks_behind yielded, quiet, later, List.nil_append]

theorem looks_cons {look : Look} {rest : List Look}
    (yielded : (run buffer program state).Yields value middle)
    (seen : looks buffer program state = [look])
    (later : looks buffer (next value) middle = rest) :
    looks buffer (program >>= next) state = look :: rest := by
  rw [looks_behind yielded, seen, later, List.singleton_append]

theorem looks_append {looked rest : List Look}
    (yielded : (run buffer program state).Yields value middle)
    (seen : looks buffer program state = looked)
    (later : looks buffer (next value) middle = rest) :
    looks buffer (program >>= next) state = looked ++ rest := by
  rw [looks_behind yielded, seen, later]

/-- An operation that looks at nothing unchecked. -/
def Unseeing : Op sig → Prop
  | .peek _ _ _ | .peekText _ _ => False
  | _ => True

theorem looks_nil (uses : Uses Unseeing program) (state : State sig) : looks buffer program state = [] := by
  induction uses generalizing state with
  | pure value => rfl
  | act op next allow _ ih =>
      have single : looksOf buffer state op = [] := by
        cases op with
        | peek name offset count => exact allow.elim
        | peekText name offset => exact allow.elim
        | _ => rfl
      rw [looks, single, List.nil_append]
      split
      · exact ih _ _
      · rfl

end Decoding
