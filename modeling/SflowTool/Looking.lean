import Mathlib

/-! Computations that look at a memory and may stop: each keeps the places it has looked at, in
their order, beside its value. -/
namespace Looking

structure Looked (α : Type) where
  value : Option α
  looks : List Nat

variable {α β Byte : Type}

namespace Looked

def pure (value : α) : Looked α := ⟨some value, []⟩

/-- The second computation is not reached where the first stops. -/
def bind (first : Looked α) (next : α → Looked β) : Looked β :=
  match first.value with
  | some value => ⟨(next value).value, first.looks ++ (next value).looks⟩
  | none => ⟨none, first.looks⟩

instance : Monad Looked where
  pure := pure
  bind := bind

end Looked

def look (memory : Nat → Byte) (place : Nat) : Looked Byte := ⟨some (memory place), [place]⟩

def stop : Looked α := ⟨none, []⟩

theorem bind_value (first : Looked α) (next : α → Looked β) :
    (first >>= next).value = first.value.bind fun value => (next value).value := by
  show (first.bind next).value = _
  unfold Looked.bind
  split
  · rename_i found
    rw [found]
    rfl
  · rename_i none
    rw [none]
    rfl

/-- Where the computation does not stop, it has looked below the limit only. -/
def Inside (limit : Nat) (looked : Looked α) : Prop :=
  looked.value ≠ none → ∀ place ∈ looked.looks, place < limit

variable {limit : Nat}

theorem inside_pure (value : α) : Inside limit (pure value : Looked α) :=
  fun _ _ none => absurd none List.not_mem_nil

theorem inside_stop : Inside limit (stop : Looked α) := fun stopped => absurd rfl stopped

theorem inside_look (memory : Nat → Byte) {place : Nat} (inside : place < limit) :
    Inside limit (look memory place) := fun _ other member => by
  rw [List.mem_singleton.mp member]
  exact inside

/-- A look may come before the test that keeps it inside. -/
theorem inside_tested {first : Looked α} {next : α → Looked β}
    (before : ∀ value, first.value = some value → (next value).value ≠ none →
      ∀ place ∈ first.looks, place < limit)
    (after : ∀ value, first.value = some value → Inside limit (next value)) :
    Inside limit (first >>= next) := by
  show Inside limit (first.bind next)
  unfold Looked.bind
  split
  · rename_i value found
    intro goesOn place member
    rcases List.mem_append.mp member with here | later
    · exact before value found goesOn place here
    · exact after value found goesOn place later
  · exact fun stopped => absurd rfl stopped

theorem inside_bind {first : Looked α} {next : α → Looked β} (before : Inside limit first)
    (after : ∀ value, first.value = some value → Inside limit (next value)) :
    Inside limit (first >>= next) :=
  inside_tested (fun value found _ => before (found ▸ Option.some_ne_none value)) after

theorem inside_ite {guard : Prop} [Decidable guard] {yes no : Looked α}
    (held : guard → Inside limit yes) (failed : ¬guard → Inside limit no) :
    Inside limit (if guard then yes else no) := by
  split
  · exact held ‹guard›
  · exact failed ‹¬guard›

end Looking
