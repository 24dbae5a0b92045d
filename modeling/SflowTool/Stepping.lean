import Mathlib

/-! A machine that takes one input after the other: what holds in every state on the way,
and what is asked of every step on the way. -/
namespace Stepping

variable {State Input : Type}

/-- Every state on the way, the first and the last included. -/
def Throughout (step : Input → State → State) (holds : State → Prop) :
    List Input → State → Prop
  | [], state => holds state
  | input :: rest, state => holds state ∧ Throughout step holds rest (step input state)

/-- Every step is allowed in the state it is taken in. -/
def Allowed (step : Input → State → State) (guard : Input → State → Prop) :
    List Input → State → Prop
  | [], _ => True
  | input :: rest, state => guard input state ∧ Allowed step guard rest (step input state)

variable {step : Input → State → State}

/-- Where each step keeps a property exactly if it is allowed, the property holds on the
whole way exactly if all steps are allowed. -/
theorem throughout_iff_allowed (holds : State → Prop) (guard : Input → State → Prop)
    (exact_step : ∀ input state, holds state → (holds (step input state) ↔ guard input state))
    (inputs : List Input) (state : State) (first : holds state) :
    Throughout step holds inputs state ↔ Allowed step guard inputs state := by
  induction inputs generalizing state with
  | nil => exact ⟨fun _ => trivial, fun _ => first⟩
  | cons input rest ih =>
      constructor
      · rintro ⟨-, later⟩
        have next : holds (step input state) := by
          cases rest with
          | nil => exact later
          | cons second further => exact later.1
        exact ⟨(exact_step input state first).mp next, (ih _ next).mp later⟩
      · rintro ⟨allowed, later⟩
        have next := (exact_step input state first).mpr allowed
        exact ⟨first, (ih _ next).mpr later⟩

end Stepping
