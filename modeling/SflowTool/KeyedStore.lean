import Mathlib.Logic.Function.Basic
import Mathlib.Data.List.Basic

/-! A map of keys to values that is written only by putting a value under a key: the last
value put under a key is the one that stays. -/
namespace KeyedStore

variable {Key Value : Type} [DecidableEq Key]

abbrev Store (Key Value : Type) := Key → Option Value

def put (store : Store Key Value) (entry : Key × Value) : Store Key Value :=
  Function.update store entry.1 (some entry.2)

def putAll (store : Store Key Value) (entries : List (Key × Value)) : Store Key Value :=
  entries.foldl put store

theorem putAll_append (store : Store Key Value) (first second : List (Key × Value)) :
    putAll store (first ++ second) = putAll (putAll store first) second :=
  List.foldl_append

theorem putAll_absent (store : Store Key Value) (entries : List (Key × Value)) (key : Key)
    (absent : ∀ entry ∈ entries, entry.1 ≠ key) : putAll store entries key = store key := by
  induction entries generalizing store with
  | nil => rfl
  | cons entry entries ih =>
      obtain ⟨other, absent⟩ := List.forall_mem_cons.mp absent
      exact (ih (put store entry) absent).trans (Function.update_of_ne (Ne.symm other) _ _)

/-- What was put last stays. -/
theorem putAll_last (store : Store Key Value) (before after : List (Key × Value)) (key : Key)
    (value : Value) (absent : ∀ entry ∈ after, entry.1 ≠ key) :
    putAll store (before ++ (key, value) :: after) key = some value := by
  have put_here : put (putAll store before) (key, value) key = some value :=
    Function.update_self _ _ _
  rw [putAll_append]
  exact (putAll_absent _ after key absent).trans put_here

/-- A value that is found was there before or was put. -/
theorem putAll_found (store : Store Key Value) (entries : List (Key × Value)) (key : Key)
    (found : putAll store entries key ≠ none) :
    store key ≠ none ∨ ∃ entry ∈ entries, entry.1 = key := by
  by_cases absent : ∀ entry ∈ entries, entry.1 ≠ key
  · rw [putAll_absent store entries key absent] at found
    exact .inl found
  · push Not at absent
    exact .inr absent

/-- Where all entries of a key agree, their value is found. -/
theorem putAll_agreed (store : Store Key Value) (entries : List (Key × Value)) (key : Key)
    (value : Value) (agreed : ∀ entry ∈ entries, entry.1 = key → entry.2 = value)
    (known : store key = some value ∨ ∃ entry ∈ entries, entry.1 = key) :
    putAll store entries key = some value := by
  induction entries generalizing store with
  | nil => exact known.resolve_right fun none => by simp at none
  | cons entry entries ih =>
      obtain ⟨first, agreed⟩ := List.forall_mem_cons.mp agreed
      refine ih (put store entry) agreed ?_
      by_cases here : entry.1 = key
      · left
        rw [put, here, Function.update_self, first here]
      · rcases known with kept | ⟨named, member, same⟩
        · left
          rw [put, Function.update_of_ne (Ne.symm here)]
          exact kept
        · rcases List.mem_cons.mp member with rfl | member
          · exact absurd same here
          · exact .inr ⟨named, member, same⟩

end KeyedStore
