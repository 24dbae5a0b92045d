import Mathlib

/-! Sums of 16-bit words with the carry brought around. A sum is a number up to 0xffff
that keeps the residue of the plain sum modulo 0xffff and is zero for zero words only,
so that a checksum word makes a sum 0xffff exactly when it cancels the rest modulo
0xffff. Swapping the bytes of every word multiplies the plain sum by 256 and does not
change which sums come to 0xffff. The module knows no packet format. -/
namespace OnesComplement

/-- The big-endian words of some octets; an odd last octet is the upper half of a word. -/
def wordsBE : List UInt8 → List Nat
  | high :: low :: rest => (256 * high.toNat + low.toNat) :: wordsBE rest
  | [high] => [256 * high.toNat]
  | [] => []

/-- The words as a little-endian host loads them; an odd last octet is a lower half. -/
def wordsLE : List UInt8 → List Nat
  | low :: high :: rest => (low.toNat + 256 * high.toNat) :: wordsLE rest
  | [low] => [low.toNat]
  | [] => []

/-- Addition with the carry brought around. -/
def addCarry (sum word : Nat) : Nat :=
  if sum + word ≤ 0xffff then sum + word else sum + word - 0xffff

def onesSum (words : List Nat) : Nat := words.foldl addCarry 0

theorem addCarry_bound (sum word : Nat) (small : sum ≤ 0xffff) (word16 : word ≤ 0xffff) :
    addCarry sum word ≤ 0xffff := by
  unfold addCarry
  split <;> omega

theorem addCarry_mod (sum word : Nat) : addCarry sum word % 0xffff = (sum + word) % 0xffff := by
  unfold addCarry
  split
  · rfl
  · omega

theorem addCarry_zero (sum word : Nat) : addCarry sum word = 0 ↔ sum + word = 0 := by
  unfold addCarry
  split <;> omega

/-- What a carried sum keeps of the plain one. -/
structure Carried (carried plain : Nat) : Prop where
  bound : carried ≤ 0xffff
  residue : carried % 0xffff = plain % 0xffff
  zero : carried = 0 ↔ plain = 0

theorem Carried.add {carried plain : Nat} (related : Carried carried plain) (word : Nat)
    (word16 : word ≤ 0xffff) : Carried (addCarry carried word) (plain + word) where
  bound := addCarry_bound carried word related.bound word16
  residue := by
    rw [addCarry_mod]
    have same := related.residue
    omega
  zero := by
    rw [addCarry_zero]
    have same := related.zero
    omega

theorem foldl_carried (words : List Nat) (word16 : ∀ word ∈ words, word ≤ 0xffff)
    (carried plain : Nat) (related : Carried carried plain) :
    Carried (words.foldl addCarry carried) (plain + words.sum) := by
  induction words generalizing carried plain with
  | nil => exact related
  | cons word rest ih =>
      rw [List.foldl_cons, List.sum_cons, ← Nat.add_assoc]
      apply ih
      · intro other member
        exact word16 other (List.mem_cons_of_mem word member)
      · exact related.add word (word16 word List.mem_cons_self)

theorem onesSum_carried (words : List Nat) (word16 : ∀ word ∈ words, word ≤ 0xffff) :
    Carried (onesSum words) words.sum := by
  have start : Carried 0 0 := ⟨by decide, rfl, Iff.rfl⟩
  simpa [onesSum] using foldl_carried words word16 0 0 start

theorem Carried.full_iff {carried plain : Nat} (related : Carried carried plain) :
    carried = 0xffff ↔ 0 < plain ∧ plain % 0xffff = 0 := by
  obtain ⟨bound, residue, zero⟩ := related
  omega

theorem wordsBE_bound (octets : List UInt8) : ∀ word ∈ wordsBE octets, word ≤ 0xffff := by
  fun_induction wordsBE octets with
  | case1 high low rest ih =>
      have highBound := high.toNat_lt
      have lowBound := low.toNat_lt
      intro word member
      rcases List.mem_cons.mp member with rfl | member
      · omega
      · exact ih word member
  | case2 high =>
      have highBound := high.toNat_lt
      intro word member
      rw [List.mem_singleton.mp member]
      omega
  | case3 => exact List.forall_mem_nil _

/-- The swapped words sum to 256 times as much, modulo 0xffff. -/
theorem sum_wordsBE (octets : List UInt8) :
    (wordsBE octets).sum % 0xffff = 256 * (wordsLE octets).sum % 0xffff ∧
      ((wordsBE octets).sum = 0 ↔ (wordsLE octets).sum = 0) := by
  fun_induction wordsBE octets with
  | case1 high low rest ih =>
      simp only [wordsLE, List.sum_cons]
      omega
  | case2 high =>
      simp only [wordsLE, List.sum_cons, List.sum_nil]
      omega
  | case3 => simp [wordsLE]

/-- The carried sum of a plain one is one number only. -/
theorem Carried.unique {carried other plain : Nat} (first : Carried carried plain)
    (second : Carried other plain) : carried = other := by
  obtain ⟨bound, residue, zero⟩ := first
  obtain ⟨limit, same, none⟩ := second
  omega

theorem wordsLE_le (octets : List UInt8) : ∀ word ∈ wordsLE octets, word ≤ 0xffff := by
  fun_induction wordsLE octets with
  | case1 low high rest ih =>
      have lowBound := low.toNat_lt
      have highBound := high.toNat_lt
      intro word member
      rcases List.mem_cons.mp member with rfl | member
      · omega
      · exact ih word member
  | case2 low =>
      have lowBound := low.toNat_lt
      intro word member
      rw [List.mem_singleton.mp member]
      omega
  | case3 => exact List.forall_mem_nil _

/-- The bytes of a word turned around. -/
def swapped (word : Nat) : Nat := 256 * (word % 256) + word / 256

/-- The sum of the swapped words is the sum with its bytes swapped. -/
theorem onesSum_swapped (octets : List UInt8) :
    onesSum (wordsBE octets) = swapped (onesSum (wordsLE octets)) := by
  obtain ⟨residue, zero⟩ := sum_wordsBE octets
  have little := onesSum_carried _ (wordsLE_le octets)
  refine (onesSum_carried _ (wordsBE_bound octets)).unique ?_
  obtain ⟨bound, same, none⟩ := little
  unfold swapped
  constructor
  · omega
  · omega
  · omega

/-- Octets whose words, in network order, sum to 0xffff. -/
def SumsFull (octets : List UInt8) : Prop := onesSum (wordsBE octets) = 0xffff

instance (octets : List UInt8) : Decidable (SumsFull octets) :=
  inferInstanceAs (Decidable (_ = _))

/-- The byte order in which the words are summed does not matter. -/
theorem sumsFull_iff (octets : List UInt8) :
    SumsFull octets ↔ 0 < (wordsLE octets).sum ∧ (wordsLE octets).sum % 0xffff = 0 := by
  obtain ⟨residue, zero⟩ := sum_wordsBE octets
  unfold SumsFull
  rw [(onesSum_carried _ (wordsBE_bound octets)).full_iff]
  constructor
  · rintro ⟨positive, divides⟩
    omega
  · rintro ⟨positive, divides⟩
    omega

theorem wordsLE_append (first second : List UInt8) (even : first.length % 2 = 0) :
    wordsLE (first ++ second) = wordsLE first ++ wordsLE second := by
  fun_induction wordsLE first with
  | case1 low high rest ih =>
      simp only [List.length_cons] at even
      simp only [List.cons_append, wordsLE]
      rw [ih (by omega)]
  | case2 low => simp at even
  | case3 => rfl

end OnesComplement
