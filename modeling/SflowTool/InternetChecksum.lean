import SflowTool.SpoofedExport

/-! The checksum of the raw packets with the `int` it is summed in. Up to 65535 octets leave
the accumulator in its range, and what is returned is the Internet checksum in the byte order
of the host, so that a word that takes it makes the checksum of the whole zero. -/
namespace SflowTool
open Decoding OnesComplement

section Accumulator

/-- An addition to an `int` that is not negative; it overflows from 2^31 on. -/
def addInt (sum word : Nat) : Option Nat := if sum + word < 2 ^ 31 then some (sum + word) else none

/-- The loop of `in_checksum` in an `int`. -/
def inChecksumIntLoop : List UInt8 → Nat → Option Nat
  | low :: high :: rest, sum => do
      let sum ← addInt sum (low.toNat + 256 * high.toNat)
      inChecksumIntLoop rest sum
  | [low], sum => addInt sum low.toNat
  | [], sum => some sum

/-- The checksum, where no addition overflows. -/
def inChecksumInt (octets : List UInt8) : Option UInt16 := do
  let sum ← inChecksumIntLoop octets 0
  let sum ← addInt (sum >>> 16) (sum &&& 0xffff)
  let sum ← addInt sum (sum >>> 16)
  return ~~~UInt16.ofNat sum

theorem addInt_fits {sum word : Nat} (fits : sum + word < 2 ^ 31) :
    addInt sum word = some (sum + word) := if_pos fits

/-- A loop whose sum stays below 2^31 has not overflowed on the way. -/
theorem inChecksumIntLoop_fits (octets : List UInt8) (sum : Nat)
    (fits : sum + (wordsLE octets).sum < 2 ^ 31) :
    inChecksumIntLoop octets sum = some (inChecksumLoop octets sum) := by
  fun_induction inChecksumLoop octets sum with
  | case1 low high rest sum ih =>
      simp only [wordsLE, List.sum_cons] at fits
      unfold inChecksumIntLoop
      rw [addInt_fits (by omega)]
      exact ih (by omega)
  | case2 sum low =>
      simp only [wordsLE, List.sum_cons, List.sum_nil] at fits
      exact addInt_fits (by omega)
  | case3 sum => rfl

theorem inChecksumInt_fits (octets : List UInt8) (fits : (wordsLE octets).sum < 2 ^ 31) :
    inChecksumInt octets = some (inChecksum octets) := by
  have low : ∀ number : Nat, number &&& 65535 = number % 2 ^ 16 :=
    fun number => Nat.and_two_pow_sub_one_eq_mod number 16
  have high : ∀ number : Nat, number >>> 16 = number / 2 ^ 16 :=
    fun number => Nat.shiftRight_eq_div_pow number 16
  have plain := inChecksumLoop_eq octets 0
  have folded : addInt (inChecksumLoop octets 0 >>> 16) (inChecksumLoop octets 0 &&& 0xffff) =
      some (inChecksumLoop octets 0 >>> 16 + (inChecksumLoop octets 0 &&& 0xffff)) := by
    apply addInt_fits
    rw [low, high]
    omega
  have again (sum : Nat) (small : sum < 2 ^ 17) :
      addInt sum (sum >>> 16) = some (sum + sum >>> 16) := by
    apply addInt_fits
    rw [high]
    omega
  unfold inChecksumInt inChecksum
  rw [inChecksumIntLoop_fits octets 0 (by omega)]
  simp only [Option.bind_eq_bind, Option.bind_some, folded]
  rw [again _ (by rw [low, high]; omega)]
  rfl

end Accumulator

section Rfc1071

/-- The complement of the one's complement sum of the words in network order, an odd last
octet padded with a zero. -/
def rfc1071Checksum (octets : List UInt8) : Nat := 0xffff - onesSum (wordsBE octets)

/-- Folding the upper half in twice carries a sum. -/
theorem fold_carried (total : Nat) (small : total < 2 ^ 31) :
    let folded := total / 2 ^ 16 + total % 2 ^ 16
    Carried ((folded + folded / 2 ^ 16) % 2 ^ 16) total := by
  intro folded
  have split : total = 65536 * (total / 2 ^ 16) + total % 2 ^ 16 := by omega
  by_cases carry : folded < 2 ^ 16
  · have once : (folded + folded / 2 ^ 16) % 2 ^ 16 = folded := by
      rw [Nat.div_eq_of_lt carry]
      exact Nat.mod_eq_of_lt carry
    rw [once]
    constructor
    · omega
    · omega
    · omega
  · have one : folded / 2 ^ 16 = 1 := by omega
    have around : (folded + folded / 2 ^ 16) % 2 ^ 16 = folded + 1 - 2 ^ 16 := by
      rw [one]
      omega
    rw [around]
    constructor
    · omega
    · omega
    · omega

/-- What is returned is the complement of the carried sum. -/
theorem inChecksum_complement (octets : List UInt8) (fits : (wordsLE octets).sum < 2 ^ 31) :
    (inChecksum octets).toNat = 0xffff - onesSum (wordsLE octets) := by
  have low : ∀ number : Nat, number &&& 65535 = number % 2 ^ 16 :=
    fun number => Nat.and_two_pow_sub_one_eq_mod number 16
  have plain := inChecksumLoop_eq octets 0
  have same := (fold_carried _ fits).unique (onesSum_carried _ (wordsLE_le octets))
  simp only [inChecksum, plain, Nat.zero_add, UInt16.toNat_not, UInt16.toNat_ofNat', low,
    Nat.shiftRight_eq_div_pow, UInt16.size]
  exact congrArg (2 ^ 16 - 1 - ·) same

theorem htons_inChecksum (octets : List UInt8) (fits : (wordsLE octets).sum < 2 ^ 31) :
    (htons (inChecksum octets)).toNat = rfc1071Checksum octets := by
  have bound := (onesSum_carried _ (wordsLE_le octets)).bound
  unfold rfc1071Checksum
  rw [htons_toNat, inChecksum_complement octets fits, onesSum_swapped]
  unfold swapped
  omega

end Rfc1071

section Fields

/-- A cleared field, and what lies before and behind it. -/
theorem field_split {octets : List UInt8} {offset : Nat} (inside : offset + 2 ≤ octets.length)
    (cleared : fieldAt octets offset 2 = [0, 0]) :
    octets = octets.take offset ++ (le16 0 ++ octets.drop (offset + 2)) := by
  have behind : octets.drop offset = le16 0 ++ octets.drop (offset + 2) := by
    rw [← List.take_append_drop 2 (octets.drop offset), List.drop_drop]
    exact congrArg (· ++ octets.drop (offset + 2)) cleared
  rw [← behind, List.take_append_drop]

/-- A word that is stored in a cleared field is added to the sum. -/
theorem sum_stored (octets : List UInt8) (offset : Nat) (aligned : offset % 2 = 0)
    (inside : offset + 2 ≤ octets.length) (cleared : fieldAt octets offset 2 = [0, 0])
    (half : UInt16) : (wordsLE (splice octets offset (le16 half))).sum =
      (wordsLE octets).sum + half.toNat := by
  have place : (octets.take offset).length = offset := List.length_take_of_le (by omega)
  have even : (octets.take offset).length % 2 = 0 := place.symm ▸ aligned
  have stored : splice octets offset (le16 half) =
      octets.take offset ++ (le16 half ++ octets.drop (offset + 2)) := by
    conv_lhs => rw [field_split inside cleared]
    exact splice_part _ _ _ _ _ place rfl
  have words (value : UInt16) (rest : List UInt8) :
      wordsLE (le16 value ++ rest) = value.toNat :: wordsLE rest :=
    congrArg (· :: wordsLE rest) (half_octets value)
  rw [stored]
  conv_rhs => rw [field_split inside cleared]
  rw [wordsLE_append _ _ even, wordsLE_append _ _ even, words, words, List.sum_append,
    List.sum_append, List.sum_cons, List.sum_cons]
  exact (by omega : ∀ first half rest : Nat,
    first + (half + rest) = first + (0 + rest) + half) _ _ _

theorem inChecksum_zero (octets : List UInt8) (fits : (wordsLE octets).sum < 2 ^ 31)
    (positive : 0 < (wordsLE octets).sum) (divides : (wordsLE octets).sum % 0xffff = 0) :
    inChecksum octets = 0 := by
  have full := (onesSum_carried _ (wordsLE_le octets)).full_iff.mpr ⟨positive, divides⟩
  apply UInt16.toNat_inj.mp
  rw [inChecksum_complement octets fits, full]
  rfl

/-- Up to 65535 octets the sum does not overflow, the checksum in network order is the
Internet checksum, and stored in a cleared word, zero as 0xffff, it makes the checksum
zero. -/
theorem inChecksum_rfc1071 (octets : List UInt8) (short : octets.length ≤ 65535) :
    ∃ checksum, inChecksumInt octets = some checksum ∧
      (htons checksum).toNat = rfc1071Checksum octets ∧
      ∀ offset, offset % 2 = 0 → offset + 2 ≤ octets.length → fieldAt octets offset 2 = [0, 0] →
        inChecksumInt (splice octets offset
          (le16 (if checksum = 0 then 0xffff else checksum))) = some 0 := by
  have fits := wordsLE_fits octets short
  refine ⟨inChecksum octets, inChecksumInt_fits octets fits, htons_inChecksum octets fits, ?_⟩
  intro offset aligned inside cleared
  show inChecksumInt (splice octets offset (le16 (checksumField octets))) = some 0
  have sum := sum_stored octets offset aligned inside cleared (checksumField octets)
  have length : (splice octets offset (le16 (checksumField octets))).length = octets.length := by
    unfold splice
    rw [List.length_append, List.length_append, List.length_take, List.length_drop]
    simp only [le16, List.length_cons, List.length_nil]
    omega
  have room := wordsLE_fits (splice octets offset (le16 (checksumField octets)))
    (length.symm ▸ short)
  obtain ⟨positive, divides⟩ := checksumField_cancels octets short
  rw [inChecksumInt_fits _ room, inChecksum_zero _ room (by omega) (by omega)]

/-- An odd number of octets with a cleared word. -/
theorem odd_octets_rfc1071 :
    ∃ checksum, inChecksumInt [0x45, 0, 0, 0, 7] = some checksum ∧
      (htons checksum).toNat = rfc1071Checksum [0x45, 0, 0, 0, 7] ∧
      ∀ offset, offset % 2 = 0 → offset + 2 ≤ [0x45, 0, 0, 0, 7].length →
        fieldAt [0x45, 0, 0, 0, 7] offset 2 = [0, 0] →
          inChecksumInt (splice [0x45, 0, 0, 0, 7] offset
            (le16 (if checksum = 0 then 0xffff else checksum))) = some 0 :=
  inChecksum_rfc1071 [0x45, 0, 0, 0, 7] (by decide)

end Fields

end SflowTool
