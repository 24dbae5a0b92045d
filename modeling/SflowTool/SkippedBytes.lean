import SflowTool.Progress

/-! The skip over bytes that nothing reads. It rounds up to whole words in 32 bits, where the three
largest counts wrap to none; these are refused for being longer than the datagram. -/
namespace SflowTool
open Decoding Decoding.Decoder

section Pointers

/-- The words skipped: the rounding wraps, and the quotient is an `int`. -/
def skipQuads (skip : UInt32) : Int32 := ((skip + 3) / 4).toInt32

/-- The offset of `datap` behind a skip, if neither guard aborts. -/
def skipTo (rawSampleLen : UInt32) (datap : Int) (skip : UInt32) : Option Int :=
  let moved := datap + 4 * (skipQuads skip).toInt
  if skip > rawSampleLen ∨ moved > rawSampleLen.toNat then none else some moved

/-- The quotient is small enough for an `int`. -/
theorem skipQuads_bytes (skip : UInt32) : 4 * (skipQuads skip).toInt = quadBytes skip := by
  have quotient : ((skip + 3) / 4).toNat < 2 ^ 30 := by
    have bound := (skip + 3).toNat_lt
    simp only [UInt32.toNat_div, UInt32.reduceToNat]
    omega
  have kept : (skipQuads skip).toInt = ((skip + 3) / 4).toNat :=
    BitVec.toInt_eq_toNat_of_lt (show 2 * ((skip + 3) / 4).toNat < 2 ^ 32 by omega)
  rw [kept, quadBytes, Nat.cast_mul]
  rfl

theorem skipTo_eq (rawSampleLen skip : UInt32) (datap : Nat) : skipTo rawSampleLen datap skip =
    if skip.toNat ≤ rawSampleLen.toNat ∧ datap + quadBytes skip ≤ rawSampleLen.toNat then
      some ((datap + quadBytes skip : Nat) : Int) else none := by
  have longer : skip > rawSampleLen ↔ ¬skip.toNat ≤ rawSampleLen.toNat := by
    rw [Nat.not_le]
    exact UInt32.lt_iff_toNat_lt
  unfold skipTo
  simp only [skipQuads_bytes, longer]
  by_cases known : skip.toNat ≤ rawSampleLen.toNat ∧ datap + quadBytes skip ≤ rawSampleLen.toNat
  · rw [if_pos known, if_neg (by omega)]
    rfl
  · rw [if_neg known, if_pos (by omega)]

variable {buffer : Buffer} {sample : SFSample}

/-- The skip of a decoder is that of the code. -/
theorem skipBytes_skipTo (skip : UInt32) (word : buffer.length < 2 ^ 32) :
    run buffer (skipBytes skip) sample =
      match skipTo (UInt32.ofNat buffer.length) sample.cursor skip with
      | some _ => .reply (buffer.slice sample.cursor (quadBytes skip)) (sample.moved (quadBytes skip))
      | none => .halt collector.eos (sample.moved (quadBytes skip)) := by
  have single : run buffer (skipBytes skip) sample = perform buffer (.skip skip) sample :=
    run_single buffer (.skip skip) sample
  rw [single, skipTo_eq, UInt32.toNat_ofNat_of_lt' word]
  simp only [perform]
  split <;> rfl

end Pointers

section Skips

/-- The rounding does not wrap for a count that is not longer than a datagram. -/
theorem quadBytes_ceil (skip : UInt32) (small : skip.toNat < 2 ^ 32 - 3) :
    quadBytes skip = 4 * (skip.toNat ⌈/⌉ 4) := by
  rw [quadBytes_toNat skip small, Nat.ceilDiv_eq_add_pred_div]
  rfl

/-- What is skipped was received, whatever the count: a skip moves over all of it, rounded up, and
aborts only where the datagram ends before that. A datagram is received into 65536 bytes. -/
theorem skipBytes_moves (buffer : Buffer) (sample : SFSample) (skip : UInt32)
    (received : buffer.length < 2 ^ 32 - 3) :
    let bytes := 4 * (skip.toNat ⌈/⌉ 4)
    buffer.length < sample.cursor + bytes ∧
        (run buffer (skipBytes skip) sample).outcome = .error .eos ∨
      sample.cursor + bytes ≤ buffer.length ∧ skip.toNat ≤ bytes ∧
        (run buffer (skipBytes skip) sample).Yields (buffer.slice sample.cursor bytes)
          (sample.moved bytes) := by
  intro bytes
  have least : skip.toNat ≤ bytes := by
    have rounded : bytes = 4 * ((skip.toNat + 3) / 4) :=
      congrArg (4 * ·) (Nat.ceilDiv_eq_add_pred_div skip.toNat 4)
    omega
  have word : buffer.length < 2 ^ 32 := by omega
  rw [skipBytes_skipTo skip word, skipTo_eq, UInt32.toNat_ofNat_of_lt' word]
  by_cases known : skip.toNat ≤ buffer.length
  · have moved : quadBytes skip = bytes := quadBytes_ceil skip (by omega)
    rw [moved]
    by_cases room : sample.cursor + bytes ≤ buffer.length
    · rw [if_pos ⟨known, room⟩]
      exact .inr ⟨room, least, rfl, rfl⟩
    · rw [if_neg fun both => room both.2]
      exact .inl ⟨Nat.not_le.mp room, rfl⟩
  · -- also where the rounding wraps to nothing
    rw [if_neg fun both => known both.1]
    exact .inl ⟨by omega, rfl⟩

/-- Three bytes are skipped as a word; the largest count is refused, whose rounding wraps. -/
theorem three_bytes_skipped :
    (run (datagramOf [1]) (skipBytes 3) firstSample).Yields [0, 0, 0, 1] (firstSample.moved 4) ∧
      (run (datagramOf [1]) (skipBytes 0xffffffff) firstSample).outcome = .error .eos := by
  have received : (datagramOf [1]).length < 2 ^ 32 - 3 := by decide
  constructor
  · rcases skipBytes_moves (datagramOf [1]) firstSample 3 received with
      ⟨short, -⟩ | ⟨-, -, yields⟩
    · exact absurd short (by decide)
    · exact yields
  · rcases skipBytes_moves (datagramOf [1]) firstSample 0xffffffff received with
      ⟨-, aborts⟩ | ⟨room, -⟩
    · exact aborts
    · exact absurd room (by decide)

end Skips

end SflowTool
