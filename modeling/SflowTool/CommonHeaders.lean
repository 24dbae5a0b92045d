import SflowTool.RecordHistories

/-! The common header of a DDoS entry. The address type is tested twice, once as the 32-bit word
it is and once cut to a character, and where the two disagree twelve octets of each stored
address are what lay on the stack. -/
namespace SflowTool
open Decoding Decoding.Decoder

variable {config : SFConfig} {buffer : Buffer} {sample : SFSample} {member : DdosMember}

/-- An address as it stands in a header: an IPv4 address is its first four octets, the others
are not looked at. -/
def headerAddress (buffer : Buffer) (ipType : UInt32) (start : Nat) : List UInt8 :=
  if ipType = 1 then buffer.slice start 4 else buffer.slice start 16

/-- The fields of a header by its own octets. -/
def headerFields (buffer : Buffer) (start : Nat) : DdosCommon where
  tableType := wordFrom buffer start
  ipType := wordFrom buffer (start + 4)
  staticEntry := wordFrom buffer (start + 8)
  ip := headerAddress buffer (wordFrom buffer (start + 4)) (start + 12)
  dstIp := headerAddress buffer (wordFrom buffer (start + 4)) (start + 28)
  subnetMask := halfFrom buffer (start + 44)
  age := halfFrom buffer (start + 46)

/-- A decode with these octets on the stack. -/
def onStack (config : SFConfig) (stackOctets : List UInt8) : SFConfig := { config with stackOctets }

/-- The header is read to its end and what is stored of it are its own fields, whatever the
rest of an address local holds. -/
def StoresHeader (config : SFConfig) (buffer : Buffer) (sample : SFSample) (member : DdosMember) :
    Prop :=
  ∀ stackOctets : List UInt8, stackOctets.length = 12 →
    let decoded := run buffer (readCountersDdosIpCounterCommon (onStack config stackOctets) member)
      sample
    decoded.outcome = .ok () ∧ decoded.state.cursor = sample.cursor + 48 ∧
      commonOf decoded.state member = headerFields buffer sample.cursor

/-- Where the tests agree the copy is the address of the header. -/
theorem copied_agreeing {ipType : UInt32} (agree : ipType = 1 ∨ ipType &&& 0xff ≠ 1)
    (start : Nat) : copiedOctets config ipType (addressFrom buffer ipType start) =
      headerAddress buffer ipType start := by
  unfold copiedOctets addressFrom headerAddress
  rcases agree with rfl | apart
  · rfl
  · have other : ipType ≠ 1 := by
      rintro rfl
      exact apart rfl
    rw [if_neg apart, if_neg other, if_neg other]
    exact if_neg (show (2 : UInt32) ≠ 1 by decide)

/-- Where they do not, the fifth octet of the copy is the first of the stack. -/
theorem copied_disagreeing {ipType : UInt32} (low : ipType &&& 0xff = 1) (other : ipType ≠ 1)
    (start : Nat) {first : UInt8} {rest : List UInt8} (stack : config.stackOctets = first :: rest)
    (same : copiedOctets config ipType (addressFrom buffer ipType start) =
      headerAddress buffer ipType start) : first = buffer.byte (start + 4) := by
  have copied : copiedOctets config ipType (addressFrom buffer ipType start) =
      ((buffer.slice start 4).reverse ++ first :: rest).take 16 := by
    unfold copiedOctets addressFrom
    rw [if_pos low, if_neg other, ← stack]
    rfl
  have header : headerAddress buffer ipType start = buffer.slice start 16 := if_neg other
  rw [copied, header] at same
  have fifth := congrArg (·[4]?) same
  have four : (buffer.slice start 4).reverse.length = 4 := by
    rw [List.length_reverse, Buffer.length_slice]
  rw [List.getElem?_take_of_lt (by decide), List.getElem?_append_right (Nat.le_of_eq four), four,
    List.getElem?_eq_getElem (show 4 < (buffer.slice start 16).length by
      rw [Buffer.length_slice]; decide), Buffer.slice_getElem] at fifth
  exact Option.some.inj fifth

/-- What is stored of a header that was received. -/
theorem stored_header (config : SFConfig) (room : sample.cursor + 48 ≤ buffer.length) :
    commonOf (run buffer (readCountersDdosIpCounterCommon config member) sample).state member =
      commonFrom config buffer sample.cursor := by
  rw [(@yields_common config buffer sample member room).state]
  exact @State.assigned_store collector sample (.common member) _

theorem disagreeing_unstored (config : SFConfig) (room : sample.cursor + 48 ≤ buffer.length)
    (low : wordFrom buffer (sample.cursor + 4) &&& 0xff = 1)
    (other : wordFrom buffer (sample.cursor + 4) ≠ 1) :
    ¬StoresHeader config buffer sample member := by
  intro stores
  -- the stack may hold anything but what the header has in this place
  let first := buffer.byte (sample.cursor + 12 + 4) + 1
  obtain ⟨-, -, fields⟩ := stores (List.replicate 12 first) List.length_replicate
  rw [stored_header _ room] at fields
  have copied := copied_disagreeing low other (sample.cursor + 12)
    (show (onStack config (List.replicate 12 first)).stackOctets = first :: _ from rfl)
    (congrArg DdosCommon.ip fields)
  have value := congrArg UInt8.toNat copied
  have bound := (buffer.byte (sample.cursor + 12 + 4)).toNat_lt
  rw [UInt8.toNat_add, show (1 : UInt8).toNat = 1 from rfl] at value
  omega

/-- A header of 48 octets stores its own fields exactly if its address type is 1 or differs
from 1 in its low byte. -/
theorem stores_header_iff (config : SFConfig) (buffer : Buffer) (sample : SFSample)
    (member : DdosMember) (room : sample.cursor + 48 ≤ buffer.length) :
    StoresHeader config buffer sample member ↔
      wordFrom buffer (sample.cursor + 4) = 1 ∨ wordFrom buffer (sample.cursor + 4) &&& 0xff ≠ 1 := by
  constructor
  · intro stores
    by_contra disagree
    obtain ⟨other, same⟩ := not_or.mp disagree
    exact disagreeing_unstored config room (not_not.mp same) other stores
  · intro agree stackOctets _
    have yielded := @yields_common (onStack config stackOctets) buffer sample member room
    refine ⟨yielded.outcome, congrArg State.cursor yielded.state, ?_⟩
    rw [stored_header _ room]
    unfold commonFrom headerFields
    rw [copied_agreeing agree, copied_agreeing agree]

/-- A header with this address type, all other octets zero. -/
def headerOfType (ipType : UInt32) : Buffer :=
  .ofBytes (List.replicate 4 0 ++ be32 ipType ++ List.replicate 40 0)

theorem ip4_header_stored : StoresHeader (defaultConfig .full) (headerOfType 1) firstSample .l4 ↔
    wordFrom (headerOfType 1) 4 = 1 ∨ wordFrom (headerOfType 1) 4 &&& 0xff ≠ 1 :=
  stores_header_iff (defaultConfig .full) (headerOfType 1) firstSample .l4 (Nat.le_refl 48)

/-- With an address type of 257 what lay on the stack is stored. -/
theorem narrowed_type_unstored :
    ¬StoresHeader (defaultConfig .full) (headerOfType 257) firstSample .l4 :=
  disagreeing_unstored _ (Nat.le_refl 48) (by decide +kernel) (by decide +kernel)

end SflowTool
