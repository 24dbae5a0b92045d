import SflowTool.Wire

/-! What a decode depends on. The checked reads never see a byte behind the datagram;
the unchecked looks of the header dissection, of the hardware addresses and of the
flexible record can. Where all of them stay inside, the receipt of a datagram is a
function of the received bytes. -/
namespace SflowTool
open Decoding Decoding.Decoder

theorem sameWindow_of_received (first second : Buffer) (length : first.length = second.length)
    (same : first.received = second.received) : first.SameWindow second 0 0 first.length := by
  intro index bound
  have left := first.held
  have right := second.held
  have entry : first.received[index]? = second.received[index]? := by rw [same]
  simp only [Buffer.received, List.getElem?_take, bound, length ▸ bound, ↓reduceIte] at entry
  simp only [Buffer.byte, Nat.zero_add, List.getD_eq_getElem?_getD, entry]

/-- Whatever lies behind the datagram in memory, its receipt does the same. -/
def DecidedByReceived (config : SFConfig) (buffer : Buffer) (sample : SFSample) : Prop :=
  ∀ other : Buffer, buffer.length = other.length → buffer.received = other.received →
    receiveSFlowDatagram config other sample = receiveSFlowDatagram config buffer sample

/-- A flow sample whose header record ends eight bytes into the transport header. -/
def shortSample (protocol : UInt32) : List UInt32 :=
  [1, 100, 7, 1, 100, 5, 6, 3, 4, 1, 1, 60, 1, 64, 0, 42, 0x00010203, 0x04050006, 0x0708090a,
    0x08004500, 0x0032abcd, 0x00004000 + protocol, 0x00000a00, 0x00010a00, 0x00020035,
    0x0036001e, 0]

/-- The flags of a TCP header lie behind its first eight bytes, here behind the datagram. -/
def tcpDatagram (behind : List UInt8) : Buffer where
  bytes := (datagramHeaderV5 1 ++ shortSample 6).flatMap be32 ++ behind
  length := 136
  held := by
    rw [List.length_append, show ((datagramHeaderV5 1 ++ shortSample 6).flatMap be32).length = 136
      from rfl]
    exact Nat.le_add_right _ _

/-- The TCP flags of the FLOW lines among some events. -/
def flagsOf (events : List Event) : List UInt32 :=
  events.filterMap fun event =>
    match event with
    | .flowLine line => some line.tcpFlags
    | _ => none

end SflowTool
