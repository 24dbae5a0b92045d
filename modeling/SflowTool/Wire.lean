import SflowTool.Datagram

/-! Words as they lie on the wire, and the datagrams that are written as words. -/
namespace SflowTool
open Decoding Decoding.Decoder

def be32 (value : UInt32) : List UInt8 :=
  [(value >>> 24).toUInt8, (value >>> 16).toUInt8, (value >>> 8).toUInt8, value.toUInt8]

def be64 (value : UInt64) : List UInt8 := be32 (value >>> 32).toUInt32 ++ be32 value.toUInt32

@[simp] theorem length_be32 (value : UInt32) : (be32 value).length = 4 := rfl
@[simp] theorem length_be64 (value : UInt64) : (be64 value).length = 8 := rfl

theorem word_be32 (value : UInt32) : UInt32.ofNat (beNat (be32 value)) = value := by
  apply UInt32.toNat_inj.mp
  have bound := value.toNat_lt
  simp only [be32, beNat, List.foldl_cons, List.foldl_nil, UInt32.toNat_ofNat',
    UInt32.toNat_toUInt8, UInt32.toNat_shiftRight, UInt32.reduceToNat, Nat.reduceMod,
    Nat.shiftRight_eq_div_pow]
  omega

/-- A datagram of words. -/
def datagramOf (words : List UInt32) : Buffer := .ofBytes (words.flatMap be32)

/-- The options a collector starts with, but for the output format. -/
def defaultConfig (outputFormat : OutputFormat) : SFConfig where
  outputFormat
  netFlowOutputSocket := false
  netFlowPeerAS := false
  disableNetFlowScale := false
  spoofSource := false
  removeContent := false
  tcpdumpHdrPad := 0
  gotVlanFilter := false
  vlanFilter _ := false
  time := 0
  leveldbError := none
  stackOctets := []

/-- The sample of the first datagram. -/
def firstSample : SFSample := freshSample clearedAddress 0 ⟨0, fun _ => 0, clearedStore, fun _ => 0⟩

/-- The header of a version 5 datagram. -/
def datagramHeaderV5 (samplesInPacket : UInt32) : List UInt32 :=
  [5, 1, 0x0a000001, 0, 1, 100, samplesInPacket]

end SflowTool
