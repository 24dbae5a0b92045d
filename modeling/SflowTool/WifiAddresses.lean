import SflowTool.HeaderSpecs
import SflowTool.ExportSpecs

/-! The MAC addresses of an 802.11 data frame. The table of the standard names for each
direction the address field that holds the source and the one that holds the
destination; the decoder copies the source into both. -/
namespace SflowTool
open Decoding Decoding.Decoder

variable {config : SFConfig}

/-- The address fields of an 802.11 header. -/
inductive FrameAddress where
  | address1 | address2 | address3 | address4
deriving DecidableEq

def FrameAddress.offset : FrameAddress → Nat
  | .address1 => 4
  | .address2 => 10
  | .address3 => 16
  | .address4 => 24

/-- The field that names the sender, by ToDS and FromDS. -/
def sourceField : Bool → Bool → FrameAddress
  | false, false => .address2
  | false, true => .address3
  | true, false => .address2
  | true, true => .address4

/-- The field that names the final receiver. -/
def destinationField (toDS : Bool) : FrameAddress := if toDS then .address3 else .address1

/-- The two octets of the frame control field, the low one first. -/
def frameControl (buffer : Buffer) (sample : SFSample) : Nat :=
  (buffer.byte (sample.marks .header)).toNat +
    256 * (buffer.byte (sample.marks .header + 1)).toNat

def isDataFrame (control : Nat) : Prop := control / 4 % 4 = 2

instance (control : Nat) : Decidable (isDataFrame control) :=
  inferInstanceAs (Decidable (_ = _))

def toDSOf (control : Nat) : Bool := control.testBit 8
def fromDSOf (control : Nat) : Bool := control.testBit 9

def frameAddress (buffer : Buffer) (sample : SFSample) (field : FrameAddress) : Text :=
  headerOctets buffer sample field.offset 6

def namedSource (buffer : Buffer) (sample : SFSample) : Text :=
  frameAddress buffer sample
    (sourceField (toDSOf (frameControl buffer sample)) (fromDSOf (frameControl buffer sample)))

def namedDestination (buffer : Buffer) (sample : SFSample) : Text :=
  frameAddress buffer sample (destinationField (toDSOf (frameControl buffer sample)))

/-- The header holds the addresses its direction uses. -/
def HoldsAddresses (buffer : Buffer) (sample : SFSample) : Prop :=
  24 ≤ wordOf sample .headerLen ∧
    (toDSOf (frameControl buffer sample) = true → fromDSOf (frameControl buffer sample) = true →
      30 ≤ wordOf sample .headerLen)

instance (buffer : Buffer) (sample : SFSample) : Decidable (HoldsAddresses buffer sample) :=
  inferInstanceAs (Decidable (_ ∧ _))

/-- The frame control field as the decoder puts it together. -/
def frameControlWord (buffer : Buffer) (sample : SFSample) : UInt32 :=
  (headerByteOf buffer sample 1 <<< 8) + headerByteOf buffer sample 0

theorem frameControlWord_toNat (buffer : Buffer) (sample : SFSample) :
    (frameControlWord buffer sample).toNat = frameControl buffer sample := by
  have low := headerByteOf_toNat buffer sample 0
  have high := headerByteOf_toNat buffer sample 1
  have first := (buffer.byte (sample.marks .header)).toNat_lt
  have second := (buffer.byte (sample.marks .header + 1)).toNat_lt
  simp only [Nat.add_zero] at low
  simp only [frameControlWord, UInt32.toNat_add, UInt32.toNat_shiftLeft, low, high,
    UInt32.reduceToNat, Nat.reduceMod, Nat.shiftLeft_eq, Nat.reducePow, frameControl]
  omega

theorem controlBits (control : UInt32) : (control >>> 2) &&& 3 = 2 ↔ isDataFrame control.toNat := by
  rw [isDataFrame, ← UInt32.toNat_inj]
  simp only [UInt32.toNat_and, UInt32.toNat_shiftRight, UInt32.reduceToNat, Nat.reduceMod,
    Nat.shiftRight_eq_div_pow, Nat.reducePow]
  rw [Nat.and_two_pow_sub_one_eq_mod _ 2]

theorem controlBit (control index : UInt32) (small : index.toNat < 32) :
    (control >>> index) &&& 1 ≠ 0 ↔ control.toNat.testBit index.toNat = true := by
  rw [Nat.testBit_eq_decide_div_mod_eq, decide_eq_true_iff, ne_eq, ← UInt32.toNat_inj]
  simp only [UInt32.toNat_and, UInt32.toNat_shiftRight, UInt32.reduceToNat,
    Nat.mod_eq_of_lt small, Nat.shiftRight_eq_div_pow, Nat.and_one_is_mod]
  omega

/-- Where the decoder finds the source address. -/
def sourceOffset (toDS fromDS : UInt32) : Nat :=
  if toDS ≠ 0 then (if fromDS ≠ 0 then 24 else 10) else (if fromDS ≠ 0 then 16 else 10)

theorem sourceOffset_named (control : UInt32) :
    sourceOffset ((control >>> 8) &&& 1) ((control >>> 9) &&& 1) =
      (sourceField (toDSOf control.toNat) (fromDSOf control.toNat)).offset := by
  have toDS := controlBit control 8 (by decide)
  have fromDS := controlBit control 9 (by decide)
  simp only [UInt32.reduceToNat] at toDS fromDS
  unfold sourceOffset toDSOf fromDSOf
  by_cases one : control.toNat.testBit 8 = true
  · rw [if_pos (toDS.mpr one), one]
    by_cases two : control.toNat.testBit 9 = true
    · rw [if_pos (fromDS.mpr two), two]
      rfl
    · rw [if_neg (mt fromDS.mp two), Bool.eq_false_of_not_eq_true two]
      rfl
  · rw [if_neg (mt toDS.mp one), Bool.eq_false_of_not_eq_true one]
    by_cases two : control.toNat.testBit 9 = true
    · rw [if_pos (fromDS.mpr two), two]
      rfl
    · rw [if_neg (mt fromDS.mp two), Bool.eq_false_of_not_eq_true two]
      rfl

/-- The state after the decode of a data frame. -/
def wifiDecoded (buffer : Buffer) (sample : SFSample) : SFSample :=
  holdingText (holdingText (holding (holding sample .gotIPV4 0) .gotIPV6 0) .ethSrc
    (namedSource buffer sample)) .ethDst (namedSource buffer sample)

/-- The end of the decode, once both addresses are found. -/
def copyAddresses (config : SFConfig) (srcMAC dstMAC : Nat) : Decode Unit := do
  let src ← peek .header srcMAC 6
  sfLog config "srcMAC %02x%02x%02x%02x%02x%02x\n" [.bytes src]
  setText .ethSrc src
  let dst ← peek .header dstMAC 6
  sfLog config "dstMAC %02x%02x%02x%02x%02x%02x\n" [.bytes dst]
  setText .ethDst src
  let tx ← peek .header 10 6
  sfLog config "txMAC %02x%02x%02x%02x%02x%02x\n" [.bytes tx]
  let rx ← peek .header 4 6
  sfLog config "rxMAC %02x%02x%02x%02x%02x%02x\n" [.bytes rx]

theorem copyAddresses_yields (buffer : Buffer) (srcMAC dstMAC : Nat) (sample : SFSample) :
    (run buffer (copyAddresses config srcMAC dstMAC) sample).Yields ()
      (holdingText (holdingText sample .ethSrc (headerOctets buffer sample srcMAC 6)) .ethDst
        (headerOctets buffer sample srcMAC 6)) := by
  refine yields_bind buffer _ _ (yields_headerOctets buffer srcMAC 6 sample) ?_
  refine yields_logged buffer _ _ _ ?_
  refine yields_bind buffer _ _ (yields_setText buffer .ethSrc _ sample) ?_
  refine yields_bind buffer _ _ (yields_headerOctets buffer dstMAC 6 _) ?_
  refine yields_logged buffer _ _ _ ?_
  refine yields_bind buffer _ _ (yields_setText buffer .ethDst _ _) ?_
  refine yields_bind buffer _ _ (yields_headerOctets buffer 10 6 _) ?_
  refine yields_logged buffer _ _ _ ?_
  refine yields_bind buffer _ _ (yields_headerOctets buffer 4 6 _) ?_
  exact yields_sfLog buffer _ _ _

theorem decode80211MAC_yields (buffer : Buffer) (sample : SFSample)
    (data : isDataFrame (frameControl buffer sample)) (long : 24 ≤ wordOf sample .headerLen) :
    (run buffer (decode80211MAC config) sample).Yields () (wifiDecoded buffer sample) := by
  have enough : ¬wordOf sample .headerLen < 24 := UInt32.not_lt.mpr long
  have framed : (frameControlWord buffer sample >>> 2) &&& 3 = 2 := by
    rw [controlBits, frameControlWord_toNat]
    exact data
  have source : headerOctets buffer sample
      (sourceOffset ((frameControlWord buffer sample >>> 8) &&& 1)
        ((frameControlWord buffer sample >>> 9) &&& 1)) 6 = namedSource buffer sample := by
    rw [sourceOffset_named, frameControlWord_toNat]
    rfl
  refine yields_bind buffer _ _ (yields_setWord buffer .gotIPV4 0 sample) ?_
  refine yields_bind buffer _ _ (yields_setWord buffer .gotIPV6 0 _) ?_
  refine yields_bind buffer _ _ (yields_getWord buffer .headerLen _) ?_
  refine yields_neg buffer enough ?_
  refine yields_bind buffer _ _ (yields_headerByte buffer 0 _) ?_
  refine yields_bind buffer _ _ (yields_headerByte buffer 1 _) ?_
  refine yields_bind buffer _ _ (yields_headerOctets buffer 2 2 _) ?_
  refine yields_pos buffer framed ?_
  refine yields_bind buffer _ _ (yields_headerOctets buffer 22 2 _) ?_
  have copied := @copyAddresses_yields config buffer
    (sourceOffset ((frameControlWord buffer sample >>> 8) &&& 1)
      ((frameControlWord buffer sample >>> 9) &&& 1))
    (if (frameControlWord buffer sample >>> 8) &&& 1 ≠ 0 then 16 else 4)
    (holding (holding sample .gotIPV4 0) .gotIPV6 0)
  rw [show headerOctets buffer (holding (holding sample .gotIPV4 0) .gotIPV6 0) _ 6 =
    namedSource buffer sample from source] at copied
  exact copied

/-- The decode of a data frame stores the address of its sender as the table names it, and
the address of its receiver exactly where that is the sender's own. -/
theorem wifi_addresses_named_iff (config : SFConfig) (buffer : Buffer) (sample : SFSample)
    (data : isDataFrame (frameControl buffer sample)) (holds : HoldsAddresses buffer sample) :
    ∃ final, (run buffer (decode80211MAC config) sample).Yields () final ∧
      textOf final .ethSrc = namedSource buffer sample ∧
      (textOf final .ethSrc = namedSource buffer sample ∧
          textOf final .ethDst = namedDestination buffer sample ↔
        namedDestination buffer sample = namedSource buffer sample) := by
  have decoded := @decode80211MAC_yields config buffer sample data holds.1
  have source : textOf (wifiDecoded buffer sample) .ethSrc = namedSource buffer sample := rfl
  have destination : textOf (wifiDecoded buffer sample) .ethDst = namedSource buffer sample := rfl
  refine ⟨_, decoded, source, ?_⟩
  rw [source, destination]
  constructor
  · rintro ⟨-, same⟩
    exact same.symm
  · intro same
    exact ⟨rfl, same.symm⟩

/-- A data frame on its way to an access point: the receiver's address is the third. -/
def uplinkFrame : List UInt8 :=
  [0x08, 0x01, 0, 0] ++ List.replicate 6 0x11 ++ List.replicate 6 0x22 ++ List.replicate 6 0x33 ++
    [0, 0]

/-- A sample whose header starts at the beginning of the buffer. -/
def capturedSample (headerLen : UInt32) : SFSample :=
  holding firstSample .headerLen headerLen

/-- The receiver of the uplink frame is stored as its sender. -/
theorem uplink_receiver_lost :
    isDataFrame (frameControl (.ofBytes uplinkFrame) (capturedSample 24)) ∧
    HoldsAddresses (.ofBytes uplinkFrame) (capturedSample 24) ∧
    ¬∃ final, (run (.ofBytes uplinkFrame) (decode80211MAC (defaultConfig .line))
        (capturedSample 24)).Yields () final ∧
      textOf final .ethSrc = namedSource (.ofBytes uplinkFrame) (capturedSample 24) ∧
      textOf final .ethDst = namedDestination (.ofBytes uplinkFrame) (capturedSample 24) := by
  have stored : textOf (run (.ofBytes uplinkFrame) (decode80211MAC (defaultConfig .line))
      (capturedSample 24)).state .ethDst = List.replicate 6 0x22 := by decide +kernel
  have named : namedDestination (.ofBytes uplinkFrame) (capturedSample 24) =
      List.replicate 6 0x33 := by decide +kernel
  refine ⟨by decide +kernel, by decide +kernel, ?_⟩
  rintro ⟨final, yields, -, destination⟩
  rw [← yields.state, stored, named] at destination
  exact absurd destination (by decide)

/-- A frame a station sends to itself. -/
def loopbackFrame : List UInt8 :=
  [0x08, 0x01, 0, 0] ++ List.replicate 6 0x11 ++ List.replicate 12 0x22 ++ [0, 0]

theorem loopback_addresses_named :
    ∃ final, (run (.ofBytes loopbackFrame) (decode80211MAC (defaultConfig .line))
        (capturedSample 24)).Yields () final ∧
      textOf final .ethSrc = namedSource (.ofBytes loopbackFrame) (capturedSample 24) ∧
      (textOf final .ethSrc = namedSource (.ofBytes loopbackFrame) (capturedSample 24) ∧
          textOf final .ethDst = namedDestination (.ofBytes loopbackFrame) (capturedSample 24) ↔
        namedDestination (.ofBytes loopbackFrame) (capturedSample 24) =
          namedSource (.ofBytes loopbackFrame) (capturedSample 24)) :=
  wifi_addresses_named_iff (defaultConfig .line) (.ofBytes loopbackFrame) (capturedSample 24)
    (by decide +kernel) (by decide +kernel)

end SflowTool
