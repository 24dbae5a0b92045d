import SflowTool.Wire

/-! The NetFlow export of a flow sample. A packet is read back the way a collector reads
it, every number in network byte order. All fields come back as they should but for the
times since midnight, which are multiplied after they were swapped, and the sampling
interval of the unscaled export, whose mask keeps the wrong bits. -/
namespace SflowTool
open Decoding Decoding.Decoder

section ByteOrder

/-- One byte of a number, masked out where it lies. -/
theorem and_byte (number shift : Nat) :
    number &&& (255 <<< shift) = (number / 2 ^ shift % 256) * 2 ^ shift := by
  rw [← Nat.shiftLeft_eq, ← Nat.shiftRight_eq_div_pow, show (256 : Nat) = 2 ^ 8 from rfl]
  apply Nat.eq_of_testBit_eq
  intro bit
  rw [show (255 : Nat) = 2 ^ 8 - 1 from rfl]
  simp only [Nat.testBit_and, Nat.testBit_shiftLeft, Nat.testBit_mod_two_pow,
    Nat.testBit_shiftRight, Nat.testBit_two_pow_sub_one]
  by_cases high : shift ≤ bit
  · simp [high, Bool.and_comm]
  · simp [high]

/-- A word as the sum of its bytes, least significant first. -/
structure BytesOf (number b0 b1 b2 b3 : Nat) : Prop where
  sum : number = b0 + b1 * 2 ^ 8 + b2 * 2 ^ 16 + b3 * 2 ^ 24
  bound0 : b0 < 256
  bound1 : b1 < 256
  bound2 : b2 < 256
  bound3 : b3 < 256

theorem bytesOf (value : UInt32) : BytesOf value.toNat (value.toNat % 256)
    (value.toNat / 2 ^ 8 % 256) (value.toNat / 2 ^ 16 % 256) (value.toNat / 2 ^ 24 % 256) := by
  have bound := value.toNat_lt
  constructor <;> omega

theorem BytesOf.div {number b0 b1 b2 b3 : Nat} (bytes : BytesOf number b0 b1 b2 b3) :
    number % 256 = b0 ∧ number / 2 ^ 8 % 256 = b1 ∧ number / 2 ^ 16 % 256 = b2 ∧
      number / 2 ^ 24 % 256 = b3 := by
  obtain ⟨sum, bound0, bound1, bound2, bound3⟩ := bytes
  omega

/-- Swapping a word reverses its bytes. -/
theorem htonl_bytes (value : UInt32) (b0 b1 b2 b3 : Nat)
    (bytes : BytesOf value.toNat b0 b1 b2 b3) : BytesOf (htonl value).toNat b3 b2 b1 b0 := by
  obtain ⟨div0, div1, div2, div3⟩ := bytes.div
  obtain ⟨_, bound0, bound1, bound2, bound3⟩ := bytes
  have byte0 : value.toNat &&& 255 = b0 := (Nat.and_two_pow_sub_one_eq_mod _ 8).trans div0
  have byte1 : value.toNat &&& 65280 = b1 * 2 ^ 8 := by rw [← div1]; exact and_byte value.toNat 8
  have byte2 : value.toNat &&& 16711680 = b2 * 2 ^ 16 := by
    rw [← div2]; exact and_byte value.toNat 16
  have byte3 : value.toNat &&& 4278190080 = b3 * 2 ^ 24 := by
    rw [← div3]; exact and_byte value.toNat 24
  refine ⟨?_, bound3, bound2, bound1, bound0⟩
  simp only [htonl, UInt32.toNat_add, UInt32.toNat_shiftLeft, UInt32.toNat_shiftRight,
    UInt32.toNat_and, UInt32.reduceToNat, byte0, byte1, byte2, byte3, Nat.shiftLeft_eq,
    Nat.shiftRight_eq_div_pow, Nat.reduceMod, Nat.reducePow]
  omega

/-- A word that is loaded and swapped is the big-endian one. -/
theorem htonl_leWord (octets : List UInt8) (word : octets.length = 4) :
    htonl (leWord octets) = UInt32.ofNat (beNat octets) := by
  obtain ⟨o0, o1, o2, o3, rfl⟩ : ∃ o0 o1 o2 o3, octets = [o0, o1, o2, o3] := by
    match octets, word with
    | [o0, o1, o2, o3], _ => exact ⟨o0, o1, o2, o3, rfl⟩
  have bound0 := o0.toNat_lt
  have bound1 := o1.toNat_lt
  have bound2 := o2.toNat_lt
  have bound3 := o3.toNat_lt
  have loaded : BytesOf (leWord [o0, o1, o2, o3]).toNat o0.toNat o1.toNat o2.toNat o3.toNat := by
    refine ⟨?_, bound0, bound1, bound2, bound3⟩
    simp only [leWord, List.reverse_cons, List.reverse_nil, List.nil_append, List.cons_append,
      beNat, List.foldl_cons, List.foldl_nil, UInt32.toNat_ofNat']
    omega
  apply UInt32.toNat_inj.mp
  rw [(htonl_bytes _ _ _ _ _ loaded).sum]
  simp only [beNat, List.foldl_cons, List.foldl_nil, UInt32.toNat_ofNat']
  omega

/-- The value of a field in network byte order, read out of the memory of the host. -/
def netWord (field : UInt32) : UInt32 := UInt32.ofNat (beNat (le32 field))

def netHalf (field : UInt16) : UInt32 := UInt32.ofNat (beNat (le16 field))

theorem netWord_bytes (field : UInt32) (b0 b1 b2 b3 : Nat)
    (bytes : BytesOf field.toNat b0 b1 b2 b3) : BytesOf (netWord field).toNat b3 b2 b1 b0 := by
  obtain ⟨div0, div1, div2, div3⟩ := bytes.div
  obtain ⟨_, bound0, bound1, bound2, bound3⟩ := bytes
  refine ⟨?_, bound3, bound2, bound1, bound0⟩
  simp only [netWord, le32, beNat, List.foldl_cons, List.foldl_nil, UInt32.toNat_ofNat',
    UInt32.toNat_toUInt8, UInt32.toNat_shiftRight, UInt32.reduceToNat, Nat.reduceMod,
    Nat.shiftRight_eq_div_pow, div0, div1, div2, div3]
  omega

theorem netWord_htonl (value : UInt32) : netWord (htonl value) = value := by
  have there := netWord_bytes _ _ _ _ _ (htonl_bytes _ _ _ _ _ (bytesOf value))
  exact UInt32.toNat_inj.mp (there.sum.trans (bytesOf value).sum.symm)

theorem htons_toNat (value : UInt16) :
    (htons value).toNat = value.toNat % 256 * 2 ^ 8 + value.toNat / 2 ^ 8 := by
  have bound := value.toNat_lt
  have low : value.toNat / 2 ^ 8 < 2 ^ 8 := by omega
  have shifted : value.toNat * 2 ^ 8 % 2 ^ 16 = (value.toNat % 256) <<< 8 := by
    rw [Nat.shiftLeft_eq]
    omega
  simp only [htons, UInt16.toNat_or, UInt16.toNat_shiftRight, UInt16.toNat_shiftLeft,
    UInt16.reduceToNat, Nat.reduceMod, Nat.shiftRight_eq_div_pow]
  rw [Nat.shiftLeft_eq value.toNat, shifted, Nat.or_comm, ← Nat.shiftLeft_add_eq_or_of_lt low,
    Nat.shiftLeft_eq]

theorem netHalf_toNat (field : UInt16) :
    (netHalf field).toNat = field.toNat % 256 * 2 ^ 8 + field.toNat / 2 ^ 8 := by
  have bound := field.toNat_lt
  have high : field.toNat / 2 ^ 8 % 2 ^ 8 = field.toNat / 2 ^ 8 := Nat.mod_eq_of_lt (by omega)
  simp only [netHalf, le16, beNat, List.foldl_cons, List.foldl_nil, UInt32.toNat_ofNat',
    UInt16.toNat_toUInt8, UInt16.toNat_shiftRight, UInt16.reduceToNat, Nat.reduceMod,
    Nat.shiftRight_eq_div_pow, high]
  omega

theorem netHalf_htons (value : UInt16) : netHalf (htons value) = value.toUInt32 := by
  apply UInt32.toNat_inj.mp
  have bound := value.toNat_lt
  rw [netHalf_toNat, htons_toNat, UInt16.toNat_toUInt32]
  omega

/-- Octets that are loaded and stored by the host stay as they were. -/
theorem le32_leWord (a b c d : UInt8) : le32 (leWord [a, b, c, d]) = [a, b, c, d] := by
  have bound0 := a.toNat_lt
  have bound1 := b.toNat_lt
  have bound2 := c.toNat_lt
  have bound3 := d.toNat_lt
  have loaded : BytesOf (leWord [a, b, c, d]).toNat a.toNat b.toNat c.toNat d.toNat := by
    refine ⟨?_, bound0, bound1, bound2, bound3⟩
    simp only [leWord, List.reverse_cons, List.reverse_nil, List.nil_append, List.cons_append,
      beNat, List.foldl_cons, List.foldl_nil, UInt32.toNat_ofNat']
    omega
  obtain ⟨div0, div1, div2, div3⟩ := loaded.div
  simp only [le32, List.cons.injEq, and_true, ← UInt8.toNat_inj, UInt32.toNat_toUInt8,
    UInt32.toNat_shiftRight, UInt32.reduceToNat, Nat.reduceMod, Nat.shiftRight_eq_div_pow]
  exact ⟨div0, div1, div2, div3⟩

theorem le32_addr (address : Address) : le32 (leWord address.addr) = address.addr :=
  le32_leWord _ _ _ _

/-- The product of a swapped number of seconds has zeros where the number of milliseconds
has its high bytes, so that the high bytes of the seconds vanish one after the other. -/
theorem swapped_product (seconds product b0 b1 b2 b3 : Nat) (day : seconds < 86400)
    (split : BytesOf seconds b0 b1 b2 b3)
    (times : product = (b3 + b2 * 2 ^ 8 + b1 * 2 ^ 16 + b0 * 2 ^ 24) * 1000 % 2 ^ 32)
    (same : seconds * 1000 = product / 2 ^ 24 % 256 + product / 2 ^ 16 % 256 * 2 ^ 8 +
      product / 2 ^ 8 % 256 * 2 ^ 16 + product % 256 * 2 ^ 24) : seconds = 0 := by
  obtain ⟨sum, bound0, bound1, bound2, bound3⟩ := split
  have none3 : b3 = 0 := by omega
  subst none3
  have last : product % 256 = 0 := by omega
  have none2 : b2 = 0 := by omega
  subst none2
  have third : product / 2 ^ 8 % 256 = 0 := by omega
  have none1 : b1 = 0 := by omega
  subst none1
  have second : product / 2 ^ 16 % 256 = 0 := by omega
  omega

/-- Seconds that are multiplied after the swap come back right at midnight only. -/
theorem swapped_seconds_iff (seconds : UInt32) (day : seconds.toNat < 86400) :
    netWord (htonl seconds * 1000) = seconds * 1000 ↔ seconds = 0 := by
  constructor
  · intro same
    have swapped := htonl_bytes _ _ _ _ _ (bytesOf seconds)
    have read := netWord_bytes _ _ _ _ _ (bytesOf (htonl seconds * 1000))
    have value : (seconds * 1000).toNat = seconds.toNat * 1000 := by
      rw [UInt32.toNat_mul, show (1000 : UInt32).toNat = 1000 from rfl,
        Nat.mod_eq_of_lt (by omega)]
    have times : (htonl seconds * 1000).toNat = (htonl seconds).toNat * 1000 % 2 ^ 32 := by
      rw [UInt32.toNat_mul, show (1000 : UInt32).toNat = 1000 from rfl]
    rw [swapped.sum] at times
    rw [same, value] at read
    obtain ⟨sum, _, _, _, _⟩ := read
    exact UInt32.toNat_inj.mp (swapped_product _ _ _ _ _ _ day (bytesOf seconds) times sum)
  · rintro rfl
    decide

end ByteOrder

variable (config : SFConfig)

/-- What the variables of a sample hold. -/
def wordOf (sample : SFSample) (var : WordVar) : UInt32 := sample.store (.word var)
def addressOf (sample : SFSample) (var : AddressVar) : Address := sample.store (.address var)

/-- The bytes an exported sample counts for one packet. -/
def flowBytes (sample : SFSample) : UInt32 :=
  if wordOf sample .udpPduLen > 0 then wordOf sample .udpPduLen
  else wordOf sample .sampledPacketSize - wordOf sample .stripped - wordOf sample .offsetToIPV4

def srcASOf (sample : SFSample) : UInt32 :=
  wordOf sample (if config.netFlowPeerAS then .srcPeerAs else .srcAs)
def dstASOf (sample : SFSample) : UInt32 :=
  wordOf sample (if config.netFlowPeerAS then .dstPeerAs else .dstAs)

/-- The packet a sample is exported as. -/
def exportedPacket (sample : SFSample) : NFFlowPkt5 where
  version := htons 5
  count := htons 1
  sysUpTime := htonl (config.now % 86400) * 1000
  unixSeconds := htonl config.now
  unixNanoSeconds := 0
  flowSequence := htonl (UInt32.ofNat (sample.ticks .nfFlowSequenceNo))
  engineType := 0
  engineId := 0
  samplingInterval := (nfScale config (wordOf sample .meanSkipCount) (flowBytes sample)).samplingInterval
  srcIP := leWord (addressOf sample .ipsrc).addr
  dstIP := leWord (addressOf sample .ipdst).addr
  nextHop := leWord (addressOf sample .nextHop).addr
  ifIn := htons (wordOf sample .inputPort).toUInt16
  ifOut := htons (wordOf sample .outputPort).toUInt16
  frames := (nfScale config (wordOf sample .meanSkipCount) (flowBytes sample)).frames
  bytes := (nfScale config (wordOf sample .meanSkipCount) (flowBytes sample)).bytes
  firstTime := htonl (config.now % 86400) * 1000
  lastTime := htonl (config.now % 86400) * 1000
  srcPort := htons (wordOf sample .dcdSport).toUInt16
  dstPort := htons (wordOf sample .dcdDport).toUInt16
  pad1 := 0
  tcpFlags := (wordOf sample .dcdTcpFlags).toUInt8
  ipProto := (wordOf sample .dcdIpProtocol).toUInt8
  ipTos := (wordOf sample .dcdIpTos).toUInt8
  srcAS := htons (srcASOf config sample).toUInt16
  dstAS := htons (dstASOf config sample).toUInt16
  srcMask := (wordOf sample .srcMask).toUInt8
  dstMask := (wordOf sample .dstMask).toUInt8
  pad2 := 0

/-- The packets a run puts on the wire. -/
def exportedPackets {α : Type} (decoded : Run collector α) : List NFFlowPkt5 :=
  decoded.trace.filterMap sentPacket

theorem run_nfBytes (buffer : Buffer) (sample : SFSample) :
    run buffer nfBytes sample = .reply (flowBytes sample) sample := by
  have read : run buffer nfBytes sample = run buffer
      (if wordOf sample .udpPduLen > 0 then pure (wordOf sample .udpPduLen) else do
        let sampledPacketSize ← getWord .sampledPacketSize
        let stripped ← getWord .stripped
        let offsetToIPV4 ← getWord .offsetToIPV4
        return sampledPacketSize - stripped - offsetToIPV4) sample := rfl
  rw [read]
  unfold flowBytes
  split <;> rfl

/-- A sample that is no later fragment is exported as one packet. -/
theorem send_exports (buffer : Buffer) (sample : SFSample)
    (whole : wordOf sample .ipFragmentOffset = 0) :
    exportedPackets (run buffer (sendNetFlowDatagram config) sample) =
      [exportedPacket config sample] := by
  have first : ¬wordOf sample .ipFragmentOffset > 0 := by
    rw [whole]
    decide
  unfold sendNetFlowDatagram
  rw [Decoder.bind_eq, run_bind, show run buffer (getWord .ipFragmentOffset) sample =
    .reply (wordOf sample .ipFragmentOffset) sample from rfl, Run.reply_bind, if_neg first,
    Decoder.bind_eq, run_bind, run_nfBytes, Run.reply_bind]
  cases spoofed : config.spoofSource
  · simp only [Bool.false_eq_true, ↓reduceIte]
    rfl
  · simp only [↓reduceIte]
    rfl

/-- A NetFlow record as a collector reads it. -/
structure NetFlowRecord where
  version : UInt32
  count : UInt32
  sysUpTime : UInt32
  unixSeconds : UInt32
  samplingInterval : UInt32
  srcIP : List UInt8
  dstIP : List UInt8
  nextHop : List UInt8
  ifIn : UInt32
  ifOut : UInt32
  frames : UInt32
  bytes : UInt32
  firstTime : UInt32
  lastTime : UInt32
  srcPort : UInt32
  dstPort : UInt32
  tcpFlags : UInt32
  ipProto : UInt32
  ipTos : UInt32
  srcAS : UInt32
  dstAS : UInt32
  srcMask : UInt32
  dstMask : UInt32

/-- The record in the octets of a packet, each number in network byte order. -/
def readNetFlow (octets : List UInt8) : NetFlowRecord where
  version := halfAt octets 0
  count := halfAt octets 2
  sysUpTime := wordAt octets 4
  unixSeconds := wordAt octets 8
  samplingInterval := halfAt octets 22
  srcIP := (octets.drop 24).take 4
  dstIP := (octets.drop 28).take 4
  nextHop := (octets.drop 32).take 4
  ifIn := halfAt octets 36
  ifOut := halfAt octets 38
  frames := wordAt octets 40
  bytes := wordAt octets 44
  firstTime := wordAt octets 48
  lastTime := wordAt octets 52
  srcPort := halfAt octets 56
  dstPort := halfAt octets 58
  tcpFlags := octetAt octets 61
  ipProto := octetAt octets 62
  ipTos := octetAt octets 63
  srcAS := halfAt octets 64
  dstAS := halfAt octets 66
  srcMask := octetAt octets 68
  dstMask := octetAt octets 69

theorem length_octets (pkt : NFFlowPkt5) : pkt.octets.length = 72 := by
  unfold NFFlowPkt5.octets le16 le32
  simp only [List.length_append, List.length_cons, List.length_nil]

theorem readNetFlow_octets (pkt : NFFlowPkt5) : readNetFlow pkt.octets =
    { version := netHalf pkt.version
      count := netHalf pkt.count
      sysUpTime := netWord pkt.sysUpTime
      unixSeconds := netWord pkt.unixSeconds
      samplingInterval := netHalf pkt.samplingInterval
      srcIP := le32 pkt.srcIP
      dstIP := le32 pkt.dstIP
      nextHop := le32 pkt.nextHop
      ifIn := netHalf pkt.ifIn
      ifOut := netHalf pkt.ifOut
      frames := netWord pkt.frames
      bytes := netWord pkt.bytes
      firstTime := netWord pkt.firstTime
      lastTime := netWord pkt.lastTime
      srcPort := netHalf pkt.srcPort
      dstPort := netHalf pkt.dstPort
      tcpFlags := pkt.tcpFlags.toUInt32
      ipProto := pkt.ipProto.toUInt32
      ipTos := pkt.ipTos.toUInt32
      srcAS := netHalf pkt.srcAS
      dstAS := netHalf pkt.dstAS
      srcMask := pkt.srcMask.toUInt32
      dstMask := pkt.dstMask.toUInt32 } := by
  unfold readNetFlow NFFlowPkt5.octets wordAt halfAt octetAt netHalf netWord le16 le32
  simp only [List.cons_append, List.nil_append, List.drop_succ_cons, List.drop_zero, List.take_succ_cons,
    List.take_zero, List.getD_cons_succ, List.getD_cons_zero]
/-- What the record of a sample should say, read back in network byte order. -/
structure ReadsBack (sample : SFSample) (record : NetFlowRecord) : Prop where
  version : record.version = 5
  count : record.count = 1
  unixSeconds : record.unixSeconds = config.now
  sysUpTime : record.sysUpTime = config.now % 86400 * 1000
  firstTime : record.firstTime = config.now % 86400 * 1000
  lastTime : record.lastTime = config.now % 86400 * 1000
  srcIP : record.srcIP = (addressOf sample .ipsrc).addr
  dstIP : record.dstIP = (addressOf sample .ipdst).addr
  nextHop : record.nextHop = (addressOf sample .nextHop).addr
  srcPort : record.srcPort = (wordOf sample .dcdSport).toUInt16.toUInt32
  dstPort : record.dstPort = (wordOf sample .dcdDport).toUInt16.toUInt32
  ifIn : record.ifIn = (wordOf sample .inputPort).toUInt16.toUInt32
  ifOut : record.ifOut = (wordOf sample .outputPort).toUInt16.toUInt32
  srcAS : record.srcAS = (srcASOf config sample).toUInt16.toUInt32
  dstAS : record.dstAS = (dstASOf config sample).toUInt16.toUInt32
  ipProto : record.ipProto = wordOf sample .dcdIpProtocol
  ipTos : record.ipTos = wordOf sample .dcdIpTos
  tcpFlags : record.tcpFlags = wordOf sample .dcdTcpFlags
  srcMask : record.srcMask = (wordOf sample .srcMask).toUInt8.toUInt32
  dstMask : record.dstMask = (wordOf sample .dstMask).toUInt8.toUInt32
  frames : record.frames = wordOf sample .meanSkipCount

/-- A number that is kept in one byte. -/
def FitsByte (value : UInt32) : Prop := value.toNat < 256

theorem fitsByte_iff (value : UInt32) : value.toUInt8.toUInt32 = value ↔ FitsByte value := by
  unfold FitsByte
  rw [← UInt32.toNat_inj, UInt8.toNat_toUInt32, UInt32.toNat_toUInt8]
  omega

/-- The exported record of a sample says what it should but for the times, and but for
numbers that have no room in their byte. -/
theorem exportedPacket_reads (sample : SFSample) (scaled : config.disableNetFlowScale = false) :
    ReadsBack config sample (readNetFlow (exportedPacket config sample).octets) ↔
      netWord (htonl (config.now % 86400) * 1000) = config.now % 86400 * 1000 ∧
        FitsByte (wordOf sample .dcdIpProtocol) ∧ FitsByte (wordOf sample .dcdIpTos) ∧
        FitsByte (wordOf sample .dcdTcpFlags) := by
  rw [readNetFlow_octets]
  simp only [← fitsByte_iff]
  constructor
  · intro reads
    exact ⟨reads.sysUpTime, reads.ipProto, reads.ipTos, reads.tcpFlags⟩
  · rintro ⟨times, ipProto, ipTos, tcpFlags⟩
    exact
      { version := netHalf_htons 5
        count := netHalf_htons 1
        unixSeconds := netWord_htonl _
        sysUpTime := times
        firstTime := times
        lastTime := times
        srcIP := le32_addr _
        dstIP := le32_addr _
        nextHop := le32_addr _
        srcPort := netHalf_htons _
        dstPort := netHalf_htons _
        ifIn := netHalf_htons _
        ifOut := netHalf_htons _
        srcAS := netHalf_htons _
        dstAS := netHalf_htons _
        ipProto, ipTos, tcpFlags
        srcMask := rfl
        dstMask := rfl
        frames := by
          simp only [exportedPacket, nfScale, scaled, Bool.false_eq_true, ↓reduceIte]
          exact netWord_htonl _ }

/-- A collector that exports to NetFlow at a given second. -/
def netFlowConfig (now : UInt32) : SFConfig :=
  { defaultConfig .netflow with netFlowOutputSocket := true, time := now.toUInt64 }

/-- A flow sample with the header of an IPv4 packet over UDP: an ethernet header, an IP
header and eight bytes of UDP. -/
def udpSample : List UInt32 :=
  [1, 100, 7, 1, 100, 5, 6, 3, 4, 1, 1, 60, 1, 64, 0, 42, 0x00010203, 0x04050006, 0x0708090a,
    0x08004500, 0x0032abcd, 0x00004011, 0x00000a00, 0x00010a00, 0x00020035, 0x0036001e, 0]

/-- The sample as it stands when that packet is exported. -/
def udpExported : SFSample :=
  (receiveSFlowDatagram (netFlowConfig 1000) (datagramOf (datagramHeaderV5 1 ++ udpSample))
    firstSample).state

/-- The unscaled record carries what the scaled one does, with the sampling rate in the
low fourteen bits of its sampling interval. -/
structure SameVolume (sample : SFSample) (unscaled scaled : NetFlowRecord) : Prop where
  interval : unscaled.samplingInterval &&& 0x3fff = wordOf sample .meanSkipCount
  frames : unscaled.frames * (unscaled.samplingInterval &&& 0x3fff) = scaled.frames
  bytes : unscaled.bytes * (unscaled.samplingInterval &&& 0x3fff) = scaled.bytes

theorem maskedRate_zero (rate : UInt32) (small : rate.toNat < 2 ^ 14) :
    rate.toUInt16 &&& 0x4000 = 0 := by
  apply UInt16.toNat_inj.mp
  rw [UInt16.toNat_and, UInt32.toNat_toUInt16, Nat.mod_eq_of_lt (by omega)]
  apply Nat.eq_of_testBit_eq
  intro bit
  rw [show (0x4000 : UInt16).toNat = 2 ^ 14 from rfl, Nat.testBit_and, Nat.testBit_two_pow]
  by_cases top : 14 = bit
  · subst top
    rw [Nat.testBit_lt_two_pow small]
    rfl
  · simp [top]

/-- The mask takes the one bit that a rate below 2^14 does not have. -/
theorem unscaled_interval_zero (sample : SFSample) (unscaled : config.disableNetFlowScale = true)
    (small : (wordOf sample .meanSkipCount).toNat < 2 ^ 14) :
    (readNetFlow (exportedPacket config sample).octets).samplingInterval = 0 := by
  rw [readNetFlow_octets]
  simp only [exportedPacket, nfScale, unscaled, ↓reduceIte, maskedRate_zero _ small]
  decide

/-- No sampling rate of fourteen bits is found in the unscaled export. -/
theorem unscaled_export_differs (buffer : Buffer) (sample : SFSample)
    (whole : wordOf sample .ipFragmentOffset = 0)
    (sampled : 0 < wordOf sample .meanSkipCount)
    (small : (wordOf sample .meanSkipCount).toNat < 2 ^ 14) :
    ¬∃ unscaled scaled,
      exportedPackets (run buffer
        (sendNetFlowDatagram { config with disableNetFlowScale := true }) sample) = [unscaled] ∧
      exportedPackets (run buffer
        (sendNetFlowDatagram { config with disableNetFlowScale := false }) sample) = [scaled] ∧
      SameVolume sample (readNetFlow unscaled.octets) (readNetFlow scaled.octets) := by
  rintro ⟨unscaled, scaled, exported, _, same⟩
  rw [send_exports _ _ _ whole, List.cons.injEq] at exported
  have interval := same.interval
  rw [← exported.1, unscaled_interval_zero _ sample rfl small] at interval
  rw [← interval] at sampled
  exact absurd sampled (by decide)

theorem udp_export_differs :
    ¬∃ unscaled scaled,
      exportedPackets (run (datagramOf []) (sendNetFlowDatagram
        { netFlowConfig 1000 with disableNetFlowScale := true }) udpExported) = [unscaled] ∧
      exportedPackets (run (datagramOf []) (sendNetFlowDatagram
        { netFlowConfig 1000 with disableNetFlowScale := false }) udpExported) = [scaled] ∧
      SameVolume udpExported (readNetFlow unscaled.octets) (readNetFlow scaled.octets) :=
  unscaled_export_differs (netFlowConfig 1000) (datagramOf []) udpExported (by decide +kernel)
    (by decide +kernel) (by decide +kernel)

theorem unscaled_export_loses_rate :
    ¬∀ (config : SFConfig) (buffer : Buffer) (sample : SFSample),
      wordOf sample .ipFragmentOffset = 0 → 0 < wordOf sample .meanSkipCount →
      (wordOf sample .meanSkipCount).toNat < 2 ^ 14 →
      (wordOf sample .meanSkipCount).toNat * (flowBytes sample).toNat < 2 ^ 32 →
      ∃ unscaled scaled,
        exportedPackets (run buffer
          (sendNetFlowDatagram { config with disableNetFlowScale := true }) sample) = [unscaled] ∧
        exportedPackets (run buffer
          (sendNetFlowDatagram { config with disableNetFlowScale := false }) sample) = [scaled] ∧
        SameVolume sample (readNetFlow unscaled.octets) (readNetFlow scaled.octets) := by
  intro carries
  have whole : wordOf udpExported .ipFragmentOffset = 0 := by decide +kernel
  have rate : wordOf udpExported .meanSkipCount = 100 := by decide +kernel
  obtain ⟨unscaled, scaled, exported, _, same⟩ := carries (netFlowConfig 1000) (datagramOf [])
    udpExported whole (by rw [rate]; decide) (by rw [rate]; decide) (by decide +kernel)
  rw [send_exports _ _ _ whole, List.cons.injEq] at exported
  have interval := same.interval
  rw [← exported.1, unscaled_interval_zero _ udpExported rfl (by rw [rate]; decide), rate] at interval
  exact absurd interval (by decide)

end SflowTool
