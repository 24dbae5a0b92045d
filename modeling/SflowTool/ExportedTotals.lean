import SflowTool.CapturedBytes
import SflowTool.Storing

/-! The byte totals of the NetFlow export. The code counts a packet in 32 bits: by the
length in its UDP header, or by what is left of it behind the stripped bytes and the bytes
before the IP header. Neither the differences nor the product with the sampling rate are
checked, and the UDP length of an earlier sample in the datagram is still there when a
later one has none. -/
namespace SflowTool
open Decoding Decoding.Decoder

variable {config : SFConfig}

section Exports

/-- In NetFlow mode a flow sample is exported as its own packet or not at all. -/
theorem exportedPackets_when (buffer : Buffer) (guard : Prop) [Decidable guard]
    (program : Decode Unit) (sample : SFSample) {pkt : NFFlowPkt5}
    (sent : pkt ∈ exportedPackets (run buffer (when guard program) sample)) :
    pkt ∈ exportedPackets (run buffer program sample) := by
  by_cases holds : guard
  · rw [when_pos holds] at sent
    exact sent
  · rw [when_neg holds] at sent
    cases sent

theorem exportedPackets_behind {α β : Type} {buffer : Buffer} {program : Decode α}
    {next : α → Decode β} {sample decoded : SFSample} {value : α}
    (yields : (run buffer program sample).Yields value decoded) :
    exportedPackets (run buffer (program >>= next) sample) =
      exportedPackets (run buffer program sample) ++
        exportedPackets (run buffer (next value) decoded) := by
  rw [run_seq]
  obtain ⟨returned, reached⟩ := yields
  generalize run buffer program sample = first at returned reached ⊢
  obtain ⟨outcome, state, trace, notes⟩ := first
  cases returned
  cases reached
  simp [Run.bind, Run.after, exportedPackets]

theorem filtered_exports (buffer : Buffer) (body : Decode Unit) (sample : SFSample)
    {pkt : NFFlowPkt5} (sent : pkt ∈ exportedPackets (run buffer (do
      let accepted ← sampleFilterOK config
      when (accepted = true) body) sample)) : pkt ∈ exportedPackets (run buffer body sample) := by
  obtain ⟨notes, filtered⟩ := @run_sampleFilterOK config buffer sample
  have accepted : (run buffer (sampleFilterOK config) sample).Yields
      (decide (passesFilter config sample)) sample := by
    rw [filtered]
    exact ⟨rfl, rfl⟩
  rw [exportedPackets_behind accepted, filtered] at sent
  exact exportedPackets_when buffer _ body sample sent

theorem send_sends (buffer : Buffer) (sample : SFSample) {pkt : NFFlowPkt5}
    (sent : pkt ∈ exportedPackets (run buffer (sendNetFlowDatagram config) sample)) :
    pkt = exportedPacket config sample := by
  by_cases whole : wordOf sample .ipFragmentOffset = 0
  · rw [send_exports config buffer sample whole] at sent
    exact List.mem_singleton.mp sent
  · rw [fragment_sends buffer sample (UInt32.pos_iff_ne_zero.mpr whole)] at sent
    cases sent

theorem guarded_send_sends (buffer : Buffer) (guard : Prop) [Decidable guard] (sample : SFSample)
    {pkt : NFFlowPkt5} (sent : pkt ∈ exportedPackets (run buffer
      (when guard (sendNetFlowDatagram config)) sample)) : pkt = exportedPacket config sample :=
  send_sends buffer sample (exportedPackets_when buffer guard _ sample sent)

theorem emission_sends (kind : FlowSampleKind) (buffer : Buffer) (sample : SFSample)
    {pkt : NFFlowPkt5} (sent : pkt ∈ exportedPackets (run buffer (kind.emit config) sample)) :
    pkt = exportedPacket config sample := by
  have none_sent {program : Decode Unit} (silent : SendsNothing sample (run buffer program sample))
      (member : pkt ∈ exportedPackets (run buffer program sample)) : False := by
    rw [silent.1] at member
    cases member
  cases kind with
  | v5 expanded =>
      have exported := filtered_exports buffer _ sample sent
      split at exported
      · have inner := exportedPackets_when buffer _ _ sample exported
        exact guarded_send_sends buffer (wordOf sample .gotIPV4 ≠ 0) sample inner
      · next pcap => exact (none_sent (silent_sends buffer _ (writePcapPacket_uses pcap) sample)
          exported).elim
      · next line => exact (none_sent (silent_sends buffer _
          (@writeFlowLine_uses config _ _ _ _ line) sample) exported).elim
      · refine (none_sent (got_sends buffer .clfValid _ sample
          (run_when_sends buffer _ _ sample fun _ => ?_)) exported).elim
        exact ⟨rfl, rfl⟩
      · cases exported
  | v2v4 =>
      have exported := filtered_exports buffer _ sample sent
      split at exported
      · have inner := exportedPackets_when buffer _ _ sample exported
        by_cases decoded : wordOf sample .gotIPV4 ≠ 0
        · have sends : pkt ∈ exportedPackets (run buffer (do
              let gotIPV4Struct ← (if wordOf sample .gotIPV4 ≠ 0 then pure 1
                else getWord .gotIPV4Struct)
              when (gotIPV4Struct ≠ 0) (sendNetFlowDatagram config)) sample) := inner
          rw [if_pos decoded] at sends
          exact guarded_send_sends buffer ((1 : UInt32) ≠ 0) sample sends
        · have sends : pkt ∈ exportedPackets (run buffer (do
              let gotIPV4Struct ← (if wordOf sample .gotIPV4 ≠ 0 then pure 1
                else getWord .gotIPV4Struct)
              when (gotIPV4Struct ≠ 0) (sendNetFlowDatagram config)) sample) := inner
          rw [if_neg decoded] at sends
          exact guarded_send_sends buffer (wordOf sample .gotIPV4Struct ≠ 0) sample sends
      · next pcap => exact (none_sent (silent_sends buffer _ (writePcapPacket_uses pcap) sample)
          exported).elim
      · next line => exact (none_sent (silent_sends buffer _
          (@writeFlowLine_uses config _ _ _ _ line) sample) exported).elim
      · cases exported

theorem decode_sends_none (kind : FlowSampleKind) (buffer : Buffer) (sample : SFSample) :
    exportedPackets (run buffer (kind.decode config) sample) = [] := by
  cases kind with
  | v5 expanded => exact (silent_sends buffer (decodeFlowSample config expanded) inferInstance sample).1
  | v2v4 => exact (silent_sends buffer (decodeFlowSampleV2v4 config) inferInstance sample).1

/-- Whatever a flow sample sends is the packet of what was decoded. -/
theorem read_sends (kind : FlowSampleKind) (buffer : Buffer) {sample decoded : SFSample}
    {pkt : NFFlowPkt5} (done : (run buffer (kind.decode config) sample).Yields () decoded)
    (sent : pkt ∈ exportedPackets (run buffer (kind.read config) sample)) :
    pkt = exportedPacket config decoded := by
  rw [read_split, exportedPackets_behind done, decode_sends_none, List.nil_append] at sent
  exact emission_sends kind buffer decoded sent

end Exports

section Totals

/-- The UDP length the headers of a flow sample gave, if it is UDP: the last one its decode
stored, where a sample carries several headers. -/
def ownPduLen (config : SFConfig) (kind : FlowSampleKind) (buffer : Buffer) (sample : SFSample) :
    Option UInt32 :=
  (@stored collector Unit buffer (.word .udpPduLen) (kind.decode config) sample).getLast?

/-- What is left of the packet behind the stripped bytes and those before the IP header. -/
def remaining (decoded : SFSample) : ℤ :=
  (wordOf decoded .sampledPacketSize).toNat - (wordOf decoded .stripped).toNat -
    (wordOf decoded .offsetToIPV4).toNat

/-- The IP bytes of the packet as an integer: by its own UDP header, else by what is left. -/
def ipBytes (pduLen : Option UInt32) (decoded : SFSample) : ℤ :=
  match pduLen with
  | some length => length.toNat
  | none => remaining decoded

/-- How many packets the sample stands for in the export. -/
def exportRate (config : SFConfig) (decoded : SFSample) : UInt32 :=
  if config.disableNetFlowScale then 1 else wordOf decoded .meanSkipCount

/-- The count the export takes is that integer, and what a collector reads is its product
with the rate. -/
structure TotalExact (config : SFConfig) (buffer : Buffer) (pduLen : Option UInt32)
    (decoded : SFSample) (pkt : NFFlowPkt5) : Prop where
  counted : (run buffer nfBytes decoded).Returning fun bytes _ =>
    (bytes.toNat : ℤ) = ipBytes pduLen decoded
  total : ((readNetFlow pkt.octets).bytes.toNat : ℤ) =
    (exportRate config decoded).toNat * ipBytes pduLen decoded

/-- The sample gives a UDP length that is not zero; or it gives none, and neither does an
earlier one, and there is no more to take off the packet than there is of it. The two
further cases are those where the numbers are the same by chance. -/
def CountHolds (pduLen : Option UInt32) (earlier : UInt32) (decoded : SFSample) : Prop :=
  match pduLen with
  | some length => length ≠ 0 ∨ ipSize decoded .offsetToIPV4 = 0
  | none =>
      if earlier = 0 then 0 ≤ remaining decoded else (earlier.toNat : ℤ) = remaining decoded

theorem ipSize_exact_iff (decoded : SFSample) :
    ((ipSize decoded .offsetToIPV4).toNat : ℤ) = remaining decoded ↔ 0 ≤ remaining decoded := by
  have size := (wordOf decoded .sampledPacketSize).toNat_lt
  have taken := (wordOf decoded .stripped).toNat_lt
  have before := (wordOf decoded .offsetToIPV4).toNat_lt
  rw [ipSize, remaining, UInt32.toNat_sub, UInt32.toNat_sub]
  omega

theorem flowBytes_exact_iff (pduLen : Option UInt32) (earlier : UInt32) (decoded : SFSample)
    (last : wordOf decoded .udpPduLen = pduLen.getD earlier) :
    ((flowBytes decoded).toNat : ℤ) = ipBytes pduLen decoded ↔
      CountHolds pduLen earlier decoded := by
  have taken : flowBytes decoded =
      if pduLen.getD earlier = 0 then ipSize decoded .offsetToIPV4 else pduLen.getD earlier := by
    rw [flowBytes, last]
    by_cases absent : pduLen.getD earlier = 0
    · rw [if_pos absent, absent]
      rfl
    · rw [if_neg absent, if_pos (UInt32.pos_iff_ne_zero.mpr absent)]
  rw [taken]
  cases pduLen with
  | some length =>
      simp only [Option.getD_some, ipBytes, CountHolds]
      by_cases empty : length = 0
      · rw [if_pos empty, empty]
        simp [← UInt32.toNat_inj]
      · rw [if_neg empty]
        simp [empty]
  | none =>
      simp only [Option.getD_none, ipBytes, CountHolds]
      by_cases absent : earlier = 0
      · rw [if_pos absent, if_pos absent]
        exact ipSize_exact_iff decoded
      · rw [if_neg absent, if_neg absent]

/-- The product is exact as long as it has room in 32 bits. -/
theorem product_exact_iff (rate bytes : UInt32) :
    (rate * bytes).toNat = rate.toNat * bytes.toNat ↔ rate.toNat * bytes.toNat < 2 ^ 32 := by
  rw [UInt32.toNat_mul]
  exact Nat.mod_eq_iff_lt (by decide)

theorem readTotal (decoded : SFSample) :
    (readNetFlow (exportedPacket config decoded).octets).bytes =
      exportRate config decoded * flowBytes decoded := by
  rw [readNetFlow_octets]
  cases unscaled : config.disableNetFlowScale with
  | true => simp [exportedPacket, nfScale, exportRate, unscaled, netWord_htonl]
  | false => simp [exportedPacket, nfScale, exportRate, unscaled, netWord_htonl]

theorem totalExact_iff (buffer : Buffer) (pduLen : Option UInt32) (decoded : SFSample) :
    TotalExact config buffer pduLen decoded (exportedPacket config decoded) ↔
      ((flowBytes decoded).toNat : ℤ) = ipBytes pduLen decoded ∧
        ((exportRate config decoded * flowBytes decoded).toNat : ℤ) =
          (exportRate config decoded).toNat * ipBytes pduLen decoded := by
  have read : (run buffer nfBytes decoded).Returning (fun bytes _ =>
      (bytes.toNat : ℤ) = ipBytes pduLen decoded) ↔
        ((flowBytes decoded).toNat : ℤ) = ipBytes pduLen decoded := by
    rw [run_nfBytes]
    exact Iff.rfl
  rw [← read, ← readTotal]
  constructor
  · rintro ⟨counted, total⟩
    exact ⟨counted, total⟩
  · rintro ⟨counted, total⟩
    exact ⟨counted, total⟩

/-- The exported total is right exactly where the count is and their product fits. -/
theorem exported_total_iff (config : SFConfig) (kind : FlowSampleKind) (buffer : Buffer)
    (sample decoded : SFSample) (pkt : NFFlowPkt5)
    (done : (run buffer (kind.decode config) sample).Yields () decoded)
    (sent : pkt ∈ exportedPackets (run buffer (kind.read config) sample)) :
    TotalExact config buffer (ownPduLen config kind buffer sample) decoded pkt ↔
      CountHolds (ownPduLen config kind buffer sample) (wordOf sample .udpPduLen) decoded ∧
      (exportRate config decoded).toNat * ipBytes (ownPduLen config kind buffer sample) decoded <
        2 ^ 32 := by
  have last : wordOf decoded .udpPduLen =
      (ownPduLen config kind buffer sample).getD (wordOf sample .udpPduLen) := by
    have kept := @stored_last collector Unit buffer (.word .udpPduLen) (kind.decode config) sample
    rw [done.state] at kept
    exact kept
  have product := product_exact_iff (exportRate config decoded) (flowBytes decoded)
  rw [read_sends kind buffer done sent, totalExact_iff, ← flowBytes_exact_iff _ _ decoded last]
  apply and_congr_right
  intro counted
  rw [← counted]
  exact_mod_cast product

/-- A TCP packet of 1500 IP bytes that is sampled once in 2^22. -/
def largeSample : List UInt32 :=
  [1, 112, 7, 1, 4194304, 5, 6, 3, 4, 1, 1, 72, 1, 1518, 4, 54, 0x00010203, 0x04050006,
    0x0708090a, 0x08004500, 0x05dcabcd, 0x00004006, 0x00000a00, 0x00010a00, 0x00020050,
    0x00510000, 0, 0x00005010, 0, 0]

/-- The state in which a datagram comes to its first flow sample. -/
def flowReached (config : SFConfig) (words : List UInt32) : SFSample :=
  (run (datagramOf (datagramHeaderV5 1 ++ words)) (do
    let _ ← readDatagramHeader config
    let sampleType ← getData32
    setWord .sampleType sampleType) firstSample).state

/-- 2^22 times 1500 bytes are exported as the remainder of their number by 2^32. -/
theorem large_total_wraps :
    ¬∀ (config : SFConfig) (kind : FlowSampleKind) (buffer : Buffer) (sample decoded : SFSample)
      (pkt : NFFlowPkt5), (run buffer (kind.decode config) sample).Yields () decoded →
      pkt ∈ exportedPackets (run buffer (kind.read config) sample) →
      TotalExact config buffer (ownPduLen config kind buffer sample) decoded pkt := by
  intro totals
  have exported : (exportedPackets (run (datagramOf (datagramHeaderV5 1 ++ largeSample))
      (FlowSampleKind.read (netFlowConfig 1000) (.v5 false))
      (flowReached (netFlowConfig 1000) largeSample))).map
        (fun pkt => (readNetFlow pkt.octets).bytes) = [1996488704] := by decide +kernel
  obtain ⟨pkt, sole, read⟩ := List.map_eq_singleton_iff.mp exported
  have returned : (run (datagramOf (datagramHeaderV5 1 ++ largeSample))
      (FlowSampleKind.decode (netFlowConfig 1000) (.v5 false))
      (flowReached (netFlowConfig 1000) largeSample)).outcome = .ok () :=
    (received_returned _).mp (by decide +kernel)
  have right := totals (netFlowConfig 1000) (.v5 false) _ _ _ pkt ⟨returned, rfl⟩
    (by rw [sole]; exact List.mem_singleton.mpr rfl)
  have total := right.total
  rw [read] at total
  exact absurd total (by decide +kernel)

/-- The sample of a packet over UDP, up to its export. -/
def udpDecoded : SFSample :=
  (run (datagramOf (datagramHeaderV5 1 ++ udpSample))
    (FlowSampleKind.decode (netFlowConfig 1000) (.v5 false))
    (flowReached (netFlowConfig 1000) udpSample)).state

theorem udp_total_iff : ∃ pkt, (readNetFlow pkt.octets).bytes = 3000 ∧
    (TotalExact (netFlowConfig 1000) (datagramOf (datagramHeaderV5 1 ++ udpSample))
        (ownPduLen (netFlowConfig 1000) (.v5 false) (datagramOf (datagramHeaderV5 1 ++ udpSample))
          (flowReached (netFlowConfig 1000) udpSample)) udpDecoded pkt ↔
      CountHolds (ownPduLen (netFlowConfig 1000) (.v5 false)
          (datagramOf (datagramHeaderV5 1 ++ udpSample))
          (flowReached (netFlowConfig 1000) udpSample))
        (wordOf (flowReached (netFlowConfig 1000) udpSample) .udpPduLen) udpDecoded ∧
      (exportRate (netFlowConfig 1000) udpDecoded).toNat *
        ipBytes (ownPduLen (netFlowConfig 1000) (.v5 false)
          (datagramOf (datagramHeaderV5 1 ++ udpSample))
          (flowReached (netFlowConfig 1000) udpSample)) udpDecoded < 2 ^ 32) := by
  have exported : (exportedPackets (run (datagramOf (datagramHeaderV5 1 ++ udpSample))
      (FlowSampleKind.read (netFlowConfig 1000) (.v5 false))
      (flowReached (netFlowConfig 1000) udpSample))).map
        (fun pkt => (readNetFlow pkt.octets).bytes) = [3000] := by decide +kernel
  obtain ⟨pkt, sole, read⟩ := List.map_eq_singleton_iff.mp exported
  have returned : (run (datagramOf (datagramHeaderV5 1 ++ udpSample))
      (FlowSampleKind.decode (netFlowConfig 1000) (.v5 false))
      (flowReached (netFlowConfig 1000) udpSample)).outcome = .ok () :=
    (received_returned _).mp (by decide +kernel)
  exact ⟨pkt, read, exported_total_iff (netFlowConfig 1000) (.v5 false) _ _ udpDecoded pkt
    ⟨returned, rfl⟩ (by rw [sole]; exact List.mem_singleton.mpr rfl)⟩

end Totals

end SflowTool
