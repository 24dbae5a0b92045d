import SflowTool.NetFlowExport
import SflowTool.SampleUses

/-! What the export of a flow sample makes of what was decoded: the captured bytes, the
columns of the FLOW line and the NetFlow packet as functions of the sample's fields, and
the events of the export as they follow from the options. -/
namespace SflowTool
open Decoding Decoding.Decoder

variable {config : SFConfig}

/-- The bytes of the header that a capture takes. -/
def captureLength (config : SFConfig) (sample : SFSample) : UInt32 :=
  if config.removeContent = true ∧ wordOf sample .offsetToPayload ≠ 0 then
    wordOf sample .offsetToPayload
  else wordOf sample .headerLen

theorem captureLength_congr {one two : SFSample}
    (offset : two.store (.word .offsetToPayload) = one.store (.word .offsetToPayload))
    (length : two.store (.word .headerLen) = one.store (.word .headerLen)) :
    captureLength config two = captureLength config one := by
  unfold captureLength wordOf
  rw [offset, length]

def pcapPacketOf (config : SFConfig) (buffer : Buffer) (sample : SFSample) : PcapPacket where
  tsSec := config.now
  caplen := captureLength config sample
  len := wordOf sample .sampledPacketSize
  pad := config.tcpdumpHdrPad
  captured := buffer.slice (sample.marks .header) (captureLength config sample).toNat

/-- The size of the packet without what was stripped and what precedes its IP header. -/
def ipSize (sample : SFSample) (offsetVar : WordVar) : UInt32 :=
  wordOf sample .sampledPacketSize - wordOf sample .stripped - wordOf sample offsetVar

def textOf (sample : SFSample) (var : TextVar) : Text := sample.store (.text var)

def flowLineOf (sample : SFSample) : FlowLine where
  agentAddr := addressOf sample .agentAddr
  inputPort := wordOf sample .inputPort
  outputPort := wordOf sample .outputPort
  ethSrc := textOf sample .ethSrc
  ethDst := textOf sample .ethDst
  ethType := wordOf sample .ethType
  inVlan := wordOf sample .inVlan
  outVlan := wordOf sample .outVlan
  ipsrc := addressOf sample .ipsrc
  ipdst := addressOf sample .ipdst
  ipProtocol := wordOf sample .dcdIpProtocol
  ipTos := wordOf sample .dcdIpTos
  ipTTL := wordOf sample .dcdIpTTL
  sport := wordOf sample .dcdSport
  dport := wordOf sample .dcdDport
  tcpFlags := wordOf sample .dcdTcpFlags
  sampledPacketSize := wordOf sample .sampledPacketSize
  ipBytes := ipSize sample .offsetToIPV4
  meanSkipCount := wordOf sample .meanSkipCount

theorem run_writePcapPacket (buffer : Buffer) (sample : SFSample) :
    run buffer (writePcapPacket config) sample =
      ⟨.ok (), sample, [⟨.pcapPacket (pcapPacketOf config buffer sample), sample.ticks⟩], []⟩ := by
  have taken (offset : UInt32) (same : captureLength config sample =
      if offset ≠ 0 then offset else wordOf sample .headerLen) :
      run buffer (do
        let captured ← @Decoder.peek collector .header 0
          (if offset ≠ 0 then offset else wordOf sample .headerLen).toNat
        @Decoder.emit collector (.pcapPacket ⟨config.now,
          if offset ≠ 0 then offset else wordOf sample .headerLen,
          wordOf sample .sampledPacketSize, config.tcpdumpHdrPad, captured⟩)) sample =
      ⟨.ok (), sample, [⟨.pcapPacket (pcapPacketOf config buffer sample), sample.ticks⟩], []⟩ := by
    rw [pcapPacketOf, same]
    rfl
  unfold writePcapPacket
  cases removed : config.removeContent with
  | true => exact taken (wordOf sample .offsetToPayload) (by simp [captureLength, removed])
  | false => exact taken 0 (by simp [captureLength, removed])

theorem run_writeFlowLine (buffer : Buffer) (sample : SFSample) :
    run buffer writeFlowLine sample =
      ⟨.ok (), sample, [⟨.flowLine (flowLineOf sample), sample.ticks⟩], []⟩ := rfl

section Filter

/-- The VLAN filter lets the sample through. -/
def passesFilter (config : SFConfig) (sample : SFSample) : Prop :=
  config.gotVlanFilter = false ∨ config.vlanFilter (wordOf sample .inVlan) = true ∨
    config.vlanFilter (wordOf sample .outVlan) = true

instance decidablePasses (config : SFConfig) (sample : SFSample) :
    Decidable (passesFilter config sample) :=
  inferInstanceAs (Decidable (_ ∨ _))

theorem run_sampleFilterOK (buffer : Buffer) (sample : SFSample) :
    ∃ notes, run buffer (sampleFilterOK config) sample =
      ⟨.ok (decide (passesFilter config sample)), sample, [], notes⟩ := by
  have looked (var : WordVar) (rest : UInt32 → Decode Bool) : run buffer (do
        let vlan ← getWord var
        @Decoder.note collector (.vlanLookup vlan)
        rest vlan) sample =
      (run buffer (rest (wordOf sample var)) sample).after
        ⟨.ok (), sample, [], [(.vlanLookup (wordOf sample var), sample.cursor)]⟩ := rfl
  unfold sampleFilterOK
  by_cases unfiltered : config.gotVlanFilter = false
  · have passes : passesFilter config sample := .inl unfiltered
    rw [if_pos unfiltered, decide_eq_true passes]
    exact ⟨_, rfl⟩
  · rw [if_neg unfiltered]
    simp only [pure_bind]
    rw [looked]
    by_cases inside : config.vlanFilter (wordOf sample .inVlan) = true
    · have passes : passesFilter config sample := .inr (.inl inside)
      rw [if_pos inside, decide_eq_true passes]
      exact ⟨_, rfl⟩
    · rw [if_neg inside]
      simp only [pure_bind]
      rw [looked]
      have decided : decide (passesFilter config sample) =
          config.vlanFilter (wordOf sample .outVlan) := by
        simp [passesFilter, unfiltered, inside]
      rw [decided]
      exact ⟨_, rfl⟩

end Filter

section Emission

theorem run_when_false (buffer : Buffer) (guard : Prop) [Decidable guard] (program : Decode Unit)
    (fails : ¬guard) (sample : SFSample) : run buffer (when guard program) sample = .reply () sample := by
  unfold Decoder.when
  rw [if_neg fails]
  rfl

/-- A later fragment is not sent. -/
theorem fragment_sends (buffer : Buffer) (sample : SFSample)
    (later : wordOf sample .ipFragmentOffset > 0) :
    run buffer (sendNetFlowDatagram config) sample = .reply () sample := by
  have read (rest : UInt32 → Decode Unit) : run buffer (do
        let fragmentOffset ← getWord .ipFragmentOffset
        rest fragmentOffset) sample = run buffer (rest (wordOf sample .ipFragmentOffset)) sample :=
    rfl
  unfold sendNetFlowDatagram
  rw [read, if_pos later]
  rfl

/-- The packet of a sample before it is numbered, with where it claims to come from. -/
def netFlowEvent (config : SFConfig) (sample : SFSample) : Event :=
  let pkt := { exportedPacket config sample with flowSequence := 0 }
  if config.spoofSource then .netFlowSpoofed (addressOf sample .agentAddr).addr pkt
  else .netFlow pkt

/-- What a decoded version 5 flow sample is exported as. -/
def exportedEvents (config : SFConfig) (buffer : Buffer) (sample : SFSample) : List Event :=
  if passesFilter config sample then
    match config.outputFormat with
    | .netflow =>
        if config.netFlowOutputSocket = true ∧ wordOf sample .gotIPV4 ≠ 0 ∧
            wordOf sample .ipFragmentOffset = 0 then [netFlowEvent config sample]
        else []
    | .pcap => [.pcapPacket (pcapPacketOf config buffer sample)]
    | .line => [.flowLine (flowLineOf sample)]
    | .clf =>
        if wordOf sample .clfValid ≠ 0 then
          [.clfLine (textOf sample .clfClient) (sample.store .clfHttpLog)]
        else []
    | _ => []
  else []

def eventsOf {α : Type} (decoded : Run collector α) : List Event := decoded.trace.map Stamped.event

theorem send_events (buffer : Buffer) (sample : SFSample) :
    eventsOf (run buffer (sendNetFlowDatagram config) sample) =
      if wordOf sample .ipFragmentOffset = 0 then [netFlowEvent config sample] else [] := by
  by_cases whole : wordOf sample .ipFragmentOffset = 0
  · have first : ¬wordOf sample .ipFragmentOffset > 0 := by
      rw [whole]
      decide
    rw [if_pos whole]
    unfold sendNetFlowDatagram netFlowEvent
    rw [Decoder.bind_eq, run_bind, show run buffer (getWord .ipFragmentOffset) sample =
      .reply (wordOf sample .ipFragmentOffset) sample from rfl, Run.reply_bind, if_neg first,
      Decoder.bind_eq, run_bind, run_nfBytes, Run.reply_bind]
    cases spoofed : config.spoofSource
    · simp only [Bool.false_eq_true, ↓reduceIte]
      rfl
    · simp only [↓reduceIte]
      rfl
  · have later : wordOf sample .ipFragmentOffset > 0 := UInt32.pos_iff_ne_zero.mpr whole
    rw [fragment_sends buffer sample later, if_neg whole]
    rfl

theorem guarded_events (buffer : Buffer) (guard : Prop) [Decidable guard] (program : Decode Unit)
    (sample : SFSample) : eventsOf (run buffer (when guard program) sample) =
      if guard then eventsOf (run buffer program sample) else [] := by
  by_cases holds : guard
  · rw [when_pos holds, if_pos holds]
  · rw [when_neg holds, if_neg holds]
    rfl

/-- The export of a version 5 flow sample, as far as it shows. -/
theorem emission_events (buffer : Buffer) (sample : SFSample) :
    eventsOf (run buffer (emitFlowSample config) sample) = exportedEvents config buffer sample := by
  obtain ⟨notes, filtered⟩ := @run_sampleFilterOK config buffer sample
  have passed (body : Decode Unit) : eventsOf (run buffer (do
        let accepted ← sampleFilterOK config
        when (accepted = true) body) sample) =
      if passesFilter config sample then eventsOf (run buffer body sample) else [] := by
    have guarded := guarded_events buffer (decide (passesFilter config sample) = true) body sample
    rw [Decoder.bind_eq, run_bind, filtered]
    simp only [decide_eq_true_eq] at guarded
    refine Eq.trans ?_ guarded
    simp [Run.bind, Run.after, eventsOf]
  unfold emitFlowSample exportedEvents
  rw [passed]
  refine if_congr Iff.rfl ?_ rfl
  cases config.outputFormat with
  | netflow =>
      have sent : eventsOf (run buffer (do
            let gotIPV4 ← getWord .gotIPV4
            when (gotIPV4 ≠ 0) (sendNetFlowDatagram config)) sample) =
          if wordOf sample .gotIPV4 ≠ 0 then
            eventsOf (run buffer (sendNetFlowDatagram config) sample) else [] :=
        guarded_events buffer (wordOf sample .gotIPV4 ≠ 0) _ sample
      simp only [guarded_events, sent, send_events, ite_and]
  | pcap => rw [run_writePcapPacket]; rfl
  | line => rfl
  | clf =>
      have logged : eventsOf (run buffer (do
            let valid ← getWord .clfValid
            when (valid ≠ 0) do
              let client ← getText .clfClient
              let httpLog ← @Decoder.get collector .clfHttpLog
              @Decoder.emit collector (.clfLine client httpLog)) sample) =
          if wordOf sample .clfValid ≠ 0 then
            [.clfLine (textOf sample .clfClient) (sample.store .clfHttpLog)] else [] :=
        guarded_events buffer (wordOf sample .clfValid ≠ 0) _ sample
      exact logged
  | full | fwd | tsd => rfl

end Emission

end SflowTool
