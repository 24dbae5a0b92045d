import SflowTool.ExportSpecs
import SflowTool.Sessions
import SflowTool.Numbering

/-! The numbers of the NetFlow packets. Nothing but the export of a decoded flow sample
sends a packet or counts one, so that the numbers stay in step over any sequence of
datagrams, wherever their decodes are aborted. -/
namespace SflowTool
open Decoding Decoding.Decoder

def Event.isNetFlow : Event → Bool
  | .netFlow _ | .netFlowSpoofed _ _ => true
  | _ => false

def netFlowTally : Tally collector := ⟨Event.isNetFlow, .nfFlowSequenceNo⟩

/-- Operations that neither send a NetFlow packet nor count one. -/
abbrev SilentNetFlowOp : Op collector → Prop := Uncounted netFlowTally

instance : Permits SilentNetFlowOp where
  take _ _ := trivial
  skip _ := trivial
  errout _ := rfl
  note _ _ _ _ _ := trivial
  abort _ _ := trivial
instance : PermitsNames SilentNetFlowOp where
  lookup _ _ := trivial
instance : PermitsFilter SilentNetFlowOp where
  lookup _ := trivial
instance : PermitsState SilentNetFlowOp where
  get _ := trivial
  set _ _ := trivial
  mark _ _ := trivial
  peek _ _ _ := trivial
  since _ := trivial

variable {config : SFConfig}

instance : PermitsLog config SilentNetFlowOp where
  log _ _ := rfl
instance : PermitsOctets SilentNetFlowOp where
  take _ := trivial
instance : PermitsIteration SilentNetFlowOp where
  note := trivial
instance : PermitsHeader SilentNetFlowOp where
  note _ := trivial
  exit _ := trivial
instance : PermitsReport SilentNetFlowOp where
  survey := trivial
  report _ _ _ _ := rfl
instance : PermitsPrint SilentNetFlowOp where
  print _ := rfl
instance : PermitsMetrics SilentNetFlowOp where
  opentsdb _ := rfl
instance : PermitsJump SilentNetFlowOp where
  jump _ := trivial
instance : PermitsFlexible SilentNetFlowOp where
  peekText _ _ := trivial
  write _ _ _ := rfl
  writeObject _ _ _ _ := rfl
  read _ _ := rfl
instance : PermitsRecords config SilentNetFlowOp where
  record event record other := by
    cases event with
    | netFlow packet =>
        cases format : config.outputFormat with
        | full => exact absurd format other
        | _ => rw [format] at record; cases record
    | netFlowSpoofed saddr packet =>
        cases format : config.outputFormat with
        | full => exact absurd format other
        | _ => rw [format] at record; cases record
    | _ => rfl

/-! Counted once for each way it is handed on, as before. -/
set_option synthInstance.maxSize 1000000000000

section Samples

instance (name : Mark) : Uses SilentNetFlowOp (@Decoder.mark collector name) :=
  uses_single _ trivial
instance (mark : Note) : Uses SilentNetFlowOp (@Decoder.note collector mark) :=
  uses_single _ trivial
instance : Uses SilentNetFlowOp (@Decoder.survey collector) := uses_single _ trivial

instance : Uses SilentNetFlowOp (readFlowElement config) := by
  unfold readFlowElement; infer_instance

instance (remaining : Nat) : Uses SilentNetFlowOp (readFlowElements config remaining) := by
  induction remaining with
  | zero => exact .pure ()
  | succ remaining ih =>
      unfold readFlowElements
      infer_instance

instance : Uses SilentNetFlowOp (readCounterElement config) := by
  have printed (tag : UInt32) : Uses SilentNetFlowOp (printEnterprise tag) := by
    unfold printEnterprise; infer_instance
  unfold readCounterElement
  infer_instance

instance (remaining : Nat) : Uses SilentNetFlowOp (readCounterElements config remaining) := by
  induction remaining with
  | zero => exact .pure ()
  | succ remaining ih =>
      unfold readCounterElements
      infer_instance

instance (expanded : Bool) : Uses SilentNetFlowOp (readCountersSample config expanded) := by
  unfold readCountersSample; infer_instance
instance : Uses SilentNetFlowOp (readCountersSampleV2v4 config) := by
  unfold readCountersSampleV2v4; infer_instance

/-- A version 5 flow sample up to its export. -/
def decodeFlowSample (config : SFConfig) (expanded : Bool) : Decode Unit := do
  sfLog config "sampleType FLOWSAMPLE\n" []
  let sampleLength ← getData32
  mark .sampleStart
  readFlowSampleFields config expanded
  let numElements ← getData32
  readFlowElements config numElements.toNat
  lengthCheck "flow_sample" .sampleStart sampleLength
  note .flowSampleEnd

/-- A version 2 or 4 flow sample up to its export. -/
def decodeFlowSampleV2v4 (config : SFConfig) : Decode Unit := do
  sfLog config "sampleType FLOWSAMPLE\n" []
  readFlowSampleFieldsV2v4 config
  let packetDataTag ← getData32
  setWord .packetDataTag packetDataTag
  readPacketDataV2v4 config packetDataTag
  let numExtended ← getData32
  setWord .numExtended numExtended
  readAllExtendedV2v4 config numExtended.toNat

theorem readFlowSample_split (expanded : Bool) : readFlowSample config expanded =
    (decodeFlowSample config expanded >>= fun _ => emitFlowSample config) := by
  simp only [readFlowSample, decodeFlowSample, LawfulMonad.bind_assoc]

theorem readFlowSampleV2v4_split : readFlowSampleV2v4 config =
    (decodeFlowSampleV2v4 config >>= fun _ => emitFlowSampleV2v4 config) := by
  simp only [readFlowSampleV2v4, decodeFlowSampleV2v4, LawfulMonad.bind_assoc]

instance (expanded : Bool) : Uses SilentNetFlowOp (decodeFlowSample config expanded) := by
  unfold decodeFlowSample; infer_instance
instance : Uses SilentNetFlowOp (decodeFlowSampleV2v4 config) := by
  unfold decodeFlowSampleV2v4; infer_instance

end Samples

section Exports

/-- A program that numbers NetFlow packets. -/
abbrev NumbersNetFlow {α : Type} (program : Decode α) : Prop := Numbers netFlowTally program

/-- A packet and its number. -/
theorem numbers_sent (event : Event) (netFlow : event.isNetFlow = true) : NumbersNetFlow (do
    @Decoder.emit collector event
    @Decoder.tick collector .nfFlowSequenceNo) where
  numbers buffer state := numbers_emit_tick event netFlow buffer state

instance : NumbersNetFlow (sendNetFlowDatagram config) := by
  have counted : Uses SilentNetFlowOp (@Decoder.tick collector .ipid) :=
    uses_single _ fun same => Counter.noConfusion same
  unfold sendNetFlowDatagram
  refine @numbers_bind _ _ _ _ _ _ _ fun fragmentOffset => ?_
  refine @numbers_ite _ _ _ _ _ _ _ _ ?_
  iterate 16 refine @numbers_bind _ _ _ _ _ _ _ fun _ => ?_
  cases config.spoofSource with
  | false => exact numbers_sent _ rfl
  | true =>
      simp only [↓reduceIte, LawfulMonad.bind_assoc]
      refine @numbers_bind _ _ _ _ _ _ _ fun _ => ?_
      refine @numbers_bind _ _ _ _ _ _ _ fun _ => ?_
      exact numbers_sent _ rfl

instance : NumbersNetFlow (emitFlowSample config) := by
  unfold emitFlowSample
  refine @numbers_bind _ _ _ _ _ _ _ fun accepted => ?_
  refine @numbers_when _ _ _ _ _ ?_
  split
  · infer_instance
  · next pcap =>
      exact numbers_of_uses _ (writePcapPacket_uses pcap)
  · next line =>
      exact numbers_of_uses _ (@writeFlowLine_uses config _ _ _ _ line)
  · refine @numbers_bind _ _ _ _ _ _ _ fun valid => ?_
    refine @numbers_when _ _ _ _ _ ?_
    refine @numbers_bind _ _ _ _ _ _ _ fun client => ?_
    refine @numbers_bind _ _ _ _ _ _ _ fun httpLog => ?_
    exact numbers_of_uses _ (uses_single _ rfl)
  · exact numbers_pure ()

instance : NumbersNetFlow (emitFlowSampleV2v4 config) := by
  unfold emitFlowSampleV2v4
  refine @numbers_bind _ _ _ _ _ _ _ fun accepted => ?_
  refine @numbers_when _ _ _ _ _ ?_
  split
  · infer_instance
  · next pcap =>
      exact numbers_of_uses _ (writePcapPacket_uses pcap)
  · next line =>
      exact numbers_of_uses _ (@writeFlowLine_uses config _ _ _ _ line)
  · exact numbers_pure ()

instance (expanded : Bool) : NumbersNetFlow (readFlowSample config expanded) := by
  rw [readFlowSample_split]
  infer_instance

instance : NumbersNetFlow (readFlowSampleV2v4 config) := by
  rw [readFlowSampleV2v4_split]
  infer_instance

instance : NumbersNetFlow (readSample config) := by
  unfold readSample readSampleV5 readSampleV2v4
  infer_instance

instance (samplesInPacket : UInt32) (remaining : Nat) (samp : UInt32) :
    NumbersNetFlow (readSamples config samplesInPacket remaining samp) := by
  have checked (samp : UInt32) : Uses SilentNetFlowOp (checkMoreData samp samplesInPacket) := by
    unfold checkMoreData
    infer_instance
  induction remaining generalizing samp with
  | zero => exact numbers_pure ()
  | succ remaining ih =>
      unfold readSamples
      infer_instance

instance : NumbersNetFlow (readSFlowDatagram config) := by
  have header : Uses SilentNetFlowOp (readDatagramHeader config) := by
    unfold readDatagramHeader
    infer_instance
  unfold readSFlowDatagram
  infer_instance

end Exports

section Sessions

/-- The decodes of a whole session number the packets they send. -/
theorem receiveAll_numbered (config : SFConfig) (arrivals : List Arrival) (process : SFSample) :
    ∃ stop, Numbered (process.ticks .nfFlowSequenceNo) stop
      (stampedNumbers netFlowTally (sessionTrace (receiveAll config arrivals process))) := by
  refine receiveAll_induct config (fun process decodes => ∃ stop,
    Numbered (process.ticks .nfFlowSequenceNo) stop
      (stampedNumbers netFlowTally (sessionTrace decodes)))
    (fun process => ⟨_, .none _⟩) ?_ arrivals process
  rintro arrival process rest ⟨stop, later⟩
  have datagram : NumbersNetFlow (readSFlowDatagram (config.during arrival)) := inferInstance
  have earlier := datagram.numbers arrival.buffer
    (freshSample arrival.sourceIP arrival.pcapTimestamp process)
  refine ⟨stop, ?_⟩
  simp only [sessionTrace, List.flatMap_cons, stampedNumbers_append]
  exact earlier.append later

/-- The packets of a session. -/
def sessionPackets (config : SFConfig) (arrivals : List Arrival) : List NFFlowPkt5 :=
  (sessionTrace (receiveAll config arrivals startedProcess)).filterMap sentPacket

/-- A packet shows the number its event was stamped with, in network order. -/
theorem shown_numbers (trace : List (Stamped collector)) :
    (trace.filterMap sentPacket).map (fun pkt => netWord pkt.flowSequence) =
      (stampedNumbers netFlowTally trace).map UInt32.ofNat := by
  induction trace with
  | nil => rfl
  | cons sent rest ih =>
      obtain ⟨event, ticks⟩ := sent
      cases event with
      | netFlow pkt =>
          refine (List.cons_eq_cons.mpr ⟨netWord_htonl _, ih⟩ :)
      | netFlowSpoofed saddr pkt =>
          refine (List.cons_eq_cons.mpr ⟨netWord_htonl _, ih⟩ :)
      | _ => exact ih

theorem sessionPackets_numbered (config : SFConfig) (arrivals : List Arrival) :
    (sessionPackets config arrivals).map (fun pkt => netWord pkt.flowSequence) =
      (List.range (sessionPackets config arrivals).length).map UInt32.ofNat := by
  obtain ⟨stop, numbered⟩ := receiveAll_numbered config arrivals startedProcess
  have shown := shown_numbers (sessionTrace (receiveAll config arrivals startedProcess))
  have same := congrArg List.length shown
  simp only [List.length_map] at same
  rw [sessionPackets, shown, same, List.range_eq_range']
  exact congrArg _ numbered.order

end Sessions

section Refusals

/-- The run sends no NetFlow packet and uses up no number. -/
def SendsNothing {α : Type} (before : SFSample) (decoded : Run collector α) : Prop :=
  exportedPackets decoded = [] ∧
    decoded.state.ticks .nfFlowSequenceNo = before.ticks .nfFlowSequenceNo

/-- A sample that is not to be exported: it was aborted, the filter rejects what was
decoded, or what was decoded is a later fragment. -/
def Refused (config : SFConfig) (decoded : Run collector Unit) : Prop :=
  (∃ reason, decoded.outcome = .error reason) ∨ ¬passesFilter config decoded.state ∨
    wordOf decoded.state .ipFragmentOffset > 0

theorem silent_sends (buffer : Buffer) (program : Decode Unit)
    (uses : Uses SilentNetFlowOp program) (sample : SFSample) :
    SendsNothing sample (run buffer program sample) := by
  obtain ⟨silent, kept⟩ := uncounted_silent buffer program uses sample
  refine ⟨?_, kept⟩
  apply List.filterMap_eq_nil_iff.mpr
  rintro ⟨event, ticks⟩ member
  have plain := silent _ member
  cases event with
  | netFlow _ | netFlowSpoofed _ _ => cases plain
  | _ => rfl

theorem SendsNothing.reply (sample : SFSample) :
    SendsNothing sample (.reply () sample : Run collector Unit) := ⟨rfl, rfl⟩

theorem run_when_sends (buffer : Buffer) (guard : Prop) [Decidable guard] (program : Decode Unit)
    (sample : SFSample) (body : guard → SendsNothing sample (run buffer program sample)) :
    SendsNothing sample (run buffer (when guard program) sample) := by
  by_cases holds : guard
  · unfold Decoder.when
    rw [if_pos holds]
    exact body holds
  · rw [run_when_false buffer guard program holds]
    exact .reply sample

/-- What is behind the filter matters only when the filter lets the sample through. -/
theorem filtered_sends (buffer : Buffer) (body : Decode Unit) (sample : SFSample)
    (sends : passesFilter config sample → SendsNothing sample (run buffer body sample)) :
    SendsNothing sample (run buffer (do
      let accepted ← sampleFilterOK config
      when (accepted = true) body) sample) := by
  obtain ⟨notes, filtered⟩ := @run_sampleFilterOK config buffer sample
  rw [Decoder.bind_eq, run_bind, filtered]
  exact run_when_sends buffer _ body sample fun passes => sends (of_decide_eq_true passes)

theorem got_sends (buffer : Buffer) (var : WordVar) (rest : UInt32 → Decode Unit)
    (sample : SFSample) (sends : SendsNothing sample (run buffer (rest (wordOf sample var)) sample)) :
    SendsNothing sample (run buffer (do
      let value ← getWord var
      rest value) sample) := sends

theorem emission_refused (buffer : Buffer) (sample : SFSample)
    (refused : ¬passesFilter config sample ∨ wordOf sample .ipFragmentOffset > 0) :
    SendsNothing sample (run buffer (emitFlowSample config) sample) := by
  refine filtered_sends buffer _ sample fun passes => ?_
  rcases refused with rejected | later
  · exact absurd passes rejected
  have fragment (got : UInt32) :
      SendsNothing sample (run buffer (when (got ≠ 0) (sendNetFlowDatagram config)) sample) := by
    refine run_when_sends buffer _ _ sample fun _ => ?_
    rw [fragment_sends buffer sample later]
    exact .reply sample
  split
  · exact run_when_sends buffer _ _ sample fun _ => fragment (wordOf sample .gotIPV4)
  · next pcap => exact silent_sends buffer _ (writePcapPacket_uses pcap) sample
  · next line => exact silent_sends buffer _ (@writeFlowLine_uses config _ _ _ _ line) sample
  · refine got_sends buffer .clfValid _ sample (run_when_sends buffer _ _ sample fun _ => ?_)
    exact ⟨rfl, rfl⟩
  · exact .reply sample

theorem emissionV2v4_refused (buffer : Buffer) (sample : SFSample)
    (refused : ¬passesFilter config sample ∨ wordOf sample .ipFragmentOffset > 0) :
    SendsNothing sample (run buffer (emitFlowSampleV2v4 config) sample) := by
  refine filtered_sends buffer _ sample fun passes => ?_
  rcases refused with rejected | later
  · exact absurd passes rejected
  have fragment (got : UInt32) :
      SendsNothing sample (run buffer (when (got ≠ 0) (sendNetFlowDatagram config)) sample) := by
    refine run_when_sends buffer _ _ sample fun _ => ?_
    rw [fragment_sends buffer sample later]
    exact .reply sample
  split
  · refine run_when_sends buffer _ _ sample fun _ => got_sends buffer .gotIPV4 _ sample ?_
    by_cases decoded : wordOf sample .gotIPV4 ≠ 0
    · rw [if_pos decoded]
      exact fragment 1
    · rw [if_neg decoded]
      exact fragment (wordOf sample .gotIPV4Struct)
  · next pcap => exact silent_sends buffer _ (writePcapPacket_uses pcap) sample
  · next line => exact silent_sends buffer _ (@writeFlowLine_uses config _ _ _ _ line) sample
  · exact .reply sample

/-- A sample is decoded and then exported; a refused one leaves nothing behind, as
its export neither aborts nor changes what was decoded. -/
theorem refused_sends (decode emission : Decode Unit) (silent : Uses SilentNetFlowOp decode)
    (reports : Uses Reporting emission)
    (refuses : ∀ (buffer : Buffer) (sample : SFSample),
      ¬passesFilter config sample ∨ wordOf sample .ipFragmentOffset > 0 →
      SendsNothing sample (run buffer emission sample))
    (buffer : Buffer) (sample : SFSample)
    (refused : Refused config (run buffer (decode >>= fun _ => emission) sample)) :
    SendsNothing sample (run buffer (decode >>= fun _ => emission) sample) := by
  have decoded := silent_sends buffer decode silent sample
  rw [Decoder.bind_eq, run_bind] at refused ⊢
  generalize run buffer decode sample = first at decoded refused ⊢
  obtain ⟨outcome, middle, trace, notes⟩ := first
  cases outcome with
  | error reason => exact decoded
  | ok value =>
      obtain ⟨⟨value, returns⟩, kept⟩ := reporting_returns buffer emission reports middle
      have same (var : WordVar) : wordOf (run buffer emission middle).state var =
          wordOf middle var := congrFun kept (.word var)
      have emitted : SendsNothing middle (run buffer emission middle) := by
        apply refuses buffer middle
        rcases refused with ⟨reason, stopped⟩ | rejected | later
        · have returned := returns.symm.trans stopped
          cases returned
        · left
          intro passes
          apply rejected
          simpa only [passesFilter, Run.bind, Run.after, same] using passes
        · right
          exact (same .ipFragmentOffset).symm ▸ later
      refine ⟨?_, emitted.2.trans decoded.2⟩
      exact (List.filterMap_append ..).trans (List.append_eq_nil_iff.mpr ⟨decoded.1, emitted.1⟩)

end Refusals

/-- The packets of a session carry the numbers from zero on, in order, and a sample that
is not to be exported neither sends a packet nor uses up a number. -/
theorem session_packets_in_sequence (config : SFConfig) :
    (∀ arrivals, (sessionPackets config arrivals).map (fun pkt => netWord pkt.flowSequence) =
      (List.range (sessionPackets config arrivals).length).map UInt32.ofNat) ∧
    (∀ (buffer : Buffer) (expanded : Bool) (sample : SFSample),
      Refused config (run buffer (readFlowSample config expanded) sample) →
      SendsNothing sample (run buffer (readFlowSample config expanded) sample)) ∧
    (∀ (buffer : Buffer) (sample : SFSample),
      Refused config (run buffer (readFlowSampleV2v4 config) sample) →
      SendsNothing sample (run buffer (readFlowSampleV2v4 config) sample)) := by
  refine ⟨sessionPackets_numbered config, ?_, ?_⟩
  · intro buffer expanded sample refused
    rw [readFlowSample_split] at refused ⊢
    exact refused_sends _ _ inferInstance inferInstance emission_refused buffer sample refused
  · intro buffer sample refused
    rw [readFlowSampleV2v4_split] at refused ⊢
    exact refused_sends _ _ inferInstance inferInstance emissionV2v4_refused buffer sample refused

/-- The same datagram twice. -/
def repeated : List Arrival :=
  let arrival : Arrival := ⟨datagramOf (datagramHeaderV5 1 ++ udpSample), clearedAddress, 0, 1000, none, []⟩
  [arrival, arrival]

theorem repeated_packets_in_sequence :
    (sessionPackets (netFlowConfig 1000) repeated).map (fun pkt => netWord pkt.flowSequence) =
      [0, 1] ∧
    SendsNothing firstSample
      (run (datagramOf []) (readFlowSample (netFlowConfig 1000) false) firstSample) := by
  have two : (sessionPackets (netFlowConfig 1000) repeated).length = 2 := by decide +kernel
  obtain ⟨numbered, refused, _⟩ := session_packets_in_sequence (netFlowConfig 1000)
  constructor
  · rw [numbered repeated, two]
    rfl
  · exact refused (datagramOf []) false firstSample (.inl ⟨.eos, rfl⟩)

end SflowTool
