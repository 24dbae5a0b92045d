import SflowTool.Extents
import SflowTool.Progress
import SflowTool.FlowFraming

/-! How much of what was received belongs to a datagram. A decode checks its reads against the end
of what was received and asks for that end otherwise only to report it, so a datagram that is
accepted delimits itself: bytes behind it change nothing, and none of its own can be missing. -/
namespace SflowTool
open Decoding Decoding.Decoder

variable {config : SFConfig}

section Unsurveyed

/-- Operations that do not look at the whole datagram. -/
abbrev UnsurveyedOp : Op collector → Prop := @Unsurveyed collector

instance : Permits UnsurveyedOp where
  take _ _ := trivial
  skip _ := trivial
  errout _ := trivial
  note _ _ _ _ _ := trivial
  abort _ _ := trivial
instance : PermitsNames UnsurveyedOp where
  lookup _ _ := trivial
instance : PermitsFilter UnsurveyedOp where
  lookup _ := trivial
instance : PermitsState UnsurveyedOp where
  get _ := trivial
  set _ _ := trivial
  mark _ _ := trivial
  peek _ _ _ := trivial
  since _ := trivial
instance : PermitsLog config UnsurveyedOp where
  log _ _ := trivial
instance : PermitsOctets UnsurveyedOp where
  take _ := trivial
instance : PermitsIteration UnsurveyedOp where
  note := trivial
instance : PermitsHeader UnsurveyedOp where
  note _ := trivial
  exit _ := trivial
instance : PermitsPrint UnsurveyedOp where
  print _ := trivial
instance : PermitsMetrics UnsurveyedOp where
  opentsdb _ := trivial
instance : PermitsJump UnsurveyedOp where
  jump _ := trivial
instance : PermitsFlexible UnsurveyedOp where
  peekText _ _ := trivial
  write _ _ _ := trivial
  writeObject _ _ _ _ := trivial
  read _ _ := trivial
instance : PermitsNetFlow UnsurveyedOp where
  tick _ := trivial
  netFlow _ := trivial
  netFlowSpoofed _ _ := trivial
instance : PermitsRecords config UnsurveyedOp where
  record _ _ _ := trivial

instance (name : Mark) : Uses UnsurveyedOp (@Decoder.mark collector name) := uses_single _ trivial
instance (mark : Note) : Uses UnsurveyedOp (@Decoder.note collector mark) := uses_single _ trivial

instance (priority := low) truncates_unsurveyed {α : Type} (program : Decode α)
    [uses : Uses UnsurveyedOp program] : Truncates program := truncates_of_uses program uses

/-- Only the report of an error looks at the whole datagram, and it never returns. -/
instance {α : Type} (errm : String) : Truncates (receiveError errm : Decode α) :=
  truncates_of_failing _ .decodeError (fun _ _ => rfl)
    (.act _ _ nofun fun _ => .act _ _ nofun fun _ => .act _ _ nofun fun _ =>
      .act _ _ nofun fun reply => nomatch reply)

/-! Counted once for each way it is handed on, as before. -/
set_option synthInstance.maxSize 1000000000000

theorem flowDecoders_truncate (entry : UInt32 × Decode Unit) (member : entry ∈ flowDecoders config) :
    Truncates entry.2 := by
  revert entry
  simp only [flowDecoders, List.forall_mem_cons, List.not_mem_nil, false_implies, implies_true,
    and_true]
  and_intros <;> infer_instance

instance (tag length : UInt32) : Truncates (readFlowElementBody config tag length) := by
  unfold readFlowElementBody
  split
  · next decoder found => exact flowDecoders_truncate _ (lookup_mem found)
  · infer_instance

theorem counterDecoders_truncate (length : UInt32) (entry : UInt32 × Decode Unit)
    (member : entry ∈ counterDecoders config length) : Truncates entry.2 := by
  revert entry
  simp only [counterDecoders, plainCounterDecoders, flexCounterDecoders, ddosCounterDecoders,
    described, List.forall_mem_append, List.forall_mem_cons, List.not_mem_nil, false_implies,
    implies_true, and_true]
  and_intros <;> infer_instance

instance (tag length : UInt32) : Truncates (readCounterElementBody config tag length) := by
  unfold readCounterElementBody
  split
  · next decoder found => exact counterDecoders_truncate length _ (lookup_mem found)
  · infer_instance

end Unsurveyed

section Samples

/-! Counted once for each way it is handed on, as before. -/
set_option synthInstance.maxSize 1000000000000

instance : Truncates (readFlowElement config) := by
  unfold readFlowElement
  infer_instance
instance (remaining : Nat) : Truncates (readFlowElements config remaining) := by
  induction remaining with
  | zero => exact truncates_pure ()
  | succ remaining ih =>
      unfold readFlowElements
      infer_instance
instance : Truncates (readCounterElement config) := by
  unfold readCounterElement
  infer_instance
instance (remaining : Nat) : Truncates (readCounterElements config remaining) := by
  induction remaining with
  | zero => exact truncates_pure ()
  | succ remaining ih =>
      unfold readCounterElements
      infer_instance
instance (extendedTag : UInt32) : Truncates (readExtendedV2v4 config extendedTag) := by
  unfold readExtendedV2v4
  infer_instance
instance (remaining : Nat) : Truncates (readAllExtendedV2v4 config remaining) := by
  induction remaining with
  | zero => exact truncates_pure ()
  | succ remaining ih =>
      unfold readAllExtendedV2v4
      infer_instance
instance (packetDataTag : UInt32) : Truncates (readPacketDataV2v4 config packetDataTag) := by
  unfold readPacketDataV2v4
  infer_instance
instance (counterBlockVersion : UInt32) :
    Truncates (readCounterBlockV2v4 config counterBlockVersion) := by
  unfold readCounterBlockV2v4
  infer_instance
instance (expanded : Bool) : Truncates (readFlowSample config expanded) := by
  unfold readFlowSample
  infer_instance
instance (expanded : Bool) : Truncates (readCountersSample config expanded) := by
  unfold readCountersSample
  infer_instance
instance : Truncates (readFlowSampleV2v4 config) := by
  unfold readFlowSampleV2v4
  infer_instance
instance : Truncates (readCountersSampleV2v4 config) := by
  unfold readCountersSampleV2v4
  infer_instance
instance : Truncates (readSample config) := by
  unfold readSample readSampleV5 readSampleV2v4
  infer_instance

/-- A sample moves the cursor beyond its type, also where that is not there. -/
theorem readSample_moves (buffer : Buffer) (state : SFSample) :
    state.cursor + 4 ≤ (run buffer (readSample config) state).state.cursor := by
  have first : (run buffer getData32 state).state.cursor = state.cursor + 4 := by
    show ((perform buffer (.take 4) state).bind fun octets middle =>
      .reply (UInt32.ofNat (beNat octets)) middle).state.cursor = state.cursor + 4
    simp only [perform]
    split <;> rfl
  -- no later step goes back behind the type
  unfold readSample
  rw [run_seq, ← first]
  generalize run buffer getData32 state = read
  obtain ⟨outcome, middle, trace, notes⟩ := read
  cases outcome with
  | error reason => exact Nat.le_refl _
  | ok value => exact run_cursor buffer _ middle

theorem run_checkMoreData_cases (buffer : Buffer) (samp samplesInPacket : UInt32) (state : SFSample) :
    state.cursor < buffer.length ∧
        run buffer (checkMoreData samp samplesInPacket) state = .reply () state ∨
      buffer.length ≤ state.cursor ∧
        (run buffer (checkMoreData samp samplesInPacket) state).outcome = .error .eos := by
  have held := buffer.held
  have size : buffer.received.length = buffer.length := by
    simp only [Buffer.received, List.length_take]
    omega
  have surveyed : run buffer (checkMoreData samp samplesInPacket) state =
      run buffer (when (buffer.received.length ≤ state.cursor) do
        fprintfErr "unexpected end of datagram after sample %d of %d\n"
          [.word samp, .word samplesInPacket]
        sfAbort .eos) state := rfl
  rw [surveyed, size]
  by_cases done : buffer.length ≤ state.cursor
  · refine .inr ⟨done, ?_⟩
    rw [when_pos done]
    rfl
  · refine .inl ⟨by omega, ?_⟩
    rw [when_neg done]
    rfl

theorem run_readNextSample {buffer : Buffer} {samp samplesInPacket : UInt32} {state : SFSample}
    (checked : run buffer (checkMoreData samp samplesInPacket) state = .reply () state) :
    run buffer (readNextSample config samp samplesInPacket) state =
      run buffer (readSample config) state := by
  unfold readNextSample
  rw [run_seq, checked, Run.reply_bind]

theorem readNextSample_stops {buffer : Buffer} {samp samplesInPacket : UInt32} {state : SFSample}
    (ended : (run buffer (checkMoreData samp samplesInPacket) state).outcome = .error .eos) :
    (run buffer (readNextSample config samp samplesInPacket) state).outcome = .error .eos := by
  unfold readNextSample
  rw [run_seq]
  simp only [Run.bind, ended]

theorem checkMoreData_checked (samp samplesInPacket : UInt32) :
    Uses Checked (checkMoreData samp samplesInPacket) := by
  refine .act _ _ nofun fun reply => ?_
  show Uses Checked (when (reply.1.length ≤ reply.2) _)
  unfold Decoder.when
  split
  · exact .act _ _ nofun fun _ => .act _ _ nofun fun never => nomatch never
  · exact .pure ()

/-- Where a sample is missing altogether the check before it stops the decode, and with more bytes
the sample would have gone beyond the end. -/
instance (samp samplesInPacket : UInt32) :
    Truncates (readNextSample config samp samplesInPacket) where
  cut short long shorter small state := by
    have fewer := shorter.length
    have sample : Truncates (readSample config) := inferInstance
    rcases run_checkMoreData_cases short samp samplesInPacket state with
      ⟨room, passes⟩ | ⟨short_ended, ended⟩
    · rcases run_checkMoreData_cases long samp samplesInPacket state with
        ⟨-, longer⟩ | ⟨long_ended, -⟩
      · rw [run_readNextSample passes, run_readNextSample longer]
        exact sample.cut short long shorter small state
      · omega
    · rcases run_checkMoreData_cases long samp samplesInPacket state with ⟨-, longer⟩ | ⟨-, both⟩
      · refine .stopped (readNextSample_stops ended) ?_
        have moved := @readSample_moves config long state
        rw [run_readNextSample longer]
        omega
      · exact .failed .eos (readNextSample_stops ended) (readNextSample_stops both)
  checked short long shorter small state along := by
    have fewer := shorter.length
    have sample : Truncates (readSample config) := inferInstance
    refine (along_bind short _ _ _ state).mpr
      ⟨along_of_uses (checkMoreData_checked samp samplesInPacket) (fun _ allow => allow) short state, ?_⟩
    have late := ((along_bind long _ _ _ state).mp along).2
    rcases run_checkMoreData_cases short samp samplesInPacket state with
      ⟨room, passes⟩ | ⟨-, ended⟩
    · rcases run_checkMoreData_cases long samp samplesInPacket state with
        ⟨-, longer⟩ | ⟨long_ended, -⟩
      · rw [longer] at late
        rw [passes]
        exact sample.checked short long shorter small state late
      · omega
    · simp only [Run.Returning, ended]

instance (samplesInPacket : UInt32) (remaining : Nat) (samp : UInt32) :
    Truncates (readSamples config samplesInPacket remaining samp) := by
  induction remaining generalizing samp with
  | zero => exact truncates_pure ()
  | succ remaining ih =>
      rw [readSamples_succ]
      infer_instance

end Samples

section Datagrams

/-- The line that tells how much was received. -/
def Event.tellsSize : Event → Bool
  | .log ⟨fmt, [.name name, .word _]⟩ => fmt = "%-35s %u\n" && name = "datagramSize"
  | _ => false

/-- The header up to the line that tells the size of the datagram. -/
def readHeaderSize (config : SFConfig) : Decode Unit := do
  let sourceIP ← getAddressVar .sourceIP
  sfLog config "%-35s %s\n" [.name "datagramSourceIP", .address sourceIP]
  let (received, _) ← survey
  sfLog config "%-35s %u\n" [.name "datagramSize", .word (UInt32.ofNat received.length)]

/-- The header behind it. -/
def readHeaderFields (config : SFConfig) : Decode UInt32 := do
  sfLog config "%-35s %u\n" [.name "unixSecondsUTC", .word config.now]
  let pcapTimestamp ← getWord .pcapTimestamp
  when (pcapTimestamp ≠ 0) (sfLog config "pcapTimestamp %s\n" [.word pcapTimestamp])
  let version ← getData32
  setWord .datagramVersion version
  sfLog config "%-35s %d\n" [.name "datagramVersion", .word version]
  when (version ≠ 2 ∧ version ≠ 4 ∧ version ≠ 5)
    (receiveError "unexpected datagram version number\n")
  let _ ← getAddress .agentAddr
  when (version ≥ 5) do
    let agentSubId ← getData32
    setWord .agentSubId agentSubId
    sfLog config "%-35s %u\n" [.name "AgentSubId", .word agentSubId]
  let sequenceNo ← getData32
  setWord .sequenceNo sequenceNo
  let sysUpTime ← getData32
  setWord .sysUpTime sysUpTime
  let samplesInPacket ← getData32
  let agentAddr ← getAddressVar .agentAddr
  sfLog config "%-35s %s\n" [.name "Agent", .address agentAddr]
  sfLog config "%-35s %u\n" [.name "PacketSequenceNo", .word sequenceNo]
  sfLog config "%-35s %u\n" [.name "SysUpTime", .word sysUpTime]
  sfLog config "%-35s %u\n" [.name "samplesInPacket", .word samplesInPacket]
  return samplesInPacket

/-- All that is read of a datagram, which begins behind that line. -/
def readContents (config : SFConfig) : Decode Unit := do
  let samplesInPacket ← readHeaderFields config
  readSamples config samplesInPacket samplesInPacket.toNat 0

theorem readSFlowDatagram_contents : readSFlowDatagram config = (do
    readHeaderSize config
    readContents config) := by
  have header : readDatagramHeader config = (do
      readHeaderSize config
      readHeaderFields config) := by
    simp only [readHeaderSize, LawfulMonad.bind_assoc]
    rfl
  unfold readSFlowDatagram readContents
  rw [header, LawfulMonad.bind_assoc]

/-! Counted once for each way it is handed on, as before. -/
set_option synthInstance.maxSize 1000000000000

instance : Truncates (readHeaderFields config) := by
  unfold readHeaderFields
  infer_instance
instance : Truncates (readContents config) := by
  unfold readContents
  infer_instance

/-- The lines in front of the contents differ in the size they tell, and in nothing else. -/
theorem readHeaderSize_runs (buffer : Buffer) (sample : SFSample) :
    ∃ trace, run buffer (readHeaderSize config) sample = ⟨.ok (), sample, trace, []⟩ ∧
      trace.filter (fun sent => !sent.event.tellsSize) =
        if config.outputFormat = .full then
          [⟨.log ⟨"%-35s %s\n", [.name "datagramSourceIP", .address (addressOf sample .sourceIP)]⟩,
            sample.ticks⟩]
        else [] := by
  by_cases full : config.outputFormat = .full
  · refine ⟨[⟨.log ⟨"%-35s %s\n",
      [.name "datagramSourceIP", .address (addressOf sample .sourceIP)]⟩, sample.ticks⟩,
      ⟨.log ⟨"%-35s %u\n",
        [.name "datagramSize", .word (UInt32.ofNat buffer.received.length)]⟩, sample.ticks⟩], ?_, ?_⟩
    · simp only [readHeaderSize, sfLog, when_pos full]
      rfl
    · rw [if_pos full]
      rfl
  · refine ⟨[], ?_, by rw [if_neg full]; rfl⟩
    simp only [readHeaderSize, sfLog, when_neg full]
    rfl

/-- Two decodes that come to the same, but for the line that tells the size. -/
structure SameDecode (one two : Run collector Unit) : Prop where
  outcome : one.outcome = two.outcome
  state : one.state = two.state
  notes : one.notes = two.notes
  trace : one.trace.filter (fun sent => !sent.event.tellsSize) =
    two.trace.filter fun sent => !sent.event.tellsSize

theorem sameDecode_of_contents {buffer other : Buffer} {sample : SFSample}
    (same : run other (readContents config) sample = run buffer (readContents config) sample) :
    SameDecode (run other (readSFlowDatagram config) sample)
      (run buffer (readSFlowDatagram config) sample) := by
  obtain ⟨trace, ran, untold⟩ := @readHeaderSize_runs config buffer sample
  obtain ⟨others, otherRan, otherUntold⟩ := @readHeaderSize_runs config other sample
  rw [readSFlowDatagram_contents, run_seq, run_seq, ran, otherRan]
  simp only [Run.bind]
  rw [same]
  refine ⟨rfl, rfl, rfl, ?_⟩
  simp only [Run.after, List.filter_append, untold, otherUntold]

theorem contents_outcome {buffer : Buffer} {sample : SFSample} :
    (run buffer (readSFlowDatagram config) sample).outcome =
      (run buffer (readContents config) sample).outcome := by
  obtain ⟨trace, ran, -⟩ := @readHeaderSize_runs config buffer sample
  rw [readSFlowDatagram_contents, run_seq, ran]
  rfl

theorem contents_state {buffer : Buffer} {sample : SFSample} :
    (run buffer (readSFlowDatagram config) sample).state =
      (run buffer (readContents config) sample).state := by
  obtain ⟨trace, ran, -⟩ := @readHeaderSize_runs config buffer sample
  rw [readSFlowDatagram_contents, run_seq, ran]
  rfl

theorem contents_along {buffer : Buffer} {sample : SFSample}
    (checked : Along buffer (fun _ => Checked) (readSFlowDatagram config) sample) :
    Along buffer (fun _ => Checked) (readContents config) sample := by
  obtain ⟨trace, ran, -⟩ := @readHeaderSize_runs config buffer sample
  rw [readSFlowDatagram_contents] at checked
  have late := ((along_bind buffer _ _ _ sample).mp checked).2
  rw [ran] at late
  exact late

/-- A datagram of one flow sample, with a word behind it that belongs to nothing. -/
def trailedDatagram : Buffer :=
  datagramOf (datagramHeaderV5 1 ++ [1] ++ ethernetSample ++ [0xffffffff])

def trailedReceived (length : Nat) (held : length ≤ trailedDatagram.bytes.length) : Buffer :=
  ⟨trailedDatagram.bytes, length, held⟩

end Datagrams

end SflowTool
