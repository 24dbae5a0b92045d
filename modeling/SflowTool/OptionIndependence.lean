import SflowTool.DatagramCourses
import SflowTool.Sessions

/-! What the options change. Whatever they are, the same datagrams are accepted, with the same
reports, and the same goes to the time-series server and to the databases; only the exports differ.
The VLAN filter in turn only takes away exports. -/
namespace SflowTool
open Decoding Decoding.Decoder

/-- The variables of the common log, and none at all. -/
def ofCommonLog (var : collector.Var) : Prop := Var.family var = .commonLog
def nowhere (_ : collector.Var) : Prop := False

instance : HidesLog ofCommonLog := ⟨fun _ same => same⟩
instance : HidesLog nowhere := ⟨fun _ => False.elim⟩

/-- What does not depend on the output format. -/
def Event.seen : Event → Bool
  | .log _ | .flowLine _ | .countersLine _ | .clfLine _ _ | .pcapPacket _ | .netFlow _
  | .netFlowSpoofed _ _ => false
  | _ => true

instance : Tells (SameSeen Event.seen) := ⟨fun _ _ => rfl⟩

section Exports
variable {hidden : collector.Var → Prop} {config : SFConfig}

/-! An export is made aside: it looks and writes what depends on the format. -/

abbrev ExportOp (hidden : collector.Var → Prop) : Op collector → Prop :=
  @Aside collector hidden Event.seen

instance (var : WordVar) : Uses (ExportOp hidden) (getWord var) := uses_single _ trivial
instance (var : DwordVar) : Uses (ExportOp hidden) (getDword var) := uses_single _ trivial
instance (var : AddressVar) : Uses (ExportOp hidden) (getAddressVar var) := uses_single _ trivial
instance (var : TextVar) : Uses (ExportOp hidden) (getText var) := uses_single _ trivial
instance : Uses (ExportOp hidden) (@Decoder.get collector .clfHttpLog) := uses_single _ trivial
instance (name : Mark) (offset count : Nat) :
    Uses (ExportOp hidden) (@Decoder.peek collector name offset count) := uses_single _ trivial
instance (counter : Counter) : Uses (ExportOp hidden) (@Decoder.tick collector counter) :=
  uses_single _ trivial
instance (mark : Note) : Uses (ExportOp hidden) (@Decoder.note collector mark) :=
  uses_single _ trivial
instance (line : Line) : Uses (ExportOp hidden) (@Decoder.emit collector (.log line)) :=
  uses_single _ rfl
instance (line : FlowLine) : Uses (ExportOp hidden) (@Decoder.emit collector (.flowLine line)) :=
  uses_single _ rfl
instance (line : CountersLine) :
    Uses (ExportOp hidden) (@Decoder.emit collector (.countersLine line)) := uses_single _ rfl
instance (client : Text) (httpLog : Var.clfHttpLog.type) :
    Uses (ExportOp hidden) (@Decoder.emit collector (.clfLine client httpLog)) := uses_single _ rfl
instance (packet : PcapPacket) :
    Uses (ExportOp hidden) (@Decoder.emit collector (.pcapPacket packet)) := uses_single _ rfl
instance (packet : NFFlowPkt5) :
    Uses (ExportOp hidden) (@Decoder.emit collector (.netFlow packet)) := uses_single _ rfl
instance (saddr : List UInt8) (packet : NFFlowPkt5) :
    Uses (ExportOp hidden) (@Decoder.emit collector (.netFlowSpoofed saddr packet)) :=
  uses_single _ rfl

/-! Counted once for each way it is handed on, as before. -/
set_option synthInstance.maxSize 1000000000000

instance : Uses (ExportOp hidden) writeCountersLine := by
  unfold writeCountersLine; infer_instance
instance : Uses (ExportOp hidden) (sampleFilterOK config) := by
  unfold sampleFilterOK; infer_instance

/-- What is done for a flow sample that the filter lets pass. -/
def flowExport (config : SFConfig) : Decode Unit :=
  match config.outputFormat with
  | .netflow =>
      when (config.netFlowOutputSocket = true) do
        let gotIPV4 ← getWord .gotIPV4
        when (gotIPV4 ≠ 0) (sendNetFlowDatagram config)
  | .pcap => writePcapPacket config
  | .line => writeFlowLine
  | .clf => do
      let valid ← getWord .clfValid
      when (valid ≠ 0) do
        let client ← getText .clfClient
        let httpLog ← @Decoder.get collector .clfHttpLog
        emit (.clfLine client httpLog)
  | _ => return ()

def flowExportV2v4 (config : SFConfig) : Decode Unit :=
  match config.outputFormat with
  | .netflow =>
      when (config.netFlowOutputSocket = true) do
        let gotIPV4 ← getWord .gotIPV4
        let gotIPV4Struct ← (if gotIPV4 ≠ 0 then pure 1 else getWord .gotIPV4Struct)
        when (gotIPV4Struct ≠ 0) (sendNetFlowDatagram config)
  | .pcap => writePcapPacket config
  | .line => writeFlowLine
  | _ => return ()

/-- A flow sample is exported behind the filter. -/
def filtered (config : SFConfig) (body : Decode Unit) : Decode Unit := do
  let accepted ← sampleFilterOK config
  when (accepted = true) body

theorem emitFlowSample_filtered (config : SFConfig) :
    emitFlowSample config = filtered config (flowExport config) := rfl

theorem emitFlowSampleV2v4_filtered (config : SFConfig) :
    emitFlowSampleV2v4 config = filtered config (flowExportV2v4 config) := rfl

instance (body : Decode Unit) [exports : Uses (ExportOp hidden) body] :
    Uses (ExportOp hidden) (filtered config body) := by
  unfold filtered; infer_instance

instance : Uses (ExportOp hidden) (flowExport config) := by
  unfold flowExport
  split
  · unfold sendNetFlowDatagram nfBytes; infer_instance
  · unfold writePcapPacket; infer_instance
  · unfold writeFlowLine; infer_instance
  · infer_instance
  · infer_instance

instance : Uses (ExportOp hidden) (flowExportV2v4 config) := by
  unfold flowExportV2v4
  split
  · unfold sendNetFlowDatagram nfBytes; infer_instance
  · unfold writePcapPacket; infer_instance
  · unfold writeFlowLine; infer_instance
  · infer_instance

theorem exports_of_prepares (program : Decode Unit) (prepares : Uses PreparesLog program) :
    Uses (ExportOp ofCommonLog) program :=
  prepares.mono fun op allow => by
    cases op with
    | set var value => exact allow
    | note mark => trivial
    | _ => exact absurd allow id

end Exports

section Sessions

theorem fresh_alike {hidden : collector.Var → Prop} {process process' : SFSample}
    (same : SameBut hidden process process') (sourceIP : Address) (pcapTimestamp : UInt32) :
    SameBut hidden (freshSample sourceIP pcapTimestamp process)
      (freshSample sourceIP pcapTimestamp process') := by
  refine ⟨rfl, rfl, fun var shown => ?_⟩
  -- by the variable, for the two that the arrival sets
  have kept : (if Var.static var = true then process'.store var else clearedStore var) =
      if Var.static var = true then process.store var else clearedStore var := by
    rw [same.store var shown]
  cases var with
  | word name => cases name <;> first | rfl | exact kept
  | address name => cases name <;> first | rfl | exact kept
  | _ => exact kept

/-- Sessions under two sets of options take the same course, datagram by datagram. -/
theorem receiveAll_alike {shows : List collector.Event → List collector.Event → Prop}
    {hidden : collector.Var → Prop} [Piecewise shows] [Tells shows] [HidesLog hidden]
    {one two : SFConfig}
    (options : ∀ arrival, Options shows hidden (one.during arrival) (two.during arrival))
    (arrivals : List Arrival) {process process' : SFSample} (same : SameBut hidden process process') :
    List.Forall₂ (RunsAlike shows hidden) (receiveAll one arrivals process)
      (receiveAll two arrivals process') := by
  induction arrivals generalizing process process' with
  | nil => exact .nil
  | cons arrival arrivals ih =>
      have each := options arrival
      have alike : Peers shows hidden (readSFlowDatagram (one.during arrival))
          (readSFlowDatagram (two.during arrival)) := inferInstance
      have runs : RunsAlike shows hidden (receiveArrival one arrival process)
          (receiveArrival two arrival process') :=
        alike.runs arrival.buffer _ _ (fresh_alike same arrival.sourceIP arrival.pcapTimestamp)
      refine .cons runs ?_
      -- both sessions end at the same exit, or go on from states that are alike
      rw [runs.outcome]
      split
      · exact .nil
      · exact ih runs.state

end Sessions

section Options

theorem guarded_aside {hidden : collector.Var → Prop} {guard guard' : Prop} [Decidable guard]
    [Decidable guard'] (program : Decode Unit) (exports : Uses (ExportOp hidden) program) :
    Peers (SameSeen Event.seen) hidden (when guard program) (when guard' program) :=
  alike_aside _ _ inferInstance inferInstance

/-- Where only what does not depend on the format is compared, all options are alike. -/
theorem formats_alike (one two : SFConfig) (arrival : Arrival) :
    Options (SameSeen Event.seen) ofCommonLog (one.during arrival) (two.during arrival) where
  time := rfl
  leveldbError := rfl
  stackOctets := rfl
  logs _ := guarded_aside _ inferInstance
  prepares program prepares := guarded_aside program (exports_of_prepares program prepares)
  counters := guarded_aside _ inferInstance
  flows := by
    rw [emitFlowSample_filtered, emitFlowSample_filtered]
    exact alike_aside _ _ inferInstance inferInstance
  flowsV2v4 := by
    rw [emitFlowSampleV2v4_filtered, emitFlowSampleV2v4_filtered]
    exact alike_aside _ _ inferInstance inferInstance

end Options

section Filter

/-- The options without the VLAN filter. -/
def SFConfig.unfiltered (config : SFConfig) : SFConfig := { config with gotVlanFilter := false }

/-- Whether the filter lets a line pass that shows these VLANs. -/
def SFConfig.lets (config : SFConfig) : Event → Bool
  | .flowLine line =>
      !config.gotVlanFilter || config.vlanFilter line.inVlan || config.vlanFilter line.outVlan
  | _ => true

/-- What the filter leaves of the exports. -/
def Deletes (first second : List collector.Event) : Prop := second.Sublist first

instance : Piecewise Deletes where
  nothing := .slnil
  append _ _ _ _ same further := List.Sublist.append same further

instance : Tells Deletes := ⟨fun event _ => List.Sublist.refl [event]⟩

instance (config : SFConfig) : Tells (Keeps config.lets) where
  tells event unexported := by
    cases event <;> first | rfl | cases unexported

variable {config : SFConfig} {buffer : Buffer}

/-- The filter is asked, and then the sample is exported or not. -/
theorem run_filtered (body : Decode Unit) (sample : SFSample) :
    let performed := run buffer (filtered config body) sample
    let expected := run buffer (when (passesFilter config sample) body) sample
    performed.outcome = expected.outcome ∧ performed.state = expected.state ∧
      eventsOf performed = eventsOf expected := by
  intro performed expected
  obtain ⟨notes, asked⟩ := @run_sampleFilterOK config buffer sample
  have same : performed = (run buffer (when (decide (passesFilter config sample) = true) body)
      sample).after ⟨.ok (decide (passesFilter config sample)), sample, [], notes⟩ := by
    show run buffer (filtered config body) sample = _
    unfold filtered
    rw [run_seq, asked]
    rfl
  rw [same]
  simp only [decide_eq_true_eq]
  exact ⟨rfl, rfl, rfl⟩

theorem unfiltered_passes (sample : SFSample) : passesFilter config.unfiltered sample := .inl rfl

/-- A body that is alike behind either answer of the filter is alike behind the filter. -/
theorem filtered_alike {shows : List collector.Event → List collector.Event → Prop}
    {hidden : collector.Var → Prop} (body : Decode Unit)
    (alike : ∀ buffer one two, SameBut hidden one two → RunsAlike shows hidden (run buffer body one)
      (run buffer (when (passesFilter config two) body) two)) :
    Peers shows hidden (filtered config.unfiltered body) (filtered config body) where
  runs buffer one two same := by
    obtain ⟨outcome, state, events⟩ := @run_filtered config.unfiltered buffer body one
    obtain ⟨outcome', state', events'⟩ := @run_filtered config buffer body two
    rw [when_pos (unfiltered_passes one)] at outcome state events
    have runs := alike buffer one two same
    refine ⟨?_, ?_, ?_⟩
    · rw [outcome, outcome']
      exact runs.outcome
    · rw [state, state']
      exact runs.state
    · show shows (eventsOf _) (eventsOf _)
      rw [events, events']
      exact runs.events

theorem uses_common (program : Decode Unit) : Uses (CommonOp Deletes nowhere) program := by
  induction program with
  | pure value => exact .pure value
  | act op next ih =>
      refine .act op next ?_ ih
      cases op with
      | get var => exact id
      | emit event => exact List.Sublist.refl [event]
      | _ => trivial

theorem filtered_deletes (body : Decode Unit) (exports : Uses (ExportOp nowhere) body) :
    Peers Deletes nowhere (filtered config.unfiltered body) (filtered config body) := by
  apply filtered_alike
  intro buffer one two same
  have common := uses_common body
  by_cases passes : passesFilter config two
  · rw [when_pos passes]
    exact (alike_of_uses body).runs buffer one two same
  · -- the sample is exported on one side only, which leaves the state as it was
    obtain ⟨⟨_, returned⟩, kept, -⟩ := aside_returns buffer body exports one
    rw [when_neg passes]
    exact ⟨returned.symm, kept.symm.trans same, List.nil_sublist _⟩

theorem lets_flowLine (sample : SFSample) :
    config.lets (.flowLine (flowLineOf sample)) = decide (passesFilter config sample) := by
  have shown : config.lets (.flowLine (flowLineOf sample)) = (!config.gotVlanFilter ||
      config.vlanFilter (wordOf sample .inVlan) || config.vlanFilter (wordOf sample .outVlan)) := rfl
  rw [shown, Bool.eq_iff_iff, decide_eq_true_iff]
  simp [passesFilter, or_assoc]

theorem filtered_keeps :
    Peers (Keeps config.lets) nowhere (filtered config.unfiltered writeFlowLine)
      (filtered config writeFlowLine) := by
  apply filtered_alike
  intro buffer one two same
  have store : two.store = one.store := funext fun var => same.store var id
  -- so that the line shows the VLANs that the filter is asked about
  have line : flowLineOf two = flowLineOf one := by
    unfold flowLineOf ipSize wordOf addressOf textOf
    rw [store]
  have lets := @lets_flowLine config two
  rw [line] at lets
  rw [run_writeFlowLine]
  by_cases passes : passesFilter config two
  · rw [when_pos passes, run_writeFlowLine, line]
    rw [decide_eq_true passes] at lets
    refine ⟨rfl, same, ?_⟩
    simp [Keeps, lets]
  · rw [when_neg passes]
    rw [decide_eq_false passes] at lets
    refine ⟨rfl, same, ?_⟩
    simp [Keeps, lets, Run.reply]

/-! Counted once for each way it is handed on, as before. -/
set_option synthInstance.maxSize 1000000000000

/-- The filter alone leaves logs, common logs and counters as they are. -/
theorem filter_alike {shows : List collector.Event → List collector.Event → Prop} [Piecewise shows]
    [Tells shows] (config : SFConfig)
    (flows : Peers shows nowhere (emitFlowSample config.unfiltered) (emitFlowSample config))
    (flowsV2v4 : Peers shows nowhere (emitFlowSampleV2v4 config.unfiltered)
      (emitFlowSampleV2v4 config)) : Options shows nowhere config.unfiltered config where
  time := rfl
  leveldbError := rfl
  stackOctets := rfl
  logs line := by
    have told : Uses (CommonOp shows nowhere) (@Decoder.emit collector (.log line)) :=
      uses_single _ (Tells.tells _ rfl)
    show Peers shows nowhere (when (config.outputFormat = .full) _)
      (when (config.outputFormat = .full) _)
    infer_instance
  prepares program prepares := by
    have common : Uses (CommonOp shows nowhere) program := prepares.mono fun op allow => by
      cases op with
      | set var value => trivial
      | note mark => trivial
      | _ => exact absurd allow id
    show Peers shows nowhere (when (config.outputFormat = .clf) _)
      (when (config.outputFormat = .clf) _)
    infer_instance
  counters := by
    have told (line : CountersLine) :
        Uses (CommonOp shows nowhere) (@Decoder.emit collector (.countersLine line)) :=
      uses_single _ (Tells.tells _ rfl)
    have common : Uses (CommonOp shows nowhere) writeCountersLine := by
      unfold writeCountersLine
      infer_instance
    show Peers shows nowhere (when (config.outputFormat = .line) _)
      (when (config.outputFormat = .line) _)
    infer_instance
  flows := flows
  flowsV2v4 := flowsV2v4

theorem filter_deletes (config : SFConfig) :
    Options Deletes nowhere config.unfiltered config :=
  filter_alike config (filtered_deletes (flowExport config) inferInstance)
    (filtered_deletes (flowExportV2v4 config) inferInstance)

theorem filter_keeps (config : SFConfig) (line : config.outputFormat = .line) :
    Options (Keeps config.lets) nowhere config.unfiltered config := by
  have body : flowExport config = writeFlowLine := by
    unfold flowExport
    rw [line]
  have bodyV2v4 : flowExportV2v4 config = writeFlowLine := by
    unfold flowExportV2v4
    rw [line]
  apply filter_alike config
  · show Peers _ _ (filtered config.unfiltered (flowExport config)) (filtered config (flowExport config))
    rw [body]
    exact filtered_keeps
  · show Peers _ _ (filtered config.unfiltered (flowExportV2v4 config))
      (filtered config (flowExportV2v4 config))
    rw [bodyV2v4]
    exact filtered_keeps

end Filter

end SflowTool
