import SflowTool.CounterUses

/-! What the export of a decoded sample is made of, and the framing that only a
version 5 sample has. An export writes to standard output what the output format
asks for and nothing else. -/
namespace SflowTool
open Decoding Decoding.Decoder

/-- What reaches standard output. A lookup in a database reports what it found there. -/
def Event.onStdout : Event → Bool
  | .log _ | .print _ | .flowLine _ | .countersLine _ | .clfLine _ _ | .pcapPacket _
  | .leveldbRead _ _ => true
  | _ => false

/-- The records of an output format. The full format is text of any kind. -/
def Event.recordOf : OutputFormat → Event → Bool
  | .full, _ => true
  | .pcap, .pcapPacket _ => true
  | .line, .flowLine _ => true
  | .line, .countersLine _ => true
  | .clf, .clfLine _ _ => true
  | _, _ => false

variable (config : SFConfig)

/-- Standard output gets only records of the output format. -/
def Event.Clean (event : Event) : Prop :=
  event.onStdout = true → event.recordOf config.outputFormat = true

def RecordOp (op : Op collector) : Prop :=
  DecentOp config op ∧ ∀ event, op = .emit event → event.Clean config

variable {config}

theorem clean_of_silent (event : Event) (gated : event.Gated config) (silent : event.silent = true) :
    event.Clean config := by
  intro written
  cases event with
  | log line => simp [Event.recordOf, show config.outputFormat = .full from gated]
  | errout line => simp [Event.onStdout] at written
  | receiveError message source received markOffset => simp [Event.onStdout] at written
  | _ => simp [Event.silent] at silent

theorem recordOp_of_quiet (op : Op collector) (quiet : QuietOp config op) : RecordOp config op :=
  ⟨quiet.1, fun event emitted => by
    subst emitted
    exact clean_of_silent event quiet.1 quiet.2⟩

instance : Permits (RecordOp config) :=
  Permits.mono (QuietOp config) recordOp_of_quiet
instance : PermitsState (RecordOp config) :=
  PermitsState.mono (QuietOp config) recordOp_of_quiet
instance : PermitsLog config (RecordOp config) where
  log full _ := recordOp_of_quiet _ ⟨full, rfl⟩
instance : PermitsOctets (RecordOp config) where
  take _ := recordOp_of_quiet _ ⟨trivial, trivial⟩
instance : PermitsNames (RecordOp config) where
  lookup _ _ := recordOp_of_quiet _ ⟨rfl, trivial⟩
instance : PermitsFilter (RecordOp config) where
  lookup _ := recordOp_of_quiet _ ⟨rfl, trivial⟩
instance : PermitsIteration (RecordOp config) where
  note := recordOp_of_quiet _ ⟨rfl, trivial⟩
instance : PermitsReport (RecordOp config) where
  survey := recordOp_of_quiet _ ⟨trivial, trivial⟩
  report _ _ _ _ := recordOp_of_quiet _ ⟨trivial, rfl⟩

instance (priority := low) decent_of_record {α : Type} (program : Decode α)
    [record : Uses (RecordOp config) program] : Uses (DecentOp config) program :=
  record.mono fun _ allow => allow.1

/-- No note of the framing. -/
def Unframed (shown : Shown collector) : Prop := ∀ mark ∈ shown.notes, mark.framing = false

instance : Sequential Unframed where
  nothing := List.forall_mem_nil _
  append first second _ earlier later := by
    intro mark member
    rcases List.mem_append.mp member with member | member
    · exact earlier mark member
    · exact later mark member

theorem decent_unframed : Harmless Unframed (DecentOp config) where
  single op allow buffer state := by
    cases op with
    | take count => simp only [perform]; split <;> exact List.forall_mem_nil _
    | skip count => simp only [perform]; split <;> exact List.forall_mem_nil _
    | note mark =>
        intro shown member
        rw [List.mem_singleton.mp member]
        exact allow
    | _ => exact List.forall_mem_nil _

/-- The NetFlow packets and the counters they take their numbers from. -/
class PermitsNetFlow (allowed : Op collector → Prop) : Prop where
  tick : ∀ counter, allowed (.tick counter)
  netFlow : ∀ packet, allowed (.emit (.netFlow packet))
  netFlowSpoofed : ∀ saddr packet, allowed (.emit (.netFlowSpoofed saddr packet))

/-- The records of the other output formats. -/
class PermitsRecords (config : SFConfig) (allowed : Op collector → Prop) : Prop where
  record : ∀ event, event.recordOf config.outputFormat = true → config.outputFormat ≠ .full →
    allowed (.emit event)

instance : PermitsNetFlow (RecordOp config) where
  tick _ := ⟨trivial, nofun⟩
  netFlow _ := ⟨trivial, fun _ same => by cases same; exact nofun⟩
  netFlowSpoofed _ _ := ⟨trivial, fun _ same => by cases same; exact nofun⟩

instance : PermitsRecords config (RecordOp config) where
  record event record other := by
    refine ⟨?_, fun _ same => ?_⟩
    · cases event with
      | log line =>
          cases format : config.outputFormat with
          | full => exact absurd format other
          | _ => simp [Event.recordOf, format] at record
      | _ => trivial
    · cases same
      exact fun _ => record

variable {allowed : Op collector → Prop} [permits : Permits allowed]
  [gets : ∀ family, PermitsGet allowed family]

/-! Counted once for each way it is handed on, as before. -/
set_option synthInstance.maxSize 1000000000000

section Exports

instance [PermitsFilter allowed] : Uses allowed (sampleFilterOK config) := by
  unfold sampleFilterOK; infer_instance
instance : Uses allowed nfBytes := by
  unfold nfBytes; infer_instance

instance [netFlow : PermitsNetFlow allowed] : Uses allowed (sendNetFlowDatagram config) := by
  have ticked (counter : Counter) : Uses allowed (@Decoder.tick collector counter) :=
    uses_single _ (netFlow.tick counter)
  have sent (pkt : NFFlowPkt5) : Uses allowed (@Decoder.emit collector (.netFlow pkt)) :=
    uses_single _ (netFlow.netFlow pkt)
  have spoofed (saddr : List UInt8) (pkt : NFFlowPkt5) :
      Uses allowed (@Decoder.emit collector (.netFlowSpoofed saddr pkt)) :=
    uses_single _ (netFlow.netFlowSpoofed saddr pkt)
  unfold sendNetFlowDatagram
  infer_instance

variable [records : PermitsRecords config allowed]

theorem writeFlowLine_uses (line : config.outputFormat = .line) : Uses allowed writeFlowLine := by
  have emitted (row : FlowLine) : Uses allowed (@Decoder.emit collector (.flowLine row)) :=
    uses_single _ (records.record _ (by rw [line]; rfl) (by rw [line]; decide))
  unfold writeFlowLine
  infer_instance

theorem writeCountersLine_uses (line : config.outputFormat = .line) :
    Uses allowed writeCountersLine := by
  have emitted (row : CountersLine) :
      Uses allowed (@Decoder.emit collector (.countersLine row)) :=
    uses_single _ (records.record _ (by rw [line]; rfl) (by rw [line]; decide))
  unfold writeCountersLine
  infer_instance

instance : Uses allowed (Decoder.when (config.outputFormat = .line) writeCountersLine) :=
  uses_when_of _ _ writeCountersLine_uses

theorem writePcapPacket_uses [PermitsMark allowed .header] (pcap : config.outputFormat = .pcap) :
    Uses allowed (writePcapPacket config) := by
  have emitted (packet : PcapPacket) :
      Uses allowed (@Decoder.emit collector (.pcapPacket packet)) :=
    uses_single _ (records.record _ (by rw [pcap]; rfl) (by rw [pcap]; decide))
  unfold writePcapPacket
  infer_instance

instance [PermitsFilter allowed] [PermitsMark allowed .header] [PermitsNetFlow allowed] :
    Uses allowed (emitFlowSample config) := by
  unfold emitFlowSample
  refine Uses.bind inferInstance fun accepted => uses_when_of _ _ fun _ => ?_
  split
  · infer_instance
  · next pcap => exact writePcapPacket_uses pcap
  · next line => exact writeFlowLine_uses line
  · next clf =>
      have emitted (client : Text) (httpLog : Var.clfHttpLog.type) :
          Uses allowed (@Decoder.emit collector (.clfLine client httpLog)) :=
        uses_single _ (records.record _ (by rw [clf]; rfl) (by rw [clf]; decide))
      infer_instance
  · exact .pure ()

instance [PermitsFilter allowed] [PermitsMark allowed .header] [PermitsNetFlow allowed] :
    Uses allowed (emitFlowSampleV2v4 config) := by
  unfold emitFlowSampleV2v4
  refine Uses.bind inferInstance fun accepted => uses_when_of _ _ fun _ => ?_
  split
  · infer_instance
  · next pcap => exact writePcapPacket_uses pcap
  · next line => exact writeFlowLine_uses line
  · exact .pure ()

end Exports

/-! An export only looks and reports. -/
section Reporting

instance : Uses Reporting (@Decoder.get collector .clfHttpLog) := uses_single _ trivial
instance (var : WordVar) : Uses Reporting (getWord var) := uses_single _ trivial
instance (var : AddressVar) : Uses Reporting (getAddressVar var) := uses_single _ trivial
instance (var : TextVar) : Uses Reporting (getText var) := uses_single _ trivial
instance (event : Event) : Uses Reporting (@Decoder.emit collector event) := uses_single _ trivial
instance (client : Text) (httpLog : Var.clfHttpLog.type) :
    Uses Reporting (@Decoder.emit collector (.clfLine client httpLog)) := uses_single _ trivial
instance (fmt : String) (args : List Arg) : Uses Reporting (printf fmt args) :=
  uses_single _ trivial
instance (fmt : String) (args : List Arg) : Uses Reporting (fprintfErr fmt args) :=
  uses_single _ trivial
instance (counter : Counter) : Uses Reporting (@Decoder.tick collector counter) :=
  uses_single _ trivial
instance (mark : Note) : Uses Reporting (@Decoder.note collector mark) := uses_single _ trivial
instance (name : Mark) (offset count : Nat) :
    Uses Reporting (@Decoder.peek collector name offset count) :=
  uses_single _ trivial

instance : Uses Reporting (sampleFilterOK config) := by
  unfold sampleFilterOK; infer_instance
instance : Uses Reporting (sendNetFlowDatagram config) := by
  unfold sendNetFlowDatagram nfBytes; infer_instance
instance : Uses Reporting (writePcapPacket config) := by
  unfold writePcapPacket; infer_instance
instance : Uses Reporting writeFlowLine := by
  unfold writeFlowLine; infer_instance

instance : Uses Reporting (emitFlowSample config) := by
  unfold emitFlowSample
  refine @uses_bind _ _ _ _ _ _ _ fun accepted => ?_
  refine @uses_when _ _ _ _ _ ?_
  split <;> infer_instance

instance : Uses Reporting (emitFlowSampleV2v4 config) := by
  unfold emitFlowSampleV2v4
  refine @uses_bind _ _ _ _ _ _ _ fun accepted => ?_
  refine @uses_when _ _ _ _ _ ?_
  split <;> infer_instance

instance (key : Line) (database : Database) :
    Uses Reporting (leveldbSimpleReadData config key database) := by
  unfold leveldbSimpleReadData
  cases config.leveldbError <;> infer_instance
instance (write : Event) : Uses Reporting (leveldbSimpleWriteData config write) := by
  unfold leveldbSimpleWriteData
  cases config.leveldbError <;> infer_instance
instance (objId : Line) (oid : UInt32) (uuid : Text) :
    Uses Reporting (writeObjectId config objId oid uuid) := by
  unfold writeObjectId; infer_instance

end Reporting

end SflowTool
