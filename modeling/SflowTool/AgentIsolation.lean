import SflowTool.CounterReports
import SflowTool.FlowSequence
import SflowTool.ProcessExit
import SflowTool.RejectedCounters
import SflowTool.AgentMetrics

/-! The metrics of one agent and the datagrams of others. What a datagram leaves to the next
one are the statics; a decode reads two of the metrics' statics, one of which nothing assigns,
and the common log only behind what it has set itself. So only the drops of the last anomaly
record can go from one agent to another, but for an exit, which ends the process for all. -/
namespace SflowTool
open Decoding Decoding.Decoder

section Touching

/-- Operations that read and set only some of the variables. -/
def TouchesOp (reads writes : Var → Prop) : Op collector → Prop
  | .get var => reads var
  | .set var _ => writes var
  | _ => True

variable {reads writes : Var → Prop} {config : SFConfig}

instance : Permits (TouchesOp reads writes) where
  take _ _ := trivial
  skip _ := trivial
  errout _ := trivial
  note _ _ _ _ _ := trivial
  abort _ _ := trivial
instance : PermitsNames (TouchesOp reads writes) where
  lookup _ _ := trivial
instance : PermitsFilter (TouchesOp reads writes) where
  lookup _ := trivial
instance (name : Mark) : PermitsMark (TouchesOp reads writes) name where
  mark _ := trivial
  peek _ _ := trivial
instance : PermitsSince (TouchesOp reads writes) where
  since _ := trivial
instance : PermitsLog config (TouchesOp reads writes) where
  log _ _ := trivial
instance : PermitsOctets (TouchesOp reads writes) where
  take _ := trivial
instance : PermitsIteration (TouchesOp reads writes) where
  note := trivial
instance : PermitsHeader (TouchesOp reads writes) where
  note _ := trivial
  exit _ := trivial
instance : PermitsReport (TouchesOp reads writes) where
  survey := trivial
  report _ _ _ _ := trivial
instance : PermitsPrint (TouchesOp reads writes) where
  print _ := trivial
instance : PermitsMetrics (TouchesOp reads writes) where
  opentsdb _ := trivial
instance : PermitsJump (TouchesOp reads writes) where
  jump _ := trivial
instance : PermitsFlexible (TouchesOp reads writes) where
  peekText _ _ := trivial
  write _ _ _ := trivial
  writeObject _ _ _ _ := trivial
  read _ _ := trivial

instance (event : Event) : Uses (TouchesOp reads writes) (@Decoder.emit collector event) :=
  uses_single _ trivial
instance (name : Mark) : Uses (TouchesOp reads writes) (@Decoder.mark collector name) :=
  uses_single _ trivial
instance (mark : Note) : Uses (TouchesOp reads writes) (@Decoder.note collector mark) :=
  uses_single _ trivial
instance (counter : Counter) : Uses (TouchesOp reads writes) (@Decoder.tick collector counter) :=
  uses_single _ trivial
instance : Uses (TouchesOp reads writes) (@Decoder.survey collector) := uses_single _ trivial

/-- All variables but the statics of the metrics and the common log. -/
class PermitsRest (allowed : Op collector → Prop) : Prop where
  uses : ∀ family, family ≠ .metrics → family ≠ .commonLog → PermitsUse allowed family

variable [rest : PermitsRest (TouchesOp reads writes)]

instance : PermitsUse (TouchesOp reads writes) .datagram := rest.uses _ nofun nofun
instance : PermitsUse (TouchesOp reads writes) .sample := rest.uses _ nofun nofun
instance : PermitsUse (TouchesOp reads writes) .header := rest.uses _ nofun nofun
instance : PermitsUse (TouchesOp reads writes) .packet := rest.uses _ nofun nofun
instance : PermitsUse (TouchesOp reads writes) .ethernet := rest.uses _ nofun nofun
instance : PermitsUse (TouchesOp reads writes) .addresses := rest.uses _ nofun nofun
instance : PermitsUse (TouchesOp reads writes) .vlan := rest.uses _ nofun nofun
instance : PermitsUse (TouchesOp reads writes) .switching := rest.uses _ nofun nofun
instance : PermitsUse (TouchesOp reads writes) .router := rest.uses _ nofun nofun
instance : PermitsUse (TouchesOp reads writes) .gateway := rest.uses _ nofun nofun
instance : PermitsUse (TouchesOp reads writes) .user := rest.uses _ nofun nofun
instance : PermitsUse (TouchesOp reads writes) .url := rest.uses _ nofun nofun
instance : PermitsUse (TouchesOp reads writes) .forwarding := rest.uses _ nofun nofun
instance : PermitsUse (TouchesOp reads writes) .interface := rest.uses _ nofun nofun
instance : PermitsUse (TouchesOp reads writes) .context := rest.uses _ nofun nofun
instance : PermitsUse (TouchesOp reads writes) .counters := rest.uses _ nofun nofun
instance : PermitsPacket (TouchesOp reads writes) where
  mark := inferInstance
  datagram := inferInstance
  header := inferInstance
  packet := inferInstance
  ethernet := inferInstance
  addresses := inferInstance
  vlan := inferInstance

/-! Counted once for each way it is handed on, as before. -/
set_option synthInstance.maxSize 1000000000000

instance (extendedTag : UInt32) :
    Uses (TouchesOp reads writes) (readExtendedV2v4 config extendedTag) := by
  unfold readExtendedV2v4
  infer_instance
instance (remaining : Nat) :
    Uses (TouchesOp reads writes) (readAllExtendedV2v4 config remaining) := by
  induction remaining with
  | zero => exact .pure ()
  | succ remaining ih =>
      unfold readAllExtendedV2v4
      infer_instance
instance (packetDataTag : UInt32) :
    Uses (TouchesOp reads writes) (readPacketDataV2v4 config packetDataTag) := by
  unfold readPacketDataV2v4
  infer_instance
instance (counterBlockVersion : UInt32) :
    Uses (TouchesOp reads writes) (readCounterBlockV2v4 config counterBlockVersion) := by
  unfold readCounterBlockV2v4
  infer_instance

instance : Uses (TouchesOp reads writes) (sampleFilterOK config) := by
  unfold sampleFilterOK
  infer_instance
instance : Uses (TouchesOp reads writes) (sendNetFlowDatagram config) := by
  have number (peer : Bool) (far near : WordVar) [PermitsGet (TouchesOp reads writes) far.family]
      [PermitsGet (TouchesOp reads writes) near.family] :
      Uses (TouchesOp reads writes) (getWord (if peer = true then far else near)) := by
    split <;> infer_instance
  unfold sendNetFlowDatagram nfBytes
  infer_instance
instance : Uses (TouchesOp reads writes) (writePcapPacket config) := by
  unfold writePcapPacket
  infer_instance
instance : Uses (TouchesOp reads writes) writeFlowLine := by
  unfold writeFlowLine
  infer_instance
instance : Uses (TouchesOp reads writes) writeCountersLine := by
  unfold writeCountersLine
  infer_instance
instance : Uses (TouchesOp reads writes) (emitFlowSampleV2v4 config) := by
  unfold emitFlowSampleV2v4
  refine @uses_bind _ _ _ _ _ _ _ fun accepted => ?_
  refine @uses_when _ _ _ _ _ ?_
  split <;> infer_instance
instance : Uses (TouchesOp reads writes) (readFlowSampleV2v4 config) := by
  unfold readFlowSampleV2v4
  infer_instance
instance : Uses (TouchesOp reads writes) (readCountersSampleV2v4 config) := by
  unfold readCountersSampleV2v4
  infer_instance
instance (samplesInPacket samp : UInt32) :
    Uses (TouchesOp reads writes) (checkMoreData samp samplesInPacket) := by
  unfold checkMoreData
  infer_instance
instance : Uses (TouchesOp reads writes) (readDatagramHeader config) := by
  unfold readDatagramHeader
  infer_instance

variable [bodies : ∀ tag length, Uses (TouchesOp reads writes) (readCounterElementBody config tag length)]

instance : Uses (TouchesOp reads writes) (readCounterElement config) := by
  unfold readCounterElement
  infer_instance
instance (remaining : Nat) :
    Uses (TouchesOp reads writes) (readCounterElements config remaining) := by
  induction remaining with
  | zero => exact .pure ()
  | succ remaining ih =>
      unfold readCounterElements
      infer_instance
instance (expanded : Bool) :
    Uses (TouchesOp reads writes) (readCountersSample config expanded) := by
  unfold readCountersSample
  infer_instance

end Touching

section Statics

/-- The statics of the metrics that no record reads. -/
def Var.unrecalled : Var → Bool
  | .dword .packetAnomalyDropped | .dword .dnsExclSrcDropped => false
  | .dword .ifSpeed | .dword .ifInOctets | .dword .ifOutOctets => false
  | .dword _ => true
  | _ => false

/-- Operations that read none of these, and leave alone the one that nothing assigns. -/
abbrev SharedOp : Op collector → Prop :=
  TouchesOp (fun var => var.unrecalled = false) fun var => var ≠ .dword .dnsExclSrcDropped

theorem shared_uses (family : Family) (other : family ≠ .metrics) : PermitsUse SharedOp family where
  get var same := by
    cases var with
    | dword var => cases var <;> first | rfl | exact absurd same.symm other
    | _ => rfl
  set var same _ := by
    rintro rfl
    exact other same.symm

instance : PermitsRest SharedOp where
  uses family other _ := shared_uses family other
instance : PermitsUse SharedOp .commonLog := shared_uses _ nofun

variable {config : SFConfig}

/-! Counted once for each way it is handed on, as before. -/
set_option synthInstance.maxSize 1000000000000

instance : Uses SharedOp (@Decoder.get collector .clfHttpLog) := uses_single _ rfl

theorem shared_setDword (var : DwordVar) (other : var ≠ .dnsExclSrcDropped) (value : UInt64) :
    Uses SharedOp (setDword var value) := by
  refine uses_single _ fun same => other ?_
  cases same
  rfl

theorem shared_setSum (var : DwordVar) (other : var ≠ .dnsExclSrcDropped)
    (counters : String → UInt64) (fields : List String) : Uses SharedOp (setSum var counters fields) :=
  shared_setDword var other _

theorem flowDecoders_share (entry : UInt32 × Decode Unit) (member : entry ∈ flowDecoders config) :
    Uses SharedOp entry.2 := by
  revert entry
  simp only [flowDecoders, List.forall_mem_cons, List.not_mem_nil, false_implies, implies_true,
    and_true]
  and_intros <;> infer_instance

instance : Uses SharedOp (readCountersDdosFpgaAnomalyCounter config) := by
  have kept (value : UInt64) := shared_setDword .packetAnomalyDropped nofun value
  unfold readCountersDdosFpgaAnomalyCounter
  infer_instance
instance : Uses SharedOp (readCountersDdosBriefStatsCounter config) := by
  have recalled : Uses SharedOp (getDword .packetAnomalyDropped) := uses_single _ rfl
  have kept (value : UInt64) := shared_setDword .packetAnomalyPassed nofun value
  unfold readCountersDdosBriefStatsCounter
  infer_instance
instance : Uses SharedOp (readCountersDdosHttpT2Counter config) := by
  have dropped := shared_setSum .httpDropped nofun
  have source := shared_setSum .httpExclSrcDropped nofun
  have challenge := shared_setSum .httpChallengeSent nofun
  have target := shared_setSum .dstHttpChallengeSent nofun
  unfold readCountersDdosHttpT2Counter
  infer_instance
instance : Uses SharedOp (readCountersDdosDnsCounterT2 config) := by
  have recalled : Uses SharedOp (getDword .dnsExclSrcDropped) := uses_single _ rfl
  have dropped := shared_setSum .dnsDropped nofun
  unfold readCountersDdosDnsCounterT2
  infer_instance
instance : Uses SharedOp (readCountersDdosIcmpCounterT2 config) := by
  have dropped := shared_setSum .icmpDropped nofun
  unfold readCountersDdosIcmpCounterT2
  infer_instance
instance : Uses SharedOp (readCountersDdosL4IpCounterT2 config) := by
  have wildcards := shared_setSum .portWildcardsDropped nofun
  have target := shared_setSum .dstRatesDropped nofun
  have auth := shared_setSum .srcAuthDropped nofun
  have source := shared_setSum .srcRatesDropped nofun
  have proto := shared_setDword .ipProtoDropped nofun
  have port := shared_setDword .portCmDropped nofun
  unfold readCountersDdosL4IpCounterT2
  infer_instance
instance : Uses SharedOp (readCountersDdosL4ExtIpCounterT2 config) := by
  unfold readCountersDdosL4ExtIpCounterT2
  infer_instance

theorem counterDecoders_share (length : UInt32) (entry : UInt32 × Decode Unit)
    (member : entry ∈ counterDecoders config length) : Uses SharedOp entry.2 := by
  revert entry
  simp only [counterDecoders, plainCounterDecoders, flexCounterDecoders, ddosCounterDecoders,
    List.forall_mem_append, List.forall_mem_cons, List.not_mem_nil, false_implies, implies_true,
    and_true]
  and_intros <;> infer_instance

instance (tag length : UInt32) : Uses SharedOp (readFlowElementBody config tag length) := by
  unfold readFlowElementBody
  split
  · next decoder found => exact flowDecoders_share _ (lookup_mem found)
  · infer_instance
instance (tag length : UInt32) : Uses SharedOp (readCounterElementBody config tag length) := by
  unfold readCounterElementBody
  split
  · next decoder found => exact counterDecoders_share length _ (lookup_mem found)
  · infer_instance


instance : Uses SharedOp (readFlowElement config) := by
  unfold readFlowElement
  infer_instance
instance (remaining : Nat) : Uses SharedOp (readFlowElements config remaining) := by
  induction remaining with
  | zero => exact .pure ()
  | succ remaining ih =>
      unfold readFlowElements
      infer_instance
instance : Uses SharedOp (emitFlowSample config) := by
  have logged (client : Text) (httpLog : Var.clfHttpLog.type) :
      Uses SharedOp (@Decoder.emit collector (.clfLine client httpLog)) := uses_single _ trivial
  unfold emitFlowSample
  refine @uses_bind _ _ _ _ _ _ _ fun accepted => ?_
  refine @uses_when _ _ _ _ _ ?_
  split <;> infer_instance
instance (expanded : Bool) : Uses SharedOp (readFlowSample config expanded) := by
  unfold readFlowSample
  infer_instance
instance : Uses SharedOp (readSample config) := by
  unfold readSample readSampleV5 readSampleV2v4
  infer_instance
instance (samplesInPacket : UInt32) (remaining : Nat) (samp : UInt32) :
    Uses SharedOp (readSamples config samplesInPacket remaining samp) := by
  induction remaining generalizing samp with
  | zero => exact .pure ()
  | succ remaining ih =>
      unfold readSamples
      infer_instance
instance : Uses SharedOp (readSFlowDatagram config) := by
  unfold readSFlowDatagram
  infer_instance

end Statics

section CommonLog

/-- Operations that read nothing of the common log and leave its mark alone. -/
abbrev LoglessOp : Op collector → Prop :=
  TouchesOp (fun var => var.family ≠ .commonLog) fun var => var ≠ .word .clfValid

theorem logless_uses (family : Family) (other : family ≠ .commonLog) :
    PermitsUse LoglessOp family where
  get _ same := fun log => other (same.symm.trans log)
  set _ same _ := by
    rintro rfl
    exact other same.symm

instance : PermitsRest LoglessOp where
  uses family _ other := logless_uses family other
instance : PermitsUse LoglessOp .metrics := logless_uses _ nofun

variable {config : SFConfig} {α β : Type}

/-! Counted once for each way it is handed on, as before. -/
set_option synthInstance.maxSize 1000000000000

/-- No more than the common log is stale. -/
abbrev LogStale (stale : Var → Prop) (_ : SFSample) : Prop :=
  ∀ var, stale var → var.family = .commonLog

/-- Within a flow sample no more of it is stale than the entry, and that only while it is marked
as none. -/
def LogMarked (stale : Var → Prop) (sample : SFSample) : Prop :=
  (∀ var, stale var → var = .clfHttpLog) ∧ (stale .clfHttpLog → wordOf sample .clfValid = 0)

/-- The common log is set before it is read, whatever it held before. -/
abbrev LogsFresh (program : Decode α) : Prop := @Freshens collector α LogStale LogStale program

/-- A program of a flow sample: the entry is not read while it is stale, and stays marked. -/
abbrev KeepsLog (program : Decode α) : Prop := @Freshens collector α LogMarked LogMarked program

theorem logless_fresh (program : Decode α) [uses : Uses LoglessOp program] (buffer : Buffer)
    (stale : Var → Prop) (sample : SFSample) (log : LogStale stale sample) :
    @SetsFirst collector α buffer stale program sample := by
  refine uses.setsFirst buffer stale ?_ sample
  intro op allow
  cases op with
  | get var => exact fun old => allow (log var old)
  | _ => trivial

theorem LogMarked.stale {stale : Var → Prop} {sample : SFSample} (marked : LogMarked stale sample) :
    LogStale stale sample := by
  intro var old
  rw [marked.1 var old]

instance (priority := low) logsFresh_of_uses (program : Decode α) [Uses LoglessOp program] :
    LogsFresh program :=
  freshens_after _ program (logless_fresh program) fun _ _ log => log

instance logsFresh_bind (program : Decode α) (next : α → Decode β) [first : LogsFresh program]
    [rest : ∀ value, LogsFresh (next value)] : LogsFresh (program >>= next) :=
  freshens_bind program next first rest

instance (priority := low) keepsLog_of_uses (program : Decode α) [uses : Uses LoglessOp program] :
    KeepsLog program where
  freshens buffer stale sample marked := by
    refine ⟨logless_fresh program buffer stale sample marked.stale, ?_⟩
    unfold Run.Returning
    split
    · have kept := uses_keeps LoglessOp (.word .clfValid) (fun _ allow => allow rfl) buffer
        program uses sample
      refine ⟨fun var still => marked.1 var ?_, fun still => ?_⟩
      · exact leftover_subset buffer program stale sample var still
      · exact kept.trans (marked.2 (leftover_subset buffer program stale sample _ still))
    · trivial

instance keepsLog_bind (program : Decode α) (next : α → Decode β) [first : KeepsLog program]
    [rest : ∀ value, KeepsLog (next value)] : KeepsLog (program >>= next) :=
  freshens_bind program next first rest

instance keepsLog_when (guard : Prop) [Decidable guard] (program : Decode Unit)
    [body : KeepsLog program] : KeepsLog (Decoder.when guard program) :=
  freshens_when guard program body

/-- The entry and its mark are set together. -/
theorem keepsLog_entry (httpLog : HttpLog) : KeepsLog (do
    @Decoder.set collector .clfHttpLog httpLog
    setWord .clfValid 1) where
  freshens buffer stale sample marked := by
    refine ⟨⟨trivial, trivial, trivial⟩, ?_⟩
    show LogMarked (fun var => var ≠ .word .clfValid ∧ var ≠ .clfHttpLog ∧ stale var) _
    refine ⟨fun var still => marked.1 var still.2.2, fun still => absurd rfl still.2.1⟩

instance (tag : UInt32) : KeepsLog (readFlowSampleHttp config tag) := by
  have entry := keepsLog_entry
  unfold readFlowSampleHttp
  infer_instance

theorem logless_client (address : Address) : Uses LoglessOp (setCLFClient config address) :=
  uses_when_of _ _ fun _ => uses_single _ nofun

instance : Uses LoglessOp (readExtendedSocket4 config) := by
  have client := @logless_client config
  unfold readExtendedSocket4
  infer_instance
instance : Uses LoglessOp (readExtendedSocket6 config) := by
  have client := @logless_client config
  unfold readExtendedSocket6
  infer_instance

theorem flowDecoders_log (entry : UInt32 × Decode Unit) (member : entry ∈ flowDecoders config) :
    KeepsLog entry.2 := by
  revert entry
  simp only [flowDecoders, List.forall_mem_cons, List.not_mem_nil, false_implies, implies_true,
    and_true]
  and_intros <;> infer_instance

instance (tag length : UInt32) : KeepsLog (readFlowElementBody config tag length) := by
  unfold readFlowElementBody
  split
  · next decoder found => exact flowDecoders_log _ (lookup_mem found)
  · infer_instance

instance : KeepsLog (readFlowElement config) := by
  unfold readFlowElement
  infer_instance
instance (remaining : Nat) : KeepsLog (readFlowElements config remaining) := by
  induction remaining with
  | zero => exact freshens_pure ()
  | succ remaining ih =>
      unfold readFlowElements
      infer_instance

/-- The sample starts with no entry of the log. -/
theorem clearsLog : @Freshens collector Unit LogStale LogMarked (do
    setWord .clfValid 0
    setText .clfClient []) where
  freshens buffer stale sample log := by
    refine ⟨⟨trivial, trivial, trivial⟩, ?_⟩
    show LogMarked (fun var => var ≠ .text .clfClient ∧ var ≠ .word .clfValid ∧ stale var) _
    refine ⟨fun var still => ?_, fun _ => rfl⟩
    -- only three variables are of the log, and two of them have been set
    obtain ⟨notClient, notValid, old⟩ := still
    have family := log var old
    cases var with
    | word var => cases var <;> first | rfl | exact absurd rfl notValid | cases family
    | dword var => cases var <;> cases family
    | address var => cases var <;> cases family
    | text var => cases var <;> first | rfl | exact absurd rfl notClient | cases family
    | clfHttpLog => rfl
    | common member => cases family
    | counters member => cases family

theorem behindLogless (program : Decode α) (next : α → Decode β) [uses : Uses LoglessOp program]
    (rest : ∀ value, @Freshens collector β LogStale LogMarked (next value)) :
    @Freshens collector β LogStale LogMarked (program >>= next) :=
  freshens_bind program next (logsFresh_of_uses program) rest

theorem fieldsClearLog (expanded : Bool) :
    @Freshens collector Unit LogStale LogMarked (readFlowSampleFields config expanded) := by
  unfold readFlowSampleFields
  iterate 21 refine behindLogless _ _ fun _ => ?_
  exact clearsLog

/-- The entry is read where it is marked as one. -/
theorem readsMarked : @Freshens collector Unit LogMarked LogStale (do
    let valid ← getWord .clfValid
    when (valid ≠ 0) do
      let client ← getText .clfClient
      let httpLog ← @Decoder.get collector .clfHttpLog
      emit (.clfLine client httpLog)) := by
  refine freshens_after _ _ (fun buffer stale sample marked => ?_) fun _ _ marked => marked.stale
  have validSet : ¬stale (.word .clfValid) := fun old => nomatch marked.1 _ old
  have clientSet : ¬stale (.text .clfClient) := fun old => nomatch marked.1 _ old
  refine ⟨validSet, ?_⟩
  show SetsFirst buffer stale (Decoder.when (wordOf sample .clfValid ≠ 0) do
    let client ← getText .clfClient
    let httpLog ← @Decoder.get collector .clfHttpLog
    emit (.clfLine client httpLog)) sample
  unfold Decoder.when
  split
  · next valid => exact ⟨clientSet, fun old => valid (marked.2 old), trivial, trivial⟩
  · trivial

theorem logless_after (program : Decode α) [uses : Uses LoglessOp program] :
    @Freshens collector α LogMarked LogStale program :=
  freshens_after _ program
    (fun buffer stale sample marked => logless_fresh program buffer stale sample marked.stale)
    fun _ _ marked => marked.stale

theorem emitsMarked : @Freshens collector Unit LogMarked LogStale (emitFlowSample config) := by
  unfold emitFlowSample
  refine freshens_bind _ _ (keepsLog_of_uses (sampleFilterOK config)) fun accepted => ?_
  by_cases passed : accepted = true
  · rw [when_pos passed]
    split
    · exact logless_after _
    · exact logless_after _
    · exact logless_after _
    · exact readsMarked
    · exact @logless_after _ _ (.pure ())
  · rw [when_neg passed]
    exact @logless_after _ _ (.pure ())

instance (expanded : Bool) : LogsFresh (readFlowSample config expanded) := by
  unfold readFlowSample
  iterate 3 refine freshens_bind _ _ (logsFresh_of_uses _) fun _ => ?_
  refine freshens_bind _ _ (fieldsClearLog expanded) fun _ => ?_
  iterate 4 refine freshens_bind _ _ (inferInstance : KeepsLog _) fun _ => ?_
  exact emitsMarked

theorem counterDecoders_logless (length : UInt32) (entry : UInt32 × Decode Unit)
    (member : entry ∈ counterDecoders config length) : Uses LoglessOp entry.2 := by
  revert entry
  simp only [counterDecoders, plainCounterDecoders, flexCounterDecoders, ddosCounterDecoders,
    List.forall_mem_append, List.forall_mem_cons, List.not_mem_nil, false_implies, implies_true,
    and_true]
  and_intros <;> infer_instance

instance (tag length : UInt32) : Uses LoglessOp (readCounterElementBody config tag length) := by
  unfold readCounterElementBody
  split
  · next decoder found => exact counterDecoders_logless length _ (lookup_mem found)
  · infer_instance

instance logsFresh_ite (guard : Prop) [Decidable guard] (yes no : Decode α) [one : LogsFresh yes]
    [two : LogsFresh no] : LogsFresh (if guard then yes else no) := by
  split
  · exact one
  · exact two

instance : LogsFresh (readSample config) := by
  unfold readSample readSampleV5 readSampleV2v4
  infer_instance

instance (samplesInPacket : UInt32) (remaining : Nat) (samp : UInt32) :
    LogsFresh (readSamples config samplesInPacket remaining samp) := by
  induction remaining generalizing samp with
  | zero => exact freshens_pure ()
  | succ remaining ih =>
      unfold readSamples
      infer_instance

instance : LogsFresh (readSFlowDatagram config) := by
  unfold readSFlowDatagram
  infer_instance

end CommonLog

section Isolation

/-- What a datagram can find of others: the statics, but for the one that nothing assigns and
the drops of the last anomaly record. -/
def Var.unfound (var : Var) : Prop := var.unrecalled = true ∨ var.family = .commonLog

theorem unfound_fresh (config : SFConfig) (buffer : Buffer) (sample : SFSample) :
    @SetsFirst collector Unit buffer Var.unfound (readSFlowDatagram config) sample := by
  have shared : Uses SharedOp (readSFlowDatagram config) := inferInstance
  have logs : LogsFresh (readSFlowDatagram config) := inferInstance
  have metrics := shared.setsFirst buffer (fun var => var.unrecalled = true) (by
    intro op allow
    cases op with
    | get var =>
        intro old
        exact Bool.false_ne_true (allow.symm.trans old)
    | _ => trivial) sample
  exact metrics.union (logs.freshens buffer _ sample fun _ log => log).1

/-- Nothing assigns the sixth of the metrics' drops. -/
theorem unassigned_kept (config : SFConfig) (buffer : Buffer) (sample : SFSample) :
    dwordOf (run buffer (readSFlowDatagram config) sample).state .dnsExclSrcDropped =
      dwordOf sample .dnsExclSrcDropped :=
  uses_keeps SharedOp (.dword .dnsExclSrcDropped) (fun _ allow => allow rfl) buffer _ inferInstance
    sample

end Isolation

section Agents
variable {config : SFConfig}

/-! Counted once for each way it is handed on, as before. -/
set_option synthInstance.maxSize 1000000000000

/-- An address as it lies in a datagram: its type, and behind it four octets of an IPv4 address or
sixteen of any other. -/
def addressAt (buffer : Buffer) (place : Nat) : Address :=
  ⟨wordFrom buffer place, buffer.slice (place + 4) (if wordFrom buffer place = 1 then 4 else 16)⟩

/-- The address of the agent of a datagram, which stands behind its version. -/
def agentOf (buffer : Buffer) : Address := addressAt buffer 4

theorem take_finishing (buffer : Buffer) (count : Nat) (sample : SFSample) :
    (run buffer (take count) sample).Finishing fun octets _ _ =>
      octets = buffer.slice sample.cursor count := by
  have single : run buffer (take count) sample = perform buffer (.take count) sample :=
    run_single buffer (.take count) sample
  rw [single]
  simp only [perform]
  split
  · rfl
  · trivial

theorem skip_finishing (buffer : Buffer) (count : UInt32) (sample : SFSample) :
    (run buffer (skip count) sample).Finishing fun octets _ _ =>
      octets = buffer.slice sample.cursor (quadBytes count) := by
  have single : run buffer (skip count) sample = perform buffer (.skip count) sample :=
    run_single buffer (.skip count) sample
  rw [single]
  simp only [perform]
  split
  · rfl
  · trivial

theorem getAddress_reads (buffer : Buffer) (var : AddressVar) (sample : SFSample) :
    (run buffer (getAddress var) sample).Returning fun _ final =>
      addressOf final var = addressAt buffer sample.cursor := by
  have stored (address : Address) (middle : SFSample) :
      addressOf (middle.assigned (.address var) address) var = address :=
    @State.assigned_store collector middle (.address var) address
  show (run buffer (getAddress var) sample).Finishing fun _ final _ =>
    addressOf final var = addressAt buffer sample.cursor
  unfold getAddress addressAt
  refine finishing_bind buffer _ _ _ _ ((getData32_finishing buffer sample).mono ?_)
  rintro type _ _ ⟨rfl, rfl, -, -⟩
  by_cases v4 : wordFrom buffer sample.cursor = 1
  · rw [if_pos v4, if_pos v4]
    refine finishing_bind buffer _ _ _ _ ((take_finishing buffer 4 _).mono ?_)
    rintro octets middle _ rfl
    exact stored _ middle
  · rw [if_neg v4, if_neg v4]
    refine finishing_bind buffer _ _ _ _ ((skip_finishing buffer 16 _).mono ?_)
    rintro octets middle _ rfl
    exact stored _ middle

theorem returning_still {α β : Type} (buffer : Buffer) (program : Decode α) (next : α → Decode β)
    [stays : Stays program] {sample : SFSample} {place : Nat} {holds : β → SFSample → Prop}
    (here : sample.cursor = place)
    (rest : ∀ value middle, middle.cursor = place → (run buffer (next value) middle).Returning holds) :
    (run buffer (program >>= next) sample).Returning holds := by
  rw [run_seq]
  exact (stays.stays buffer sample).bind fun value middle same => rest value middle (same.trans here)

/-- Behind the header of a datagram the sample holds the agent's address. -/
theorem header_agent (buffer : Buffer) (sample : SFSample) (start : sample.cursor = 0) :
    (run buffer (readDatagramHeader config) sample).Returning fun _ final =>
      addressOf final .agentAddr = agentOf buffer := by
  have reported : Stays (receiveError "unexpected datagram version number\n" : Decode Unit) := by
    unfold receiveError
    infer_instance
  unfold readDatagramHeader
  iterate 7 refine returning_still buffer _ _ start fun _ _ start => ?_
  rw [run_seq]
  refine Run.Returning.bind ((inferInstance : Moves getData32 4).moves buffer _) ?_
  intro version middle read
  have start : middle.cursor = 4 := by rw [read, start]
  iterate 3 refine returning_still buffer _ _ start fun _ _ start => ?_
  rw [run_seq]
  refine Run.Returning.bind (getAddress_reads buffer .agentAddr _) fun _ middle agent => ?_
  rw [start] at agent
  -- what is read behind the address does not touch it
  unfold Run.Returning
  split
  · refine Eq.trans ?_ agent
    refine uses_keeps UntaggedOp (.address .agentAddr) (fun _ allow => allow rfl) buffer _ inferInstance middle
  · trivial

/-- All metrics of a datagram are tagged with the address of its agent. -/
theorem datagram_tagged (buffer : Buffer) (sample : SFSample) (start : sample.cursor = 0) :
    ∀ sent ∈ (run buffer (readSFlowDatagram config) sample).trace,
      sent.event.TaggedBy (agentWord (agentOf buffer)) := by
  have surveyed : Uses UnexportedOp (@Decoder.survey collector) := uses_single _ trivial
  have header : Uses UnexportedOp (readDatagramHeader config) := by
    unfold readDatagramHeader
    infer_instance
  have silent := unshown_silent buffer _ header sample
  have named := @header_agent config buffer sample start
  unfold readSFlowDatagram
  rw [run_seq]
  generalize run buffer (readDatagramHeader config) sample = first at silent named ⊢
  obtain ⟨outcome, middle, trace, notes⟩ := first
  -- the header sends no metrics at all
  have untagged : ∀ sent ∈ trace, sent.event.TaggedBy (agentWord (agentOf buffer)) := by
    intro sent member
    cases event : sent.event with
    | opentsdb lines => exact absurd ⟨sent, member, by rw [event]; rfl⟩ silent
    | _ => trivial
  cases outcome with
  | error reason => exact untagged
  | ok samplesInPacket =>
      have samples : TagsMetrics (readSamples config samplesInPacket samplesInPacket.toNat 0) :=
        inferInstance
      have here : addressOf middle .agentAddr = agentOf buffer := named
      have tagged := (samples.labels buffer middle).fits
      have label : agentTagging.of middle = agentWord (agentOf buffer) := congrArg agentWord here
      rw [label] at tagged
      intro sent member
      rcases List.mem_append.mp member with early | late
      · exact untagged sent early
      · exact tagged sent late

end Agents

section Sessions

def Arrival.agent (arrival : Arrival) : Address := agentOf arrival.buffer

/-- The metrics of an event. -/
def Event.metrics : Event → List Metric
  | .opentsdb lines => lines
  | _ => []

def decodedMetrics (decoded : Run collector Unit) : List Metric :=
  (decoded.trace.map Stamped.event).flatMap Event.metrics

/-- The metrics of a session that are exported with the address of an agent. -/
def agentMetrics (agent : Address) (decodes : List (Run collector Unit)) : List Metric :=
  (decodes.flatMap decodedMetrics).filter fun metric => metric.OfAgent (agentWord agent)

/-- The datagrams of an agent. -/
def ownArrivals (agent : Address) (arrivals : List Arrival) : List Arrival :=
  arrivals.filter fun arrival => arrival.agent = agent

/-- The state that a datagram is decoded from. -/
def Arrival.fresh (arrival : Arrival) (process : SFSample) : SFSample :=
  freshSample arrival.sourceIP arrival.pcapTimestamp process

/-- The datagram finds nothing of another agent: the drops of the last anomaly record are those
that the agent's own datagrams alone have left, or it has an anomaly record of its own before each
brief record that it is decoded to. -/
def FindsOwn (config : SFConfig) (arrival : Arrival) (shared own : SFSample) : Prop :=
  dwordOf shared .packetAnomalyDropped = dwordOf own .packetAnomalyDropped ∨
    @SetsFirst collector Unit arrival.buffer (fun var => var = .dword .packetAnomalyDropped)
      (readSFlowDatagram (config.during arrival)) (arrival.fresh shared)

/-- At each datagram of a session, beside which the agent's own datagrams are decoded alone: those
of the agent find nothing of others; those of others end with the control back, and their agents'
addresses do not begin with the same four octets. -/
def Undisturbed (config : SFConfig) (agent : Address) : List Arrival → SFSample → SFSample → Prop
  | [], _, _ => True
  | arrival :: rest, shared, own =>
      let decoded := receiveArrival config arrival shared
      if arrival.agent = agent then
        FindsOwn config arrival shared own ∧
          Undisturbed config agent rest decoded.state (receiveArrival config arrival own).state
      else
        agentWord arrival.agent ≠ agentWord agent ∧ (received decoded.outcome).ToCaller ∧
          Undisturbed config agent rest decoded.state own

section Steps
variable {config : SFConfig} {agent : Address} {arrival : Arrival} {shared own : SFSample}

theorem fresh_agrees (unassigned : dwordOf own .dnsExclSrcDropped = dwordOf shared .dnsExclSrcDropped) :
    @Agree collector (fun var => Var.unfound var ∨ var = .dword .packetAnomalyDropped)
      (arrival.fresh shared) (arrival.fresh own) where
  cursor := rfl
  marks := rfl
  store var found := by
    obtain ⟨found, notDropped⟩ := not_or.mp found
    obtain ⟨notMetric, notLog⟩ := not_or.mp found
    cases var with
    | word var => cases var <;> first | rfl | exact absurd rfl notLog
    | dword var =>
        cases var <;> first | rfl | exact absurd rfl notMetric | exact absurd rfl notDropped |
          exact unassigned
    | address var => cases var <;> rfl
    | text var => cases var <;> first | rfl | exact absurd rfl notLog
    | clfHttpLog => exact absurd rfl notLog
    | common member => rfl
    | counters member => rfl

theorem unassigned_found : ¬((Var.dword .dnsExclSrcDropped).unfound ∨
    Var.dword .dnsExclSrcDropped = .dword .packetAnomalyDropped) :=
  not_or.mpr ⟨not_or.mpr ⟨Bool.false_ne_true, nofun⟩, nofun⟩

/-- A datagram that finds nothing of others shows the same as alone. -/
theorem own_agrees (unassigned : dwordOf own .dnsExclSrcDropped = dwordOf shared .dnsExclSrcDropped)
    (finds : FindsOwn config arrival shared own) :
    @RunsAgree collector Unit (fun var => Var.unfound var ∨ var = .dword .packetAnomalyDropped)
      (receiveArrival config arrival shared) (receiveArrival config arrival own) := by
  have fresh := unfound_fresh (config.during arrival) arrival.buffer (arrival.fresh shared)
  have agree := @fresh_agrees arrival shared own unassigned
  rcases finds with same | anomaly
  · have agree : @Agree collector Var.unfound (arrival.fresh shared) (arrival.fresh own) := by
      refine ⟨agree.cursor, agree.marks, fun var found => ?_⟩
      by_cases dropped : var = .dword .packetAnomalyDropped
      · subst dropped
        exact same.symm
      · exact agree.store var (not_or.mpr ⟨found, dropped⟩)
    have runs := run_agrees arrival.buffer _ _ _ _ agree fresh
    exact ⟨runs.outcome, runs.state.weaken fun _ => Or.inl, runs.events, runs.notes⟩
  · exact run_agrees arrival.buffer _ _ _ _ agree (fresh.union anomaly)

theorem filter_untagged {word : UInt32} (other : word ≠ agentWord agent) (decoded : Run collector Unit)
    (tagged : ∀ sent ∈ decoded.trace, sent.event.TaggedBy word) :
    (decodedMetrics decoded).filter (fun metric => metric.OfAgent (agentWord agent)) = [] := by
  refine List.filter_eq_nil_iff.mpr fun metric member => ?_
  obtain ⟨event, shown, listed⟩ := List.mem_flatMap.mp member
  obtain ⟨sent, among, rfl⟩ := List.mem_map.mp shown
  have every := tagged sent among
  cases event : sent.event with
  | opentsdb lines =>
      rw [event] at every listed
      have named : metric.OfAgent word := every metric listed
      have differs : ¬metric.OfAgent (agentWord agent) := fun same =>
        other (Arg.word.inj (Option.some.inj (named.symm.trans same)))
      simpa using differs
  | _ =>
      rw [event] at listed
      cases listed

end Steps

/-- The metrics of an agent from what it holds alone, where the one static that it reads besides
is the same. -/
theorem isolated_from (config : SFConfig) (agent : Address) (arrivals : List Arrival)
    (shared own : SFSample)
    (unassigned : dwordOf own .dnsExclSrcDropped = dwordOf shared .dnsExclSrcDropped)
    (undisturbed : Undisturbed config agent arrivals shared own) :
    agentMetrics agent (receiveAll config arrivals shared) =
      agentMetrics agent (receiveAll config (ownArrivals agent arrivals) own) := by
  induction arrivals generalizing shared own with
  | nil => rfl
  | cons arrival rest ih =>
      unfold Undisturbed at undisturbed
      by_cases mine : arrival.agent = agent
      · rw [if_pos mine] at undisturbed
        obtain ⟨finds, later⟩ := undisturbed
        have kept : ownArrivals agent (arrival :: rest) = arrival :: ownArrivals agent rest :=
          List.filter_cons_of_pos (by simpa using mine)
        have runs := @own_agrees config arrival shared own unassigned finds
        have next := ih (receiveArrival config arrival shared).state
          (receiveArrival config arrival own).state
          (runs.state.store (.dword .dnsExclSrcDropped) unassigned_found) later
        have same : decodedMetrics (receiveArrival config arrival own) =
            decodedMetrics (receiveArrival config arrival shared) :=
          congrArg (List.flatMap Event.metrics) runs.events
        rw [kept]
        simp only [receiveAll, agentMetrics, List.flatMap_cons, List.filter_append, same, runs.outcome]
        congr 1
        split
        · rfl
        · exact next
      · rw [if_neg mine] at undisturbed
        obtain ⟨other, returns, later⟩ := undisturbed
        have dropped : ownArrivals agent (arrival :: rest) = ownArrivals agent rest :=
          List.filter_cons_of_neg (by simpa using mine)
        have kept : dwordOf (receiveArrival config arrival shared).state .dnsExclSrcDropped =
            dwordOf shared .dnsExclSrcDropped :=
          unassigned_kept (config.during arrival) arrival.buffer (arrival.fresh shared)
        have next := ih _ own (unassigned.trans kept.symm) later
        have silent := filter_untagged other (receiveArrival config arrival shared)
          (@datagram_tagged (config.during arrival) arrival.buffer (arrival.fresh shared) rfl)
        rw [dropped, ← next]
        simp only [receiveAll, agentMetrics, List.flatMap_cons, List.filter_append, silent,
          List.nil_append]
        -- another agent's datagram leaves the control to the ones behind it
        cases ended : received (receiveArrival config arrival shared).outcome with
        | exited code =>
            rw [ended] at returns
            exact returns.elim
        | _ => rfl

/-- In every interleaving that disturbs an agent nowhere, the metrics exported with its address are
those of its own datagrams alone. -/
theorem metrics_isolated (config : SFConfig) (agent : Address) (arrivals : List Arrival)
    (process : SFSample) (undisturbed : Undisturbed config agent arrivals process process) :
    agentMetrics agent (receiveAll config arrivals process) =
      agentMetrics agent (receiveAll config (ownArrivals agent arrivals) process) :=
  isolated_from config agent arrivals process process rfl undisturbed

/-- A datagram of the IPv4 agent 10.0.0.`host` with one record of the vendor of a single counter. -/
def vendorRecord (host : UInt8) (format value : UInt32) : Arrival where
  buffer := datagramOf ([5, 1, 0x0a000000 + host.toUInt32, 0, 1, 100, 1] ++
    [2, 28, 1, 1, 1, enterpriseA10 format, 8, 0, value])
  sourceIP := clearedAddress
  pcapTimestamp := 0
  time := 1000
  leveldbError := none
  stackOctets := []

/-- An anomaly record and a brief one of an agent, and a brief one of another in between. -/
def apartRecords : List Arrival := [vendorRecord 1 9 5, vendorRecord 2 30 7, vendorRecord 1 30 9]

theorem apart_records_isolated :
    agentMetrics (.ipV4 [10, 0, 0, 1]) (receiveAll (defaultConfig .line) apartRecords startedProcess) =
      agentMetrics (.ipV4 [10, 0, 0, 1]) (receiveAll (defaultConfig .line)
        (ownArrivals (.ipV4 [10, 0, 0, 1]) apartRecords) startedProcess) := by
  refine metrics_isolated (defaultConfig .line) (.ipV4 [10, 0, 0, 1]) apartRecords startedProcess ?_
  have returned : received (receiveArrival (defaultConfig .line) (vendorRecord 2 30 7)
      (receiveArrival (defaultConfig .line) (vendorRecord 1 9 5) startedProcess).state).outcome =
        .returned := by decide +kernel
  have left : dwordOf (receiveArrival (defaultConfig .line) (vendorRecord 2 30 7)
      (receiveArrival (defaultConfig .line) (vendorRecord 1 9 5) startedProcess).state).state
        .packetAnomalyDropped =
      dwordOf (receiveArrival (defaultConfig .line) (vendorRecord 1 9 5) startedProcess).state
        .packetAnomalyDropped := by decide +kernel
  unfold apartRecords Undisturbed
  rw [if_pos (by decide +kernel)]
  refine ⟨.inl rfl, ?_⟩
  unfold Undisturbed
  rw [if_neg (by decide +kernel)]
  refine ⟨by decide +kernel, by rw [returned]; trivial, ?_⟩
  unfold Undisturbed
  rw [if_pos (by decide +kernel)]
  exact ⟨.inl left, trivial⟩

/-- The brief record of the second agent is exported less the drops of the first. -/
theorem anomaly_drops_shared :
    ¬∀ (config : SFConfig) (agent : Address) (arrivals : List Arrival) (process : SFSample),
      agentMetrics agent (receiveAll config arrivals process) =
        agentMetrics agent (receiveAll config (ownArrivals agent arrivals) process) := by
  intro isolated
  have same := isolated (defaultConfig .line) (.ipV4 [10, 0, 0, 2])
    [vendorRecord 1 9 5, vendorRecord 2 30 9] startedProcess
  have shared : (agentMetrics (.ipV4 [10, 0, 0, 2]) (receiveAll (defaultConfig .line)
      [vendorRecord 1 9 5, vendorRecord 2 30 9] startedProcess)).getLast?.map Metric.value = some 4 := by
    decide +kernel
  have alone : (agentMetrics (.ipV4 [10, 0, 0, 2]) (receiveAll (defaultConfig .line)
      (ownArrivals (.ipV4 [10, 0, 0, 2]) [vendorRecord 1 9 5, vendorRecord 2 30 9])
        startedProcess)).getLast?.map Metric.value = some 9 := by
    decide +kernel
  rw [same, alone] at shared
  exact absurd shared (by decide)

end Sessions

end SflowTool
