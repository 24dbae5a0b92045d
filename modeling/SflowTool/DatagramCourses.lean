import SflowTool.RecordCourses

/-! The course of the flexible record, of the DDoS records and of a whole datagram. A database that
cannot be opened and the clock are the same for both sets of options. -/
namespace SflowTool
open Decoding Decoding.Decoder

variable {shows : List collector.Event → List collector.Event → Prop}
  {hidden : collector.Var → Prop} [pieces : Piecewise shows] [tells : Tells shows]
  [hides : HidesLog hidden] {one two : SFConfig} [options : Options shows hidden one two]

/-! Counted once for each way it is handed on, as before. -/
set_option synthInstance.maxSize 1000000000000

section Flexible

theorem leveldbSimpleWriteData_alike (write : Event) (unexported : write.ofFlow = false) :
    Peers shows hidden (leveldbSimpleWriteData one write) (leveldbSimpleWriteData two write) := by
  have written : Uses (CommonOp shows hidden) (@Decoder.emit collector write) :=
    uses_single _ (tells.tells write unexported)
  unfold leveldbSimpleWriteData
  rw [options.leveldbError]
  cases one.leveldbError <;> infer_instance

instance (key : Line) (database : Database) : Peers shows hidden
    (leveldbSimpleReadData one key database) (leveldbSimpleReadData two key database) := by
  unfold leveldbSimpleReadData
  rw [options.leveldbError]
  have looked : Uses (CommonOp shows hidden) (@Decoder.emit collector (.leveldbRead key database)) :=
    uses_single _ (tells.tells _ rfl)
  cases one.leveldbError <;> infer_instance

instance (objId : Line) (oid : UInt32) (uuid : Text) : Peers shows hidden
    (writeObjectId one objId oid uuid) (writeObjectId two objId oid uuid) := by
  have written := @leveldbSimpleWriteData_alike shows hidden _ _ _ one two _
    (.leveldbWriteObject objId oid uuid .objDb) rfl
  unfold writeObjectId
  infer_instance

instance : Peers shows hidden
    (readCountersA10_4_1_n_generic one) (readCountersA10_4_1_n_generic two) := by
  have written (key : Line) (value : List (UInt32 × UInt64)) :=
    @leveldbSimpleWriteData_alike shows hidden _ _ _ one two _ (.leveldbWrite key value .rawDb) rfl
  unfold readCountersA10_4_1_n_generic
  simp only [options.time]
  infer_instance

end Flexible

section Populate

instance (len : UInt32) :
    Peers shows hidden (sflDdosUpdateCtxLen one len) (sflDdosUpdateCtxLen two len) := by
  unfold sflDdosUpdateCtxLen; infer_instance
instance (width : Nat) (next : Decode UInt64) (mismatch invalid : Line) (member : DdosMember)
    (fields : List String) [each : Uses (CommonOp shows hidden) next] :
    Peers shows hidden (populateSflowStruct one width next mismatch invalid member fields)
      (populateSflowStruct two width next mismatch invalid member fields) := by
  unfold populateSflowStruct; infer_instance
instance (member : DdosMember) (fields : List String) :
    Peers shows hidden (populateSflowStructU64 one member fields)
      (populateSflowStructU64 two member fields) := by
  unfold populateSflowStructU64; infer_instance
instance (member : DdosMember) (fields : List String) :
    Peers shows hidden (populateSflowStructU32 one member fields)
      (populateSflowStructU32 two member fields) := by
  unfold populateSflowStructU32; infer_instance
instance (member : DdosMember) (labels : List (String × String)) :
    Peers shows hidden (logCountersU64 one member labels) (logCountersU64 two member labels) := by
  unfold logCountersU64; infer_instance
instance (member : DdosMember) (labels : List (String × String)) :
    Peers shows hidden (logCountersU32 one member labels) (logCountersU32 two member labels) := by
  unfold logCountersU32; infer_instance
instance (member : DdosMember) (labels : List (String × String)) :
    Peers shows hidden (readLabelledU64 one member labels) (readLabelledU64 two member labels) := by
  unfold readLabelledU64; infer_instance
instance (member : DdosMember) (field : String × Field) :
    Peers shows hidden (storeField one member field) (storeField two member field) := by
  unfold storeField
  split <;> infer_instance
instance (member : DdosMember) (fields : List (String × Field)) :
    Peers shows hidden (storeFields one member fields) (storeFields two member fields) := by
  unfold storeFields; infer_instance
instance :
    Peers shows hidden (readCountersDdosDstIndicators one) (readCountersDdosDstIndicators two) := by
  unfold readCountersDdosDstIndicators; infer_instance
instance :
    Peers shows hidden (readCountersDdosDstTcpIndicators one)
      (readCountersDdosDstTcpIndicators two) := by
  unfold readCountersDdosDstTcpIndicators; infer_instance
instance :
    Peers shows hidden (readCountersDdosDstUdpIndicators one)
      (readCountersDdosDstUdpIndicators two) := by
  unfold readCountersDdosDstUdpIndicators; infer_instance
instance :
    Peers shows hidden (readCountersDdosDstIcmpIndicators one)
      (readCountersDdosDstIcmpIndicators two) := by
  unfold readCountersDdosDstIcmpIndicators; infer_instance
instance :
    Peers shows hidden (readCountersDdosDstOtherIndicators one)
      (readCountersDdosDstOtherIndicators two) := by
  unfold readCountersDdosDstOtherIndicators; infer_instance

end Populate

section PerEntry

instance (fmt title : String) (table : NameTable) (names : List String) (index : UInt32) :
    Peers shows hidden (logNamed one fmt title table names index)
      (logNamed two fmt title table names index) := by
  unfold logNamed; infer_instance
instance (member : DdosMember) :
    Peers shows hidden (readCountersDdosIpCounterCommon one member)
      (readCountersDdosIpCounterCommon two member) := by
  unfold readCountersDdosIpCounterCommon
  simp only [copiedOctets, options.stackOctets]
  infer_instance
instance (member : DdosMember) (title : String) :
    Peers shows hidden (readCountersIpCounterPort one member title)
      (readCountersIpCounterPort two member title) := by
  unfold readCountersIpCounterPort; infer_instance
instance :
    Peers shows hidden (readCountersDdosHttpIpCounter one) (readCountersDdosHttpIpCounter two) := by
  unfold readCountersDdosHttpIpCounter; infer_instance
instance :
    Peers shows hidden (readCountersDdosSslL4IpCounter one)
      (readCountersDdosSslL4IpCounter two) := by
  unfold readCountersDdosSslL4IpCounter; infer_instance
instance :
    Peers shows hidden (readCountersDdosUdpIpCounter one) (readCountersDdosUdpIpCounter two) := by
  unfold readCountersDdosUdpIpCounter; infer_instance
instance :
    Peers shows hidden (readCountersDdosTcpIpCounter one) (readCountersDdosTcpIpCounter two) := by
  unfold readCountersDdosTcpIpCounter; infer_instance
instance :
    Peers shows hidden (readCountersDdosOtherIpCounter one)
      (readCountersDdosOtherIpCounter two) := by
  unfold readCountersDdosOtherIpCounter; infer_instance
instance :
    Peers shows hidden (readCountersDdosDnsIpCounter one) (readCountersDdosDnsIpCounter two) := by
  unfold readCountersDdosDnsIpCounter; infer_instance
instance :
    Peers shows hidden (readCountersDdosPollingEntryMap one)
      (readCountersDdosPollingEntryMap two) := by
  unfold readCountersDdosPollingEntryMap; infer_instance
instance :
    Peers shows hidden (readCountersDdosPollingTcpStateful one)
      (readCountersDdosPollingTcpStateful two) := by
  unfold readCountersDdosPollingTcpStateful; infer_instance
instance :
    Peers shows hidden (readCountersDdosPollingHttp one) (readCountersDdosPollingHttp two) := by
  unfold readCountersDdosPollingHttp; infer_instance
instance (member : DdosMember) :
    Peers shows hidden (readCountersDdosIpCounterResStat one member)
      (readCountersDdosIpCounterResStat two member) := by
  unfold readCountersDdosIpCounterResStat; infer_instance
instance :
    Peers shows hidden (readCountersDdosPortIpCounter one) (readCountersDdosPortIpCounter two) := by
  unfold readCountersDdosPortIpCounter; infer_instance
instance (index : Nat) :
    Peers shows hidden (readCountersDdosProtocol one index)
      (readCountersDdosProtocol two index) := by
  unfold readCountersDdosProtocol; infer_instance
instance (index : Nat) :
    Peers shows hidden (readCountersDdosApp one index) (readCountersDdosApp two index) := by
  unfold readCountersDdosApp; infer_instance
instance :
    Peers shows hidden (readCountersDdosIpCounterHeader one)
      (readCountersDdosIpCounterHeader two) := by
  unfold readCountersDdosIpCounterHeader
  simp only [copiedOctets, options.stackOctets]
  infer_instance
instance (readElement readElement' : Nat → Decode Unit) (remaining index : Nat)
    [each : ∀ index, Peers shows hidden (readElement index) (readElement' index)] :
    Peers shows hidden (readEntryArray readElement remaining index)
      (readEntryArray readElement' remaining index) := by
  induction remaining generalizing index with
  | zero => exact alike_pure ()
  | succ remaining ih =>
      unfold readEntryArray
      infer_instance

instance : Peers shows hidden (readCountersDdosIpCounter one) (readCountersDdosIpCounter two) := by
  unfold readCountersDdosIpCounter; infer_instance

end PerEntry

section Global

instance : Peers shows hidden (readCountersDdosCounter one) (readCountersDdosCounter two) := by
  unfold readCountersDdosCounter; infer_instance
instance :
    Peers shows hidden (readCountersDdosPollingPackets one)
      (readCountersDdosPollingPackets two) := by
  unfold readCountersDdosPollingPackets; infer_instance
instance :
    Peers shows hidden (readCountersDdosPollingL4Protocol one)
      (readCountersDdosPollingL4Protocol two) := by
  unfold readCountersDdosPollingL4Protocol; infer_instance
instance :
    Peers shows hidden (readCountersDdosPollingTcpBasic one)
      (readCountersDdosPollingTcpBasic two) := by
  unfold readCountersDdosPollingTcpBasic; infer_instance
instance :
    Peers shows hidden (readCountersDdosL4UdpCounter one) (readCountersDdosL4UdpCounter two) := by
  unfold readCountersDdosL4UdpCounter; infer_instance
instance :
    Peers shows hidden (readCountersDdosL4OtherCounter one)
      (readCountersDdosL4OtherCounter two) := by
  unfold readCountersDdosL4OtherCounter; infer_instance
instance :
    Peers shows hidden (readCountersDdosL4IcmpCounter one) (readCountersDdosL4IcmpCounter two) := by
  unfold readCountersDdosL4IcmpCounter; infer_instance
instance :
    Peers shows hidden (readCountersDdosL4SwitchCounter one)
      (readCountersDdosL4SwitchCounter two) := by
  unfold readCountersDdosL4SwitchCounter; infer_instance
instance :
    Peers shows hidden (readCountersDdosL4SessionCounter one)
      (readCountersDdosL4SessionCounter two) := by
  unfold readCountersDdosL4SessionCounter; infer_instance
instance :
    Peers shows hidden (readCountersDdosL4SyncCounter one) (readCountersDdosL4SyncCounter two) := by
  unfold readCountersDdosL4SyncCounter; infer_instance
instance :
    Peers shows hidden (readCountersDdosL4TunnelCounter one)
      (readCountersDdosL4TunnelCounter two) := by
  unfold readCountersDdosL4TunnelCounter; infer_instance
instance :
    Peers shows hidden (readCountersDdosEntryTableCounter one)
      (readCountersDdosEntryTableCounter two) := by
  unfold readCountersDdosEntryTableCounter; infer_instance
instance :
    Peers shows hidden (readCountersDdosLongStatsCounter one)
      (readCountersDdosLongStatsCounter two) := by
  unfold readCountersDdosLongStatsCounter; infer_instance
instance :
    Peers shows hidden (readCountersDdosUdpT2Counter one) (readCountersDdosUdpT2Counter two) := by
  unfold readCountersDdosUdpT2Counter; infer_instance
instance :
    Peers shows hidden (readCountersDdosTcpT2Counter one) (readCountersDdosTcpT2Counter two) := by
  unfold readCountersDdosTcpT2Counter; infer_instance
instance :
    Peers shows hidden (readCountersDdosOtherT2Counter one)
      (readCountersDdosOtherT2Counter two) := by
  unfold readCountersDdosOtherT2Counter; infer_instance

end Global

section Exported

theorem metric_same (options : Options shows hidden one two) : metric two = metric one := by
  funext name tags value
  unfold metric
  rw [options.time]

theorem sumMetrics_same (options : Options shows hidden one two) : sumMetrics two = sumMetrics one := by
  funext tags counters rows
  unfold sumMetrics
  rw [metric_same options]

instance (member : DdosMember) (fields : List String) (labels : List (String × String))
    (rows : List (String × List String)) :
    Peers shows hidden (readExportedU64 one member fields labels rows)
      (readExportedU64 two member fields labels rows) := by
  unfold readExportedU64
  simp only [metric_same options, sumMetrics_same options]
  infer_instance
instance :
    Peers shows hidden (readCountersDdosHttpCounter one) (readCountersDdosHttpCounter two) := by
  unfold readCountersDdosHttpCounter; infer_instance
instance :
    Peers shows hidden (readCountersDdosDnsCounter one) (readCountersDdosDnsCounter two) := by
  unfold readCountersDdosDnsCounter; infer_instance
instance :
    Peers shows hidden (readCountersDdosFpgaAnomalyCounter one)
      (readCountersDdosFpgaAnomalyCounter two) := by
  unfold readCountersDdosFpgaAnomalyCounter
  simp only [metric_same options, sumMetrics_same options]
  infer_instance
instance :
    Peers shows hidden (readCountersDdosSslL4Counter one) (readCountersDdosSslL4Counter two) := by
  unfold readCountersDdosSslL4Counter; infer_instance
instance :
    Peers shows hidden (readCountersDdosL4TcpCounter one) (readCountersDdosL4TcpCounter two) := by
  unfold readCountersDdosL4TcpCounter; infer_instance
instance :
    Peers shows hidden (readCountersDdosBriefStatsCounter one)
      (readCountersDdosBriefStatsCounter two) := by
  unfold readCountersDdosBriefStatsCounter
  simp only [metric_same options, sumMetrics_same options]
  infer_instance
instance :
    Peers shows hidden (readCountersDdosHttpT2Counter one) (readCountersDdosHttpT2Counter two) := by
  unfold readCountersDdosHttpT2Counter
  simp only [metric_same options, sumMetrics_same options]
  infer_instance
instance :
    Peers shows hidden (readCountersDdosSslL4T2Counter one)
      (readCountersDdosSslL4T2Counter two) := by
  unfold readCountersDdosSslL4T2Counter
  simp only [metric_same options, sumMetrics_same options]
  infer_instance
instance :
    Peers shows hidden (readCountersDdosDnsCounterT2 one) (readCountersDdosDnsCounterT2 two) := by
  unfold readCountersDdosDnsCounterT2
  simp only [metric_same options, sumMetrics_same options]
  infer_instance
instance :
    Peers shows hidden (readCountersDdosIcmpCounterT2 one) (readCountersDdosIcmpCounterT2 two) := by
  unfold readCountersDdosIcmpCounterT2
  simp only [metric_same options, sumMetrics_same options]
  infer_instance
instance :
    Peers shows hidden (readCountersDdosL4IpCounterT2 one) (readCountersDdosL4IpCounterT2 two) := by
  unfold readCountersDdosL4IpCounterT2
  simp only [metric_same options, sumMetrics_same options]
  infer_instance
instance :
    Peers shows hidden (readCountersDdosL4ExtIpCounterT2 one)
      (readCountersDdosL4ExtIpCounterT2 two) := by
  unfold readCountersDdosL4ExtIpCounterT2
  simp only [metric_same options, sumMetrics_same options]
  infer_instance

end Exported

section Dispatch

instance (description : String) (decoder decoder' : Decode Unit)
    [each : Peers shows hidden decoder decoder'] :
    Peers shows hidden (described description decoder) (described description decoder') := by
  unfold described; infer_instance
instance (member : DdosMember) (description : String)
    (readPort readStats readPort' readStats' : Decode Unit)
    [port : Peers shows hidden readPort readPort']
    [stats : Peers shows hidden readStats readStats'] :
    Peers shows hidden (readPortEntry one member description readPort readStats)
      (readPortEntry two member description readPort' readStats') := by
  unfold readPortEntry; infer_instance
instance (member : DdosMember) (description : String) (readStats readStats' : Decode Unit)
    [stats : Peers shows hidden readStats readStats'] :
    Peers shows hidden (readPlainEntry one member description readStats)
      (readPlainEntry two member description readStats') := by
  unfold readPlainEntry; infer_instance

theorem counterDecoders_course (length : UInt32) :
    SameCourses shows hidden (counterDecoders one length) (counterDecoders two length) := by
  simp only [SameCourses, counterDecoders, plainCounterDecoders, flexCounterDecoders,
    ddosCounterDecoders, List.cons_append, List.nil_append, List.forall₂_cons, List.Forall₂.nil,
    true_and, and_true]
  and_intros <;> infer_instance

instance (tag length : UInt32) : Peers shows hidden
    (readCounterElementBody one tag length) (readCounterElementBody two tag length) := by
  unfold readCounterElementBody
  exact lookup_course (counterDecoders_course length) tag _ _

end Dispatch

section Samples

instance : Peers shows hidden (when (one.outputFormat = .line) writeCountersLine)
    (when (two.outputFormat = .line) writeCountersLine) := options.counters
instance : Peers shows hidden (emitFlowSample one) (emitFlowSample two) := options.flows
instance : Peers shows hidden (emitFlowSampleV2v4 one) (emitFlowSampleV2v4 two) :=
  options.flowsV2v4

instance : Peers shows hidden (readFlowElement one) (readFlowElement two) := by
  unfold readFlowElement; infer_instance

instance (remaining : Nat) :
    Peers shows hidden (readFlowElements one remaining) (readFlowElements two remaining) := by
  induction remaining with
  | zero => exact alike_pure ()
  | succ remaining ih =>
      unfold readFlowElements
      infer_instance

instance (expanded : Bool) :
    Peers shows hidden (readFlowSample one expanded) (readFlowSample two expanded) := by
  unfold readFlowSample; infer_instance
instance : Peers shows hidden (readFlowSampleV2v4 one) (readFlowSampleV2v4 two) := by
  unfold readFlowSampleV2v4; infer_instance

instance : Peers shows hidden (readCounterElement one) (readCounterElement two) := by
  unfold readCounterElement; infer_instance

instance (remaining : Nat) :
    Peers shows hidden (readCounterElements one remaining) (readCounterElements two remaining) := by
  induction remaining with
  | zero => exact alike_pure ()
  | succ remaining ih =>
      unfold readCounterElements
      infer_instance

instance (expanded : Bool) :
    Peers shows hidden (readCountersSample one expanded) (readCountersSample two expanded) := by
  unfold readCountersSample; infer_instance
instance : Peers shows hidden (readCountersSampleV2v4 one) (readCountersSampleV2v4 two) := by
  unfold readCountersSampleV2v4; infer_instance
instance (sampleType : UInt32) :
    Peers shows hidden (readSampleV5 one sampleType) (readSampleV5 two sampleType) := by
  unfold readSampleV5; infer_instance
instance (sampleType : UInt32) :
    Peers shows hidden (readSampleV2v4 one sampleType) (readSampleV2v4 two sampleType) := by
  unfold readSampleV2v4; infer_instance
instance : Peers shows hidden (readSample one) (readSample two) := by
  unfold readSample; infer_instance
instance (samp samplesInPacket : UInt32) :
    Uses (CommonOp shows hidden) (checkMoreData samp samplesInPacket) := by
  unfold checkMoreData; infer_instance

instance (samplesInPacket : UInt32) (remaining : Nat) (samp : UInt32) :
    Peers shows hidden (readSamples one samplesInPacket remaining samp)
      (readSamples two samplesInPacket remaining samp) := by
  induction remaining generalizing samp with
  | zero => exact alike_pure ()
  | succ remaining ih =>
      unfold readSamples
      infer_instance

instance : Peers shows hidden (readDatagramHeader one) (readDatagramHeader two) := by
  unfold readDatagramHeader
  simp only [SFConfig.now, options.time]
  infer_instance

instance : Peers shows hidden (readSFlowDatagram one) (readSFlowDatagram two) := by
  unfold readSFlowDatagram; infer_instance

end Samples

end SflowTool
