import SflowTool.RecordUses

/-! The flexible record and the DDoS records print and export as well as log; all of
them are decent, and with them the whole counters sample apart from its own notes
and marks. -/
namespace SflowTool
open Decoding Decoding.Decoder

/-- What the vendor's records print in every output format. -/
class PermitsPrint (allowed : Op collector → Prop) : Prop where
  print : ∀ line, allowed (.emit (.print line))

/-- The metrics that the DDoS records send. -/
class PermitsMetrics (allowed : Op collector → Prop) : Prop where
  opentsdb : ∀ lines, allowed (.emit (.opentsdb lines))

/-- Moves that nothing checks. -/
class PermitsJump (allowed : Op collector → Prop) : Prop where
  jump : ∀ count, allowed (.jump count)

/-- What the flexible record does besides: the texts it looks for and the databases. -/
class PermitsFlexible (allowed : Op collector → Prop) : Prop where
  peekText : ∀ name offset, allowed (.peekText name offset)
  write : ∀ key value database, allowed (.emit (.leveldbWrite key value database))
  writeObject : ∀ key oid uuid database,
    allowed (.emit (.leveldbWriteObject key oid uuid database))
  read : ∀ key database, allowed (.emit (.leveldbRead key database))

variable {config : SFConfig}

instance : PermitsPrint (DecentOp config) where
  print _ := trivial
instance : PermitsMetrics (DecentOp config) where
  opentsdb _ := trivial
instance : PermitsJump (DecentOp config) where
  jump _ := trivial
instance : PermitsFlexible (DecentOp config) where
  peekText _ _ := trivial
  write _ _ _ := trivial
  writeObject _ _ _ _ := trivial
  read _ _ := trivial

variable {allowed : Op collector → Prop} [permits : Permits allowed]
  [logs : PermitsLog config allowed]

/-! The limit of the search for instances counts shared answers again, as for the
plain records. -/
set_option synthInstance.maxSize 1000000000000

instance (index : Nat) : Uses allowed (@Decoder.note collector (.statStore index)) :=
  uses_single _ (permits.note _ rfl nofun rfl rfl)
instance (index : Nat) : Uses allowed (@Decoder.note collector (.appStatStore index)) :=
  uses_single _ (permits.note _ rfl nofun rfl rfl)
instance [prints : PermitsPrint allowed] (fmt : String) (args : List Arg) :
    Uses allowed (printf fmt args) :=
  uses_single _ (prints.print _)

instance [jumps : PermitsJump allowed] (count : Nat) :
    Uses allowed (@Decoder.jump collector count) :=
  uses_single _ (jumps.jump count)

section Flexible
variable [flexible : PermitsFlexible allowed]

instance (name : Mark) (offset : Nat) : Uses allowed (@Decoder.peekText collector name offset) :=
  uses_single _ (flexible.peekText name offset)

theorem leveldbSimpleWriteData_uses (write : Event) (stored : allowed (.emit write)) :
    Uses allowed (leveldbSimpleWriteData config write) := by
  unfold leveldbSimpleWriteData
  cases config.leveldbError with
  | some err => infer_instance
  | none => exact uses_single _ stored

instance (key : Line) (database : Database) :
    Uses allowed (leveldbSimpleReadData config key database) := by
  have looked : Uses allowed (@Decoder.emit collector (.leveldbRead key database)) :=
    uses_single _ (flexible.read key database)
  unfold leveldbSimpleReadData
  cases config.leveldbError <;> infer_instance

instance (objId : Line) (oid : UInt32) (uuid : Text) :
    Uses allowed (writeObjectId config objId oid uuid) := by
  have written : Uses allowed
      (leveldbSimpleWriteData config (.leveldbWriteObject objId oid uuid .objDb)) :=
    leveldbSimpleWriteData_uses _ (flexible.writeObject _ _ _ _)
  unfold writeObjectId
  infer_instance

variable [PermitsPrint allowed]

instance [PermitsMark allowed .ptr] (remaining index : Nat) :
    Uses allowed (readFlexKv remaining index) := by
  induction remaining generalizing index with
  | zero => exact .pure []
  | succ remaining ih =>
      unfold readFlexKv
      infer_instance

instance [PermitsGet allowed .header] : Uses allowed printHeader := by
  unfold printHeader; infer_instance

instance [PermitsJump allowed] [PermitsMark allowed .ptr] [PermitsGet allowed .header]
    [PermitsUse allowed .context] : Uses allowed (readCountersA10_4_1_n_generic config) := by
  have written (key : Line) (value : List (UInt32 × UInt64)) : Uses allowed
      (leveldbSimpleWriteData config (.leveldbWrite key value .rawDb)) :=
    leveldbSimpleWriteData_uses _ (flexible.write _ _ _)
  unfold readCountersA10_4_1_n_generic
  infer_instance

end Flexible

variable [PermitsPrint allowed] [PermitsOctets allowed] [PermitsJump allowed]
  [PermitsGet allowed .datagram] [PermitsUse allowed .context] [PermitsUse allowed .counters]

section Populate

instance (member : DdosMember) (field : String) (value : UInt64) :
    Uses allowed (setCounter member field value) := by
  unfold setCounter; infer_instance
instance (description : String) : Uses allowed (sflDdosDescription description) := by
  unfold sflDdosDescription; infer_instance
instance (len : UInt32) : Uses allowed (sflDdosUpdateCtxLen config len) := by
  unfold sflDdosUpdateCtxLen; infer_instance

instance (next : Decode UInt64) (member : DdosMember) (fields : List String)
    [each : Uses allowed next] :
    Uses allowed (populateWords next member fields) := by
  induction fields with
  | nil => exact .pure ()
  | cons field rest ih =>
      unfold populateWords
      infer_instance

instance (width : Nat) (next : Decode UInt64) (mismatch invalid : Line) (member : DdosMember)
    (fields : List String) [each : Uses allowed next] :
    Uses allowed
      (populateSflowStruct config width next mismatch invalid member fields) := by
  unfold populateSflowStruct; infer_instance

instance (member : DdosMember) (fields : List String) :
    Uses allowed (populateSflowStructU64 config member fields) := by
  unfold populateSflowStructU64; infer_instance
instance (member : DdosMember) (fields : List String) :
    Uses allowed (populateSflowStructU32 config member fields) := by
  unfold populateSflowStructU32; infer_instance
instance (member : DdosMember) (labels : List (String × String)) :
    Uses allowed (logCountersU64 config member labels) := by
  unfold logCountersU64; infer_instance
instance (member : DdosMember) (labels : List (String × String)) :
    Uses allowed (logCountersU32 config member labels) := by
  unfold logCountersU32; infer_instance
instance (member : DdosMember) (labels : List (String × String)) :
    Uses allowed (readLabelledU64 config member labels) := by
  unfold readLabelledU64; infer_instance

instance (member : DdosMember) (field : String × Field) :
    Uses allowed (storeField config member field) := by
  unfold storeField
  split <;> infer_instance

instance (member : DdosMember) (fields : List (String × Field)) :
    Uses allowed (storeFields config member fields) := by
  unfold storeFields; infer_instance
instance : Uses allowed (readCountersDdosDstIndicators config) := by
  unfold readCountersDdosDstIndicators; infer_instance
instance : Uses allowed (readCountersDdosDstTcpIndicators config) := by
  unfold readCountersDdosDstTcpIndicators; infer_instance
instance : Uses allowed (readCountersDdosDstUdpIndicators config) := by
  unfold readCountersDdosDstUdpIndicators; infer_instance
instance : Uses allowed (readCountersDdosDstIcmpIndicators config) := by
  unfold readCountersDdosDstIcmpIndicators; infer_instance
instance : Uses allowed (readCountersDdosDstOtherIndicators config) := by
  unfold readCountersDdosDstOtherIndicators; infer_instance

end Populate

section PerEntry

instance [PermitsNames allowed] (table : NameTable) (names : List String) (index : UInt32) :
    Uses allowed (lookupName table names index) := by
  unfold lookupName; infer_instance
instance [PermitsNames allowed] (fmt title : String) (table : NameTable) (names : List String)
    (index : UInt32) :
    Uses allowed (logNamed config fmt title table names index) := by
  unfold logNamed; infer_instance
instance (ipType : UInt32) : Uses allowed (getDDoSAddress ipType) := by
  unfold getDDoSAddress; infer_instance
instance (member : DdosMember) (change : DdosCommon → DdosCommon) :
    Uses allowed (modifyCommon member change) := by
  unfold modifyCommon; infer_instance
instance [PermitsNames allowed] (member : DdosMember) :
    Uses allowed (readCountersDdosIpCounterCommon config member) := by
  unfold readCountersDdosIpCounterCommon; infer_instance
instance [PermitsNames allowed] (appType : UInt32) : Uses allowed (printAppType appType) := by
  unfold printAppType; infer_instance
instance [PermitsNames allowed] (member : DdosMember) (title : String) :
    Uses allowed (readCountersIpCounterPort config member title) := by
  unfold readCountersIpCounterPort; infer_instance
instance [PermitsNames allowed] : Uses allowed (readCountersDdosHttpIpCounter config) := by
  unfold readCountersDdosHttpIpCounter; infer_instance
instance [PermitsNames allowed] : Uses allowed (readCountersDdosSslL4IpCounter config) := by
  unfold readCountersDdosSslL4IpCounter; infer_instance
instance [PermitsNames allowed] : Uses allowed (readCountersDdosUdpIpCounter config) := by
  unfold readCountersDdosUdpIpCounter; infer_instance
instance [PermitsNames allowed] : Uses allowed (readCountersDdosTcpIpCounter config) := by
  unfold readCountersDdosTcpIpCounter; infer_instance
instance [PermitsNames allowed] : Uses allowed (readCountersDdosOtherIpCounter config) := by
  unfold readCountersDdosOtherIpCounter; infer_instance
instance [PermitsNames allowed] : Uses allowed (readCountersDdosDnsIpCounter config) := by
  unfold readCountersDdosDnsIpCounter; infer_instance
instance [PermitsNames allowed] : Uses allowed (readCountersDdosPollingEntryMap config) := by
  unfold readCountersDdosPollingEntryMap; infer_instance
instance : Uses allowed (readCountersDdosPollingTcpStateful config) := by
  unfold readCountersDdosPollingTcpStateful; infer_instance
instance : Uses allowed (readCountersDdosPollingHttp config) := by
  unfold readCountersDdosPollingHttp; infer_instance
instance (member : DdosMember) :
    Uses allowed (readCountersDdosIpCounterResStat config member) := by
  unfold readCountersDdosIpCounterResStat; infer_instance
instance [PermitsNames allowed] : Uses allowed (readCountersDdosPortIpCounter config) := by
  unfold readCountersDdosPortIpCounter; infer_instance
instance [PermitsNames allowed] (index : Nat) :
    Uses allowed (readCountersDdosProtocol config index) := by
  unfold readCountersDdosProtocol; infer_instance
instance [PermitsNames allowed] (index : Nat) :
    Uses allowed (readCountersDdosApp config index) := by
  unfold readCountersDdosApp; infer_instance

instance [PermitsIteration allowed] (readElement : Nat → Decode Unit) (remaining index : Nat)
    [each : ∀ index, Uses allowed (readElement index)] :
    Uses allowed (readEntryArray readElement remaining index) := by
  induction remaining generalizing index with
  | zero => exact .pure ()
  | succ remaining ih =>
      unfold readEntryArray
      infer_instance

instance [PermitsNames allowed] : Uses allowed (readCountersDdosIpCounterHeader config) := by
  unfold readCountersDdosIpCounterHeader; infer_instance
instance [PermitsNames allowed] [PermitsIteration allowed] :
    Uses allowed (readCountersDdosIpCounter config) := by
  unfold readCountersDdosIpCounter; infer_instance

end PerEntry

section Unexported

instance : Uses allowed agentTags := by
  unfold agentTags; infer_instance
instance (member : DdosMember) (columns columns6 : String) (args : List Arg) :
    Uses allowed (entryTags member columns columns6 args) := by
  unfold entryTags; infer_instance
instance (var : DwordVar) [PermitsSet allowed var.family] (counters : String → UInt64)
    (fields : List String) : Uses allowed (setSum var counters fields) := by
  unfold setSum; infer_instance
instance : Uses allowed (readCountersDdosCounter config) := by
  unfold readCountersDdosCounter; infer_instance
instance : Uses allowed (readCountersDdosPollingPackets config) := by
  unfold readCountersDdosPollingPackets; infer_instance
instance : Uses allowed (readCountersDdosPollingL4Protocol config) := by
  unfold readCountersDdosPollingL4Protocol; infer_instance
instance : Uses allowed (readCountersDdosPollingTcpBasic config) := by
  unfold readCountersDdosPollingTcpBasic; infer_instance
instance : Uses allowed (readCountersDdosL4UdpCounter config) := by
  unfold readCountersDdosL4UdpCounter; infer_instance
instance : Uses allowed (readCountersDdosL4OtherCounter config) := by
  unfold readCountersDdosL4OtherCounter; infer_instance
instance : Uses allowed (readCountersDdosL4IcmpCounter config) := by
  unfold readCountersDdosL4IcmpCounter; infer_instance
instance : Uses allowed (readCountersDdosL4SwitchCounter config) := by
  unfold readCountersDdosL4SwitchCounter; infer_instance
instance : Uses allowed (readCountersDdosL4SessionCounter config) := by
  unfold readCountersDdosL4SessionCounter; infer_instance
instance : Uses allowed (readCountersDdosL4SyncCounter config) := by
  unfold readCountersDdosL4SyncCounter; infer_instance
instance : Uses allowed (readCountersDdosL4TunnelCounter config) := by
  unfold readCountersDdosL4TunnelCounter; infer_instance
instance : Uses allowed (readCountersDdosEntryTableCounter config) := by
  unfold readCountersDdosEntryTableCounter; infer_instance
instance : Uses allowed (readCountersDdosLongStatsCounter config) := by
  unfold readCountersDdosLongStatsCounter; infer_instance
instance : Uses allowed (readCountersDdosUdpT2Counter config) := by
  unfold readCountersDdosUdpT2Counter; infer_instance
instance : Uses allowed (readCountersDdosTcpT2Counter config) := by
  unfold readCountersDdosTcpT2Counter; infer_instance
instance : Uses allowed (readCountersDdosOtherT2Counter config) := by
  unfold readCountersDdosOtherT2Counter; infer_instance

end Unexported

section Exported
variable [metrics : PermitsMetrics allowed]

instance (lines : List Metric) : Uses allowed (@Decoder.emit collector (.opentsdb lines)) :=
  uses_single _ (metrics.opentsdb lines)
instance (member : DdosMember) (fields : List String) (labels : List (String × String))
    (rows : List (String × List String)) :
    Uses allowed (readExportedU64 config member fields labels rows) := by
  unfold readExportedU64; infer_instance
instance : Uses allowed (readCountersDdosHttpCounter config) := by
  unfold readCountersDdosHttpCounter; infer_instance
instance : Uses allowed (readCountersDdosDnsCounter config) := by
  unfold readCountersDdosDnsCounter; infer_instance
instance [PermitsSet allowed .metrics] :
    Uses allowed (readCountersDdosFpgaAnomalyCounter config) := by
  unfold readCountersDdosFpgaAnomalyCounter; infer_instance
instance : Uses allowed (readCountersDdosSslL4Counter config) := by
  unfold readCountersDdosSslL4Counter; infer_instance
instance : Uses allowed (readCountersDdosL4TcpCounter config) := by
  unfold readCountersDdosL4TcpCounter; infer_instance
instance [PermitsUse allowed .metrics] :
    Uses allowed (readCountersDdosBriefStatsCounter config) := by
  unfold readCountersDdosBriefStatsCounter; infer_instance
instance [PermitsSet allowed .metrics] :
    Uses allowed (readCountersDdosHttpT2Counter config) := by
  unfold readCountersDdosHttpT2Counter; infer_instance
instance : Uses allowed (readCountersDdosSslL4T2Counter config) := by
  unfold readCountersDdosSslL4T2Counter; infer_instance
instance [PermitsUse allowed .metrics] :
    Uses allowed (readCountersDdosDnsCounterT2 config) := by
  unfold readCountersDdosDnsCounterT2; infer_instance
instance [PermitsSet allowed .metrics] :
    Uses allowed (readCountersDdosIcmpCounterT2 config) := by
  unfold readCountersDdosIcmpCounterT2; infer_instance
instance [PermitsUse allowed .metrics] :
    Uses allowed (readCountersDdosL4IpCounterT2 config) := by
  unfold readCountersDdosL4IpCounterT2; infer_instance
instance [PermitsUse allowed .metrics] :
    Uses allowed (readCountersDdosL4ExtIpCounterT2 config) := by
  unfold readCountersDdosL4ExtIpCounterT2; infer_instance

end Exported

section Dispatch

instance (description : String) (decoder : Decode Unit) [each : Uses allowed decoder] :
    Uses allowed (described description decoder) := by
  unfold described; infer_instance
instance [PermitsNames allowed] (member : DdosMember) (description : String) (readPort readStats : Decode Unit)
    [port : Uses allowed readPort] [stats : Uses allowed readStats] :
    Uses allowed (readPortEntry config member description readPort readStats) := by
  unfold readPortEntry; infer_instance
instance [PermitsNames allowed] (member : DdosMember) (description : String) (readStats : Decode Unit)
    [stats : Uses allowed readStats] :
    Uses allowed (readPlainEntry config member description readStats) := by
  unfold readPlainEntry; infer_instance

theorem counterDecoders_uses [PermitsNames allowed] [PermitsContents allowed]
    [PermitsIteration allowed] [PermitsMetrics allowed] [PermitsFlexible allowed] (length : UInt32) (entry : UInt32 × Decode Unit)
    (member : entry ∈ counterDecoders config length) : Uses allowed entry.2 := by
  revert entry
  simp only [counterDecoders, plainCounterDecoders, flexCounterDecoders, ddosCounterDecoders,
    List.forall_mem_append, List.forall_mem_cons, List.not_mem_nil, false_implies, implies_true,
    and_true]
  and_intros <;> infer_instance

instance [PermitsNames allowed] [PermitsContents allowed] [PermitsIteration allowed]
    [PermitsMetrics allowed] [PermitsFlexible allowed] (tag length : UInt32) :
    Uses allowed (readCounterElementBody config tag length) := by
  unfold readCounterElementBody
  split
  · next decoder found => exact counterDecoders_uses length _ (lookup_mem found)
  · infer_instance

instance (tag : UInt32) : Uses allowed (printEnterprise tag) := by
  unfold printEnterprise; infer_instance

end Dispatch

end SflowTool
