import SflowTool.Concurring
import SflowTool.SampleIsolation

/-! The course of a decode under two sets of options. The options come in where something is
logged, where a common log is kept and where a sample is exported; all else is done alike under
both, record by record. -/
namespace SflowTool
open Decoding Decoding.Decoder

/-- Nothing is hidden from the comparison but what belongs to the common log, which is kept in its
own format only. -/
class HidesLog (hidden : collector.Var → Prop) : Prop where
  ofLog : ∀ var, hidden var → Var.family var = .commonLog

/-- What may be compared is the same on both sides, except for the exports of a flow sample. -/
class Tells (shows : List collector.Event → List collector.Event → Prop) : Prop where
  tells : ∀ event : Event, event.ofFlow = false → shows [event] [event]

/-- Operations that prepare the common log. -/
def PreparesLog : Op collector → Prop
  | .set var _ => Var.family var = .commonLog
  | .note _ => True
  | _ => False

/-- Two sets of options in the same surroundings, under which logs, common logs and exports are
alike. -/
class Options (shows : List collector.Event → List collector.Event → Prop)
    (hidden : collector.Var → Prop) (one two : SFConfig) : Prop where
  time : two.time = one.time
  leveldbError : two.leveldbError = one.leveldbError
  stackOctets : two.stackOctets = one.stackOctets
  logs : ∀ line, @Peers collector _ shows hidden
    (when (one.outputFormat = .full) (emit (.log line)))
    (when (two.outputFormat = .full) (emit (.log line)))
  prepares : ∀ program : Decode Unit, Uses PreparesLog program → Peers shows hidden
    (when (one.outputFormat = .clf) program) (when (two.outputFormat = .clf) program)
  counters : Peers shows hidden (when (one.outputFormat = .line) writeCountersLine)
    (when (two.outputFormat = .line) writeCountersLine)
  flows : Peers shows hidden (emitFlowSample one) (emitFlowSample two)
  flowsV2v4 : Peers shows hidden (emitFlowSampleV2v4 one) (emitFlowSampleV2v4 two)

variable {shows : List collector.Event → List collector.Event → Prop}
  {hidden : collector.Var → Prop} [pieces : Piecewise shows] [tells : Tells shows]
  [hides : HidesLog hidden]

section Common

/-! What is no export and does not read the common log is done in common. -/

abbrev CommonOp (shows : List collector.Event → List collector.Event → Prop)
    (hidden : collector.Var → Prop) : Op collector → Prop :=
  @InCommon collector shows hidden

instance : Permits (CommonOp shows hidden) where
  take _ _ := trivial
  skip _ := trivial
  errout _ := tells.tells _ rfl
  note _ _ _ _ _ := trivial
  abort _ _ := trivial
instance : PermitsNames (CommonOp shows hidden) where
  lookup _ _ := trivial
instance : PermitsFilter (CommonOp shows hidden) where
  lookup _ := trivial
instance (family : Family) : PermitsSet (CommonOp shows hidden) family where
  set _ _ _ := trivial

omit pieces tells in
theorem permitsGet_shown (family : Family) (shown : family ≠ .commonLog) :
    PermitsGet (CommonOp shows hidden) family where
  get var same unseen := shown (same.symm.trans (hides.ofLog var unseen))

instance : PermitsGet (CommonOp shows hidden) .datagram := permitsGet_shown _ (by decide)
instance : PermitsGet (CommonOp shows hidden) .sample := permitsGet_shown _ (by decide)
instance : PermitsGet (CommonOp shows hidden) .header := permitsGet_shown _ (by decide)
instance : PermitsGet (CommonOp shows hidden) .packet := permitsGet_shown _ (by decide)
instance : PermitsGet (CommonOp shows hidden) .ethernet := permitsGet_shown _ (by decide)
instance : PermitsGet (CommonOp shows hidden) .addresses := permitsGet_shown _ (by decide)
instance : PermitsGet (CommonOp shows hidden) .vlan := permitsGet_shown _ (by decide)
instance : PermitsGet (CommonOp shows hidden) .switching := permitsGet_shown _ (by decide)
instance : PermitsGet (CommonOp shows hidden) .router := permitsGet_shown _ (by decide)
instance : PermitsGet (CommonOp shows hidden) .gateway := permitsGet_shown _ (by decide)
instance : PermitsGet (CommonOp shows hidden) .user := permitsGet_shown _ (by decide)
instance : PermitsGet (CommonOp shows hidden) .url := permitsGet_shown _ (by decide)
instance : PermitsGet (CommonOp shows hidden) .forwarding := permitsGet_shown _ (by decide)
instance : PermitsGet (CommonOp shows hidden) .interface := permitsGet_shown _ (by decide)
instance : PermitsGet (CommonOp shows hidden) .context := permitsGet_shown _ (by decide)
instance : PermitsGet (CommonOp shows hidden) .metrics := permitsGet_shown _ (by decide)
instance : PermitsGet (CommonOp shows hidden) .counters := permitsGet_shown _ (by decide)
instance (family : Family) [read : PermitsGet (CommonOp shows hidden) family] :
    PermitsUse (CommonOp shows hidden) family where
  get := read.get
  set _ _ _ := trivial

instance (config : SFConfig) : PermitsLog config (CommonOp shows hidden) where
  log _ _ := tells.tells _ rfl
instance (name : Mark) : PermitsMark (CommonOp shows hidden) name where
  mark _ := trivial
  peek _ _ := trivial
instance : PermitsSince (CommonOp shows hidden) where
  since _ := trivial
instance : PermitsPacket (CommonOp shows hidden) where
  mark := inferInstance
  datagram := inferInstance
  header := inferInstance
  packet := inferInstance
  ethernet := inferInstance
  addresses := inferInstance
  vlan := inferInstance
instance : PermitsOctets (CommonOp shows hidden) where
  take _ := trivial
instance : PermitsIteration (CommonOp shows hidden) where
  note := trivial
instance : PermitsHeader (CommonOp shows hidden) where
  note _ := trivial
  exit _ := trivial
instance : PermitsReport (CommonOp shows hidden) where
  survey := trivial
  report _ _ _ _ := tells.tells _ rfl
instance : PermitsPrint (CommonOp shows hidden) where
  print _ := tells.tells _ rfl
instance : PermitsMetrics (CommonOp shows hidden) where
  opentsdb _ := tells.tells _ rfl
instance : PermitsJump (CommonOp shows hidden) where
  jump _ := trivial
instance : PermitsFlexible (CommonOp shows hidden) where
  peekText _ _ := trivial
  write _ _ _ := tells.tells _ rfl
  writeObject _ _ _ _ := tells.tells _ rfl
  read _ _ := tells.tells _ rfl
instance (name : Mark) : Uses (CommonOp shows hidden) (@Decoder.mark collector name) :=
  uses_single _ trivial
instance (mark : Note) : Uses (CommonOp shows hidden) (@Decoder.note collector mark) :=
  uses_single _ trivial
instance : Uses (CommonOp shows hidden) (@Decoder.survey collector) := uses_single _ trivial

end Common

variable {one two : SFConfig} [options : Options shows hidden one two]

/-! Counted once for each way it is handed on, as before. -/
set_option synthInstance.maxSize 1000000000000

section Reads

instance (fmt : String) (args : List Arg) :
    Peers shows hidden (sfLog one fmt args) (sfLog two fmt args) :=
  options.logs ⟨fmt, args⟩
instance (buffer : String) :
    Peers shows hidden (sfLogString one buffer) (sfLogString two buffer) := by
  unfold sfLogString; infer_instance
instance (val : UInt32) (fieldName : String) :
    Peers shows hidden (sfLogU32 one val fieldName) (sfLogU32 two val fieldName) := by
  unfold sfLogU32; infer_instance
instance (val : UInt64) (fieldName : String) :
    Peers shows hidden (sfLogU64 one val fieldName) (sfLogU64 two val fieldName) := by
  unfold sfLogU64; infer_instance
instance (fieldName : String) (len : Nat) :
    Peers shows hidden (sfLogNext8 one fieldName len) (sfLogNext8 two fieldName len) := by
  unfold sfLogNext8; infer_instance
instance (fieldName : String) :
    Peers shows hidden (sfLogNext16 one fieldName) (sfLogNext16 two fieldName) := by
  unfold sfLogNext16; infer_instance
instance (fieldName : String) :
    Peers shows hidden (sfLogNext32 one fieldName) (sfLogNext32 two fieldName) := by
  unfold sfLogNext32; infer_instance
instance (fieldName : String) :
    Peers shows hidden (sfLogNext64 one fieldName) (sfLogNext64 two fieldName) := by
  unfold sfLogNext64; infer_instance
instance (fieldName : String) :
    Peers shows hidden (sfLogPercentage one fieldName) (sfLogPercentage two fieldName) := by
  unfold sfLogPercentage; infer_instance
instance (fieldName : String) :
    Peers shows hidden (sfLogNextFloat one fieldName) (sfLogNextFloat two fieldName) := by
  unfold sfLogNextFloat; infer_instance
instance (fieldName : String) :
    Peers shows hidden (sfLogNextMAC one fieldName) (sfLogNextMAC two fieldName) := by
  unfold sfLogNextMAC; infer_instance
instance (fmt : String) (bufLen : UInt32) :
    Peers shows hidden (logNextString one fmt bufLen) (logNextString two fmt bufLen) := by
  unfold logNextString; infer_instance
instance (tag len : UInt32) (description : String) :
    Peers shows hidden (skipTLVRecord one tag len description)
      (skipTLVRecord two tag len description) := by
  unfold skipTLVRecord; infer_instance

end Reads

section Headers

instance : Peers shows hidden (decodeVLANTag one) (decodeVLANTag two) := by
  unfold decodeVLANTag; infer_instance
instance (ptr : Nat) : Peers shows hidden (decode8022 one ptr) (decode8022 two ptr) := by
  unfold decode8022; infer_instance
instance : Peers shows hidden (decodeLinkLayer one) (decodeLinkLayer two) := by
  have behind (headerLen : UInt32) (found : Option (UInt32 × Nat)) : Uses (CommonOp shows hidden)
      (match found with
        | none => (return () : Decode Unit)
        | some (typeLen, ptr) => decodeEthernetType headerLen typeLen ptr) := by
    cases found <;> infer_instance
  unfold decodeLinkLayer
  infer_instance
instance : Peers shows hidden (decode80211MAC one) (decode80211MAC two) := by
  unfold decode80211MAC; infer_instance
instance (ptr : Nat) : Peers shows hidden (decodeIPLayer4 one ptr) (decodeIPLayer4 two ptr) := by
  unfold decodeIPLayer4; infer_instance
instance : Peers shows hidden (decodeIPV4 one) (decodeIPV4 two) := by
  unfold decodeIPV4; infer_instance
instance (headerLen fuel : Nat) (nextHeader : UInt32) (ptr : Nat) :
    Peers shows hidden (skipIPV6Extensions one headerLen fuel nextHeader ptr)
      (skipIPV6Extensions two headerLen fuel nextHeader ptr) := by
  induction fuel generalizing nextHeader ptr with
  | zero => exact alike_pure none
  | succ fuel ih =>
      unfold skipIPV6Extensions
      infer_instance
instance : Peers shows hidden (decodeIPV6 one) (decodeIPV6 two) := by
  have behind (walked : Option (UInt32 × Nat)) : Peers shows hidden
      (match walked with
        | none => (return () : Decode Unit)
        | some (nextHeader, ptr) => do
            setWord .dcdIpProtocol nextHeader
            sfLog one "IPProtocol %u\n" [.word nextHeader]
            decodeIPLayer4 one ptr)
      (match walked with
        | none => (return () : Decode Unit)
        | some (nextHeader, ptr) => do
            setWord .dcdIpProtocol nextHeader
            sfLog two "IPProtocol %u\n" [.word nextHeader]
            decodeIPLayer4 two ptr) := by
    cases walked <;> infer_instance
  unfold decodeIPV6
  infer_instance

end Headers

section FlowRecords

instance (value : UInt32) : Uses PreparesLog (setWord .clfValid value) :=
  uses_single _ (show Var.family (.word .clfValid) = .commonLog from rfl)
instance (value : Text) : Uses PreparesLog (setText .clfClient value) :=
  uses_single _ (show Var.family (.text .clfClient) = .commonLog from rfl)
instance (httpLog : HttpLog) : Uses PreparesLog (@Decoder.set collector .clfHttpLog httpLog) :=
  uses_single _ (show Var.family .clfHttpLog = .commonLog from rfl)
instance (mark : Note) : Uses PreparesLog (@Decoder.note collector mark) := uses_single _ trivial

instance (program : Decode Unit) [uses : Uses PreparesLog program] : Peers shows hidden
    (when (one.outputFormat = .clf) program) (when (two.outputFormat = .clf) program) :=
  options.prepares program uses

/-- Two tables of the same tags with the same course for each. -/
abbrev SameCourses (shows : List collector.Event → List collector.Event → Prop)
    (hidden : collector.Var → Prop) (first second : List (UInt32 × Decode Unit)) : Prop :=
  List.Forall₂ (fun entry other => entry.1 = other.1 ∧ Peers shows hidden entry.2 other.2)
    first second

theorem lookup_course {first second : List (UInt32 × Decode Unit)}
    (alike : SameCourses shows hidden first second) (tag : UInt32) (otherwise otherwise' : Decode Unit)
    [absent : Peers shows hidden otherwise otherwise'] : Peers shows hidden
      (match first.lookup tag with
        | some decoder => decoder
        | none => otherwise)
      (match second.lookup tag with
        | some decoder => decoder
        | none => otherwise') := by
  induction alike with
  | nil => exact absent
  | @cons entry other _ _ both _ ih =>
      obtain ⟨same, decoders⟩ := both
      rw [List.lookup_cons, List.lookup_cons, same]
      cases tag == other.1 with
      | true => exact decoders
      | false => exact ih

instance (title : Line) (fmt : String) (args : UInt32 → List Arg) (words : List UInt32) :
    Peers shows hidden (logWords one title fmt args words) (logWords two title fmt args words) := by
  unfold logWords
  cases words <;> infer_instance
instance (octets : List UInt8) : Peers shows hidden (logHex one octets) (logHex two octets) := by
  unfold logHex; infer_instance
instance : Peers shows hidden (readExtendedSwitch one) (readExtendedSwitch two) := by
  unfold readExtendedSwitch; infer_instance
instance : Peers shows hidden (readExtendedRouter one) (readExtendedRouter two) := by
  unfold readExtendedRouter; infer_instance
instance : Peers shows hidden (readExtendedGatewayV2 one) (readExtendedGatewayV2 two) := by
  unfold readExtendedGatewayV2; infer_instance
instance (segments seg segType segLen : UInt32) (remaining : Nat) (i : UInt32) :
    Peers shows hidden (readASNumbers one segments seg segType segLen remaining i)
      (readASNumbers two segments seg segType segLen remaining i) := by
  induction remaining generalizing i with
  | zero => exact alike_pure ()
  | succ remaining ih =>
      unfold readASNumbers
      infer_instance
instance (segments : UInt32) (remaining : Nat) (seg : UInt32) :
    Peers shows hidden (readASSegments one segments remaining seg)
      (readASSegments two segments remaining seg) := by
  induction remaining generalizing seg with
  | zero => exact alike_pure ()
  | succ remaining ih =>
      unfold readASSegments
      infer_instance
instance : Peers shows hidden (readExtendedGateway one) (readExtendedGateway two) := by
  unfold readExtendedGateway; infer_instance
instance : Peers shows hidden (readExtendedUser one) (readExtendedUser two) := by
  unfold readExtendedUser; infer_instance
instance : Peers shows hidden (readExtendedUrl one) (readExtendedUrl two) := by
  unfold readExtendedUrl; infer_instance
instance (title : Line) (fmt : String) (args : UInt32 → List Arg) :
    Peers shows hidden (readStack one title fmt args) (readStack two title fmt args) := by
  unfold readStack; infer_instance
instance (fieldName : String) :
    Peers shows hidden (mplsLabelStack one fieldName) (mplsLabelStack two fieldName) := by
  unfold mplsLabelStack; infer_instance
instance : Peers shows hidden (readExtendedMpls one) (readExtendedMpls two) := by
  unfold readExtendedMpls; infer_instance
instance : Peers shows hidden (readExtendedNat one) (readExtendedNat two) := by
  unfold readExtendedNat; infer_instance
instance : Peers shows hidden (readExtendedNatPort one) (readExtendedNatPort two) := by
  unfold readExtendedNatPort; infer_instance
instance : Peers shows hidden (readExtendedMplsTunnel one) (readExtendedMplsTunnel two) := by
  unfold readExtendedMplsTunnel; infer_instance
instance : Peers shows hidden (readExtendedMplsVC one) (readExtendedMplsVC two) := by
  unfold readExtendedMplsVC; infer_instance
instance : Peers shows hidden (readExtendedMplsFTN one) (readExtendedMplsFTN two) := by
  unfold readExtendedMplsFTN; infer_instance
instance : Peers shows hidden (readExtendedMplsLdpFec one) (readExtendedMplsLdpFec two) := by
  unfold readExtendedMplsLdpFec; infer_instance
instance : Peers shows hidden (readExtendedVlanTunnel one) (readExtendedVlanTunnel two) := by
  unfold readExtendedVlanTunnel; infer_instance
instance : Peers shows hidden (readExtendedWifiRx one) (readExtendedWifiRx two) := by
  unfold readExtendedWifiRx; infer_instance
instance : Peers shows hidden (readExtendedWifiTx one) (readExtendedWifiTx two) := by
  unfold readExtendedWifiTx; infer_instance
instance (headerProtocol : UInt32) :
    Peers shows hidden (dissectHeader one headerProtocol) (dissectHeader two headerProtocol) := by
  unfold dissectHeader; infer_instance
instance (offsetVar : WordVar) [PermitsGet (CommonOp shows hidden) offsetVar.family] :
    Peers shows hidden (logIPSize one offsetVar) (logIPSize two offsetVar) := by
  unfold logIPSize; infer_instance
instance : Peers shows hidden (readFlowSampleHeader one) (readFlowSampleHeader two) := by
  unfold readFlowSampleHeader; infer_instance
instance : Peers shows hidden (readExtendedWifiPayload one) (readExtendedWifiPayload two) := by
  unfold readExtendedWifiPayload; infer_instance
instance (title : String) :
    Peers shows hidden (readFlowSampleEthernet one title) (readFlowSampleEthernet two title) := by
  unfold readFlowSampleEthernet; infer_instance
instance (title : String) (protocol sport dport tcpFlags : UInt32) :
    Peers shows hidden (logStructPorts one title protocol sport dport tcpFlags)
      (logStructPorts two title protocol sport dport tcpFlags) := by
  unfold logStructPorts; infer_instance
instance (title : String) :
    Peers shows hidden (readFlowSampleIPv4 one title) (readFlowSampleIPv4 two title) := by
  unfold readFlowSampleIPv4; infer_instance
instance (title : String) :
    Peers shows hidden (readFlowSampleIPv6 one title) (readFlowSampleIPv6 two title) := by
  unfold readFlowSampleIPv6; infer_instance
instance : Peers shows hidden (readFlowSampleMemcache one) (readFlowSampleMemcache two) := by
  unfold readFlowSampleMemcache; infer_instance
instance (tag : UInt32) :
    Peers shows hidden (readFlowSampleHttp one tag) (readFlowSampleHttp two tag) := by
  unfold readFlowSampleHttp
  simp only [options.time]
  infer_instance
instance : Peers shows hidden (readFlowSampleApp one) (readFlowSampleApp two) := by
  unfold readFlowSampleApp; infer_instance
instance : Peers shows hidden (readFlowSampleAppCtxt one) (readFlowSampleAppCtxt two) := by
  unfold readFlowSampleAppCtxt; infer_instance
instance :
    Peers shows hidden (readFlowSampleAppActorInit one) (readFlowSampleAppActorInit two) := by
  unfold readFlowSampleAppActorInit; infer_instance
instance : Peers shows hidden (readFlowSampleAppActorTgt one) (readFlowSampleAppActorTgt two) := by
  unfold readFlowSampleAppActorTgt; infer_instance
instance (address : Address) :
    Peers shows hidden (setCLFClient one address) (setCLFClient two address) := by
  unfold setCLFClient; infer_instance
instance : Peers shows hidden (readExtendedSocket4 one) (readExtendedSocket4 two) := by
  unfold readExtendedSocket4; infer_instance
instance : Peers shows hidden (readExtendedProxySocket4 one) (readExtendedProxySocket4 two) := by
  unfold readExtendedProxySocket4; infer_instance
instance : Peers shows hidden (readExtendedSocket6 one) (readExtendedSocket6 two) := by
  unfold readExtendedSocket6; infer_instance
instance : Peers shows hidden (readExtendedProxySocket6 one) (readExtendedProxySocket6 two) := by
  unfold readExtendedProxySocket6; infer_instance
instance (title : String) :
    Peers shows hidden (readExtendedDecap one title) (readExtendedDecap two title) := by
  unfold readExtendedDecap; infer_instance
instance (title : String) :
    Peers shows hidden (readExtendedVNI one title) (readExtendedVNI two title) := by
  unfold readExtendedVNI; infer_instance
theorem flowDecoders_course : SameCourses shows hidden (flowDecoders one) (flowDecoders two) := by
  simp only [SameCourses, flowDecoders, List.forall₂_cons, List.Forall₂.nil, true_and, and_true]
  and_intros <;> infer_instance

instance (tag length : UInt32) :
    Peers shows hidden (readFlowElementBody one tag length)
      (readFlowElementBody two tag length) := by
  unfold readFlowElementBody
  exact lookup_course flowDecoders_course tag _ _
instance (fmt : String) (args : List Arg) :
    Peers shows hidden (logSourceId one fmt args) (logSourceId two fmt args) := by
  unfold logSourceId; infer_instance
instance (title : String) (format port : UInt32) :
    Peers shows hidden (logPort one title format port) (logPort two title format port) := by
  unfold logPort; infer_instance
instance (expanded : Bool) :
    Peers shows hidden (readFlowSampleFields one expanded) (readFlowSampleFields two expanded) := by
  unfold readFlowSampleFields; infer_instance
instance : Peers shows hidden (readFlowSampleFieldsV2v4 one) (readFlowSampleFieldsV2v4 two) := by
  unfold readFlowSampleFieldsV2v4; infer_instance
instance (extendedTag : UInt32) :
    Peers shows hidden (readExtendedV2v4 one extendedTag) (readExtendedV2v4 two extendedTag) := by
  unfold readExtendedV2v4; infer_instance
instance (remaining : Nat) :
    Peers shows hidden (readAllExtendedV2v4 one remaining) (readAllExtendedV2v4 two remaining) := by
  induction remaining with
  | zero => exact alike_pure ()
  | succ remaining ih =>
      unfold readAllExtendedV2v4
      infer_instance
instance (packetDataTag : UInt32) :
    Peers shows hidden (readPacketDataV2v4 one packetDataTag)
      (readPacketDataV2v4 two packetDataTag) := by
  unfold readPacketDataV2v4; infer_instance

end FlowRecords

section CounterRecords

instance (field : Field) : Peers shows hidden (logField one field) (logField two field) := by
  cases field <;> (unfold logField; infer_instance)
instance (fields : List Field) :
    Peers shows hidden (logFields one fields) (logFields two fields) := by
  induction fields with
  | nil => exact alike_pure ()
  | cons field rest ih =>
      unfold logFields
      infer_instance
instance (var : WordVar) (fieldName : String) :
    Peers shows hidden (storeNext32 one var fieldName) (storeNext32 two var fieldName) := by
  unfold storeNext32; infer_instance
instance (var : DwordVar) (fieldName : String) :
    Peers shows hidden (storeNext64 one var fieldName) (storeNext64 two var fieldName) := by
  unfold storeNext64; infer_instance
instance : Peers shows hidden (readCountersGeneric one) (readCountersGeneric two) := by
  unfold readCountersGeneric; infer_instance
instance : Peers shows hidden (readCountersEthernet one) (readCountersEthernet two) := by
  unfold readCountersEthernet; infer_instance
instance : Peers shows hidden (readCountersTokenring one) (readCountersTokenring two) := by
  unfold readCountersTokenring; infer_instance
instance : Peers shows hidden (readCountersVg one) (readCountersVg two) := by
  unfold readCountersVg; infer_instance
instance : Peers shows hidden (readCountersVlan one) (readCountersVlan two) := by
  unfold readCountersVlan; infer_instance
instance : Peers shows hidden (readCounters80211 one) (readCounters80211 two) := by
  unfold readCounters80211; infer_instance
instance : Peers shows hidden (readCountersRadio one) (readCountersRadio two) := by
  unfold readCountersRadio; infer_instance
instance : Peers shows hidden (readCountersHostHid one) (readCountersHostHid two) := by
  unfold readCountersHostHid; infer_instance
instance (i : UInt32) (remaining : Nat) (j : UInt32) :
    Peers shows hidden (readAdaptorMACs one i remaining j) (readAdaptorMACs two i remaining j) := by
  induction remaining generalizing j with
  | zero => exact alike_pure ()
  | succ remaining ih =>
      unfold readAdaptorMACs
      infer_instance
instance (remaining : Nat) (i : UInt32) :
    Peers shows hidden (readAdaptors one remaining i) (readAdaptors two remaining i) := by
  induction remaining generalizing i with
  | zero => exact alike_pure ()
  | succ remaining ih =>
      unfold readAdaptors
      infer_instance
instance : Peers shows hidden (readCountersAdaptors one) (readCountersAdaptors two) := by
  unfold readCountersAdaptors; infer_instance
instance : Peers shows hidden (readCountersHostParent one) (readCountersHostParent two) := by
  unfold readCountersHostParent; infer_instance
instance : Peers shows hidden (readCountersHostCpu one) (readCountersHostCpu two) := by
  unfold readCountersHostCpu; infer_instance
instance : Peers shows hidden (readCountersHostMem one) (readCountersHostMem two) := by
  unfold readCountersHostMem; infer_instance
instance : Peers shows hidden (readCountersHostDsk one) (readCountersHostDsk two) := by
  unfold readCountersHostDsk; infer_instance
instance : Peers shows hidden (readCountersHostNio one) (readCountersHostNio two) := by
  unfold readCountersHostNio; infer_instance
instance : Peers shows hidden (readCountersHostVnode one) (readCountersHostVnode two) := by
  unfold readCountersHostVnode; infer_instance
instance : Peers shows hidden (readCountersHostVcpu one) (readCountersHostVcpu two) := by
  unfold readCountersHostVcpu; infer_instance
instance : Peers shows hidden (readCountersHostVmem one) (readCountersHostVmem two) := by
  unfold readCountersHostVmem; infer_instance
instance : Peers shows hidden (readCountersHostVdsk one) (readCountersHostVdsk two) := by
  unfold readCountersHostVdsk; infer_instance
instance : Peers shows hidden (readCountersHostVnio one) (readCountersHostVnio two) := by
  unfold readCountersHostVnio; infer_instance
instance : Peers shows hidden (readCountersHostGpuNvml one) (readCountersHostGpuNvml two) := by
  unfold readCountersHostGpuNvml; infer_instance
instance : Peers shows hidden (readCountersMemcache one) (readCountersMemcache two) := by
  unfold readCountersMemcache; infer_instance
instance : Peers shows hidden (readCountersMemcache2 one) (readCountersMemcache2 two) := by
  unfold readCountersMemcache2; infer_instance
instance : Peers shows hidden (readCountersHttp one) (readCountersHttp two) := by
  unfold readCountersHttp; infer_instance
instance : Peers shows hidden (readCountersJVM one) (readCountersJVM two) := by
  unfold readCountersJVM; infer_instance
instance (length : UInt32) :
    Peers shows hidden (readCountersJMX one length) (readCountersJMX two length) := by
  unfold readCountersJMX; infer_instance
instance : Peers shows hidden (readCountersAPP one) (readCountersAPP two) := by
  unfold readCountersAPP; infer_instance
instance : Peers shows hidden (readCountersAPPRESOURCE one) (readCountersAPPRESOURCE two) := by
  unfold readCountersAPPRESOURCE; infer_instance
instance : Peers shows hidden (readCountersAPPWORKERS one) (readCountersAPPWORKERS two) := by
  unfold readCountersAPPWORKERS; infer_instance
instance : Peers shows hidden (readCountersVDI one) (readCountersVDI two) := by
  unfold readCountersVDI; infer_instance
instance : Peers shows hidden (readCountersLACP one) (readCountersLACP two) := by
  unfold readCountersLACP; infer_instance
instance (counterBlockVersion : UInt32) :
    Peers shows hidden (readCounterBlockV2v4 one counterBlockVersion)
      (readCounterBlockV2v4 two counterBlockVersion) := by
  unfold readCounterBlockV2v4; infer_instance

end CounterRecords

end SflowTool
