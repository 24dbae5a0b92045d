import SflowTool.Datagram
import SflowTool.Discipline

/-! What the record decoders are made of, as far as it is operations: every flow decoder
and every counter decoder of a fixed layout. Four classes of operations come up again and
again, from the loosest to the tightest: a decent one leaves the element marks and the
framing notes alone and cannot exit, a quiet one also prints nothing but log lines, a plain
one also moves by whole quads; the flow operations are the plain ones and those of a
sampled header, the one flow record that can exit. -/
namespace SflowTool
open Decoding Decoding.Decoder

/-- The marks that belong to the loops over samples and elements. -/
def Mark.framing : Mark → Bool
  | .sampleStart | .start => true
  | _ => false

/-- The notes that say where samples, elements and headers are. -/
def Note.framing : Note → Bool
  | .lookup _ _ | .vlanLookup _ | .statStore _ | .appStatStore _ | .iteration => false
  | _ => true

/-- The notes of lookups: of a name, and of a VLAN in the filter. -/
def Note.ofName : Note → Bool
  | .lookup _ _ => true
  | _ => false

def Note.ofFilter : Note → Bool
  | .vlanLookup _ => true
  | _ => false

def Note.ofHeader : Note → Bool
  | .headerProtocol _ => true
  | _ => false

def Stop.isExit : Stop → Bool
  | .exit _ => true
  | _ => false

/-- Events that reach standard output in the full format only, or not at all. -/
def Event.silent : Event → Bool
  | .log _ | .errout _ | .receiveError _ _ _ _ => true
  | _ => false

variable (config : SFConfig)

/-- A log line is written in the full format only. -/
def Event.Gated : Event → Prop
  | .log _ => config.outputFormat = .full
  | _ => True

def DecentOp : Op collector → Prop
  | .mark name => name.framing = false
  | .emit event => event.Gated config
  | .note mark => mark.framing = false
  | .stop reason => reason.isExit = false
  | _ => True

def SilentOp : Op collector → Prop
  | .emit event => event.silent = true
  | _ => True

def QuadOp : Op collector → Prop
  | .take count => 4 ∣ count
  | .jump _ => False
  | _ => True

def QuietOp (op : Op collector) : Prop := DecentOp config op ∧ SilentOp op

def PlainOp (op : Op collector) : Prop := QuietOp config op ∧ QuadOp op

/-- What a sampled header record does besides: it notes the header and may exit. -/
def FlowOp (op : Op collector) : Prop :=
  PlainOp config op ∨ (∃ protocol, op = .note (.headerProtocol protocol)) ∨
    ∃ code, op = .stop (.exit code)

/-! The facts about the decoders name no class of operations: they hold of every class
that permits what the decoder is made of. -/

/-- What a variable is about; a record decoder keeps to a few families. -/
inductive Family where
  | datagram | sample | header | packet | ethernet | addresses | vlan | switching | router
  | gateway | user | url | forwarding | commonLog | interface | context | metrics | counters
deriving DecidableEq

abbrev WordVar.family : WordVar → Family
  | .pcapTimestamp | .datagramVersion | .agentSubId | .sampleType | .sysUpTime
  | .sequenceNo => .datagram
  | .dsClass | .dsIndex | .samplesGenerated | .meanSkipCount | .samplePool | .dropEvents
  | .packetDataTag | .inputPortFormat | .outputPortFormat | .inputPort | .outputPort
  | .numExtended | .statsSamplingInterval | .counterBlockVersion => .sample
  | .headerLen | .gotHeader | .offsetToPayload => .header
  | .headerProtocol | .sampledPacketSize | .stripped | .gotIPV4 | .gotIPV4Struct | .offsetToIPV4
  | .gotIPV6 | .gotIPV6Struct | .offsetToIPV6 | .dcdIpProtocol | .dcdIpTos | .dcdIpTTL
  | .dcdSport | .dcdDport | .dcdTcpFlags | .ipFragmentOffset | .udpPduLen => .packet
  | .ethType | .ethLen => .ethernet
  | .inVlan => .vlan
  | .inPriority | .outVlan | .outPriority => .switching
  | .srcMask | .dstMask => .router
  | .myAs | .srcAs | .srcPeerAs | .dstAsPathLen | .dstPeerAs | .dstAs | .communitiesLen
  | .localpref => .gateway
  | .srcUserCharset | .srcUserLen | .dstUserCharset | .dstUserLen => .user
  | .urlDirection | .urlLen | .hostLen => .url
  | .clfValid => .commonLog
  | .currentContextLength => .context
  | .ifIndex | .ifType | .ifDirection | .ifStatus | .ifInUcastPkts | .ifInMulticastPkts
  | .ifInBroadcastPkts | .ifInDiscards | .ifInErrors | .ifInUnknownProtos | .ifOutUcastPkts
  | .ifOutMulticastPkts | .ifOutBroadcastPkts | .ifOutDiscards | .ifOutErrors
  | .ifPromiscuousMode => .interface

abbrev DwordVar.family : DwordVar → Family
  | .ifSpeed | .ifInOctets | .ifOutOctets => .interface
  | _ => .metrics

abbrev AddressVar.family : AddressVar → Family
  | .sourceIP | .agentAddr => .datagram
  | .ipsrc | .ipdst => .addresses
  | .nextHop => .router
  | .bgpNextHop => .gateway
  | .mplsNextHop | .natSrc | .natDst => .forwarding

abbrev TextVar.family : TextVar → Family
  | .ethSrc | .ethDst => .ethernet
  | .srcUser | .dstUser => .user
  | .url | .host => .url
  | .clfClient => .commonLog
  | .sflDdosDesc => .context

abbrev Var.family : Var → Family
  | .word var => var.family
  | .dword var => var.family
  | .address var => var.family
  | .text var => var.family
  | .clfHttpLog => .commonLog
  | .common _ | .counters _ => .counters

/-- The operations that all record decoders are made of. -/
class Permits (allowed : Op collector → Prop) : Prop where
  take : ∀ count, 4 ∣ count → allowed (.take count)
  skip : ∀ count, allowed (.skip count)
  errout : ∀ line, allowed (.emit (.errout line))
  note : ∀ mark, mark.framing = false → mark ≠ .iteration → mark.ofName = false →
    mark.ofFilter = false → allowed (.note mark)
  abort : ∀ reason, reason.isExit = false → allowed (.stop reason)

/-- Lookups in the tables of names. -/
class PermitsNames (allowed : Op collector → Prop) : Prop where
  lookup : ∀ table index, allowed (.note (.lookup table index))

/-- Lookups in the VLAN filter. -/
class PermitsFilter (allowed : Op collector → Prop) : Prop where
  lookup : ∀ vlan, allowed (.note (.vlanLookup vlan))

class PermitsGet (allowed : Op collector → Prop) (family : Family) : Prop where
  get : ∀ var : Var, var.family = family → allowed (.get var)

class PermitsSet (allowed : Op collector → Prop) (family : Family) : Prop where
  set : ∀ var : Var, var.family = family → ∀ value, allowed (.set var value)

class PermitsUse (allowed : Op collector → Prop) (family : Family) : Prop extends
  PermitsGet allowed family, PermitsSet allowed family

/-- A pointer into the datagram and what is read behind it. -/
class PermitsMark (allowed : Op collector → Prop) (name : Mark) : Prop where
  mark : name.framing = false → allowed (.mark name)
  peek : ∀ offset count, allowed (.peek name offset count)

/-- The distance that a length check looks at. -/
class PermitsSince (allowed : Op collector → Prop) : Prop where
  since : ∀ name, allowed (.since name)

/-- What the dissection of a sampled header uses. -/
class PermitsPacket (allowed : Op collector → Prop) : Prop where
  mark : PermitsMark allowed .header
  datagram : PermitsGet allowed .datagram
  header : PermitsUse allowed .header
  packet : PermitsUse allowed .packet
  ethernet : PermitsSet allowed .ethernet
  addresses : PermitsSet allowed .addresses
  vlan : PermitsSet allowed .vlan

attribute [instance] PermitsPacket.mark PermitsPacket.datagram PermitsPacket.header
  PermitsPacket.packet PermitsPacket.ethernet PermitsPacket.addresses PermitsPacket.vlan

/-- All variables and all pointers. -/
class PermitsState (allowed : Op collector → Prop) : Prop where
  get : ∀ var, allowed (.get var)
  set : ∀ var value, allowed (.set var value)
  mark : ∀ name, name.framing = false → allowed (.mark name)
  peek : ∀ name offset count, allowed (.peek name offset count)
  since : ∀ name, allowed (.since name)

/-- All variables and all pointers, but what a record only reads: the header of the datagram
and the fields of the sample. -/
class PermitsContents (allowed : Op collector → Prop) : Prop where
  get : ∀ var, allowed (.get var)
  set : ∀ var : Var, var.family ≠ .datagram → var.family ≠ .sample → ∀ value,
    allowed (.set var value)
  mark : ∀ name, name.framing = false → allowed (.mark name)
  peek : ∀ name offset count, allowed (.peek name offset count)
  since : ∀ name, allowed (.since name)

class PermitsLog (config : SFConfig) (allowed : Op collector → Prop) : Prop where
  log : config.outputFormat = .full → ∀ line, allowed (.emit (.log line))

/-- Reads that are not of whole words. -/
class PermitsOctets (allowed : Op collector → Prop) : Prop where
  take : ∀ count, allowed (.take count)

/-- Loops that the wire counts. -/
class PermitsIteration (allowed : Op collector → Prop) : Prop where
  note : allowed (.note .iteration)

/-- What only a sampled header does: it notes the header and may exit. -/
class PermitsHeader (allowed : Op collector → Prop) : Prop where
  note : ∀ protocol, allowed (.note (.headerProtocol protocol))
  exit : ∀ code, allowed (.stop (.exit code))

/-- The dump of a datagram before a decode error. -/
class PermitsReport (allowed : Op collector → Prop) : Prop where
  survey : allowed .survey
  report : ∀ message source received markOffset,
    allowed (.emit (.receiveError message source received markOffset))

variable {config}

instance (allowed : Op collector → Prop) [state : PermitsState allowed] (family : Family) :
    PermitsUse allowed family where
  get var _ := state.get var
  set var _ value := state.set var value

section Contents
variable (allowed : Op collector → Prop)

instance [state : PermitsState allowed] : PermitsContents allowed where
  get := state.get
  set var _ _ value := state.set var value
  mark := state.mark
  peek := state.peek
  since := state.since

variable [contents : PermitsContents allowed]

instance (family : Family) : PermitsGet allowed family where
  get var _ := contents.get var

theorem PermitsUse.of_contents (family : Family) (notDatagram : family ≠ .datagram)
    (notSample : family ≠ .sample) : PermitsUse allowed family where
  get var _ := contents.get var
  set var same := contents.set var (same ▸ notDatagram) (same ▸ notSample)

instance : PermitsUse allowed .header := .of_contents allowed _ (by decide) (by decide)
instance : PermitsUse allowed .packet := .of_contents allowed _ (by decide) (by decide)
instance : PermitsUse allowed .ethernet := .of_contents allowed _ (by decide) (by decide)
instance : PermitsUse allowed .addresses := .of_contents allowed _ (by decide) (by decide)
instance : PermitsUse allowed .vlan := .of_contents allowed _ (by decide) (by decide)
instance : PermitsUse allowed .switching := .of_contents allowed _ (by decide) (by decide)
instance : PermitsUse allowed .router := .of_contents allowed _ (by decide) (by decide)
instance : PermitsUse allowed .gateway := .of_contents allowed _ (by decide) (by decide)
instance : PermitsUse allowed .user := .of_contents allowed _ (by decide) (by decide)
instance : PermitsUse allowed .url := .of_contents allowed _ (by decide) (by decide)
instance : PermitsUse allowed .forwarding := .of_contents allowed _ (by decide) (by decide)
instance : PermitsUse allowed .commonLog := .of_contents allowed _ (by decide) (by decide)
instance : PermitsUse allowed .interface := .of_contents allowed _ (by decide) (by decide)
instance : PermitsUse allowed .context := .of_contents allowed _ (by decide) (by decide)
instance : PermitsUse allowed .metrics := .of_contents allowed _ (by decide) (by decide)
instance : PermitsUse allowed .counters := .of_contents allowed _ (by decide) (by decide)

instance (name : Mark) : PermitsMark allowed name where
  mark := contents.mark name
  peek := contents.peek name
instance : PermitsSince allowed where
  since := contents.since
instance : PermitsPacket allowed where
  mark := inferInstance
  datagram := inferInstance
  header := inferInstance
  packet := inferInstance
  ethernet := inferInstance
  addresses := inferInstance
  vlan := inferInstance

end Contents

instance : Permits (PlainOp config) where
  take _ quads := ⟨⟨trivial, trivial⟩, quads⟩
  skip _ := ⟨⟨trivial, trivial⟩, trivial⟩
  errout _ := ⟨⟨trivial, rfl⟩, trivial⟩
  note _ unframed _ _ _ := ⟨⟨unframed, trivial⟩, trivial⟩
  abort _ caught := ⟨⟨caught, trivial⟩, trivial⟩
instance : PermitsState (PlainOp config) where
  get _ := ⟨⟨trivial, trivial⟩, trivial⟩
  set _ _ := ⟨⟨trivial, trivial⟩, trivial⟩
  mark _ unframed := ⟨⟨unframed, trivial⟩, trivial⟩
  peek _ _ _ := ⟨⟨trivial, trivial⟩, trivial⟩
  since _ := ⟨⟨trivial, trivial⟩, trivial⟩

/-- A looser class permits what a tighter one does. -/
theorem Permits.mono (tight : Op collector → Prop) {loose : Op collector → Prop}
    [permits : Permits tight]
    (implies : ∀ op, tight op → loose op) : Permits loose where
  take count quads := implies _ (permits.take count quads)
  skip count := implies _ (permits.skip count)
  errout line := implies _ (permits.errout line)
  note mark unframed other unnamed unfiltered :=
    implies _ (permits.note mark unframed other unnamed unfiltered)
  abort reason caught := implies _ (permits.abort reason caught)

theorem PermitsState.mono (tight : Op collector → Prop) {loose : Op collector → Prop}
    [state : PermitsState tight]
    (implies : ∀ op, tight op → loose op) : PermitsState loose where
  get var := implies _ (state.get var)
  set var value := implies _ (state.set var value)
  mark name unframed := implies _ (state.mark name unframed)
  peek name offset count := implies _ (state.peek name offset count)
  since name := implies _ (state.since name)

instance : PermitsLog config (PlainOp config) where
  log full _ := ⟨⟨full, rfl⟩, trivial⟩
instance : PermitsIteration (PlainOp config) where
  note := ⟨⟨rfl, trivial⟩, trivial⟩
instance : PermitsNames (PlainOp config) where
  lookup _ _ := ⟨⟨rfl, trivial⟩, trivial⟩
instance : PermitsFilter (PlainOp config) where
  lookup _ := ⟨⟨rfl, trivial⟩, trivial⟩
instance : PermitsReport (PlainOp config) where
  survey := ⟨⟨trivial, trivial⟩, trivial⟩
  report _ _ _ _ := ⟨⟨trivial, rfl⟩, trivial⟩

instance : Permits (QuietOp config) :=
  Permits.mono (PlainOp config) fun _ allow => allow.1
instance : PermitsState (QuietOp config) :=
  PermitsState.mono (PlainOp config) fun _ allow => allow.1
instance : PermitsLog config (QuietOp config) where
  log full _ := ⟨full, rfl⟩
instance : PermitsOctets (QuietOp config) where
  take _ := ⟨trivial, trivial⟩
instance : PermitsIteration (QuietOp config) where
  note := ⟨rfl, trivial⟩
instance : PermitsNames (QuietOp config) where
  lookup _ _ := ⟨rfl, trivial⟩
instance : PermitsFilter (QuietOp config) where
  lookup _ := ⟨rfl, trivial⟩
instance : PermitsReport (QuietOp config) where
  survey := ⟨trivial, trivial⟩
  report _ _ _ _ := ⟨trivial, rfl⟩

instance : Permits (DecentOp config) :=
  Permits.mono (QuietOp config) fun _ allow => allow.1
instance : PermitsState (DecentOp config) :=
  PermitsState.mono (QuietOp config) fun _ allow => allow.1
instance : PermitsLog config (DecentOp config) where
  log full _ := full
instance : PermitsOctets (DecentOp config) where
  take _ := trivial
instance : PermitsIteration (DecentOp config) where
  note := rfl
instance : PermitsNames (DecentOp config) where
  lookup _ _ := rfl
instance : PermitsFilter (DecentOp config) where
  lookup _ := rfl
instance : PermitsReport (DecentOp config) where
  survey := trivial
  report _ _ _ _ := trivial

instance : Permits (FlowOp config) :=
  Permits.mono (PlainOp config) fun _ allow => .inl allow
instance : PermitsState (FlowOp config) :=
  PermitsState.mono (PlainOp config) fun _ allow => .inl allow
instance : PermitsLog config (FlowOp config) where
  log full _ := .inl ⟨⟨full, rfl⟩, trivial⟩
instance : PermitsIteration (FlowOp config) where
  note := .inl ⟨⟨rfl, trivial⟩, trivial⟩
instance : PermitsNames (FlowOp config) where
  lookup _ _ := .inl ⟨⟨rfl, trivial⟩, trivial⟩
instance : PermitsFilter (FlowOp config) where
  lookup _ := .inl ⟨⟨rfl, trivial⟩, trivial⟩
instance : PermitsReport (FlowOp config) where
  survey := .inl ⟨⟨trivial, trivial⟩, trivial⟩
  report _ _ _ _ := .inl ⟨⟨trivial, rfl⟩, trivial⟩
instance : PermitsHeader (FlowOp config) where
  note protocol := .inr (.inl ⟨protocol, rfl⟩)
  exit code := .inr (.inr ⟨code, rfl⟩)

variable {allowed : Op collector → Prop} [permits : Permits allowed]
  [logs : PermitsLog config allowed]

/-! An answer of the instance search is counted once for each way it is handed on, so
that its size doubles with every statement of a decoder; the limit is on that count. -/
set_option synthInstance.maxSize 1000000000000

section Reads

instance : Uses allowed getData32Nobswap := uses_single _ (permits.take 4 (Nat.dvd_refl 4))
instance (count : UInt32) : Uses allowed (skipBytes count) := uses_single _ (permits.skip count)
instance [octets : PermitsOctets allowed] (count : Nat) :
    Uses allowed (@Decoder.take collector count) :=
  uses_single _ (octets.take count)
instance (name : Mark) (offset count : Nat) [marks : PermitsMark allowed name] :
    Uses allowed (@Decoder.peek collector name offset count) :=
  uses_single _ (marks.peek offset count)
instance (name : Mark) [since : PermitsSince allowed] :
    Uses allowed (@Decoder.since collector name) :=
  uses_single _ (since.since name)
instance [marks : PermitsMark allowed .ptr] : Uses allowed (@Decoder.mark collector .ptr) :=
  uses_single _ (marks.mark rfl)
instance [marks : PermitsMark allowed .header] : Uses allowed (@Decoder.mark collector .header) :=
  uses_single _ (marks.mark rfl)
instance [marks : PermitsMark allowed .asPath] : Uses allowed (@Decoder.mark collector .asPath) :=
  uses_single _ (marks.mark rfl)
instance [marks : PermitsMark allowed .communities] :
    Uses allowed (@Decoder.mark collector .communities) :=
  uses_single _ (marks.mark rfl)
instance [iteration : PermitsIteration allowed] :
    Uses allowed (@Decoder.note collector .iteration) :=
  uses_single _ iteration.note
instance [names : PermitsNames allowed] (table : NameTable) (index : UInt32) :
    Uses allowed (@Decoder.note collector (.lookup table index)) :=
  uses_single _ (names.lookup table index)
instance [filter : PermitsFilter allowed] (vlan : UInt32) :
    Uses allowed (@Decoder.note collector (.vlanLookup vlan)) :=
  uses_single _ (filter.lookup vlan)
instance (fmt : String) (args : List Arg) :
    Uses allowed (sfLog config fmt args) :=
  uses_when_of _ _ fun full => uses_single _ (logs.log full _)
instance (fmt : String) (args : List Arg) : Uses allowed (fprintfErr fmt args) :=
  uses_single _ (permits.errout _)

instance (var : WordVar) [vars : PermitsGet allowed var.family] : Uses allowed (getWord var) :=
  uses_single _ (vars.get _ rfl)
instance (var : WordVar) (value : UInt32) [vars : PermitsSet allowed var.family] :
    Uses allowed (setWord var value) :=
  uses_single _ (vars.set _ rfl _)
instance (var : DwordVar) [vars : PermitsGet allowed var.family] : Uses allowed (getDword var) :=
  uses_single _ (vars.get _ rfl)
instance (var : DwordVar) (value : UInt64) [vars : PermitsSet allowed var.family] :
    Uses allowed (setDword var value) :=
  uses_single _ (vars.set _ rfl _)
instance (var : AddressVar) [vars : PermitsGet allowed var.family] :
    Uses allowed (getAddressVar var) :=
  uses_single _ (vars.get _ rfl)
instance (var : AddressVar) (value : Address) [vars : PermitsSet allowed var.family] :
    Uses allowed (setAddressVar var value) :=
  uses_single _ (vars.set _ rfl _)
instance (var : TextVar) [vars : PermitsGet allowed var.family] : Uses allowed (getText var) :=
  uses_single _ (vars.get _ rfl)
instance (var : TextVar) (value : Text) [vars : PermitsSet allowed var.family] :
    Uses allowed (setText var value) :=
  uses_single _ (vars.set _ rfl _)
instance (var : DdosMember) [vars : PermitsGet allowed .counters] : Uses allowed (getCommon var) :=
  uses_single _ (vars.get _ rfl)
instance (var : DdosMember) (value : DdosCommon) [vars : PermitsSet allowed .counters] :
    Uses allowed (setCommon var value) :=
  uses_single _ (vars.set _ rfl _)
instance (var : DdosMember) [vars : PermitsGet allowed .counters] :
    Uses allowed (getCounters var) :=
  uses_single _ (vars.get _ rfl)
instance (var : DdosMember) (value : String → UInt64) [vars : PermitsSet allowed .counters] :
    Uses allowed (setCounters var value) :=
  uses_single _ (vars.set _ rfl _)
instance [vars : PermitsGet allowed .commonLog] :
    Uses allowed (@Decoder.get collector .clfHttpLog) :=
  uses_single _ (vars.get _ rfl)
instance (httpLog : HttpLog) [vars : PermitsSet allowed .commonLog] :
    Uses allowed (@Decoder.set collector .clfHttpLog httpLog) :=
  uses_single _ (vars.set _ rfl _)

theorem sfAbort_uses {α : Type} (reason : Stop) (abort : reason.isExit = false) :
    Uses allowed (sfAbort reason : Decode α) :=
  .act _ _ (permits.abort reason abort) nofun

instance {α : Type} : Uses allowed (sfAbort .eos : Decode α) := sfAbort_uses _ rfl
instance {α : Type} : Uses allowed (sfAbort .lengthError : Decode α) := sfAbort_uses _ rfl
instance {α : Type} : Uses allowed (sfAbort .decodeError : Decode α) := sfAbort_uses _ rfl

instance : Uses allowed getData32 := by unfold getData32; infer_instance
instance : Uses allowed getData64 := by unfold getData64; infer_instance
instance : Uses allowed getFloat := by unfold getFloat; infer_instance
instance [PermitsOctets allowed] : Uses allowed getData16 := by unfold getData16; infer_instance
instance [PermitsOctets allowed] : Uses allowed getDataU8 := by unfold getDataU8; infer_instance
instance [PermitsOctets allowed] (len : Nat) :
    Uses allowed (getData8 len) := by unfold getData8; infer_instance
instance (buffer : String) : Uses allowed (sfLogString config buffer) := by
  unfold sfLogString; infer_instance
instance (val : UInt32) (fieldName : String) : Uses allowed (sfLogU32 config val fieldName) := by
  unfold sfLogU32; infer_instance
instance (val : UInt64) (fieldName : String) : Uses allowed (sfLogU64 config val fieldName) := by
  unfold sfLogU64; infer_instance
instance [PermitsOctets allowed] (fieldName : String) (len : Nat) :
    Uses allowed (sfLogNext8 config fieldName len) := by
  unfold sfLogNext8; infer_instance
instance [PermitsOctets allowed] (fieldName : String) :
    Uses allowed (sfLogNext16 config fieldName) := by
  unfold sfLogNext16; infer_instance
instance (fieldName : String) : Uses allowed (sfLogNext32 config fieldName) := by
  unfold sfLogNext32; infer_instance
instance (fieldName : String) : Uses allowed (sfLogNext64 config fieldName) := by
  unfold sfLogNext64; infer_instance
instance (fieldName : String) : Uses allowed (sfLogPercentage config fieldName) := by
  unfold sfLogPercentage; infer_instance
instance (fieldName : String) : Uses allowed (sfLogNextFloat config fieldName) := by
  unfold sfLogNextFloat; infer_instance
instance (fieldName : String) [PermitsMark allowed .ptr] :
    Uses allowed (sfLogNextMAC config fieldName) := by
  unfold sfLogNextMAC; infer_instance
instance (bufLen : UInt32) : Uses allowed (getString bufLen) := by
  unfold getString; infer_instance
instance (fmt : String) (bufLen : UInt32) : Uses allowed (logNextString config fmt bufLen) := by
  unfold logNextString; infer_instance
instance (var : AddressVar) [PermitsSet allowed var.family] : Uses allowed (getAddress var) := by
  unfold getAddress; infer_instance
instance (tag len : UInt32) (description : String) :
    Uses allowed (skipTLVRecord config tag len description) := by
  unfold skipTLVRecord; infer_instance

end Reads

section Headers
variable [PermitsPacket allowed]

instance (offset : Nat) : Uses allowed (headerByte offset) := by
  unfold headerByte; infer_instance
instance (offset : Nat) : Uses allowed (headerHalf offset) := by
  unfold headerHalf; infer_instance
instance : Uses allowed (decodeVLANTag config) := by
  unfold decodeVLANTag; infer_instance
instance (typeLen : UInt32) (ptr : Nat) : Uses allowed (peekForIPX typeLen ptr) := by
  unfold peekForIPX; infer_instance
instance (ptr : Nat) : Uses allowed (decode8022 config ptr) := by
  unfold decode8022; infer_instance
instance (headerLen typeLen : UInt32) (ptr : Nat) :
    Uses allowed (decodeEthernetType headerLen typeLen ptr) := by
  unfold decodeEthernetType; infer_instance

instance : Uses allowed (decodeLinkLayer config) := by
  have behind (headerLen : UInt32) (found : Option (UInt32 × Nat)) : Uses allowed
      (match found with
        | none => (return () : Decode Unit)
        | some (typeLen, ptr) => decodeEthernetType headerLen typeLen ptr) := by
    cases found <;> infer_instance
  unfold decodeLinkLayer
  infer_instance
instance : Uses allowed (decode80211MAC config) := by
  unfold decode80211MAC; infer_instance
instance (ptr : Nat) : Uses allowed (decodeIPLayer4 config ptr) := by
  unfold decodeIPLayer4; infer_instance
instance : Uses allowed (decodeIPV4 config) := by
  unfold decodeIPV4; infer_instance

instance skipIPV6Extensions_plain (headerLen fuel : Nat) (nextHeader : UInt32) (ptr : Nat) :
    Uses allowed (skipIPV6Extensions config headerLen fuel nextHeader ptr) := by
  induction fuel generalizing nextHeader ptr with
  | zero => exact .pure none
  | succ fuel ih =>
      unfold skipIPV6Extensions
      infer_instance

instance : Uses allowed (decodeIPV6 config) := by
  have behind (walked : Option (UInt32 × Nat)) : Uses allowed
      (match walked with
        | none => (return () : Decode Unit)
        | some (nextHeader, ptr) => do
            setWord .dcdIpProtocol nextHeader
            sfLog config "IPProtocol %u\n" [.word nextHeader]
            decodeIPLayer4 config ptr) := by
    cases walked <;> infer_instance
  unfold decodeIPV6
  infer_instance

end Headers

section FlowRecords

instance (title : Line) (fmt : String) (args : UInt32 → List Arg) (words : List UInt32) :
    Uses allowed (logWords config title fmt args words) := by
  unfold logWords
  cases words <;> infer_instance

instance (octets : List UInt8) : Uses allowed (logHex config octets) := by
  unfold logHex; infer_instance
instance [PermitsSet allowed .vlan] [PermitsSet allowed .switching] :
    Uses allowed (readExtendedSwitch config) := by
  unfold readExtendedSwitch; infer_instance
instance [PermitsUse allowed .router] : Uses allowed (readExtendedRouter config) := by
  unfold readExtendedRouter; infer_instance
instance [PermitsUse allowed .gateway] [PermitsMark allowed .asPath] :
    Uses allowed (readExtendedGatewayV2 config) := by
  unfold readExtendedGatewayV2; infer_instance

instance [PermitsIteration allowed] [PermitsSet allowed .gateway]
    (segments seg segType segLen : UInt32) (remaining : Nat) (i : UInt32) :
    Uses allowed (readASNumbers config segments seg segType segLen remaining i) := by
  induction remaining generalizing i with
  | zero => exact .pure ()
  | succ remaining ih =>
      unfold readASNumbers
      infer_instance

instance [PermitsIteration allowed] [PermitsSet allowed .gateway] (segments : UInt32)
    (remaining : Nat) (seg : UInt32) :
    Uses allowed (readASSegments config segments remaining seg) := by
  induction remaining generalizing seg with
  | zero => exact .pure ()
  | succ remaining ih =>
      unfold readASSegments
      infer_instance

instance [PermitsIteration allowed] [PermitsGet allowed .datagram] [PermitsUse allowed .gateway]
    [PermitsMark allowed .communities] :
    Uses allowed (readExtendedGateway config) := by
  unfold readExtendedGateway; infer_instance
instance [PermitsGet allowed .datagram] [PermitsSet allowed .user] :
    Uses allowed (readExtendedUser config) := by
  unfold readExtendedUser; infer_instance
instance [PermitsGet allowed .datagram] [PermitsSet allowed .url] :
    Uses allowed (readExtendedUrl config) := by
  unfold readExtendedUrl; infer_instance
instance (title : Line) (fmt : String) (args : UInt32 → List Arg) [PermitsMark allowed .ptr] :
    Uses allowed (readStack config title fmt args) := by
  unfold readStack; infer_instance
instance (fieldName : String) [PermitsMark allowed .ptr] :
    Uses allowed (mplsLabelStack config fieldName) := by
  unfold mplsLabelStack; infer_instance
instance [PermitsMark allowed .ptr] [PermitsUse allowed .forwarding] :
    Uses allowed (readExtendedMpls config) := by
  unfold readExtendedMpls; infer_instance
instance [PermitsUse allowed .forwarding] : Uses allowed (readExtendedNat config) := by
  unfold readExtendedNat; infer_instance
instance : Uses allowed (readExtendedNatPort config) := by
  unfold readExtendedNatPort; infer_instance
instance : Uses allowed (readExtendedMplsTunnel config) := by
  unfold readExtendedMplsTunnel; infer_instance
instance : Uses allowed (readExtendedMplsVC config) := by
  unfold readExtendedMplsVC; infer_instance
instance : Uses allowed (readExtendedMplsFTN config) := by
  unfold readExtendedMplsFTN; infer_instance
instance : Uses allowed (readExtendedMplsLdpFec config) := by
  unfold readExtendedMplsLdpFec; infer_instance
instance [PermitsMark allowed .ptr] : Uses allowed (readExtendedVlanTunnel config) := by
  unfold readExtendedVlanTunnel; infer_instance
instance [PermitsMark allowed .ptr] : Uses allowed (readExtendedWifiRx config) := by
  unfold readExtendedWifiRx; infer_instance
instance [PermitsMark allowed .ptr] : Uses allowed (readExtendedWifiTx config) := by
  unfold readExtendedWifiTx; infer_instance

instance [headers : PermitsHeader allowed] (protocol : UInt32) :
    Uses allowed (@Decoder.note collector (.headerProtocol protocol)) :=
  uses_single _ (headers.note protocol)
instance [headers : PermitsHeader allowed] {α : Type} (code : Int) :
    Uses allowed (customExit code : Decode α) :=
  .act _ _ (headers.exit code) nofun

instance [PermitsHeader allowed] (headerProtocol : UInt32) [PermitsPacket allowed] :
    Uses allowed (dissectHeader config headerProtocol) := by
  unfold dissectHeader; infer_instance
instance (offsetVar : WordVar) [PermitsGet allowed .packet] [PermitsGet allowed offsetVar.family] :
    Uses allowed (logIPSize config offsetVar) := by
  unfold logIPSize; infer_instance
instance [PermitsHeader allowed] [PermitsPacket allowed] :
    Uses allowed (readFlowSampleHeader config) := by
  unfold readFlowSampleHeader; infer_instance
instance [PermitsHeader allowed] [PermitsPacket allowed] :
    Uses allowed (readExtendedWifiPayload config) := by
  unfold readExtendedWifiPayload; infer_instance

instance (title : String) [PermitsSet allowed .ethernet] :
    Uses allowed (readFlowSampleEthernet config title) := by
  unfold readFlowSampleEthernet; infer_instance
instance (title : String) (protocol sport dport tcpFlags : UInt32) [PermitsSet allowed .packet] :
    Uses allowed (logStructPorts config title protocol sport dport tcpFlags) := by
  unfold logStructPorts; infer_instance
instance (title : String) [PermitsMark allowed .header] [PermitsSet allowed .header]
    [PermitsSet allowed .packet] [PermitsSet allowed .addresses] :
    Uses allowed (readFlowSampleIPv4 config title) := by
  unfold readFlowSampleIPv4; infer_instance
instance (title : String) [PermitsMark allowed .header] [PermitsSet allowed .header]
    [PermitsSet allowed .packet] [PermitsSet allowed .addresses] :
    Uses allowed (readFlowSampleIPv6 config title) := by
  unfold readFlowSampleIPv6; infer_instance

instance : Uses allowed (readFlowSampleMemcache config) := by
  unfold readFlowSampleMemcache; infer_instance
instance (tag : UInt32) [PermitsNames allowed] [PermitsSet allowed .commonLog] :
    Uses allowed (readFlowSampleHttp config tag) := by
  unfold readFlowSampleHttp; infer_instance
instance [PermitsNames allowed] : Uses allowed (readFlowSampleApp config) := by
  unfold readFlowSampleApp; infer_instance
instance : Uses allowed (readFlowSampleAppCtxt config) := by
  unfold readFlowSampleAppCtxt; infer_instance
instance : Uses allowed (readFlowSampleAppActorInit config) := by
  unfold readFlowSampleAppActorInit; infer_instance
instance : Uses allowed (readFlowSampleAppActorTgt config) := by
  unfold readFlowSampleAppActorTgt; infer_instance
instance (address : Address) [PermitsSet allowed .commonLog] :
    Uses allowed (setCLFClient config address) := by
  unfold setCLFClient; infer_instance
instance [PermitsSet allowed .addresses] [PermitsSet allowed .commonLog] :
    Uses allowed (readExtendedSocket4 config) := by
  unfold readExtendedSocket4; infer_instance
instance : Uses allowed (readExtendedProxySocket4 config) := by
  unfold readExtendedProxySocket4; infer_instance
instance [PermitsSet allowed .addresses] [PermitsSet allowed .commonLog] :
    Uses allowed (readExtendedSocket6 config) := by
  unfold readExtendedSocket6; infer_instance
instance : Uses allowed (readExtendedProxySocket6 config) := by
  unfold readExtendedProxySocket6; infer_instance
instance (title : String) : Uses allowed (readExtendedDecap config title) := by
  unfold readExtendedDecap; infer_instance
instance (title : String) : Uses allowed (readExtendedVNI config title) := by
  unfold readExtendedVNI; infer_instance

instance [reports : PermitsReport allowed] {α : Type} (errm : String)
    [PermitsGet allowed .datagram] :
    Uses allowed (receiveError errm : Decode α) := by
  have surveyed : Uses allowed (@Decoder.survey collector) := uses_single _ reports.survey
  have dumped (source : Address) (received : List UInt8) (markOffset : Nat) :
      Uses allowed
        (@Decoder.emit collector (.receiveError errm source received markOffset)) :=
    uses_single _ (reports.report errm source received markOffset)
  unfold receiveError
  infer_instance

instance (description : String) (origin : Mark) (len : UInt32) [PermitsSince allowed] :
    Uses allowed (lengthCheck description origin len) := by
  unfold lengthCheck; infer_instance

theorem flowDecoders_uses [PermitsNames allowed] [PermitsContents allowed]
    [PermitsIteration allowed] [PermitsHeader allowed]
    (entry : UInt32 × Decode Unit) (member : entry ∈ flowDecoders config) :
    Uses allowed entry.2 := by
  revert entry
  simp only [flowDecoders, List.forall_mem_cons, List.not_mem_nil, false_implies, implies_true,
    and_true]
  and_intros <;> infer_instance

theorem lookup_mem {κ α : Type} [BEq κ] [LawfulBEq κ] {table : List (κ × α)} {key : κ}
    {value : α} (found : table.lookup key = some value) : (key, value) ∈ table := by
  obtain ⟨before, after, split, _⟩ := List.lookup_eq_some_iff.mp found
  simp [split]

instance [PermitsNames allowed] [PermitsIteration allowed] [PermitsHeader allowed]
    (tag length : UInt32) [PermitsContents allowed] :
    Uses allowed (readFlowElementBody config tag length) := by
  unfold readFlowElementBody
  split
  · next decoder found => exact flowDecoders_uses _ (lookup_mem found)
  · infer_instance

instance (samplerId : UInt32) [PermitsSet allowed .sample] :
    Uses allowed (setSamplerId samplerId) := by
  unfold setSamplerId; infer_instance
instance (fmt : String) (args : List Arg) [PermitsGet allowed .sample] :
    Uses allowed (logSourceId config fmt args) := by
  unfold logSourceId; infer_instance
instance (title : String) (format port : UInt32) :
    Uses allowed (logPort config title format port) := by
  unfold logPort; infer_instance
instance (expanded : Bool) [PermitsSet allowed .sample] : Uses allowed (readSourceId expanded) := by
  unfold readSourceId; infer_instance
instance (expanded : Bool) [PermitsSet allowed .sample] : Uses allowed (readPorts expanded) := by
  unfold readPorts; infer_instance
instance (expanded : Bool) [PermitsUse allowed .sample] [PermitsSet allowed .commonLog] :
    Uses allowed (readFlowSampleFields config expanded) := by
  unfold readFlowSampleFields; infer_instance

instance [PermitsUse allowed .sample] : Uses allowed (readFlowSampleFieldsV2v4 config) := by
  unfold readFlowSampleFieldsV2v4; infer_instance
instance [PermitsIteration allowed] [PermitsReport allowed] (extendedTag : UInt32)
    [PermitsContents allowed] :
    Uses allowed (readExtendedV2v4 config extendedTag) := by
  unfold readExtendedV2v4; infer_instance

instance [PermitsIteration allowed] [PermitsReport allowed] (remaining : Nat)
    [PermitsContents allowed] :
    Uses allowed (readAllExtendedV2v4 config remaining) := by
  induction remaining with
  | zero => exact .pure ()
  | succ remaining ih =>
      unfold readAllExtendedV2v4
      infer_instance

instance [PermitsHeader allowed] [PermitsReport allowed] (packetDataTag : UInt32)
    [PermitsContents allowed] :
    Uses allowed (readPacketDataV2v4 config packetDataTag) := by
  unfold readPacketDataV2v4; infer_instance

end FlowRecords

section CounterRecords

instance [PermitsOctets allowed] (field : Field) : Uses allowed (logField config field) := by
  cases field <;> (unfold logField; infer_instance)

instance [PermitsOctets allowed] (fields : List Field) :
    Uses allowed (logFields config fields) := by
  induction fields with
  | nil => exact .pure ()
  | cons field rest ih =>
      unfold logFields
      infer_instance

instance (var : WordVar) (fieldName : String) [PermitsSet allowed var.family] :
    Uses allowed (storeNext32 config var fieldName) := by
  unfold storeNext32; infer_instance
instance (var : DwordVar) (fieldName : String) [PermitsSet allowed var.family] :
    Uses allowed (storeNext64 config var fieldName) := by
  unfold storeNext64; infer_instance
instance [PermitsSet allowed .interface] : Uses allowed (readCountersGeneric config) := by
  unfold readCountersGeneric; infer_instance
instance [PermitsOctets allowed] : Uses allowed (readCountersEthernet config) := by
  unfold readCountersEthernet; infer_instance
instance [PermitsOctets allowed] : Uses allowed (readCountersTokenring config) := by
  unfold readCountersTokenring; infer_instance
instance [PermitsOctets allowed] : Uses allowed (readCountersVg config) := by
  unfold readCountersVg; infer_instance
instance [PermitsOctets allowed] [PermitsSet allowed .vlan] :
    Uses allowed (readCountersVlan config) := by
  unfold readCountersVlan; infer_instance
instance [PermitsOctets allowed] : Uses allowed (readCounters80211 config) := by
  unfold readCounters80211; infer_instance
instance [PermitsOctets allowed] : Uses allowed (readCountersRadio config) := by
  unfold readCountersRadio; infer_instance
instance [PermitsMark allowed .ptr] : Uses allowed (readCountersHostHid config) := by
  unfold readCountersHostHid; infer_instance

instance [PermitsIteration allowed] (i : UInt32) (remaining : Nat) (j : UInt32)
    [PermitsMark allowed .ptr] :
    Uses allowed (readAdaptorMACs config i remaining j) := by
  induction remaining generalizing j with
  | zero => exact .pure ()
  | succ remaining ih =>
      unfold readAdaptorMACs
      infer_instance

instance [PermitsIteration allowed] (remaining : Nat) (i : UInt32) [PermitsMark allowed .ptr] :
    Uses allowed (readAdaptors config remaining i) := by
  induction remaining generalizing i with
  | zero => exact .pure ()
  | succ remaining ih =>
      unfold readAdaptors
      infer_instance

instance [PermitsIteration allowed] [PermitsMark allowed .ptr] :
    Uses allowed (readCountersAdaptors config) := by
  unfold readCountersAdaptors; infer_instance
instance [PermitsOctets allowed] : Uses allowed (readCountersHostParent config) := by
  unfold readCountersHostParent; infer_instance
instance [PermitsOctets allowed] : Uses allowed (readCountersHostCpu config) := by
  unfold readCountersHostCpu; infer_instance
instance [PermitsOctets allowed] : Uses allowed (readCountersHostMem config) := by
  unfold readCountersHostMem; infer_instance
instance [PermitsOctets allowed] : Uses allowed (readCountersHostDsk config) := by
  unfold readCountersHostDsk; infer_instance
instance [PermitsOctets allowed] : Uses allowed (readCountersHostNio config) := by
  unfold readCountersHostNio; infer_instance
instance [PermitsOctets allowed] : Uses allowed (readCountersHostVnode config) := by
  unfold readCountersHostVnode; infer_instance
instance [PermitsOctets allowed] : Uses allowed (readCountersHostVcpu config) := by
  unfold readCountersHostVcpu; infer_instance
instance [PermitsOctets allowed] : Uses allowed (readCountersHostVmem config) := by
  unfold readCountersHostVmem; infer_instance
instance [PermitsOctets allowed] : Uses allowed (readCountersHostVdsk config) := by
  unfold readCountersHostVdsk; infer_instance
instance [PermitsOctets allowed] : Uses allowed (readCountersHostVnio config) := by
  unfold readCountersHostVnio; infer_instance
instance [PermitsOctets allowed] : Uses allowed (readCountersHostGpuNvml config) := by
  unfold readCountersHostGpuNvml; infer_instance
instance [PermitsOctets allowed] : Uses allowed (readCountersMemcache config) := by
  unfold readCountersMemcache; infer_instance
instance [PermitsOctets allowed] : Uses allowed (readCountersMemcache2 config) := by
  unfold readCountersMemcache2; infer_instance
instance [PermitsOctets allowed] : Uses allowed (readCountersHttp config) := by
  unfold readCountersHttp; infer_instance
instance : Uses allowed (readCountersJVM config) := by
  unfold readCountersJVM; infer_instance
instance [PermitsOctets allowed] (length : UInt32) :
    Uses allowed (readCountersJMX config length) := by
  unfold readCountersJMX; infer_instance
instance [PermitsOctets allowed] : Uses allowed (readCountersAPP config) := by
  unfold readCountersAPP; infer_instance
instance [PermitsOctets allowed] : Uses allowed (readCountersAPPRESOURCE config) := by
  unfold readCountersAPPRESOURCE; infer_instance
instance [PermitsOctets allowed] : Uses allowed (readCountersAPPWORKERS config) := by
  unfold readCountersAPPWORKERS; infer_instance
instance [PermitsOctets allowed] : Uses allowed (readCountersVDI config) := by
  unfold readCountersVDI; infer_instance
instance [PermitsOctets allowed] [PermitsMark allowed .ptr] :
    Uses allowed (readCountersLACP config) := by
  unfold readCountersLACP; infer_instance
instance [PermitsOctets allowed] [PermitsReport allowed] (counterBlockVersion : UInt32)
    [PermitsContents allowed] :
    Uses allowed (readCounterBlockV2v4 config counterBlockVersion) := by
  unfold readCounterBlockV2v4; infer_instance

end CounterRecords

end SflowTool
