import SflowTool.Confinement

/-! The collector's decode state and what a decode can produce. One `SFSample`
serves a whole datagram; its fields, the process-wide statics and the pointers
into the datagram are the variables and marks of the decoder machine. The
printing calls keep their format and arguments apart, so that a line is data and
not text. Writes to standard output are taken to succeed; the exits that guard
them are not modelled. -/
namespace SflowTool
open Decoding

abbrev Text := List UInt8

inductive OutputFormat where
  | full | pcap | line | netflow | fwd | clf | tsd
deriving DecidableEq

/-- The options a decode consults, with the clock as it stands during the datagram.
`vlanFilter` is the table as indexed: a VLAN outside it reads what lies behind.
`leveldbError` is what opening a database reports, if it fails, and `stackOctets`
what an address local held before a record wrote part of it. -/
structure SFConfig where
  outputFormat : OutputFormat
  netFlowOutputSocket : Bool
  netFlowPeerAS : Bool
  disableNetFlowScale : Bool
  spoofSource : Bool
  removeContent : Bool
  tcpdumpHdrPad : UInt32
  gotVlanFilter : Bool
  vlanFilter : UInt32 → Bool
  time : UInt64
  leveldbError : Option Text
  stackOctets : List UInt8

/-- The clock where it is kept in 32 bits. -/
def SFConfig.now (config : SFConfig) : UInt32 := config.time.toUInt32

/-- An `SFLAddress`. The octets are those of the union member that was written:
four for an IPv4 address, sixteen for any other. -/
structure Address where
  type : UInt32
  octets : List UInt8
deriving DecidableEq

namespace Address

def ipV4 (octets : List UInt8) : Address := ⟨1, octets⟩
def ipV6 (octets : List UInt8) : Address := ⟨2, octets⟩

/-- The first four octets as they lie in memory, whatever the type says. -/
def addr (address : Address) : List UInt8 :=
  (List.range 4).map fun index => address.octets.getD index 0

end Address

/-- The common-log record kept between a flow element and the end of its sample. -/
structure HttpLog where
  authuser : Text
  now : UInt64
  method : UInt32
  uri : Text
  protocol : UInt32
  status : UInt32
  respBytes : UInt64
  referrer : Text
  useragent : Text
deriving DecidableEq

inductive WordVar where
  | pcapTimestamp | datagramVersion | agentSubId | sampleType | dsClass | dsIndex
  | sysUpTime | sequenceNo | sampledPacketSize | samplesGenerated | meanSkipCount
  | samplePool | dropEvents | packetDataTag | headerProtocol | gotHeader | headerLen | stripped
  | gotIPV4 | gotIPV4Struct | offsetToIPV4 | gotIPV6 | gotIPV6Struct | offsetToIPV6
  | offsetToPayload | dcdIpProtocol | dcdIpTos | dcdIpTTL | dcdSport | dcdDport
  | dcdTcpFlags | ipFragmentOffset | udpPduLen
  | inputPortFormat | outputPortFormat | inputPort | outputPort
  | ethType | ethLen | inVlan | inPriority | outVlan | outPriority | numExtended
  | srcMask | dstMask | myAs | srcAs | srcPeerAs | dstAsPathLen | dstPeerAs | dstAs
  | communitiesLen | localpref | srcUserCharset | srcUserLen | dstUserCharset | dstUserLen
  | urlDirection | urlLen | hostLen | statsSamplingInterval | counterBlockVersion
  | ifIndex | ifType | ifDirection | ifStatus | ifInUcastPkts | ifInMulticastPkts
  | ifInBroadcastPkts | ifInDiscards | ifInErrors | ifInUnknownProtos | ifOutUcastPkts
  | ifOutMulticastPkts | ifOutBroadcastPkts | ifOutDiscards | ifOutErrors
  | ifPromiscuousMode | currentContextLength | clfValid
deriving DecidableEq

inductive DwordVar where
  | ifSpeed | ifInOctets | ifOutOctets
  | packetAnomalyPassed | packetAnomalyDropped | dstRatesDropped | portWildcardsDropped
  | portCmDropped | srcRatesDropped | httpDropped | httpExclSrcDropped | httpChallengeSent
  | dstHttpChallengeSent | dnsDropped | dnsExclSrcDropped | srcAuthDropped | ipProtoDropped
  | icmpDropped
deriving DecidableEq

inductive AddressVar where
  | sourceIP | agentAddr | ipsrc | ipdst | nextHop | bgpNextHop | mplsNextHop
  | natSrc | natDst
deriving DecidableEq

inductive TextVar where
  | ethSrc | ethDst | srcUser | dstUser | url | host | clfClient | sflDdosDesc
deriving DecidableEq

/-- The members of `ddos`, one for each record kind that keeps its counters, and
the elements of the two arrays of an entry record. -/
inductive DdosMember where
  | l4 | http | dns | l4Perip | l4ExtPerip | httpPerip | dnsPerip | port | entry | anomaly
  | pollingEntryMap | pollingPackets | pollingL4 | pollingTcpBasic | pollingTcpStateful
  | pollingHttp | sslL4 | sslL4Perip | l4Tcp | l4Udp | l4Icmp | l4Other | l4Switch | l4Session
  | l4Sync | l4Tunnel | entryTable | ddosBriefStats | ddosLongStats | icmpPerip | udpPerip
  | tcpPerip | otherPerip | ddosDstIndicators | ddosDstTcpIndicators | ddosDstUdpIndicators
  | ddosDstIcmpIndicators | ddosDstOtherIndicators
  | entryStat (index : Nat) | entryAppStat (index : Nat)
deriving DecidableEq

/-- The common header of a per-entry record. Each address union holds the octets
that were last written to it. -/
structure DdosCommon where
  tableType : UInt32
  ipType : UInt32
  staticEntry : UInt32
  ip : List UInt8
  dstIp : List UInt8
  subnetMask : UInt32
  age : UInt32

inductive Var where
  | word (var : WordVar)
  | dword (var : DwordVar)
  | address (var : AddressVar)
  | text (var : TextVar)
  | clfHttpLog
  | common (member : DdosMember)
  | counters (member : DdosMember)
deriving DecidableEq

/-- Counter structs are maps from the field's path in the struct to its value. -/
def Var.type : Var → Type
  | .word _ => UInt32
  | .dword _ => UInt64
  | .address _ => Address
  | .text _ => Text
  | .clfHttpLog => HttpLog
  | .common _ => DdosCommon
  | .counters _ => String → UInt64

/-- Pointers into the datagram: `header` belongs to the sample, the others are
locals of the function that sets them. -/
inductive Mark where
  | header | sampleStart | start | ptr | asPath | communities
deriving DecidableEq

/-- The two numbers that are counted up once for each exported packet. -/
inductive Counter where
  | nfFlowSequenceNo | ipid
deriving DecidableEq

inductive Arg where
  | word (value : UInt32)
  | dword (value : UInt64)
  | text (value : Text)
  | name (value : String)
  | address (value : Address)
  | tag (value : UInt32)
  | bytes (value : List UInt8)
  | float (value : UInt32)
  | percent (hundredths : UInt32)
deriving DecidableEq

/-- A call of the printf family: the format and what it is given. -/
structure Line where
  fmt : String
  args : List Arg
deriving DecidableEq

/-- The process reports a line and exits with a code. -/
structure Fatal where
  line : Line
  code : Int
deriving DecidableEq

structure Metric where
  name : String
  time : UInt64
  value : UInt64
  tags : Line
deriving DecidableEq

/-- The columns of a FLOW line. -/
structure FlowLine where
  agentAddr : Address
  inputPort : UInt32
  outputPort : UInt32
  ethSrc : List UInt8
  ethDst : List UInt8
  ethType : UInt32
  inVlan : UInt32
  outVlan : UInt32
  ipsrc : Address
  ipdst : Address
  ipProtocol : UInt32
  ipTos : UInt32
  ipTTL : UInt32
  sport : UInt32
  dport : UInt32
  tcpFlags : UInt32
  sampledPacketSize : UInt32
  ipBytes : UInt32
  meanSkipCount : UInt32
deriving DecidableEq

/-- The columns of a CNTR line. -/
structure CountersLine where
  agentAddr : Address
  ifIndex : UInt32
  ifType : UInt32
  ifSpeed : UInt64
  ifDirection : UInt32
  ifStatus : UInt32
  ifInOctets : UInt64
  ifInUcastPkts : UInt32
  ifInMulticastPkts : UInt32
  ifInBroadcastPkts : UInt32
  ifInDiscards : UInt32
  ifInErrors : UInt32
  ifInUnknownProtos : UInt32
  ifOutOctets : UInt64
  ifOutUcastPkts : UInt32
  ifOutMulticastPkts : UInt32
  ifOutBroadcastPkts : UInt32
  ifOutDiscards : UInt32
  ifOutErrors : UInt32
  ifPromiscuousMode : UInt32
deriving DecidableEq

/-- A record of a tcpdump file: its header, the padding after it and the captured bytes. -/
structure PcapPacket where
  tsSec : UInt32
  caplen : UInt32
  len : UInt32
  pad : UInt32
  captured : List UInt8
deriving DecidableEq

/-- `NFFlowPkt5` as the host holds it, member by member. -/
structure NFFlowPkt5 where
  version : UInt16
  count : UInt16
  sysUpTime : UInt32
  unixSeconds : UInt32
  unixNanoSeconds : UInt32
  flowSequence : UInt32
  engineType : UInt8
  engineId : UInt8
  samplingInterval : UInt16
  srcIP : UInt32
  dstIP : UInt32
  nextHop : UInt32
  ifIn : UInt16
  ifOut : UInt16
  frames : UInt32
  bytes : UInt32
  firstTime : UInt32
  lastTime : UInt32
  srcPort : UInt16
  dstPort : UInt16
  pad1 : UInt8
  tcpFlags : UInt8
  ipProto : UInt8
  ipTos : UInt8
  srcAS : UInt16
  dstAS : UInt16
  srcMask : UInt8
  dstMask : UInt8
  pad2 : UInt16
deriving DecidableEq

inductive Database where
  | rawDb | objDb
deriving DecidableEq

/-- What a decode does to the outside. The NetFlow packets take their sequence
number and IP id from the counters they are stamped with. -/
inductive Event where
  | log (line : Line)
  | print (line : Line)
  | errout (line : Line)
  | receiveError (message : String) (source : Address) (received : List UInt8) (markOffset : Nat)
  | flowLine (line : FlowLine)
  | countersLine (line : CountersLine)
  | clfLine (client : Text) (httpLog : HttpLog)
  | pcapPacket (packet : PcapPacket)
  | netFlow (packet : NFFlowPkt5)
  | netFlowSpoofed (saddr : List UInt8) (packet : NFFlowPkt5)
  | opentsdb (lines : List Metric)
  | leveldbWrite (key : Line) (value : List (UInt32 × UInt64)) (database : Database)
  | leveldbWriteObject (key : Line) (oid : UInt32) (uuid : Text) (database : Database)
  | leveldbRead (key : Line) (database : Database)
deriving DecidableEq

/-- The fixed name tables that are indexed from the wire. -/
inductive NameTable where
  | httpMethod | appStatus | ddosProto | ddosState | ddosTableType | ddosIpType
deriving DecidableEq

/-- Where a decode was: ghost records that nothing in the program reads. An `iteration`
ends a round of a loop that reads as many items as the wire announces. -/
inductive Note where
  | headerProtocol (protocol : UInt32)
  | flowElement (tag length : UInt32)
  | flowElementEnd
  | flowSampleEnd
  | counterElement (tag length : UInt32)
  | counterElementEnd
  | countersSampleEnd
  | lookup (table : NameTable) (index : UInt32)
  | vlanLookup (vlan : UInt32)
  | statStore (index : Nat)
  | appStatStore (index : Nat)
  | iteration
deriving DecidableEq

inductive Stop where
  | eos | decodeError | lengthError
  | exit (code : Int)
deriving DecidableEq

/-- The machine the collector's decoders run on. -/
abbrev collector : Signature where
  Var := Var
  val := Var.type
  Mark := Mark
  Counter := Counter
  Event := Event
  Note := Note
  Stop := Stop
  eos := .eos

abbrev Decode (α : Type) := Decoder collector α
abbrev SFSample := State collector

end SflowTool
