import SflowTool.HeaderDecode

/-! What a decoded sample is turned into: the FLOW and CNTR lines, the tcpdump
record and the NetFlow packet, with the VLAN filter and the two error paths. The
NetFlow packet is built as a little-endian host holds it; its sequence number is the
counter it is stamped with when it is sent. -/
namespace SflowTool
open Decoding Decoding.Decoder

variable (config : SFConfig)

def sampleFilterOK : Decode Bool := do
  if config.gotVlanFilter = false then
    return true
  let inVlan ← getWord .inVlan
  note (.vlanLookup inVlan)
  if config.vlanFilter inVlan then
    return true
  let outVlan ← getWord .outVlan
  note (.vlanLookup outVlan)
  return config.vlanFilter outVlan

def writeFlowLine : Decode Unit := do
  let agentAddr ← getAddressVar .agentAddr
  let inputPort ← getWord .inputPort
  let outputPort ← getWord .outputPort
  let ethSrc ← getText .ethSrc
  let ethDst ← getText .ethDst
  let ethType ← getWord .ethType
  let inVlan ← getWord .inVlan
  let outVlan ← getWord .outVlan
  let ipsrc ← getAddressVar .ipsrc
  let ipdst ← getAddressVar .ipdst
  let ipProtocol ← getWord .dcdIpProtocol
  let ipTos ← getWord .dcdIpTos
  let ipTTL ← getWord .dcdIpTTL
  let sport ← getWord .dcdSport
  let dport ← getWord .dcdDport
  let tcpFlags ← getWord .dcdTcpFlags
  let sampledPacketSize ← getWord .sampledPacketSize
  let stripped ← getWord .stripped
  let offsetToIPV4 ← getWord .offsetToIPV4
  let meanSkipCount ← getWord .meanSkipCount
  emit (.flowLine ⟨agentAddr, inputPort, outputPort, ethSrc, ethDst, ethType, inVlan, outVlan, ipsrc,
    ipdst, ipProtocol, ipTos, ipTTL, sport, dport, tcpFlags, sampledPacketSize,
    sampledPacketSize - stripped - offsetToIPV4, meanSkipCount⟩)

def writeCountersLine : Decode Unit := do
  let agentAddr ← getAddressVar .agentAddr
  let ifIndex ← getWord .ifIndex
  let ifType ← getWord .ifType
  let ifSpeed ← getDword .ifSpeed
  let ifDirection ← getWord .ifDirection
  let ifStatus ← getWord .ifStatus
  let ifInOctets ← getDword .ifInOctets
  let ifInUcastPkts ← getWord .ifInUcastPkts
  let ifInMulticastPkts ← getWord .ifInMulticastPkts
  let ifInBroadcastPkts ← getWord .ifInBroadcastPkts
  let ifInDiscards ← getWord .ifInDiscards
  let ifInErrors ← getWord .ifInErrors
  let ifInUnknownProtos ← getWord .ifInUnknownProtos
  let ifOutOctets ← getDword .ifOutOctets
  let ifOutUcastPkts ← getWord .ifOutUcastPkts
  let ifOutMulticastPkts ← getWord .ifOutMulticastPkts
  let ifOutBroadcastPkts ← getWord .ifOutBroadcastPkts
  let ifOutDiscards ← getWord .ifOutDiscards
  let ifOutErrors ← getWord .ifOutErrors
  let ifPromiscuousMode ← getWord .ifPromiscuousMode
  emit (.countersLine ⟨agentAddr, ifIndex, ifType, ifSpeed, ifDirection, ifStatus, ifInOctets,
    ifInUcastPkts, ifInMulticastPkts, ifInBroadcastPkts, ifInDiscards, ifInErrors,
    ifInUnknownProtos, ifOutOctets, ifOutUcastPkts, ifOutMulticastPkts, ifOutBroadcastPkts,
    ifOutDiscards, ifOutErrors, ifPromiscuousMode⟩)

/-- The whole datagram is dumped with the place the cursor had reached. -/
def receiveError {α : Type} (errm : String) : Decode α := do
  let (received, markOffset) ← survey
  let source ← getAddressVar .sourceIP
  emit (.receiveError errm source received markOffset)
  sfAbort .decodeError

/-- Rounding up to whole quads as the length check does it, in 32-bit arithmetic. -/
def adjustLen (len : UInt32) : UInt32 := ((len + 3) >>> 2) <<< 2

def lengthCheck (description : String) (origin : Mark) (len : UInt32) : Decode Unit := do
  let moved ← since origin
  let actualLen := adjustLen (UInt32.ofNat moved)
  if actualLen ≠ adjustLen len then
    fprintfErr "%s length error (expected %d, found %d)\n"
      [.name description, .word len, .word actualLen]
    sfAbort .lengthError

def writePcapPacket : Decode Unit := do
  let len ← getWord .sampledPacketSize
  let headerLen ← getWord .headerLen
  let offsetToPayload ← (if config.removeContent then getWord .offsetToPayload else pure 0)
  let caplen := if offsetToPayload ≠ 0 then offsetToPayload else headerLen
  let captured ← peek .header 0 caplen.toNat
  emit (.pcapPacket ⟨config.now, caplen, len, config.tcpdumpHdrPad, captured⟩)

def htonl (value : UInt32) : UInt32 :=
  ((value &&& 0x000000FF) <<< 24) + ((value &&& 0x0000FF00) <<< 8) +
    ((value &&& 0x00FF0000) >>> 8) + ((value &&& 0xFF000000) >>> 24)

def htons (value : UInt16) : UInt16 := (value >>> 8) ||| (value <<< 8)

/-- Four octets of memory as a little-endian host reads them. -/
def leWord (octets : List UInt8) : UInt32 := UInt32.ofNat (beNat octets.reverse)

/-- The counts of the record: scaled by the sampling rate, or with the rate in the header. -/
structure NFScale where
  samplingInterval : UInt16
  frames : UInt32
  bytes : UInt32

def nfScale (meanSkipCount bytes : UInt32) : NFScale :=
  if config.disableNetFlowScale then
    { samplingInterval := htons (meanSkipCount.toUInt16 &&& 0x4000)
      frames := htonl 1
      bytes := htonl bytes }
  else
    { samplingInterval := 0
      frames := htonl meanSkipCount
      bytes := htonl (meanSkipCount * bytes) }

def nfBytes : Decode UInt32 := do
  let udpPduLen ← getWord .udpPduLen
  if udpPduLen > 0 then
    return udpPduLen
  else
    let sampledPacketSize ← getWord .sampledPacketSize
    let stripped ← getWord .stripped
    let offsetToIPV4 ← getWord .offsetToIPV4
    return sampledPacketSize - stripped - offsetToIPV4

def sendNetFlowDatagram : Decode Unit := do
  let fragmentOffset ← getWord .ipFragmentOffset
  if fragmentOffset > 0 then
    return ()
  let bytes ← nfBytes
  let ipsrc ← getAddressVar .ipsrc
  let ipdst ← getAddressVar .ipdst
  let nextHop ← getAddressVar .nextHop
  let inputPort ← getWord .inputPort
  let outputPort ← getWord .outputPort
  let meanSkipCount ← getWord .meanSkipCount
  let sport ← getWord .dcdSport
  let dport ← getWord .dcdDport
  let tcpFlags ← getWord .dcdTcpFlags
  let ipProto ← getWord .dcdIpProtocol
  let ipTos ← getWord .dcdIpTos
  let srcAS ← getWord (if config.netFlowPeerAS then .srcPeerAs else .srcAs)
  let dstAS ← getWord (if config.netFlowPeerAS then .dstPeerAs else .dstAs)
  let srcMask ← getWord .srcMask
  let dstMask ← getWord .dstMask
  let sysUpTime := htonl (config.now % (3600 * 24)) * 1000
  let scale := nfScale config meanSkipCount bytes
  let pkt : NFFlowPkt5 :=
    { version := htons 5
      count := htons 1
      sysUpTime
      unixSeconds := htonl config.now
      unixNanoSeconds := 0
      flowSequence := 0
      engineType := 0
      engineId := 0
      samplingInterval := scale.samplingInterval
      srcIP := leWord ipsrc.addr
      dstIP := leWord ipdst.addr
      nextHop := leWord nextHop.addr
      ifIn := htons inputPort.toUInt16
      ifOut := htons outputPort.toUInt16
      frames := scale.frames
      bytes := scale.bytes
      firstTime := sysUpTime
      lastTime := sysUpTime
      srcPort := htons sport.toUInt16
      dstPort := htons dport.toUInt16
      pad1 := 0
      tcpFlags := tcpFlags.toUInt8
      ipProto := ipProto.toUInt8
      ipTos := ipTos.toUInt8
      srcAS := htons srcAS.toUInt16
      dstAS := htons dstAS.toUInt16
      srcMask := srcMask.toUInt8
      dstMask := dstMask.toUInt8
      pad2 := 0 }
  (if config.spoofSource then do
    let agentAddr ← getAddressVar .agentAddr
    tick .ipid
    emit (.netFlowSpoofed agentAddr.addr pkt)
  else
    emit (.netFlow pkt))
  tick .nfFlowSequenceNo

/-- The packet an event puts on the wire, with the sequence number it was stamped with. -/
def sentPacket (sent : Stamped collector) : Option NFFlowPkt5 :=
  let numbered (pkt : NFFlowPkt5) :=
    { pkt with flowSequence := htonl (UInt32.ofNat (sent.ticks .nfFlowSequenceNo)) }
  match sent.event with
  | .netFlow pkt => some (numbered pkt)
  | .netFlowSpoofed _ pkt => some (numbered pkt)
  | _ => none

def le16 (value : UInt16) : List UInt8 := [value.toUInt8, (value >>> 8).toUInt8]

def le32 (value : UInt32) : List UInt8 :=
  [value.toUInt8, (value >>> 8).toUInt8, (value >>> 16).toUInt8, (value >>> 24).toUInt8]

/-- The packet as its struct lies in the memory of a little-endian host. -/
def NFFlowPkt5.octets (pkt : NFFlowPkt5) : List UInt8 :=
  le16 pkt.version ++ le16 pkt.count ++ le32 pkt.sysUpTime ++ le32 pkt.unixSeconds ++
  le32 pkt.unixNanoSeconds ++ le32 pkt.flowSequence ++ [pkt.engineType, pkt.engineId] ++
  le16 pkt.samplingInterval ++
  le32 pkt.srcIP ++ le32 pkt.dstIP ++ le32 pkt.nextHop ++ le16 pkt.ifIn ++ le16 pkt.ifOut ++
  le32 pkt.frames ++ le32 pkt.bytes ++ le32 pkt.firstTime ++ le32 pkt.lastTime ++
  le16 pkt.srcPort ++ le16 pkt.dstPort ++ [pkt.pad1, pkt.tcpFlags, pkt.ipProto, pkt.ipTos] ++
  le16 pkt.srcAS ++ le16 pkt.dstAS ++ [pkt.srcMask, pkt.dstMask] ++ le16 pkt.pad2

end SflowTool
