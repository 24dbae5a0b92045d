import SflowTool.Reads

/-! Dissection of a sampled packet header. The source walks the header with a raw
pointer and looks at most of it without testing where it ends, so every look here is
an unchecked peek at an offset from the start of the header. The header length was
skipped over before, so it is a plain byte count. -/
namespace SflowTool
open Decoding Decoding.Decoder

variable (config : SFConfig)

def headerByte (offset : Nat) : Decode UInt32 := do
  let octets ← peek .header offset 1
  return UInt32.ofNat (beNat octets)

def headerHalf (offset : Nat) : Decode UInt32 := do
  let octets ← peek .header offset 2
  return UInt32.ofNat (beNat octets)

/-- The 802.1q tag after the two MAC addresses, if there is one: the type or length
that follows and where it ends. -/
def decodeVLANTag : Decode (UInt32 × Nat) := do
  let typeLen ← headerHalf 12
  if typeLen = 0x8100 then
    let vlanData ← headerHalf 14
    let vlan := vlanData &&& 0x0fff
    sfLog config "decodedVLAN %u\n" [.word vlan]
    sfLog config "decodedPriority %u\n" [.word (vlanData >>> 13)]
    setWord .inVlan vlan
    let typeLen ← headerHalf 16
    return (typeLen, 18)
  else
    return (typeLen, 14)

/-- The peek for IPX. Returns whether the frame is one, which ends the decode. -/
def peekForIPX (typeLen : UInt32) (ptr : Nat) : Decode Bool := do
  if typeLen = 0x0200 ∨ typeLen = 0x0201 ∨ typeLen = 0x0600 then
    let ipxChecksum ← headerHalf ptr
    let ipxLen ← headerHalf (ptr + 2)
    return decide (ipxChecksum = 0xffff ∧ 30 ≤ ipxLen ∧ ipxLen ≤ 576)
  else
    return false

/-- The 802.2 header behind an 802.3 length. `none` ends the decode. -/
def decode8022 (ptr : Nat) : Decode (Option (UInt32 × Nat)) := do
  let first ← headerByte ptr
  let second ← (if first = 0xAA ∨ first = 0x06 then headerByte (ptr + 1) else pure 0)
  let third ← (if (first = 0xAA ∧ second = 0xAA) ∨ (first = 0x06 ∧ second = 0x06) then
    headerByte (ptr + 2) else pure 0)
  if first = 0xAA ∧ second = 0xAA ∧ third = 0x03 then
    let oui ← peek .header (ptr + 3) 3
    if oui ≠ [0, 0, 0] then
      sfLog config "VSNAP_OUI %02X-%02X-%02X\n" [.bytes oui]
      return none
    else
      let typeLen ← headerHalf (ptr + 6)
      return some (typeLen, ptr + 8)
  else if first = 0x06 ∧ second = 0x06 ∧ third &&& 0x01 ≠ 0 then
    return some (0x0800, ptr + 3)
  else
    return none

/-- The decode once the ethernet type is known. The room left for an IPv4 header is
compared without a sign: behind the end of the header it would count as ample. -/
def decodeEthernetType (headerLen typeLen : UInt32) (ptr : Nat) : Decode Unit := do
  setWord .ethType typeLen
  if typeLen = 0x0800 then
    if ptr ≤ headerLen.toNat ∧ headerLen.toNat - ptr < 20 then
      return ()
    let version ← headerByte ptr
    if version >>> 4 ≠ 4 then
      return ()
    if version &&& 15 < 5 then
      return ()
    setWord .gotIPV4 1
    setWord .offsetToIPV4 (UInt32.ofNat ptr)
  else if typeLen = 0x86DD then
    let version ← headerByte ptr
    if version >>> 4 ≠ 6 then
      return ()
    setWord .gotIPV6 1
    setWord .offsetToIPV6 (UInt32.ofNat ptr)
  else
    return ()

def decodeLinkLayer : Decode Unit := do
  setWord .gotIPV4 0
  setWord .gotIPV6 0
  let headerLen ← getWord .headerLen
  if headerLen < 14 then
    return ()
  let dst ← peek .header 0 6
  sfLog config "dstMAC %02x%02x%02x%02x%02x%02x\n" [.bytes dst]
  setText .ethDst dst
  let src ← peek .header 6 6
  sfLog config "srcMAC %02x%02x%02x%02x%02x%02x\n" [.bytes src]
  setText .ethSrc src
  let (typeLen, ptr) ← decodeVLANTag config
  if headerLen < 34 then
    return ()
  let ipx ← peekForIPX typeLen ptr
  if ipx then
    return ()
  if typeLen ≤ 1500 then
    let found ← decode8022 config ptr
    match found with
    | none => return ()
    | some (typeLen, ptr) => decodeEthernetType headerLen typeLen ptr
  else
    decodeEthernetType headerLen typeLen ptr

/-- The copy into `eth_dst` takes the source address. -/
def decode80211MAC : Decode Unit := do
  setWord .gotIPV4 0
  setWord .gotIPV6 0
  let headerLen ← getWord .headerLen
  if headerLen < 24 then
    return ()
  let low ← headerByte 0
  let high ← headerByte 1
  let fc := (high <<< 8) + low
  let control := (fc >>> 2) &&& 3
  let toDS := (fc >>> 8) &&& 1
  let fromDS := (fc >>> 9) &&& 1
  let _ ← peek .header 2 2
  if control = 2 then
    let _ ← peek .header 22 2
    let srcMAC := if toDS ≠ 0 then (if fromDS ≠ 0 then 24 else 10)
      else (if fromDS ≠ 0 then 16 else 10)
    let dstMAC := if toDS ≠ 0 then 16 else 4
    let src ← peek .header srcMAC 6
    sfLog config "srcMAC %02x%02x%02x%02x%02x%02x\n" [.bytes src]
    setText .ethSrc src
    let dst ← peek .header dstMAC 6
    sfLog config "dstMAC %02x%02x%02x%02x%02x%02x\n" [.bytes dst]
    setText .ethDst src
    let tx ← peek .header 10 6
    sfLog config "txMAC %02x%02x%02x%02x%02x%02x\n" [.bytes tx]
    let rx ← peek .header 4 6
    sfLog config "rxMAC %02x%02x%02x%02x%02x%02x\n" [.bytes rx]
  else
    return ()

def octetAt (octets : List UInt8) (index : Nat) : UInt32 := (octets.getD index 0).toUInt32

/-- The big-endian half word at an index of a copied header. -/
def halfAt (octets : List UInt8) (index : Nat) : UInt32 :=
  UInt32.ofNat (beNat ((octets.drop index).take 2))

def wordAt (octets : List UInt8) (index : Nat) : UInt32 :=
  UInt32.ofNat (beNat ((octets.drop index).take 4))

def decodeIPLayer4 (ptr : Nat) : Decode Unit := do
  let headerLen ← getWord .headerLen
  if ptr + 8 > headerLen.toNat then
    return ()
  let protocol ← getWord .dcdIpProtocol
  if protocol = 1 then
    let icmp ← peek .header ptr 2
    sfLog config "ICMPType %u\n" [.word (octetAt icmp 0)]
    sfLog config "ICMPCode %u\n" [.word (octetAt icmp 1)]
    setWord .dcdSport (octetAt icmp 0)
    setWord .dcdDport (octetAt icmp 1)
    setWord .offsetToPayload (UInt32.ofNat (ptr + 2))
  else if protocol = 6 then
    -- the test above leaves room for 8 bytes of the 20 that are copied
    let tcp ← peek .header ptr 20
    setWord .dcdSport (halfAt tcp 0)
    setWord .dcdDport (halfAt tcp 2)
    setWord .dcdTcpFlags (octetAt tcp 13)
    sfLog config "TCPSrcPort %u\n" [.word (halfAt tcp 0)]
    sfLog config "TCPDstPort %u\n" [.word (halfAt tcp 2)]
    sfLog config "TCPFlags %u\n" [.word (octetAt tcp 13)]
    setWord .offsetToPayload (UInt32.ofNat ptr + (octetAt tcp 12 >>> 4) * 4)
  else if protocol = 17 then
    let udp ← peek .header ptr 8
    setWord .dcdSport (halfAt udp 0)
    setWord .dcdDport (halfAt udp 2)
    setWord .udpPduLen (halfAt udp 4)
    sfLog config "UDPSrcPort %u\n" [.word (halfAt udp 0)]
    sfLog config "UDPDstPort %u\n" [.word (halfAt udp 2)]
    sfLog config "UDPBytes %u\n" [.word (halfAt udp 4)]
    setWord .offsetToPayload (UInt32.ofNat (ptr + 8))
  else
    setWord .offsetToPayload (UInt32.ofNat ptr)

def decodeIPV4 : Decode Unit := do
  let gotIPV4 ← getWord .gotIPV4
  if gotIPV4 = 0 then
    return ()
  let offset ← getWord .offsetToIPV4
  let ip ← peek .header offset.toNat 20
  let saddr := Address.ipV4 ((ip.drop 12).take 4)
  let daddr := Address.ipV4 ((ip.drop 16).take 4)
  setAddressVar .ipsrc saddr
  setAddressVar .ipdst daddr
  setWord .dcdIpProtocol (octetAt ip 9)
  setWord .dcdIpTos (octetAt ip 1)
  setWord .dcdIpTTL (octetAt ip 8)
  sfLog config "ip.tot_len %d\n" [.word (halfAt ip 2)]
  sfLog config "srcIP %s\n" [.address saddr]
  sfLog config "dstIP %s\n" [.address daddr]
  sfLog config "IPProtocol %u\n" [.word (octetAt ip 9)]
  sfLog config "IPTOS %u\n" [.word (octetAt ip 1)]
  sfLog config "IPTTL %u\n" [.word (octetAt ip 8)]
  let fragmentOffset := halfAt ip 6 &&& 0x1FFF
  setWord .ipFragmentOffset fragmentOffset
  if fragmentOffset > 0 then
    sfLog config "IPFragmentOffset %u\n" [.word fragmentOffset]
  else
    decodeIPLayer4 config (offset.toNat + ((octetAt ip 0 &&& 0x0f) * 4).toNat)

/-- The walk over the extension headers: the first next-header value outside the
skipped kinds and where its header starts, or `none` past the end of the sampled
header. A step moves on by at least six bytes, so `fuel` of the header length plus
two never runs out. -/
def skipIPV6Extensions (headerLen : Nat) : Nat → UInt32 → Nat → Decode (Option (UInt32 × Nat))
  | 0, _, _ => return none
  | fuel + 1, nextHeader, ptr =>
      if nextHeader = 0 ∨ nextHeader = 43 ∨ nextHeader = 44 ∨ nextHeader = 51 ∨
          nextHeader = 60 then do
        sfLog config "IP6HeaderExtension: %d\n" [.word nextHeader]
        let following ← headerByte ptr
        let optionLen ← headerByte (ptr + 1)
        let skip := 8 * (optionLen + 1) - 2
        if ptr + skip.toNat > headerLen then
          return none
        else
          skipIPV6Extensions headerLen fuel following (ptr + skip.toNat)
      else
        return some (nextHeader, ptr)

def decodeIPV6 : Decode Unit := do
  let gotIPV6 ← getWord .gotIPV6
  if gotIPV6 = 0 then
    return ()
  let offset ← getWord .offsetToIPV6
  let ptr := offset.toNat
  let first ← headerByte ptr
  if first >>> 4 ≠ 6 then
    sfLog config "header decode error: unexpected IP version: %d\n" [.word (first >>> 4)]
    return ()
  setWord .dcdIpTos (first &&& 15)
  sfLog config "IPTOS %u\n" [.word (first &&& 15)]
  let label ← peek .header (ptr + 1) 3
  sfLog config "IP6_label 0x%lx\n" [.word (UInt32.ofNat (beNat label))]
  let payloadLen ← headerHalf (ptr + 4)
  (if payloadLen = 0 then sfLog config "IPV6_payloadLen <jumbo>\n" []
    else sfLog config "IPV6_payloadLen %u\n" [.word payloadLen])
  let nextHeader ← headerByte (ptr + 6)
  let ttl ← headerByte (ptr + 7)
  setWord .dcdIpTTL ttl
  sfLog config "IPTTL %u\n" [.word ttl]
  let src ← peek .header (ptr + 8) 16
  setAddressVar .ipsrc (Address.ipV6 src)
  sfLog config "srcIP6 %s\n" [.address (Address.ipV6 src)]
  let dst ← peek .header (ptr + 24) 16
  setAddressVar .ipdst (Address.ipV6 dst)
  sfLog config "dstIP6 %s\n" [.address (Address.ipV6 dst)]
  let headerLen ← getWord .headerLen
  let walked ← skipIPV6Extensions config headerLen.toNat (headerLen.toNat + 2) nextHeader (ptr + 40)
  match walked with
  | none => return ()
  | some (nextHeader, ptr) =>
      setWord .dcdIpProtocol nextHeader
      sfLog config "IPProtocol %u\n" [.word nextHeader]
      decodeIPLayer4 config ptr

end SflowTool
