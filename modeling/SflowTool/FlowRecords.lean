import SflowTool.Exports

/-! The flow record decoders. A counted array on the wire is skipped with its byte
count taken in 32-bit arithmetic, while its elements are read by index from where it
began: the elements are a peek of four times the count. -/
namespace SflowTool
open Decoding Decoding.Decoder

variable (config : SFConfig)

def wordsOf : List UInt8 → List UInt32
  | a :: b :: c :: d :: rest => UInt32.ofNat (beNat [a, b, c, d]) :: wordsOf rest
  | _ => []

/-- A list of words as the source logs one: a title, dashes between the words and a
newline, or nothing at all when it is empty. -/
def logWords (title : Line) (fmt : String) (args : UInt32 → List Arg) (words : List UInt32) :
    Decode Unit :=
  match words with
  | [] => return ()
  | first :: rest => do
      sfLog config title.fmt title.args
      sfLog config fmt (args first)
      rest.forM fun word => do
        sfLog config "-" []
        sfLog config fmt (args word)
      sfLog config "\n" []

def logHex (octets : List UInt8) : Decode Unit :=
  octets.forM fun octet => sfLog config "%02x" [.bytes [octet]]

def readExtendedSwitch : Decode Unit := do
  sfLog config "extendedType SWITCH\n" []
  let inVlan ← getData32
  setWord .inVlan inVlan
  let inPriority ← getData32
  setWord .inPriority inPriority
  let outVlan ← getData32
  setWord .outVlan outVlan
  let outPriority ← getData32
  setWord .outPriority outPriority
  sfLog config "in_vlan %u\n" [.word inVlan]
  sfLog config "in_priority %u\n" [.word inPriority]
  sfLog config "out_vlan %u\n" [.word outVlan]
  sfLog config "out_priority %u\n" [.word outPriority]

def readExtendedRouter : Decode Unit := do
  sfLog config "extendedType ROUTER\n" []
  let _ ← getAddress .nextHop
  let srcMask ← getData32
  setWord .srcMask srcMask
  let dstMask ← getData32
  setWord .dstMask dstMask
  let nextHop ← getAddressVar .nextHop
  sfLog config "nextHop %s\n" [.address nextHop]
  sfLog config "srcSubnetMask %u\n" [.word srcMask]
  sfLog config "dstSubnetMask %u\n" [.word dstMask]

def readExtendedGatewayV2 : Decode Unit := do
  sfLog config "extendedType GATEWAY\n" []
  let myAs ← getData32
  setWord .myAs myAs
  let srcAs ← getData32
  setWord .srcAs srcAs
  let srcPeerAs ← getData32
  setWord .srcPeerAs srcPeerAs
  setWord .dstPeerAs 0
  setWord .dstAs 0
  let pathLen ← getData32
  setWord .dstAsPathLen pathLen
  when (pathLen > 0) do
    mark .asPath
    let _ ← skipBytes (pathLen * 4)
    let first ← peek .asPath 0 4
    setWord .dstPeerAs (UInt32.ofNat (beNat first))
    let last ← peek .asPath (4 * (pathLen.toNat - 1)) 4
    setWord .dstAs (UInt32.ofNat (beNat last))
  sfLog config "my_as %u\n" [.word myAs]
  sfLog config "src_as %u\n" [.word srcAs]
  sfLog config "src_peer_as %u\n" [.word srcPeerAs]
  let dstAs ← getWord .dstAs
  sfLog config "dst_as %u\n" [.word dstAs]
  let dstPeerAs ← getWord .dstPeerAs
  sfLog config "dst_peer_as %u\n" [.word dstPeerAs]
  sfLog config "dst_as_path_len %u\n" [.word pathLen]
  when (pathLen > 0) do
    let path ← peek .asPath 0 (4 * pathLen.toNat)
    logWords config ⟨"dst_as_path ", []⟩ "%u" (fun number => [.word number]) (wordsOf path)

/-- The AS numbers of one path segment, from index `i` on. -/
def readASNumbers (segments seg segType segLen : UInt32) : Nat → UInt32 → Decode Unit
  | 0, _ => return ()
  | remaining + 1, i => do
      let asNumber ← getData32
      (if i = 0 ∧ seg = 0 then setWord .dstPeerAs asNumber else sfLog config "-" [])
      when (i = 0 ∧ segType = 1) (sfLog config "(" [])
      sfLog config "%u" [.word asNumber]
      when (seg = segments - 1 ∧ i = segLen - 1) (setWord .dstAs asNumber)
      note .iteration
      readASNumbers segments seg segType segLen remaining (i + 1)

def readASSegments (segments : UInt32) : Nat → UInt32 → Decode Unit
  | 0, _ => return ()
  | remaining + 1, seg => do
      let segType ← getData32
      let segLen ← getData32
      readASNumbers config segments seg segType segLen segLen.toNat 0
      when (segType = 1) (sfLog config ")" [])
      note .iteration
      readASSegments segments remaining (seg + 1)

def readExtendedGateway : Decode Unit := do
  sfLog config "extendedType GATEWAY\n" []
  let version ← getWord .datagramVersion
  when (version ≥ 5) do
    let _ ← getAddress .bgpNextHop
    let bgpNextHop ← getAddressVar .bgpNextHop
    sfLog config "bgp_nexthop %s\n" [.address bgpNextHop]
  let myAs ← getData32
  setWord .myAs myAs
  let srcAs ← getData32
  setWord .srcAs srcAs
  let srcPeerAs ← getData32
  setWord .srcPeerAs srcPeerAs
  sfLog config "my_as %u\n" [.word myAs]
  sfLog config "src_as %u\n" [.word srcAs]
  sfLog config "src_peer_as %u\n" [.word srcPeerAs]
  let segments ← getData32
  setWord .dstPeerAs 0
  setWord .dstAs 0
  when (segments > 0) do
    sfLog config "dst_as_path " []
    readASSegments config segments segments.toNat 0
    sfLog config "\n" []
  let dstAs ← getWord .dstAs
  sfLog config "dst_as %u\n" [.word dstAs]
  let dstPeerAs ← getWord .dstPeerAs
  sfLog config "dst_peer_as %u\n" [.word dstPeerAs]
  let communitiesLen ← getData32
  setWord .communitiesLen communitiesLen
  when (communitiesLen > 0) (mark .communities)
  let _ ← skipBytes (communitiesLen * 4)
  when (communitiesLen > 0) do
    let communities ← peek .communities 0 (4 * communitiesLen.toNat)
    logWords config ⟨"BGP_communities ", []⟩ "%u" (fun community => [.word community])
      (wordsOf communities)
  let localpref ← getData32
  setWord .localpref localpref
  sfLog config "BGP_localpref %u\n" [.word localpref]

def readExtendedUser : Decode Unit := do
  sfLog config "extendedType USER\n" []
  let version ← getWord .datagramVersion
  when (version ≥ 5) do
    let charset ← getData32
    setWord .srcUserCharset charset
    sfLog config "src_user_charset %d\n" [.word charset]
  let (srcLen, srcUser) ← getString 200
  setWord .srcUserLen srcLen
  setText .srcUser srcUser
  when (version ≥ 5) do
    let charset ← getData32
    setWord .dstUserCharset charset
    sfLog config "dst_user_charset %d\n" [.word charset]
  let (dstLen, dstUser) ← getString 200
  setWord .dstUserLen dstLen
  setText .dstUser dstUser
  sfLog config "src_user %s\n" [.text srcUser]
  sfLog config "dst_user %s\n" [.text dstUser]

def readExtendedUrl : Decode Unit := do
  sfLog config "extendedType URL\n" []
  let direction ← getData32
  setWord .urlDirection direction
  sfLog config "url_direction %u\n" [.word direction]
  let (urlLen, url) ← getString 200
  setWord .urlLen urlLen
  setText .url url
  sfLog config "url %s\n" [.text url]
  let version ← getWord .datagramVersion
  when (version ≥ 5) do
    let (hostLen, host) ← getString 200
    setWord .hostLen hostLen
    setText .host host
    sfLog config "host %s\n" [.text host]

/-- A counted stack of words, logged one by one. -/
def readStack (title : Line) (fmt : String) (args : UInt32 → List Arg) : Decode Unit := do
  let depth ← getData32
  when (depth > 0) (mark .ptr)
  let _ ← skipBytes (depth * 4)
  when (depth > 0) do
    let stack ← peek .ptr 0 (4 * depth.toNat)
    logWords config title fmt args (wordsOf stack)

def mplsLabelStack (fieldName : String) : Decode Unit :=
  readStack config ⟨"%s ", [.name fieldName]⟩ "%u.%u.%u.%u" fun lab =>
    [.word (lab >>> 12), .word ((lab >>> 9) &&& 7), .word ((lab >>> 8) &&& 1), .word (lab &&& 255)]

def readExtendedMpls : Decode Unit := do
  sfLog config "extendedType MPLS\n" []
  let _ ← getAddress .mplsNextHop
  let mplsNextHop ← getAddressVar .mplsNextHop
  sfLog config "mpls_nexthop %s\n" [.address mplsNextHop]
  mplsLabelStack config "mpls_input_stack"
  mplsLabelStack config "mpls_output_stack"

def readExtendedNat : Decode Unit := do
  sfLog config "extendedType NAT\n" []
  let _ ← getAddress .natSrc
  let natSrc ← getAddressVar .natSrc
  sfLog config "nat_src %s\n" [.address natSrc]
  let _ ← getAddress .natDst
  let natDst ← getAddressVar .natDst
  sfLog config "nat_dst %s\n" [.address natDst]

def readExtendedNatPort : Decode Unit := do
  sfLog config "extendedType NAT PORT\n" []
  let _ ← sfLogNext32 config "nat_src_port"
  let _ ← sfLogNext32 config "nat_dst_port"

def readExtendedMplsTunnel : Decode Unit := do
  let _ ← logNextString config "mpls_tunnel_lsp_name %s\n" 100
  let tunnelId ← getData32
  sfLog config "mpls_tunnel_id %u\n" [.word tunnelId]
  let tunnelCos ← getData32
  sfLog config "mpls_tunnel_cos %u\n" [.word tunnelCos]

def readExtendedMplsVC : Decode Unit := do
  let _ ← logNextString config "mpls_vc_name %s\n" 100
  let vllVcId ← getData32
  sfLog config "mpls_vll_vc_id %u\n" [.word vllVcId]
  let vcCos ← getData32
  sfLog config "mpls_vc_cos %u\n" [.word vcCos]

def readExtendedMplsFTN : Decode Unit := do
  let _ ← logNextString config "mpls_ftn_descr %s\n" 100
  let ftnMask ← getData32
  sfLog config "mpls_ftn_mask %u\n" [.word ftnMask]

def readExtendedMplsLdpFec : Decode Unit := do
  let prefixLen ← getData32
  sfLog config "mpls_fec_addr_prefix_len %u\n" [.word prefixLen]

def readExtendedVlanTunnel : Decode Unit :=
  readStack config ⟨"vlan_tunnel ", []⟩ "0x%04x.%u.%u.%u" fun lab =>
    [.word (lab >>> 16), .word ((lab >>> 13) &&& 7), .word ((lab >>> 12) &&& 1), .word (lab &&& 4095)]

def readExtendedWifiRx : Decode Unit := do
  let _ ← logNextString config "rx_SSID %s\n" 256
  mark .ptr
  sfLog config "rx_BSSID " []
  let bssid ← peek .ptr 0 6
  logHex config bssid
  sfLog config "\n" []
  let _ ← skipBytes 6
  let _ ← sfLogNext32 config "rx_version"
  let _ ← sfLogNext32 config "rx_channel"
  let _ ← sfLogNext64 config "rx_speed"
  let _ ← sfLogNext32 config "rx_rsni"
  let _ ← sfLogNext32 config "rx_rcpi"
  let _ ← sfLogNext32 config "rx_packet_uS"

def readExtendedWifiTx : Decode Unit := do
  let _ ← logNextString config "tx_SSID %s\n" 256
  mark .ptr
  sfLog config "tx_BSSID " []
  let bssid ← peek .ptr 0 6
  logHex config bssid
  sfLog config "\n" []
  let _ ← skipBytes 6
  let _ ← sfLogNext32 config "tx_version"
  let _ ← sfLogNext32 config "tx_transmissions"
  let _ ← sfLogNext32 config "tx_packet_uS"
  let _ ← sfLogNext32 config "tx_retrans_uS"
  let _ ← sfLogNext32 config "tx_channel"
  let _ ← sfLogNext64 config "tx_speed"
  let _ ← sfLogNext32 config "tx_power_mW"

/-- The header protocols that are known and not dissected. -/
def undissectedProtocols : List UInt32 := [2, 3, 4, 5, 6, 7, 8, 9, 10, 13, 14, 16, 17]

/-- Where the header protocol says the dissection starts. A protocol outside the
list ends the process. -/
def dissectHeader (headerProtocol : UInt32) : Decode Unit :=
  if headerProtocol = 1 then
    decodeLinkLayer config
  else if headerProtocol = 11 then do
    setWord .gotIPV4 1
    setWord .offsetToIPV4 0
  else if headerProtocol = 12 then do
    setWord .gotIPV6 1
    setWord .offsetToIPV6 0
  else if headerProtocol = 15 then
    decode80211MAC config
  else if headerProtocol ∈ undissectedProtocols then
    sfLog config "NO_DECODE headerProtocol=%d\n" [.word headerProtocol]
  else do
    fprintfErr "undefined headerProtocol = %d\n" [.word headerProtocol]
    customExit (-12)

def logIPSize (offsetVar : WordVar) : Decode Unit := do
  let sampledPacketSize ← getWord .sampledPacketSize
  let stripped ← getWord .stripped
  let offset ← getWord offsetVar
  sfLog config "IPSize %d\n" [.word (sampledPacketSize - stripped - offset)]

def readFlowSampleHeader : Decode Unit := do
  sfLog config "flowSampleType HEADER\n" []
  let headerProtocol ← getData32
  setWord .headerProtocol headerProtocol
  sfLog config "headerProtocol %u\n" [.word headerProtocol]
  let sampledPacketSize ← getData32
  setWord .sampledPacketSize sampledPacketSize
  sfLog config "sampledPacketSize %u\n" [.word sampledPacketSize]
  let version ← getWord .datagramVersion
  when (version > 4) do
    let stripped ← getData32
    setWord .stripped stripped
    sfLog config "strippedBytes %u\n" [.word stripped]
  let headerLen ← getData32
  setWord .headerLen headerLen
  sfLog config "headerLen %u\n" [.word headerLen]
  mark .header
  setWord .gotHeader 1
  let octets ← skipBytes headerLen
  sfLog config "headerBytes %s\n" [.bytes (octets.take headerLen.toNat)]
  note (.headerProtocol headerProtocol)
  dissectHeader config headerProtocol
  let gotIPV4 ← getWord .gotIPV4
  if gotIPV4 ≠ 0 then
    logIPSize config .offsetToIPV4
    decodeIPV4 config
  else
    let gotIPV6 ← getWord .gotIPV6
    when (gotIPV6 ≠ 0) do
      logIPSize config .offsetToIPV6
      decodeIPV6 config

def readExtendedWifiPayload : Decode Unit := do
  let _ ← sfLogNext32 config "cipher_suite"
  readFlowSampleHeader config

def readFlowSampleEthernet (title : String) : Decode Unit := do
  sfLog config "flowSampleType %sETHERNET\n" [.name title]
  let ethLen ← getData32
  setWord .ethLen ethLen
  let src ← skipBytes 6
  setText .ethSrc (src.take 6)
  let dst ← skipBytes 6
  setText .ethDst (dst.take 6)
  let ethType ← getData32
  setWord .ethType ethType
  sfLog config "%sethernet_type %u\n" [.name title, .word ethType]
  sfLog config "%sethernet_len %u\n" [.name title, .word ethLen]
  sfLog config "%sethernet_src %02x%02x%02x%02x%02x%02x\n" [.name title, .bytes (src.take 6)]
  sfLog config "%sethernet_dst %02x%02x%02x%02x%02x%02x\n" [.name title, .bytes (dst.take 6)]

/-- The transport fields at the end of an IPv4 or IPv6 structure. -/
def logStructPorts (title : String) (protocol sport dport tcpFlags : UInt32) : Decode Unit :=
  if protocol = 1 then
    sfLog config "%sICMPType %u\n" [.name title, .word dport]
  else if protocol = 6 then do
    sfLog config "%sTCPSrcPort %u\n" [.name title, .word sport]
    sfLog config "%sTCPDstPort %u\n" [.name title, .word dport]
    setWord .dcdTcpFlags tcpFlags
    sfLog config "%sTCPFlags %u\n" [.name title, .word tcpFlags]
  else if protocol = 17 then do
    sfLog config "%sUDPSrcPort %u\n" [.name title, .word sport]
    sfLog config "%sUDPDstPort %u\n" [.name title, .word dport]
  else
    return ()

def readFlowSampleIPv4 (title : String) : Decode Unit := do
  sfLog config "flowSampleType %sIPV4\n" [.name title]
  setWord .headerLen 32
  mark .header
  setWord .gotHeader 1
  let key ← skipBytes 32
  setWord .sampledPacketSize (wordAt key 0)
  sfLog config "%ssampledPacketSize %u\n" [.name title, .word (wordAt key 0)]
  sfLog config "%sIPSize %u\n" [.name title, .word (wordAt key 0)]
  let src := Address.ipV4 ((key.drop 8).take 4)
  let dst := Address.ipV4 ((key.drop 12).take 4)
  setAddressVar .ipsrc src
  setAddressVar .ipdst dst
  setWord .dcdIpProtocol (wordAt key 4)
  setWord .dcdIpTos (wordAt key 28)
  sfLog config "%ssrcIP %s\n" [.name title, .address src]
  sfLog config "%sdstIP %s\n" [.name title, .address dst]
  sfLog config "%sIPProtocol %u\n" [.name title, .word (wordAt key 4)]
  sfLog config "%sIPTOS %u\n" [.name title, .word (wordAt key 28)]
  setWord .dcdSport (wordAt key 16)
  setWord .dcdDport (wordAt key 20)
  logStructPorts config title (wordAt key 4) (wordAt key 16) (wordAt key 20) (wordAt key 24)

def readFlowSampleIPv6 (title : String) : Decode Unit := do
  sfLog config "flowSampleType %sIPV6\n" [.name title]
  mark .header
  setWord .gotHeader 1
  setWord .headerLen 56
  let key ← skipBytes 56
  setWord .sampledPacketSize (wordAt key 0)
  sfLog config "%ssampledPacketSize %u\n" [.name title, .word (wordAt key 0)]
  sfLog config "%sIPSize %u\n" [.name title, .word (wordAt key 0)]
  let src := Address.ipV6 ((key.drop 8).take 16)
  let dst := Address.ipV6 ((key.drop 24).take 16)
  setAddressVar .ipsrc src
  setAddressVar .ipdst dst
  setWord .dcdIpProtocol (wordAt key 4)
  sfLog config "%ssrcIP6 %s\n" [.name title, .address src]
  sfLog config "%sdstIP6 %s\n" [.name title, .address dst]
  sfLog config "%sIPProtocol %u\n" [.name title, .word (wordAt key 4)]
  sfLog config "%spriority %u\n" [.name title, .word (wordAt key 52)]
  setWord .dcdSport (wordAt key 40)
  setWord .dcdDport (wordAt key 44)
  logStructPorts config title (wordAt key 4) (wordAt key 40) (wordAt key 44) (wordAt key 48)

end SflowTool
