import SflowTool.FlowRecords

/-! The application flow records and the two flow sample decoders: the version 5
one, which checks every element against its declared length, and the one for
versions 2 and 4, which carries no lengths at all. -/
namespace SflowTool
open Decoding Decoding.Decoder

variable (config : SFConfig)

/-- `bin2hex` of a possibly negative nibble, as a right shift of a signed character gives. -/
def bin2hex (nib : Int) : UInt8 := if nib < 10 then UInt8.ofInt (48 + nib) else UInt8.ofInt (55 + nib)

def isAlnum (octet : UInt8) : Bool :=
  (48 ≤ octet && octet ≤ 57) || (65 ≤ octet && octet ≤ 90) || (97 ≤ octet && octet ≤ 122)

def isSpace (octet : UInt8) : Bool := octet == 32 || (9 ≤ octet && octet ≤ 13)

def urlEncode (text : Text) : Text :=
  text.flatMap fun octet =>
    if isAlnum octet then [octet]
    else if isSpace octet then [43]
    else [37, bin2hex (octet.toInt8.toInt >>> 4), bin2hex (octet &&& 0x0f).toNat]

def readFlowSampleMemcache : Decode Unit := do
  sfLog config "flowSampleType memcache\n" []
  let _ ← sfLogNext32 config "memcache_op_protocol"
  let _ ← sfLogNext32 config "memcache_op_cmd"
  let (len, key) ← getString 255
  when (len > 0) (sfLog config "memcache_op_key %s\n" [.text (urlEncode key)])
  let _ ← sfLogNext32 config "memcache_op_nkeys"
  let _ ← sfLogNext32 config "memcache_op_value_bytes"
  let _ ← sfLogNext32 config "memcache_op_duration_uS"
  let _ ← sfLogNext32 config "memcache_op_status"

/-- The tag of the http record that carries the forwarded-for address and the request size. -/
def tagHTTP2 : UInt32 := 2206

def readFlowSampleHttp (tag : UInt32) : Decode Unit := do
  sfLog config "flowSampleType http\n" []
  let method ← sfLogNext32 config "http_method"
  let protocol ← sfLogNext32 config "http_protocol"
  let uri ← logNextString config "http_uri %s\n" 255
  let _ ← logNextString config "http_host %s\n" 64
  let referrer ← logNextString config "http_referrer %s\n" 255
  let useragent ← logNextString config "http_useragent %s\n" 128
  when (tag = tagHTTP2) do
    let _ ← logNextString config "http_xff %s\n" 64
  let authuser ← logNextString config "http_authuser %s\n" 32
  let _ ← logNextString config "http_mimetype %s\n" 64
  when (tag = tagHTTP2) do
    let _ ← sfLogNext64 config "http_request_bytes"
  let respBytes ← sfLogNext64 config "http_bytes"
  let _ ← sfLogNext32 config "http_duration_uS"
  let status ← sfLogNext32 config "http_status"
  when (config.outputFormat = .clf) do
    note (.lookup .httpMethod method)
    @Decoder.set collector .clfHttpLog
      (⟨authuser, config.time, method, uri, protocol, status, respBytes, referrer, useragent⟩ : HttpLog)
    setWord .clfValid 1

def readFlowSampleApp : Decode Unit := do
  sfLog config "flowSampleType applicationOperation\n" []
  let _ ← logNextString config "application %s\n" 32
  let _ ← logNextString config "operation %s\n" 32
  let _ ← logNextString config "attributes %s\n" 255
  let _ ← logNextString config "status_descr %s\n" 32
  let _ ← sfLogNext64 config "request_bytes"
  let _ ← sfLogNext64 config "response_bytes"
  let status ← getData32
  note (.lookup .appStatus status)
  sfLog config "status %s\n" [.word status]
  let _ ← sfLogNext32 config "duration_uS"

def readFlowSampleAppCtxt : Decode Unit := do
  let _ ← logNextString config "server_context_application %s\n" 32
  let _ ← logNextString config "server_context_operation %s\n" 32
  let _ ← logNextString config "server_context_attributes %s\n" 255

def readFlowSampleAppActorInit : Decode Unit := do
  let _ ← logNextString config "actor_initiator %s\n" 64

def readFlowSampleAppActorTgt : Decode Unit := do
  let _ ← logNextString config "actor_target %s\n" 64

/-- `%u.%u.%u.%u` or eight hex groups. -/
def printAddress (address : Address) : Text :=
  let octet (index : Nat) := address.octets.getD index 0
  let decimal (value : UInt8) := (Nat.toDigits 10 value.toNat).map fun c => UInt8.ofNat c.toNat
  let hex (value : UInt8) :=
    [value >>> 4, value &&& 0x0f].map fun nib => if nib < 10 then 48 + nib else 87 + nib
  if address.type = 1 then
    decimal (octet 0) ++ [46] ++ decimal (octet 1) ++ [46] ++ decimal (octet 2) ++ [46] ++
      decimal (octet 3)
  else
    ((List.range 8).flatMap fun group =>
      (if group = 0 then [] else [58]) ++ hex (octet (2 * group)) ++ hex (octet (2 * group + 1)))

/-- The client of a common-log line is the address that was printed last, the remote one. -/
def setCLFClient (address : Address) : Decode Unit :=
  when (config.outputFormat = .clf) (setText .clfClient (printAddress address))

def readExtendedSocket4 : Decode Unit := do
  sfLog config "extendedType socket4\n" []
  let _ ← sfLogNext32 config "socket4_ip_protocol"
  let src ← getData32Nobswap
  setAddressVar .ipsrc (Address.ipV4 src)
  let dst ← getData32Nobswap
  setAddressVar .ipdst (Address.ipV4 dst)
  sfLog config "socket4_local_ip %s\n" [.address (Address.ipV4 src)]
  sfLog config "socket4_remote_ip %s\n" [.address (Address.ipV4 dst)]
  let _ ← sfLogNext32 config "socket4_local_port"
  let _ ← sfLogNext32 config "socket4_remote_port"
  setCLFClient config (Address.ipV4 dst)

def readExtendedProxySocket4 : Decode Unit := do
  sfLog config "extendedType proxy_socket4\n" []
  let _ ← sfLogNext32 config "proxy_socket4_ip_protocol"
  let src ← getData32Nobswap
  let dst ← getData32Nobswap
  sfLog config "proxy_socket4_local_ip %s\n" [.address (Address.ipV4 src)]
  sfLog config "proxy_socket4_remote_ip %s\n" [.address (Address.ipV4 dst)]
  let _ ← sfLogNext32 config "proxy_socket4_local_port"
  let _ ← sfLogNext32 config "proxy_socket4_remote_port"

def readExtendedSocket6 : Decode Unit := do
  sfLog config "extendedType socket6\n" []
  let _ ← sfLogNext32 config "socket6_ip_protocol"
  let src ← skipBytes 16
  setAddressVar .ipsrc (Address.ipV6 src)
  let dst ← skipBytes 16
  setAddressVar .ipdst (Address.ipV6 dst)
  sfLog config "socket6_local_ip %s\n" [.address (Address.ipV6 src)]
  sfLog config "socket6_remote_ip %s\n" [.address (Address.ipV6 dst)]
  let _ ← sfLogNext32 config "socket6_local_port"
  let _ ← sfLogNext32 config "socket6_remote_port"
  setCLFClient config (Address.ipV6 dst)

def readExtendedProxySocket6 : Decode Unit := do
  sfLog config "extendedType proxy_socket6\n" []
  let _ ← sfLogNext32 config "proxy_socket6_ip_protocol"
  let src ← skipBytes 16
  let dst ← skipBytes 16
  sfLog config "proxy_socket6_local_ip %s\n" [.address (Address.ipV6 src)]
  sfLog config "proxy_socket6_remote_ip %s\n" [.address (Address.ipV6 dst)]
  let _ ← sfLogNext32 config "proxy_socket6_local_port"
  let _ ← sfLogNext32 config "proxy_socket6_remote_port"

def readExtendedDecap (title : String) : Decode Unit := do
  let offset ← getData32
  sfLog config "extendedType %sdecap\n" [.name title]
  sfLog config "%sdecap_inner_header_offset %u\n" [.name title, .word offset]

def readExtendedVNI (title : String) : Decode Unit := do
  let vni ← getData32
  sfLog config "extendedType %sVNI\n" [.name title]
  sfLog config "%sVNI %u\n" [.name title, .word vni]

def setSamplerId (samplerId : UInt32) : Decode Unit := do
  setWord .dsClass (samplerId >>> 24)
  setWord .dsIndex (samplerId &&& 0x00ffffff)

def logSourceId (fmt : String) (args : List Arg) : Decode Unit := do
  let dsClass ← getWord .dsClass
  let dsIndex ← getWord .dsIndex
  sfLog config fmt (args ++ [.word dsClass, .word dsIndex])

/-- The extended records of a version 2 or 4 sample. -/
def readExtendedV2v4 (extendedTag : UInt32) : Decode Unit :=
  if extendedTag = 1 then
    readExtendedSwitch config
  else if extendedTag = 2 then
    readExtendedRouter config
  else if extendedTag = 3 then do
    let version ← getWord .datagramVersion
    if version = 2 then readExtendedGatewayV2 config else readExtendedGateway config
  else if extendedTag = 4 then
    readExtendedUser config
  else if extendedTag = 5 then
    readExtendedUrl config
  else
    receiveError "unrecognized extended data tag"

def readAllExtendedV2v4 : Nat → Decode Unit
  | 0 => return ()
  | remaining + 1 => do
      let extendedTag ← getData32
      readExtendedV2v4 config extendedTag
      note .iteration
      readAllExtendedV2v4 remaining

def readPacketDataV2v4 (packetDataTag : UInt32) : Decode Unit :=
  if packetDataTag = 1 then
    readFlowSampleHeader config
  else if packetDataTag = 2 then do
    setWord .gotIPV4Struct 1
    readFlowSampleIPv4 config ""
  else if packetDataTag = 3 then do
    setWord .gotIPV6Struct 1
    readFlowSampleIPv6 config ""
  else
    receiveError "unexpected packet_data_tag"

/-- The fields of a version 2 or 4 flow sample before the packet. -/
def readFlowSampleFieldsV2v4 : Decode Unit := do
  let samplesGenerated ← getData32
  setWord .samplesGenerated samplesGenerated
  sfLog config "sampleSequenceNo %u\n" [.word samplesGenerated]
  let samplerId ← getData32
  setSamplerId samplerId
  logSourceId config "sourceId %u:%u\n" []
  let meanSkipCount ← getData32
  setWord .meanSkipCount meanSkipCount
  let samplePool ← getData32
  setWord .samplePool samplePool
  let dropEvents ← getData32
  setWord .dropEvents dropEvents
  let inputPort ← getData32
  setWord .inputPort inputPort
  let outputPort ← getData32
  setWord .outputPort outputPort
  sfLog config "meanSkipCount %u\n" [.word meanSkipCount]
  sfLog config "samplePool %u\n" [.word samplePool]
  sfLog config "dropEvents %u\n" [.word dropEvents]
  sfLog config "inputPort %u\n" [.word inputPort]
  (if outputPort &&& 0x80000000 ≠ 0 then
    (if outputPort &&& 0x7fffffff > 0 then
      sfLog config "outputPort multiple %d\n" [.word (outputPort &&& 0x7fffffff)]
    else
      sfLog config "outputPort multiple >1\n" [])
  else
    sfLog config "outputPort %u\n" [.word outputPort])

/-- What a decoded version 2 or 4 flow sample is exported as. -/
def emitFlowSampleV2v4 : Decode Unit := do
  let accepted ← sampleFilterOK config
  when (accepted = true) do
    match config.outputFormat with
    | .netflow =>
        when (config.netFlowOutputSocket = true) do
          let gotIPV4 ← getWord .gotIPV4
          let gotIPV4Struct ← (if gotIPV4 ≠ 0 then pure 1 else getWord .gotIPV4Struct)
          when (gotIPV4Struct ≠ 0) (sendNetFlowDatagram config)
    | .pcap => writePcapPacket config
    | .line => writeFlowLine
    | _ => return ()

def readFlowSampleV2v4 : Decode Unit := do
  sfLog config "sampleType FLOWSAMPLE\n" []
  readFlowSampleFieldsV2v4 config
  let packetDataTag ← getData32
  setWord .packetDataTag packetDataTag
  readPacketDataV2v4 config packetDataTag
  let numExtended ← getData32
  setWord .numExtended numExtended
  readAllExtendedV2v4 config numExtended.toNat
  emitFlowSampleV2v4 config

/-- The flow record decoders of version 5 by tag. -/
def flowDecoders : List (UInt32 × Decode Unit) :=
  [(1, readFlowSampleHeader config),
   (2, readFlowSampleEthernet config ""),
   (3, readFlowSampleIPv4 config ""),
   (4, readFlowSampleIPv6 config ""),
   (2200, readFlowSampleMemcache config),
   (2201, readFlowSampleHttp config 2201),
   (2206, readFlowSampleHttp config 2206),
   (2202, readFlowSampleApp config),
   (2203, readFlowSampleAppCtxt config),
   (2204, readFlowSampleAppActorInit config),
   (2205, readFlowSampleAppActorTgt config),
   (1001, readExtendedSwitch config),
   (1002, readExtendedRouter config),
   (1003, readExtendedGateway config),
   (1004, readExtendedUser config),
   (1005, readExtendedUrl config),
   (1006, readExtendedMpls config),
   (1007, readExtendedNat config),
   (1020, readExtendedNatPort config),
   (1008, readExtendedMplsTunnel config),
   (1009, readExtendedMplsVC config),
   (1010, readExtendedMplsFTN config),
   (1011, readExtendedMplsLdpFec config),
   (1012, readExtendedVlanTunnel config),
   (1013, readExtendedWifiPayload config),
   (1014, readExtendedWifiRx config),
   (1015, readExtendedWifiTx config),
   (2100, readExtendedSocket4 config),
   (2101, readExtendedSocket6 config),
   (2102, readExtendedProxySocket4 config),
   (2103, readExtendedProxySocket6 config),
   (1021, readFlowSampleEthernet config "tunnel_l2_out_"),
   (1022, readFlowSampleEthernet config "tunnel_l2_in_"),
   (1023, readFlowSampleIPv4 config "tunnel_ipv4_out_"),
   (1024, readFlowSampleIPv4 config "tunnel_ipv4_in_"),
   (1025, readFlowSampleIPv6 config "tunnel_ipv6_out_"),
   (1026, readFlowSampleIPv6 config "tunnel_ipv6_in_"),
   (1027, readExtendedDecap config "out_"),
   (1028, readExtendedDecap config "in_"),
   (1029, readExtendedVNI config "out_"),
   (1030, readExtendedVNI config "in_")]

def readFlowElementBody (tag length : UInt32) : Decode Unit :=
  match (flowDecoders config).lookup tag with
  | some decoder => decoder
  | none => skipTLVRecord config tag length "flow_sample_element"

def readFlowElement : Decode Unit := do
  let tag ← getData32
  sfLog config "flowBlock_tag %s\n" [.tag tag]
  let length ← getData32
  mark .start
  note (.flowElement tag length)
  readFlowElementBody config tag length
  lengthCheck "flow_sample_element" .start length
  note .flowElementEnd

def readFlowElements : Nat → Decode Unit
  | 0 => return ()
  | remaining + 1 => do
      readFlowElement config
      note .iteration
      readFlowElements remaining

def logPort (title : String) (format port : UInt32) : Decode Unit :=
  if format = 3 then sfLog config (title ++ " format==3 %u\n") [.word port]
  else if format = 2 then sfLog config (title ++ " multiple %u\n") [.word port]
  else if format = 1 then sfLog config (title ++ " dropCode %u\n") [.word port]
  else if format = 0 then sfLog config (title ++ " %u\n") [.word port]
  else return ()

/-- Source id of a version 5 sample. -/
def readSourceId (expanded : Bool) : Decode Unit :=
  if expanded then do
    let dsClass ← getData32
    setWord .dsClass dsClass
    let dsIndex ← getData32
    setWord .dsIndex dsIndex
  else do
    let samplerId ← getData32
    setSamplerId samplerId

def readPorts (expanded : Bool) : Decode Unit :=
  if expanded then do
    let inputPortFormat ← getData32
    setWord .inputPortFormat inputPortFormat
    let inputPort ← getData32
    setWord .inputPort inputPort
    let outputPortFormat ← getData32
    setWord .outputPortFormat outputPortFormat
    let outputPort ← getData32
    setWord .outputPort outputPort
  else do
    let inp ← getData32
    let outp ← getData32
    setWord .inputPortFormat (inp >>> 30)
    setWord .outputPortFormat (outp >>> 30)
    setWord .inputPort (inp &&& 0x3fffffff)
    setWord .outputPort (outp &&& 0x3fffffff)

/-- The fields of a version 5 flow sample before the number of its elements. -/
def readFlowSampleFields (expanded : Bool) : Decode Unit := do
  let samplesGenerated ← getData32
  setWord .samplesGenerated samplesGenerated
  sfLog config "sampleSequenceNo %u\n" [.word samplesGenerated]
  readSourceId expanded
  logSourceId config "sourceId %u:%u\n" []
  let meanSkipCount ← getData32
  setWord .meanSkipCount meanSkipCount
  let samplePool ← getData32
  setWord .samplePool samplePool
  let dropEvents ← getData32
  setWord .dropEvents dropEvents
  sfLog config "meanSkipCount %u\n" [.word meanSkipCount]
  sfLog config "samplePool %u\n" [.word samplePool]
  sfLog config "dropEvents %u\n" [.word dropEvents]
  readPorts expanded
  let inputPortFormat ← getWord .inputPortFormat
  let inputPort ← getWord .inputPort
  logPort config "inputPort" inputPortFormat inputPort
  let outputPortFormat ← getWord .outputPortFormat
  let outputPort ← getWord .outputPort
  logPort config "outputPort" outputPortFormat outputPort
  setWord .clfValid 0
  setText .clfClient []

/-- What a decoded version 5 flow sample is exported as. -/
def emitFlowSample : Decode Unit := do
  let accepted ← sampleFilterOK config
  when (accepted = true) do
    match config.outputFormat with
    | .netflow =>
        when (config.netFlowOutputSocket = true) do
          let gotIPV4 ← getWord .gotIPV4
          when (gotIPV4 ≠ 0) (sendNetFlowDatagram config)
    | .pcap => writePcapPacket config
    | .line => writeFlowLine
    | .clf => do
        let valid ← getWord .clfValid
        when (valid ≠ 0) do
          let client ← getText .clfClient
          let httpLog ← @Decoder.get collector .clfHttpLog
          emit (.clfLine client httpLog)
    | _ => return ()

def readFlowSample (expanded : Bool) : Decode Unit := do
  sfLog config "sampleType FLOWSAMPLE\n" []
  let sampleLength ← getData32
  mark .sampleStart
  readFlowSampleFields config expanded
  let numElements ← getData32
  readFlowElements config numElements.toNat
  lengthCheck "flow_sample" .sampleStart sampleLength
  note .flowSampleEnd
  emitFlowSample config

end SflowTool
