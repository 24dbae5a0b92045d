import SflowTool.A10Counters

/-! The machinery of the DDoS counter records and the records that are read field by
field. Most records are laid over a struct of words: as many words as the record
carries, and the struct has, are copied, and the rest of a longer record is jumped
over without a check. A struct that a shorter record does not fill keeps what an
earlier record of the datagram left. Names are looked up in fixed tables; a lookup is
noted, and the name printed for an index outside its table is not modelled. -/
namespace SflowTool
open Decoding Decoding.Decoder

variable (config : SFConfig)

def asciiText (text : String) : Text := text.toList.map fun char => UInt8.ofNat char.toNat

/-- The description is copied over the start of the old one, without a terminator. -/
def sflDdosDescription (description : String) : Decode Unit := do
  let old ← getText .sflDdosDesc
  let text := asciiText description
  setText .sflDdosDesc (text ++ old.drop text.length)

/-- The header just read is taken off the context length; the difference is an `int`
and has to be positive. -/
def sflDdosUpdateCtxLen (len : UInt32) : Decode Unit := do
  let contextLength ← getWord .currentContextLength
  let ctxLen := contextLength - len
  if len > contextLength then do
    sfLog config "[%s-%d] Sample Ctx length Update failed.\n"
      [.name "sfl_ddos_update_ctx_len", .word 4188]
    sfAbort .eos
  else if ctxLen ≠ 0 ∧ ctxLen < 0x80000000 then
    setWord .currentContextLength ctxLen
  else
    sfAbort .eos

/-- Words read into the fields of a struct, one after the other. -/
def populateWords (next : Decode UInt64) (member : DdosMember) : List String → Decode Unit
  | [] => return ()
  | field :: rest => do
      let data ← next
      setCounter member field data
      populateWords next member rest

/-- A record over a struct of words of `width` bytes. Its length is the context length
cut to 16 bits. -/
def populateSflowStruct (width : Nat) (next : Decode UInt64) (mismatch invalid : Line)
    (member : DdosMember) (fields : List String) : Decode Unit := do
  let contextLength ← getWord .currentContextLength
  let parseLength := contextLength.toNat % 65536
  let sflLength := width * fields.length
  if parseLength = 0 ∨ parseLength % width ≠ 0 then do
    sfLog config invalid.fmt invalid.args
    sfAbort .eos
  else do
    populateWords next member (fields.take (parseLength / width))
    when (sflLength < parseLength) do
      let description ← getText .sflDdosDesc
      sfLog config mismatch.fmt (.text description :: mismatch.args)
      jump (parseLength - sflLength)

def populateSflowStructU64 (member : DdosMember) (fields : List String) : Decode Unit :=
  populateSflowStruct config 8 getData64
    ⟨"Counter Length mismatch detected for %s, continuing...\n", []⟩
    ⟨"[%s-%d] Invalid parse length detected.\n",
      [.name "populate_sflow_struct_u64", .word 4213]⟩ member fields

def populateSflowStructU32 (member : DdosMember) (fields : List String) : Decode Unit :=
  populateSflowStruct config 4 (do let data ← getData32; return data.toUInt64)
    ⟨"Counter Length mismatch detected for %s, continuing...", []⟩
    ⟨"[%s-%d] Invalid parse length detected.\n",
      [.name "populate_sflow_struct_u32", .word 4250]⟩ member fields

/-- The fields of a filled struct, each under its label. -/
def logCountersU64 (member : DdosMember) (labels : List (String × String)) : Decode Unit := do
  let counters ← getCounters member
  labels.forM fun label => sfLogU64 config (counters label.1) label.2

def logCountersU32 (member : DdosMember) (labels : List (String × String)) : Decode Unit := do
  let counters ← getCounters member
  labels.forM fun label => sfLogU32 config (counters label.1).toUInt32 label.2

/-- A record whose struct fields are all logged in their order. -/
def readLabelledU64 (member : DdosMember) (labels : List (String × String)) : Decode Unit := do
  populateSflowStructU64 config member (labels.map Prod.fst)
  logCountersU64 config member labels

/-- A field that is logged as it is read and kept in its struct. -/
def storeField (member : DdosMember) (field : String × Field) : Decode Unit :=
  match field.2 with
  | .next16 fieldName => do
      let value ← sfLogNext16 config fieldName
      setCounter member field.1 value.toUInt64
  | .next32 fieldName => do
      let value ← sfLogNext32 config fieldName
      setCounter member field.1 value.toUInt64
  | .next64 fieldName => do
      let value ← sfLogNext64 config fieldName
      setCounter member field.1 value
  | other => logField config other

def storeFields (member : DdosMember) (fields : List (String × Field)) : Decode Unit :=
  fields.forM (storeField config member)

/-- The five numbers of an indicator. -/
def indicatorValue (path label : String) : List (String × Field) :=
  [(path ++ ".mean_x100", .next32 (label ++ ": Mean")),
   (path ++ ".variance_x100", .next32 (label ++ ": Variance")),
   (path ++ ".min_x100", .next32 (label ++ ": Min")),
   (path ++ ".nonzero_min_x100", .next32 (label ++ ": Nonzero Min")),
   (path ++ ".max_x100", .next32 (label ++ ": Max"))]

/-- What every group of indicators begins with. -/
def indicatorHeader (group : String) : List (String × Field) :=
  [(group ++ "seq_num", .next32 "Sequence #:"),
   (group ++ "num_data_points", .next16 "Num Data Points:"),
   (group ++ "elapsed_sec", .next16 "Elapsed sec:")]

def tcpIndicators (group drop : String) : List (String × Field) :=
  indicatorHeader group ++
  indicatorValue (group ++ "in_pkt_rate") "In Packet rate" ++
  indicatorValue (group ++ "in_syn_rate") "In SYN rate" ++
  indicatorValue (group ++ "in_fin_rate") "In FIN rate" ++
  indicatorValue (group ++ "in_rst_rate") "In RST rate" ++
  indicatorValue (group ++ "small_window_ack_rate") "Small Window ACK rate" ++
  indicatorValue (group ++ "empty_ack_rate") "Empty ACK rate" ++
  indicatorValue (group ++ "small_payload_rate") "Small Payload rate" ++
  indicatorValue (group ++ "in_byte_over_out_byte") "In byte over Out byte" ++
  indicatorValue (group ++ "syn_over_fin") "SYN over FIN" ++
  indicatorValue (group ++ "conn_miss_rate") "Conn miss rate" ++
  indicatorValue (group ++ "concurrent_conns") "Conncurrent conns" ++
  indicatorValue (group ++ "pkt_drop_rate") (drop ++ "Pkt Drop Rate") ++
  indicatorValue (group ++ "pkt_drop_recv_ratio") (drop ++ "Pkt Drop / Pkt Rcvd")

def udpIndicators (group drop : String) (smallPayload : List (String × Field)) :
    List (String × Field) :=
  indicatorHeader group ++
  indicatorValue (group ++ "in_pkt_rate") "In Packet rate" ++
  smallPayload ++
  indicatorValue (group ++ "in_byte_over_out_byte") "In byte over Out byte" ++
  indicatorValue (group ++ "pkt_drop_rate") (drop ++ "Pkt Drop Rate") ++
  indicatorValue (group ++ "pkt_drop_recv_ratio") (drop ++ "Pkt Drop / Pkt Rcvd")

def icmpIndicators (group drop : String) : List (String × Field) :=
  indicatorHeader group ++
  indicatorValue (group ++ "in_pkt_rate") "In Packet rate" ++
  indicatorValue (group ++ "in_byte_over_out_byte") "In byte over Out byte" ++
  indicatorValue (group ++ "pkt_drop_rate") (drop ++ "Pkt Drop Rate") ++
  indicatorValue (group ++ "pkt_drop_recv_ratio") (drop ++ "Pkt Drop / Pkt Rcvd")

def otherIndicators (group every : String) : List (String × Field) :=
  indicatorHeader group ++
  indicatorValue (group ++ "in_pkt_rate") (every ++ "In Packet rate") ++
  indicatorValue (group ++ "in_frag_rate") (every ++ "In Frag rate") ++
  indicatorValue (group ++ "in_byte_over_out_byte") (every ++ "In byte over Out byte") ++
  indicatorValue (group ++ "pkt_drop_rate") (every ++ "Pkt Drop Rate") ++
  indicatorValue (group ++ "pkt_drop_recv_ratio") (every ++ "Pkt Drop / Pkt Rcvd")

def dstIndicators : List (String × Field) :=
  tcpIndicators "tcp." "TCP " ++
  udpIndicators "udp." "UDP " (indicatorValue "udp.small_payload_rate" "Small Payload rate") ++
  icmpIndicators "icmp." "ICMP " ++ otherIndicators "other." "OTHER "

def dstUdpIndicators : List (String × Field) :=
  udpIndicators "" ""
    [("small_payload_rate.mean_x100", .next32 "Small Payload rate: Mean"),
     ("small_payload_rate.variance_x100", .next32 "Small Payload rate:: Variance"),
     ("small_payload_rate.min_x100", .next32 "Small Payload rate:: Min"),
     ("small_payload_rate.nonzero_min_x100", .next32 "Small Payload rate:: Nonzero Min"),
     ("small_payload_rate.max_x100", .next32 "Small Payload rate:: Max")]

def readCountersDdosDstIndicators : Decode Unit :=
  storeFields config .ddosDstIndicators dstIndicators

def readCountersDdosDstTcpIndicators : Decode Unit :=
  storeFields config .ddosDstTcpIndicators (tcpIndicators "" "")

def readCountersDdosDstUdpIndicators : Decode Unit :=
  storeFields config .ddosDstUdpIndicators dstUdpIndicators

def readCountersDdosDstIcmpIndicators : Decode Unit :=
  storeFields config .ddosDstIcmpIndicators (icmpIndicators "" "")

def readCountersDdosDstOtherIndicators : Decode Unit :=
  storeFields config .ddosDstOtherIndicators (otherIndicators "" "")

def ddosProtoStr : List String := ["UDP", "TCP", "ICM", "OTH", "HTTP", "DNST", "DNSU", "SSL-L4"]
def ddosStateFlag : List String := ["-", "W", "B", "?"]
def ddosTableType : List String := ["DST table", "SRC table", "SRC-DST table"]
def ddosIpType : List String := ["DDOS IPv6", "DDOS IPv4"]

/-- A name looked up by an index from the wire. -/
def lookupName (table : NameTable) (names : List String) (index : UInt32) : Decode Arg := do
  note (.lookup table index)
  return .name (names.getD index.toNat "")

def logNamed (fmt title : String) (table : NameTable) (names : List String) (index : UInt32) :
    Decode Unit := do
  let name ← lookupName table names index
  sfLog config fmt [.name title, name, .word index]

/-- An address of sixteen bytes; the type is compared as a character. -/
def getDDoSAddress (ipType : UInt32) : Decode Address :=
  if ipType &&& 0xff = 1 then do
    let octets ← getData32Nobswap
    let _ ← skipBytes 12
    return Address.ipV4 octets
  else do
    let octets ← skipBytes 16
    return Address.ipV6 octets

/-- The octets the caller copies out of the address it was given. An IPv4 address is
kept as a number. Where the type differs from it in its upper bytes only, sixteen
octets are copied of which four were written, in the order the host keeps them. -/
def copiedOctets (ipType : UInt32) (address : Address) : List UInt8 :=
  if ipType = 1 then address.octets
  else if address.type = 1 then (address.octets.reverse ++ config.stackOctets).take 16
  else address.octets

def modifyCommon (member : DdosMember) (change : DdosCommon → DdosCommon) : Decode Unit := do
  let common ← getCommon member
  setCommon member (change common)

def readCountersDdosIpCounterCommon (member : DdosMember) : Decode Unit := do
  let tableType ← getData32
  logNamed config "%-35s %s[%u]\n" "Table Type:" .ddosTableType ddosTableType tableType
  modifyCommon member fun common => { common with tableType }
  let ipType ← getData32
  logNamed config "%-35s %s[%u]\n" "IP Type:" .ddosIpType ddosIpType ipType
  modifyCommon member fun common => { common with ipType }
  let staticEntry ← sfLogNext32 config "Static:"
  modifyCommon member fun common => { common with staticEntry }
  let address ← getDDoSAddress ipType
  modifyCommon member fun common => { common with ip := copiedOctets config ipType address }
  sfLog config "%-35s %-20s\n" [.name "Address:", .address address]
  let dstAddress ← getDDoSAddress ipType
  modifyCommon member fun common => { common with dstIp := copiedOctets config ipType dstAddress }
  when (tableType = 2) (sfLog config "Dst Address: %s\n" [.address dstAddress])
  let subnetMask ← sfLogNext16 config "Subnet/Prefix:"
  modifyCommon member fun common => { common with subnetMask }
  let age ← sfLogNext16 config "Age:"
  modifyCommon member fun common => { common with age }

/-- The size of the packed common header. -/
def commonSize : UInt32 := 48

/-- An application type within the name table is printed in every output format. -/
def printAppType (appType : UInt32) : Decode Unit := do
  when (appType ≤ 7) do
    let name ← lookupName .ddosProto ddosProtoStr appType
    printf "%-35s %s\n" [.name "App type:", name]

/-- The port and application type between the common header and the counters. -/
def readCountersIpCounterPort (member : DdosMember) (title : String) : Decode Unit := do
  let port ← sfLogNext16 config title
  setCounter member "port" port.toUInt64
  let appType ← getData16
  setCounter member "app_type" appType.toUInt64
  printAppType appType

def readCountersDdosHttpIpCounter : Decode Unit :=
  readCountersIpCounterPort config .httpPerip "Port:"
def readCountersDdosSslL4IpCounter : Decode Unit :=
  readCountersIpCounterPort config .sslL4Perip "Port:"
def readCountersDdosUdpIpCounter : Decode Unit :=
  readCountersIpCounterPort config .udpPerip "Port:"
def readCountersDdosTcpIpCounter : Decode Unit :=
  readCountersIpCounterPort config .tcpPerip "Port:"
def readCountersDdosOtherIpCounter : Decode Unit :=
  readCountersIpCounterPort config .otherPerip "IP-Proto:"
def readCountersDdosDnsIpCounter : Decode Unit :=
  readCountersIpCounterPort config .dnsPerip "Port:"

def readCountersDdosPollingEntryMap : Decode Unit := do
  let isSrc ← getDataU8
  setCounter .pollingEntryMap "is_src" isSrc.toUInt64
  sfLog config "%-35s %-20s\n"
    [.name "Port Direction", .name (if isSrc ≠ 0 then "Source" else "Destination")]
  let portType ← getDataU8
  setCounter .pollingEntryMap "port_type" portType.toUInt64
  let portName ← (if portType > 0 then lookupName .ddosProto ddosProtoStr (portType - 1)
    else pure (.name "None"))
  sfLog config "%-35s %-20s\n" [.name "Port Type", portName]
  let port ← sfLogNext16 config "Port #"
  setCounter .pollingEntryMap "port" port.toUInt64
  sfLogNext8 config "Entry name" 64

/-- The connections closed in one state. -/
def closedCounters (state : String) : List (String × Field) :=
  [(state ++ ".client_fin", .next64 "Client FIN:"), (state ++ ".client_rst", .next64 "Client RST:"),
   (state ++ ".server_fin", .next64 "Server FIN:"), (state ++ ".server_rst", .next64 "Server RST:"),
   (state ++ ".idle", .next64 "Idle:"), (state ++ ".other", .next64 "Other:")]

def readCountersDdosPollingTcpStateful : Decode Unit := do
  storeFields config .pollingTcpStateful
    [("conn_open", .next64 "Connections Open:"), ("conn_est", .next64 "Connections Established:")]
  sfLogString config "Connections Closed when it was in the OPEN state:\n"
  storeFields config .pollingTcpStateful (closedCounters "open_closed")
  sfLogString config "Connections Closed when it was in the ESTABLISHED state:\n"
  storeFields config .pollingTcpStateful (closedCounters "est_closed")
  sfLogString config "TCP Handshake details:\n"
  storeFields config .pollingTcpStateful
    [("handshake.avg_syn_ack_delay_ms", .next16 "Avg SYN/ACK delay(ms):"),
     ("handshake.max_syn_ack_delay_ms", .next16 "Max SYN/ACK delay(ms):"),
     ("handshake.avg_ack_delay_ms", .next16 "Avg ACK delay(ms):"),
     ("handshake.max_ack_delay_ms", .next16 "Max ACK delay(ms):"),
     ("syn_retransmit", .next32 "SYN rexmit:"), ("psh_retransmit", .next32 "PUSH rexmit:"),
     ("ack_retransmit", .next32 "ACK rexmit:"), ("fin_retransmit", .next32 "FIN rexmit:"),
     ("total_retransmit", .next32 "Total rexmit:"), ("syn_ofo", .next32 "SYN OFO:"),
     ("psh_ofo", .next32 "PUSH OFO:"), ("ack_ofo", .next32 "ACK OFO:"),
     ("fin_ofo", .next32 "FIN OFO:"), ("total_ofo", .next32 "Total OFO:")]

def readCountersDdosPollingHttp : Decode Unit :=
  storeFields config .pollingHttp
    [("method_option_count", .next32 "OPTION:"), ("method_get_count", .next32 "GET:"),
     ("method_head_count", .next32 "HEAD:"), ("method_post_count", .next32 "POST:"),
     ("method_put_count", .next32 "PUT:"), ("method_delete_count", .next32 "DELETE:"),
     ("method_trace_count", .next32 "TRACE:"), ("method_connect_count", .next32 "CONNECT:"),
     ("method_other_count", .next32 "OTHER:"), ("status_1XX_count", .next32 "Status 1XX:"),
     ("status_2XX_count", .next32 "Status 2XX:"), ("status_3XX_count", .next32 "Status 3XX:"),
     ("status_4XX_count", .next32 "Status 4XX:"), ("status_5XX_count", .next32 "Status 5XX:"),
     ("status_other_count", .next32 "Status OTHER:"),
     ("avg_response_time_ms", .next16 "Average response time(ms):"),
     ("max_response_time_ms", .next16 "Max response time(ms):"),
     ("avg_health_check_time_ms", .next16 "Average Health check time(ms):"),
     ("max_health_check_time_ms", .next16 "Max Health check time(ms):")]

def readCountersDdosIpCounterResStat (member : DdosMember) : Decode Unit := do
  storeFields config member
    [("curr_conn", .next32 "Curr Conn:"), ("conn_limit", .next32 "Conn Limit:"),
     ("curr_conn_rate", .next32 "Curr ConnR:"), ("conn_rate_limit", .next32 "ConnR Limit:"),
     ("curr_pkt_rate", .next32 "Curr PktR:"), ("pkt_rate_limit", .next32 "PktR Limit:")]
  let currSynCookie ← getData32
  setCounter member "curr_syn_cookie" currSynCookie.toUInt64
  let synCookieThr ← getData32
  setCounter member "syn_cookie_thr" synCookieThr.toUInt64
  storeFields config member
    [("bl_drop_ct", .next64 "BL Drop:"), ("conn_rate_exceed_ct", .next64 "CRate Drop:"),
     ("pkt_rate_exceed_ct", .next64 "PRate Drop:"),
     ("conn_limit_exceed_ct", .next64 "CLimit Drop:")]

def readCountersDdosPortIpCounter : Decode Unit := do
  readCountersDdosIpCounterCommon config .port
  let port ← sfLogNext32 config "Port:"
  setCounter .port "port" port.toUInt64
  let appType ← getData32
  setCounter .port "app_type" appType.toUInt64
  printAppType appType
  storeFields config .port
    [("port_exceed_check", .next32 "Exceed:"), ("lockup_period", .next32 "LockU Time:")]
  readCountersDdosIpCounterResStat config .port

/-- One element of the protocol array. An index past its end is written all the same. -/
def readCountersDdosProtocol (index : Nat) : Decode Unit := do
  note (.statStore index)
  let proto ← getData32
  logNamed config "%-35s %s[%u]\n" "Protocol:" .ddosProto ddosProtoStr proto
  setCounter (.entryStat index) "protocol" proto.toUInt64
  let state ← getData32
  logNamed config "%-35s %s[%u]\n" "State:" .ddosState ddosStateFlag state
  setCounter (.entryStat index) "state" state.toUInt64
  storeFields config (.entryStat index)
    [("exceed_byte", .next32 "Exceed:"), ("lockup_period", .next32 "LockU Time:")]
  readCountersDdosIpCounterResStat config (.entryStat index)

/-- One element of the application array, likewise. -/
def readCountersDdosApp (index : Nat) : Decode Unit := do
  note (.appStatStore index)
  let app ← getData32
  logNamed config "%s %s[%u]\n" "App:" .ddosProto ddosProtoStr app
  setCounter (.entryAppStat index) "app" app.toUInt64
  let state ← getData32
  logNamed config "%s %s[%u]\n" "State:" .ddosState ddosStateFlag state
  setCounter (.entryAppStat index) "state" state.toUInt64
  storeFields config (.entryAppStat index)
    [("exceed_byte", .next32 "Exceed:"), ("lockup_period", .next32 "LockU Time:"),
     ("app_rate1", .next32 "App rate1:"), ("config_app_rate1", .next32 "Config app rate1:"),
     ("app_rate2", .next32 "App rate2:"), ("config_app_rate2", .next32 "Config app rate2:"),
     ("app_rate3", .next32 "App rate3:"), ("config_app_rate3", .next32 "Config app rate3:"),
     ("app_rate4", .next32 "App rate4:"), ("config_app_rate4", .next32 "Config app rate4:"),
     ("app_rate5", .next32 "App rate5:"), ("config_app_rate5", .next32 "Config app rate5:"),
     ("app_rate6", .next32 "App rate6:"), ("config_app_rate6", .next32 "Config app rate6:"),
     ("app_rate7", .next32 "App rate7:"), ("config_app_rate7", .next32 "Config app rate7:"),
     ("app_rate8", .next32 "App rate8:"), ("config_app_rate8", .next32 "Config app rate8:")]

/-- `remaining` elements of an array of the entry record, from `index` on. -/
def readEntryArray (readElement : Nat → Decode Unit) : Nat → Nat → Decode Unit
  | 0, _ => return ()
  | remaining + 1, index => do
      readElement index
      note .iteration
      readEntryArray readElement remaining (index + 1)

/-- The entry record keeps its header as the other per-entry records do, but copies
both addresses after it has read them. -/
def readCountersDdosIpCounterHeader : Decode Unit := do
  let tableType ← getData32
  modifyCommon .entry fun common => { common with tableType }
  logNamed config "%-35s %s[%u]\n" "Table Type:" .ddosTableType ddosTableType tableType
  let ipType ← getData32
  modifyCommon .entry fun common => { common with ipType }
  logNamed config "%-35s %s[%u]\n" "IP Type:" .ddosIpType ddosIpType ipType
  let staticEntry ← sfLogNext32 config "Static:"
  modifyCommon .entry fun common => { common with staticEntry }
  let address ← getDDoSAddress ipType
  sfLog config "%-35s %s\n" [.name "Address:", .address address]
  let dstAddress ← getDDoSAddress ipType
  when (tableType = 2)
    (sfLog config "%-35s %s\n" [.name "Dst Address:", .address dstAddress])
  modifyCommon .entry fun common =>
    { common with
      ip := copiedOctets config ipType address
      dstIp := copiedOctets config ipType dstAddress }
  let subnetMask ← sfLogNext16 config "Subnet/Prefix:"
  modifyCommon .entry fun common => { common with subnetMask }
  let age ← sfLogNext16 config "Age:"
  modifyCommon .entry fun common => { common with age }

/-- The number of elements the loops run over: the index is an `int` and the bound is
not, so that the comparison is unsigned. -/
def readCountersDdosIpCounter : Decode Unit := do
  readCountersDdosIpCounterHeader config
  let protoNum ← getData32
  sfLog config "%-35s %u\n" [.name "Protocol Num:", .word protoNum]
  setCounter .entry "proto_num" protoNum.toUInt64
  readEntryArray (readCountersDdosProtocol config) protoNum.toNat 0
  let appNum ← getData32
  sfLog config "%-35s %u\n" [.name "App Num:", .word appNum]
  setCounter .entry "app_num" appNum.toUInt64
  readEntryArray (readCountersDdosApp config) appNum.toNat 0

end SflowTool
