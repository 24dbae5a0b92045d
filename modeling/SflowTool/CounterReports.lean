import SflowTool.StructCopies
import SflowTool.Emitting

/-! What the records over structs of 64-bit words report: the counters under their labels,
and the metrics some of them send. Each is a function of the sample behind the copy. -/
namespace SflowTool
open Decoding Decoding.Decoder

section Steps

variable {config : SFConfig} {buffer : Buffer} {sample : SFSample}

/-- What a logging call shows. -/
def logEvents (config : SFConfig) (line : Line) : List Event :=
  if config.outputFormat = .full then [.log line] else []

theorem logTrace_events (line : Line) :
    (logTrace config line sample).map Stamped.event = logEvents config line := by
  unfold logTrace logEvents
  split <;> rfl

theorem emits_sfLog (fmt : String) (args : List Arg) :
    (run buffer (sfLog config fmt args) sample).Emits () sample (logEvents config ⟨fmt, args⟩) := by
  rw [run_sfLog]
  exact ⟨⟨rfl, rfl⟩, logTrace_events _⟩

/-- The line of a counter that was copied, under its label. -/
def counterLine (counters : String → UInt64) (label : String × String) : Line :=
  ⟨"%-35s %-20u\n", [.name label.2, .dword (counters label.1)]⟩

def counterLines (config : SFConfig) (counters : String → UInt64)
    (labels : List (String × String)) : List Event :=
  labels.flatMap fun label => logEvents config (counterLine counters label)

theorem emits_logCountersU64 (member : DdosMember) (labels : List (String × String)) :
    (run buffer (logCountersU64 config member labels) sample).Emits () sample
      (counterLines config (countersOf sample member) labels) := by
  unfold logCountersU64
  refine emits_behind buffer _ _ (@emits_get collector buffer (.counters member) sample) ?_
  exact emits_forM buffer _ _ (fun _ => emits_sfLog _ _) labels

/-- The tags of a device, and those of an entry. -/
def deviceTagsOf (sample : SFSample) : Line :=
  ⟨"agent=%08x\n", [.word (agentWord (addressOf sample .agentAddr))]⟩

def dwordOf (sample : SFSample) (var : DwordVar) : UInt64 := sample.store (.dword var)

def commonOf (sample : SFSample) (member : DdosMember) : DdosCommon := sample.store (.common member)

def entryTagsOf (common : DdosCommon) (agent : UInt32) (columns columns6 : String)
    (args : List Arg) : Line :=
  if common.ipType = 1 then
    ⟨"ip=%08x prefix=%d" ++ columns ++ " agent=%08x type=%x\n",
      [.word (UInt32.ofNat (beNat common.ip)), .word common.subnetMask] ++ args ++
        [.word agent, .word common.ipType]⟩
  else
    ⟨"ip=%02x%02x%02x%02x%02x%02x%02x%02x%02x%02x%02x%02x%02x%02x%02x%02x prefix=%d" ++
        columns6 ++ " agent=%08x\n",
      [.bytes common.ip, .word common.subnetMask] ++ args ++ [.word agent]⟩

theorem emits_agentTags :
    (run buffer agentTags sample).Emits (deviceTagsOf sample) sample [] := ⟨⟨rfl, rfl⟩, rfl⟩

theorem emits_entryTags (member : DdosMember) (columns columns6 : String) (args : List Arg) :
    (run buffer (entryTags member columns columns6 args) sample).Emits
      (entryTagsOf (commonOf sample member) (agentWord (addressOf sample .agentAddr)) columns
        columns6 args) sample [] := by
  unfold entryTags
  refine emits_behind buffer _ _ (@emits_get collector buffer (.common member) sample) ?_
  refine emits_behind buffer _ _ (@emits_get collector buffer (.address .agentAddr) sample) ?_
  unfold entryTagsOf commonOf
  split
  · exact emits_pure buffer _ sample
  · exact emits_pure buffer _ sample

/-- What the copy of a record longer than its struct reports. -/
def mismatchEvents (config : SFConfig) (fields : List String) (sample : SFSample) : List Event :=
  if 8 * fields.length < parseLengthOf sample then
    logEvents config ⟨"Counter Length mismatch detected for %s, continuing...\n",
      [.text (textOf sample .sflDdosDesc)]⟩
  else []

/-- The sample behind a record over a struct of 64-bit words. -/
def behindU64 (buffer : Buffer) (member : DdosMember) (fields : List String)
    (sample : SFSample) : SFSample :=
  behindRecord buffer 8 member fields (8 * fields.length) sample

theorem emits_populate (member : DdosMember) (fields : List String)
    (copyable : Copyable buffer 8 fields sample) :
    (run buffer (populateSflowStructU64 config member fields) sample).Emits ()
      (behindU64 buffer member fields sample) (mismatchEvents config fields sample) := by
  unfold populateSflowStructU64
  rw [populateSflowStruct_eq, run_populateStruct reads_getData64 copyable]
  refine ⟨⟨rfl, rfl⟩, ?_⟩
  unfold mismatchTrace mismatchEvents
  split
  · exact logTrace_events _
  · rfl

/-- What a record reports whose announced length is not one of words. -/
def invalidEvents (config : SFConfig) (sample : SFSample) : List Event :=
  if parseLengthOf sample = 0 ∨ parseLengthOf sample % 8 ≠ 0 then
    logEvents config ⟨"[%s-%d] Invalid parse length detected.\n",
      [.name "populate_sflow_struct_u64", .word 4213]⟩
  else []

theorem breaks_populate (member : DdosMember) (fields : List String)
    (blocked : ¬Copyable buffer 8 fields sample) :
    (run buffer (populateSflowStructU64 config member fields) sample).Breaks
      (invalidEvents config sample) := by
  unfold populateSflowStructU64
  obtain ⟨reason, final, stopped⟩ := populateStruct_stops config
    ⟨"Counter Length mismatch detected for %s, continuing...\n", []⟩
    ⟨"[%s-%d] Invalid parse length detected.\n",
      [.name "populate_sflow_struct_u64", .word 4213]⟩ member (8 * fields.length)
    reads_getData64 blocked
  rw [populateSflowStruct_eq, stopped]
  refine ⟨⟨reason, rfl⟩, ?_⟩
  unfold invalidTrace invalidEvents
  split
  · exact logTrace_events _
  · rfl

end Steps

section Records

/-- A record over a struct of 64-bit words: its decoder, the struct with the labels its fields
are printed under, and what is sent of the sample behind the copy, before or after that. -/
structure StructRecord where
  read : SFConfig → Decode Unit
  member : DdosMember
  fields : List String
  labels : List (String × String)
  sends : SFConfig → SFSample → List (List Metric)
  sendsLast : Bool

namespace StructRecord

def lines (record : StructRecord) (config : SFConfig) (sample : SFSample) : List Event :=
  counterLines config (countersOf sample record.member) record.labels

def report (record : StructRecord) (config : SFConfig) (sample : SFSample) : List Event :=
  let metrics := (record.sends config sample).map .opentsdb
  if record.sendsLast then record.lines config sample ++ metrics
  else metrics ++ record.lines config sample

/-- A record that is copied is reported as it then stands in the sample; one that is not
stops its datagram. -/
structure Reports (record : StructRecord) : Prop where
  copied : ∀ (config : SFConfig) (buffer : Buffer) (sample : SFSample),
    Copyable buffer 8 record.fields sample →
      (run buffer (record.read config) sample).Displays
        (mismatchEvents config record.fields sample ++
          record.report config (behindU64 buffer record.member record.fields sample))
  stopped : ∀ (config : SFConfig) (buffer : Buffer) (sample : SFSample),
    ¬Copyable buffer 8 record.fields sample →
      (run buffer (record.read config) sample).Breaks (invalidEvents config sample)

end StructRecord

def labelledRecord (read : SFConfig → Decode Unit) (member : DdosMember) (fields : List String)
    (labels : List (String × String)) : StructRecord :=
  ⟨read, member, fields, labels, fun _ _ => [], false⟩

/-- A record of the device whose metrics are sums of its fields. -/
def exportedRecord (read : SFConfig → Decode Unit) (member : DdosMember) (fields : List String)
    (labels : List (String × String)) (rows : List (String × List String)) : StructRecord where
  read
  member
  fields
  labels
  sends config sample :=
    [sumMetrics config (deviceTagsOf sample) (countersOf sample member) rows]
  sendsLast := false

/-- The tags of an entry as its record sends them. -/
def sentTags (sample : SFSample) (member : DdosMember) (columns columns6 : String)
    (args : List Arg) : Line :=
  entryTagsOf (commonOf sample member) (agentWord (addressOf sample .agentAddr)) columns columns6 args

def globalRecords : List StructRecord :=
  [labelledRecord readCountersDdosCounter .l4 (sflowDdosL4GlobalCounters.map Prod.fst)
     sflowDdosL4GlobalCounters,
   exportedRecord readCountersDdosHttpCounter .http (sflowDdosHttpExtCounters.map Prod.fst)
     sflowDdosHttpExtCounters
     [("global_http_other_drop",
       ["ddos_policy_violation", "challenge_ud_sent", "challenge_js_sent"])],
   exportedRecord readCountersDdosDnsCounter .dns sflowDdosDnsStatsFields sflowDdosDnsStatsLabels
     [("global_force_tcp_auth", ["force_tcp_auth"])],
   exportedRecord readCountersDdosFpgaAnomalyCounter .anomaly
     (sflowDdosAnomalyCounters.map Prod.fst) sflowDdosAnomalyCounters
     [("packet_anomaly_dropped", sflowDdosAnomalyCounters.map Prod.fst)],
   labelledRecord readCountersDdosPollingPackets .pollingPackets
     (sflowDdosPacketCounters.map Prod.fst) sflowDdosPacketCounters,
   exportedRecord readCountersDdosSslL4Counter .sslL4 (sflowDdosSslL4.map Prod.fst) sflowDdosSslL4
     [("global_ssl_drop", ["ssll4_policy_reset", "ssll4_drop_packet"])],
   exportedRecord readCountersDdosL4TcpCounter .l4Tcp (sflowDdosL4TcpStats.map Prod.fst)
     sflowDdosL4TcpStats
     [("global_tcp_auth", ["tcp_syncookie_sent", "tcp_syncookie_sent_fail"]),
      ("tcp_invalid_syn", ["tcp_invalid_syn_rcvd"])],
   labelledRecord readCountersDdosL4UdpCounter .l4Udp sflowDdosL4UdpStatsFields
     sflowDdosL4UdpStatsLabels,
   labelledRecord readCountersDdosL4OtherCounter .l4Other sflowDdosL4OtherStatsFields
     sflowDdosL4OtherStatsLabels,
   labelledRecord readCountersDdosL4IcmpCounter .l4Icmp (sflowDdosL4IcmpStats.map Prod.fst)
     sflowDdosL4IcmpStats,
   labelledRecord readCountersDdosL4SwitchCounter .l4Switch (sflowDdosSwitchStats.map Prod.fst)
     sflowDdosSwitchStats,
   labelledRecord readCountersDdosL4SessionCounter .l4Session (sflowDdosSessStats.map Prod.fst)
     sflowDdosSessStats,
   labelledRecord readCountersDdosL4SyncCounter .l4Sync (sflowDdosSyncStats.map Prod.fst)
     sflowDdosSyncStats,
   labelledRecord readCountersDdosL4TunnelCounter .l4Tunnel (sflowDdosTunnelStats.map Prod.fst)
     sflowDdosTunnelStats,
   labelledRecord readCountersDdosEntryTableCounter .entryTable
     (sflowDdosTableStats.map Prod.fst) sflowDdosTableStats,
   labelledRecord readCountersDdosLongStatsCounter .ddosLongStats sflowDdosLongStatsFields
     sflowDdosLongStatsLabels]

/-- What the brief record sends of its counters. -/
def briefMetrics : List (String × List String) :=
  [("intcp", ["intcp"]), ("inudp", ["inudp"]), ("inicmp", ["inicmp"]), ("inother", ["inother"]),
   ("tcp_total_drop", ["tcp_total_drop"]), ("udp_total_drop", ["udp_total_drop"]),
   ("icmp_total_drop", ["icmp_total_drop"]), ("other_total_drop", ["other_total_drop"]),
   ("tcp_sess_create", ["tcp_sess_create"]), ("udp_sess_create", ["udp_sess_create"]),
   ("global_dst_packet_sent", ["dst_fwd_pkt_sent"]),
   ("global_dst_ingress_bytes", ["dst_ingress_bytes"]),
   ("global_dst_egress_bytes", ["dst_fwd_byte_sent"])]

/-- The brief record also sends what is left of its packets by the last anomaly record. -/
def briefRecord : StructRecord where
  read := readCountersDdosBriefStatsCounter
  member := .ddosBriefStats
  fields := sflowDdosBriefStats.map Prod.fst
  labels := sflowDdosBriefStats
  sends config sample :=
    let counters := countersOf sample .ddosBriefStats
    [sumMetrics config (deviceTagsOf sample) counters briefMetrics ++
      [metric config "packet_anomaly_passed" (deviceTagsOf sample)
        (counters "ip_rcvd" + counters "ipv6_rcvd" -
          dwordOf sample .packetAnomalyDropped)]]
  sendsLast := false

def httpT2Metrics : List (String × List String) :=
  [("http_dropped", httpDroppedFields), ("http_challenge_sent", httpChallengeSentFields),
   ("dst_http_challenge_sent", dstHttpChallengeSentFields),
   ("http_policy_violation", ["ddos_policy_violation", "src_ddos_policy_violation"]),
   ("dst_http_policy_violation", ["ddos_policy_violation"]),
   ("http_excl_src_dropped", httpExclSrcDroppedFields)]

def httpT2Record : StructRecord where
  read := readCountersDdosHttpT2Counter
  member := .httpPerip
  fields := sflowDdosIpCounterHttpT2DataFields
  labels := sflowDdosIpCounterHttpT2DataLabels
  sends config sample :=
    let counters := countersOf sample .httpPerip
    [sumMetrics config
      (sentTags sample .httpPerip " port=%d" " port=%d" [portArg counters]) counters httpT2Metrics]
  sendsLast := true

def sslL4T2Record : StructRecord where
  read := readCountersDdosSslL4T2Counter
  member := .sslL4Perip
  fields := sflowDdosIpCounterSslL4T2Data.map Prod.fst
  labels := sflowDdosIpCounterSslL4T2Data
  sends config sample :=
    let counters := countersOf sample .sslL4Perip
    [sumMetrics config
      (sentTags sample .sslL4Perip " port=%d" "  port=%d" [portArg counters]) counters
      [("ssl_dropped", ["src_ssll4_drop_packet", "src_ssll4_policy_reset"]),
       ("dst_ssl_dropped", ["ssll4_drop_packet", "ssll4_policy_reset"])]]
  sendsLast := true

def dnsT2Record : StructRecord where
  read := readCountersDdosDnsCounterT2
  member := .dnsPerip
  fields := sflowDdosIpCounterDnsT2DataFields
  labels := sflowDdosIpCounterDnsT2DataLabels
  sends config sample :=
    let counters := countersOf sample .dnsPerip
    let tags := sentTags sample .dnsPerip " port=%d app-type=%d" " port=%d app-type=%d"
      [portArg counters, appTypeArg counters]
    [sumMetrics config tags counters
      [("dns_dropped", dnsDroppedFields), ("dst_force_tcp", ["force_tcp_auth"]),
       ("force_tcp", ["force_tcp_auth", "src_force_tcp_auth"])] ++
        [metric config "dns_excl_src_dropped" tags (dwordOf sample .dnsExclSrcDropped)]]
  sendsLast := true

def icmpT2Record : StructRecord where
  read := readCountersDdosIcmpCounterT2
  member := .icmpPerip
  fields := sflowDdosIpCounterIcmpT2Data.map Prod.fst
  labels := sflowDdosIpCounterIcmpT2Data
  sends config sample :=
    [sumMetrics config (sentTags sample .icmpPerip "" "" [])
      (countersOf sample .icmpPerip)
      [("icmp_dropped", sflowDdosIpCounterIcmpT2Data.map Prod.fst)]]
  sendsLast := false

/-- The two metrics of an entry that are differences. -/
def ipProtoDroppedOf (counters : String → UInt64) : UInt64 :=
  ipProtoSubtrahend.foldl (fun left field => left - counters field) (counters "dst_other_drop")

def portCmDroppedOf (counters : String → UInt64) : UInt64 :=
  sumOf counters portCmMinuend - sumOf counters portCmSubtrahend

def l4T2Metrics (config : SFConfig) (tags : Line) (counters : String → UInt64) : List Metric :=
  sumMetrics config tags counters l4EntryMetrics ++
    sumMetrics config tags counters
      [("dst_rates_dropped", dstRatesDroppedFields),
       ("port_wildcards_dropped", portWildcardsDroppedFields),
       ("src_rates_dropped", srcRatesDroppedFields)] ++
    [metric config "port_cm_dropped" tags (portCmDroppedOf counters)] ++
    sumMetrics config tags counters [("src_auth_dropped", srcAuthDroppedFields)] ++
    [metric config "ip_proto_dropped" tags (ipProtoDroppedOf counters)] ++
    sumMetrics config tags counters [("out_no_route", ["dst_out_no_route"])]

def l4T2Record : StructRecord where
  read := readCountersDdosL4IpCounterT2
  member := .l4Perip
  fields := sflowDdosIpCounterL4T2DataFields
  labels := sflowDdosIpCounterL4T2DataLabels
  sends config sample :=
    [l4T2Metrics config (sentTags sample .l4Perip "" "" []) (countersOf sample .l4Perip)]
  sendsLast := false

def l4ExtT2Record : StructRecord where
  read := readCountersDdosL4ExtIpCounterT2
  member := .l4ExtPerip
  fields := sflowDdosIpCounterL4ExtT2Data.map Prod.fst
  labels := sflowDdosIpCounterL4ExtT2Data
  sends config sample :=
    [sumMetrics config (sentTags sample .l4ExtPerip "" "" [])
      (countersOf sample .l4ExtPerip)
      (sflowDdosIpCounterL4ExtT2Data.map fun label => (label.1, [label.1]))]
  sendsLast := false

/-- The per-entry records whose counters are read behind the common header. -/
def entryRecords : List StructRecord :=
  [httpT2Record, sslL4T2Record, dnsT2Record, icmpT2Record, l4T2Record, l4ExtT2Record,
   labelledRecord readCountersDdosUdpT2Counter .udpPerip
     (sflowDdosIpCounterUdpT2Data.map Prod.fst) sflowDdosIpCounterUdpT2Data,
   labelledRecord readCountersDdosTcpT2Counter .tcpPerip
     (sflowDdosIpCounterTcpT2Data.map Prod.fst) sflowDdosIpCounterTcpT2Data,
   labelledRecord readCountersDdosOtherT2Counter .otherPerip
     (sflowDdosIpCounterOtherT2Data.map Prod.fst) sflowDdosIpCounterOtherT2Data]

/-- Every record that is copied word by word into a struct of 64-bit counters. -/
def structRecords : List StructRecord := briefRecord :: (globalRecords ++ entryRecords)

section Reading

variable {config : SFConfig} {buffer : Buffer} {sample : SFSample}

theorem emits_getCounters (member : DdosMember) :
    (run buffer (getCounters member) sample).Emits (countersOf sample member) sample [] :=
  ⟨⟨rfl, rfl⟩, rfl⟩

/-- Statics that are set leave everything that is reported as it was. -/
def holdingDword (sample : SFSample) (var : DwordVar) (value : UInt64) : SFSample :=
  @State.assigned collector sample (.dword var) value

theorem emits_setDword (var : DwordVar) (value : UInt64) :
    (run buffer (setDword var value) sample).Emits () (holdingDword sample var value) [] :=
  ⟨⟨rfl, rfl⟩, rfl⟩

theorem emits_setSum (var : DwordVar) (counters : String → UInt64) (fields : List String) :
    (run buffer (setSum var counters fields) sample).Emits ()
      (holdingDword sample var (sumOf counters fields)) [] := emits_setDword var _

theorem countersOf_holdingDword (var : DwordVar) (value : UInt64) (member : DdosMember) :
    countersOf (holdingDword sample var value) member = countersOf sample member := rfl

theorem labelled_reports (member : DdosMember) (fields : List String)
    (labels : List (String × String)) :
    (labelledRecord (fun config => do
      populateSflowStructU64 config member fields
      logCountersU64 config member labels) member fields labels).Reports := by
  constructor
  · intro config buffer sample copyable
    exact displays_bind buffer _ _ (emits_populate member fields copyable)
      (emits_logCountersU64 member labels).displays
  · intro config buffer sample blocked
    exact breaks_first buffer _ _ (breaks_populate member fields blocked)

theorem exported_reports (member : DdosMember) (fields : List String)
    (labels : List (String × String)) (rows : List (String × List String)) :
    (exportedRecord (fun config => readExportedU64 config member fields labels rows) member fields
      labels rows).Reports := by
  constructor
  · intro config buffer sample copyable
    refine displays_behind buffer _ _ emits_agentTags ?_
    refine displays_bind buffer _ _ (emits_populate member fields copyable) ?_
    refine displays_behind buffer _ _ (emits_getCounters member) ?_
    exact displays_bind buffer _ _ (@emits_emit collector buffer _ _) (emits_logCountersU64 member labels).displays
  · intro config buffer sample blocked
    exact breaks_behind buffer _ _ emits_agentTags
      (breaks_first buffer _ _ (breaks_populate member fields blocked))

set_option maxRecDepth 8000 in
theorem anomaly_reports : (exportedRecord readCountersDdosFpgaAnomalyCounter .anomaly
    (sflowDdosAnomalyCounters.map Prod.fst) sflowDdosAnomalyCounters
    [("packet_anomaly_dropped", sflowDdosAnomalyCounters.map Prod.fst)]).Reports := by
  constructor
  · intro config buffer sample copyable
    refine displays_behind buffer _ _ emits_agentTags ?_
    refine displays_bind buffer _ _ (emits_populate .anomaly _ copyable) ?_
    refine displays_behind buffer _ _ (emits_getCounters .anomaly) ?_
    refine displays_behind buffer _ _ (emits_setDword .packetAnomalyDropped _) ?_
    exact displays_bind buffer _ _ (@emits_emit collector buffer _ _) (emits_logCountersU64 .anomaly _).displays
  · intro config buffer sample blocked
    exact breaks_behind buffer _ _ emits_agentTags
      (breaks_first buffer _ _ (breaks_populate .anomaly _ blocked))

set_option maxRecDepth 8000 in
theorem brief_reports : briefRecord.Reports := by
  constructor
  · intro config buffer sample copyable
    refine displays_behind buffer _ _ emits_agentTags ?_
    refine displays_bind buffer _ _ (emits_populate .ddosBriefStats _ copyable) ?_
    refine displays_behind buffer _ _ (emits_getCounters .ddosBriefStats) ?_
    refine displays_behind buffer _ _ (@emits_get collector buffer (.dword .packetAnomalyDropped) _) ?_
    refine displays_behind buffer _ _ (emits_setDword .packetAnomalyPassed _) ?_
    exact displays_bind buffer _ _ (@emits_emit collector buffer _ _)
      (emits_logCountersU64 .ddosBriefStats _).displays
  · intro config buffer sample blocked
    exact breaks_behind buffer _ _ emits_agentTags
      (breaks_first buffer _ _ (breaks_populate .ddosBriefStats _ blocked))

theorem httpT2_reports : httpT2Record.Reports := by
  constructor
  · intro config buffer sample copyable
    refine displays_bind buffer _ _ (emits_populate .httpPerip _ copyable) ?_
    refine displays_behind buffer _ _ (emits_getCounters .httpPerip) ?_
    refine displays_behind buffer _ _ (emits_entryTags .httpPerip _ _ _) ?_
    refine displays_bind buffer _ _ (emits_logCountersU64 .httpPerip _) ?_
    refine displays_behind buffer _ _ (emits_setSum .httpDropped _ _) ?_
    refine displays_behind buffer _ _ (emits_setSum .httpChallengeSent _ _) ?_
    refine displays_behind buffer _ _ (emits_setSum .dstHttpChallengeSent _ _) ?_
    refine displays_behind buffer _ _ (emits_setSum .httpExclSrcDropped _ _) ?_
    exact (@emits_emit collector buffer _ _).displays
  · intro config buffer sample blocked
    exact breaks_first buffer _ _ (breaks_populate .httpPerip _ blocked)

theorem sslL4T2_reports : sslL4T2Record.Reports := by
  constructor
  · intro config buffer sample copyable
    refine displays_bind buffer _ _ (emits_populate .sslL4Perip _ copyable) ?_
    refine displays_behind buffer _ _ (emits_getCounters .sslL4Perip) ?_
    refine displays_behind buffer _ _ (emits_entryTags .sslL4Perip _ _ _) ?_
    refine displays_bind buffer _ _ (emits_logCountersU64 .sslL4Perip _) ?_
    exact (@emits_emit collector buffer _ _).displays
  · intro config buffer sample blocked
    exact breaks_first buffer _ _ (breaks_populate .sslL4Perip _ blocked)

theorem dnsT2_reports : dnsT2Record.Reports := by
  constructor
  · intro config buffer sample copyable
    refine displays_bind buffer _ _ (emits_populate .dnsPerip _ copyable) ?_
    refine displays_behind buffer _ _ (emits_getCounters .dnsPerip) ?_
    refine displays_behind buffer _ _ (emits_entryTags .dnsPerip _ _ _) ?_
    refine displays_bind buffer _ _ (emits_logCountersU64 .dnsPerip _) ?_
    refine displays_behind buffer _ _ (emits_setSum .dnsDropped _ _) ?_
    refine displays_behind buffer _ _ (@emits_get collector buffer (.dword .dnsExclSrcDropped) _) ?_
    exact (@emits_emit collector buffer _ _).displays
  · intro config buffer sample blocked
    exact breaks_first buffer _ _ (breaks_populate .dnsPerip _ blocked)

theorem icmpT2_reports : icmpT2Record.Reports := by
  constructor
  · intro config buffer sample copyable
    refine displays_bind buffer _ _ (emits_populate .icmpPerip _ copyable) ?_
    refine displays_behind buffer _ _ (emits_getCounters .icmpPerip) ?_
    refine displays_behind buffer _ _ (emits_entryTags .icmpPerip _ _ _) ?_
    refine displays_behind buffer _ _ (emits_setSum .icmpDropped _ _) ?_
    exact displays_bind buffer _ _ (@emits_emit collector buffer _ _) (emits_logCountersU64 .icmpPerip _).displays
  · intro config buffer sample blocked
    exact breaks_first buffer _ _ (breaks_populate .icmpPerip _ blocked)

set_option maxRecDepth 8000 in
theorem l4T2_reports : l4T2Record.Reports := by
  constructor
  · intro config buffer sample copyable
    refine displays_bind buffer _ _ (emits_populate .l4Perip _ copyable) ?_
    refine displays_behind buffer _ _ (emits_getCounters .l4Perip) ?_
    refine displays_behind buffer _ _ (emits_entryTags .l4Perip _ _ _) ?_
    refine displays_behind buffer _ _ (emits_setSum .portWildcardsDropped _ _) ?_
    refine displays_behind buffer _ _ (emits_setSum .dstRatesDropped _ _) ?_
    refine displays_behind buffer _ _ (emits_setSum .srcAuthDropped _ _) ?_
    refine displays_behind buffer _ _ (emits_setSum .srcRatesDropped _ _) ?_
    refine displays_behind buffer _ _ (emits_setDword .ipProtoDropped _) ?_
    refine displays_behind buffer _ _ (emits_setDword .portCmDropped _) ?_
    exact displays_bind buffer _ _ (@emits_emit collector buffer _ _) (emits_logCountersU64 .l4Perip _).displays
  · intro config buffer sample blocked
    exact breaks_first buffer _ _ (breaks_populate .l4Perip _ blocked)

theorem l4ExtT2_reports : l4ExtT2Record.Reports := by
  constructor
  · intro config buffer sample copyable
    refine displays_bind buffer _ _ (emits_populate .l4ExtPerip _ copyable) ?_
    refine displays_behind buffer _ _ (emits_getCounters .l4ExtPerip) ?_
    refine displays_behind buffer _ _ (emits_entryTags .l4ExtPerip _ _ _) ?_
    exact displays_bind buffer _ _ (@emits_emit collector buffer _ _) (emits_logCountersU64 .l4ExtPerip _).displays
  · intro config buffer sample blocked
    exact breaks_first buffer _ _ (breaks_populate .l4ExtPerip _ blocked)

theorem globalRecords_report : ∀ record ∈ globalRecords, record.Reports := by
  unfold globalRecords
  simp only [List.forall_mem_cons, List.not_mem_nil, false_imp_iff, implies_true, and_true]
  refine ⟨labelled_reports .l4 _ _, exported_reports .http _ _ _, exported_reports .dns _ _ _,
    anomaly_reports, labelled_reports .pollingPackets _ _, exported_reports .sslL4 _ _ _,
    exported_reports .l4Tcp _ _ _, labelled_reports .l4Udp _ _, labelled_reports .l4Other _ _,
    labelled_reports .l4Icmp _ _, labelled_reports .l4Switch _ _, labelled_reports .l4Session _ _,
    labelled_reports .l4Sync _ _, labelled_reports .l4Tunnel _ _, labelled_reports .entryTable _ _,
    labelled_reports .ddosLongStats _ _⟩

theorem entryRecords_report : ∀ record ∈ entryRecords, record.Reports := by
  unfold entryRecords
  simp only [List.forall_mem_cons, List.not_mem_nil, false_imp_iff, implies_true, and_true]
  exact ⟨httpT2_reports, sslL4T2_reports, dnsT2_reports, icmpT2_reports, l4T2_reports,
    l4ExtT2_reports, labelled_reports .udpPerip _ _, labelled_reports .tcpPerip _ _,
    labelled_reports .otherPerip _ _⟩

/-- Every record over a struct of 64-bit words reports what the struct then holds. -/
theorem structRecords_report : ∀ record ∈ structRecords, record.Reports := by
  intro record member
  rcases List.mem_cons.mp member with rfl | member
  · exact brief_reports
  · rcases List.mem_append.mp member with global | entry
    · exact globalRecords_report record global
    · exact entryRecords_report record entry

end Reading

end Records

end SflowTool
