import SflowTool.FlowSample

/-! The counter record decoders. Most of them read a fixed list of fields and log
each one: such a decoder is its field list. The others copy what they read into the
sample, carry strings, or look at a hardware address before the check that moves
over it. -/
namespace SflowTool
open Decoding Decoding.Decoder

variable (config : SFConfig)

/-- A field of a fixed counter record: how it is read and the name it is logged under. -/
inductive Field where
  | next16 (fieldName : String)
  | next32 (fieldName : String)
  | next64 (fieldName : String)
  | percentage (fieldName : String)
  | nextFloat (fieldName : String)
deriving DecidableEq

/-- The bytes a field takes on the wire. -/
def Field.width : Field → Nat
  | .next16 _ => 2
  | .next32 _ => 4
  | .next64 _ => 8
  | .percentage _ => 4
  | .nextFloat _ => 4

def logField : Field → Decode Unit
  | .next16 fieldName => do let _ ← sfLogNext16 config fieldName
  | .next32 fieldName => do let _ ← sfLogNext32 config fieldName
  | .next64 fieldName => do let _ ← sfLogNext64 config fieldName
  | .percentage fieldName => sfLogPercentage config fieldName
  | .nextFloat fieldName => sfLogNextFloat config fieldName

def logFields : List Field → Decode Unit
  | [] => return ()
  | field :: rest => do
      logField config field
      logFields rest

/-- The bytes a list of fields takes on the wire. -/
def widthOf (fields : List Field) : Nat := (fields.map Field.width).sum

def storeNext32 (var : WordVar) (fieldName : String) : Decode Unit := do
  let value ← sfLogNext32 config fieldName
  setWord var value

def storeNext64 (var : DwordVar) (fieldName : String) : Decode Unit := do
  let value ← sfLogNext64 config fieldName
  setDword var value

def readCountersGeneric : Decode Unit := do
  storeNext32 config .ifIndex "ifIndex"
  storeNext32 config .ifType "networkType"
  storeNext64 config .ifSpeed "ifSpeed"
  storeNext32 config .ifDirection "ifDirection"
  storeNext32 config .ifStatus "ifStatus"
  storeNext64 config .ifInOctets "ifInOctets"
  storeNext32 config .ifInUcastPkts "ifInUcastPkts"
  storeNext32 config .ifInMulticastPkts "ifInMulticastPkts"
  storeNext32 config .ifInBroadcastPkts "ifInBroadcastPkts"
  storeNext32 config .ifInDiscards "ifInDiscards"
  storeNext32 config .ifInErrors "ifInErrors"
  storeNext32 config .ifInUnknownProtos "ifInUnknownProtos"
  storeNext64 config .ifOutOctets "ifOutOctets"
  storeNext32 config .ifOutUcastPkts "ifOutUcastPkts"
  storeNext32 config .ifOutMulticastPkts "ifOutMulticastPkts"
  storeNext32 config .ifOutBroadcastPkts "ifOutBroadcastPkts"
  storeNext32 config .ifOutDiscards "ifOutDiscards"
  storeNext32 config .ifOutErrors "ifOutErrors"
  storeNext32 config .ifPromiscuousMode "ifPromiscuousMode"

def readCountersEthernet : Decode Unit :=
  logFields config
    [.next32 "dot3StatsAlignmentErrors", .next32 "dot3StatsFCSErrors",
     .next32 "dot3StatsSingleCollisionFrames", .next32 "dot3StatsMultipleCollisionFrames",
     .next32 "dot3StatsSQETestErrors", .next32 "dot3StatsDeferredTransmissions",
     .next32 "dot3StatsLateCollisions", .next32 "dot3StatsExcessiveCollisions",
     .next32 "dot3StatsInternalMacTransmitErrors", .next32 "dot3StatsCarrierSenseErrors",
     .next32 "dot3StatsFrameTooLongs", .next32 "dot3StatsInternalMacReceiveErrors",
     .next32 "dot3StatsSymbolErrors"]

def readCountersTokenring : Decode Unit :=
  logFields config
    [.next32 "dot5StatsLineErrors", .next32 "dot5StatsBurstErrors", .next32 "dot5StatsACErrors",
     .next32 "dot5StatsAbortTransErrors", .next32 "dot5StatsInternalErrors",
     .next32 "dot5StatsLostFrameErrors", .next32 "dot5StatsReceiveCongestions",
     .next32 "dot5StatsFrameCopiedErrors", .next32 "dot5StatsTokenErrors",
     .next32 "dot5StatsSoftErrors", .next32 "dot5StatsHardErrors",
     .next32 "dot5StatsSignalLoss", .next32 "dot5StatsTransmitBeacons",
     .next32 "dot5StatsRecoverys", .next32 "dot5StatsLobeWires", .next32 "dot5StatsRemoves",
     .next32 "dot5StatsSingles", .next32 "dot5StatsFreqErrors"]

def readCountersVg : Decode Unit :=
  logFields config
    [.next32 "dot12InHighPriorityFrames", .next64 "dot12InHighPriorityOctets",
     .next32 "dot12InNormPriorityFrames", .next64 "dot12InNormPriorityOctets",
     .next32 "dot12InIPMErrors", .next32 "dot12InOversizeFrameErrors",
     .next32 "dot12InDataErrors", .next32 "dot12InNullAddressedFrames",
     .next32 "dot12OutHighPriorityFrames", .next64 "dot12OutHighPriorityOctets",
     .next32 "dot12TransitionIntoTrainings", .next64 "dot12HCInHighPriorityOctets",
     .next64 "dot12HCInNormPriorityOctets", .next64 "dot12HCOutHighPriorityOctets"]

def readCountersVlan : Decode Unit := do
  let inVlan ← getData32
  setWord .inVlan inVlan
  sfLog config "in_vlan %u\n" [.word inVlan]
  logFields config
    [.next64 "octets", .next32 "ucastPkts", .next32 "multicastPkts", .next32 "broadcastPkts",
     .next32 "discards"]

def readCounters80211 : Decode Unit :=
  logFields config
    [.next32 "dot11TransmittedFragmentCount", .next32 "dot11MulticastTransmittedFrameCount",
     .next32 "dot11FailedCount", .next32 "dot11RetryCount", .next32 "dot11MultipleRetryCount",
     .next32 "dot11FrameDuplicateCount", .next32 "dot11RTSSuccessCount",
     .next32 "dot11RTSFailureCount", .next32 "dot11ACKFailureCount",
     .next32 "dot11ReceivedFragmentCount", .next32 "dot11MulticastReceivedFrameCount",
     .next32 "dot11FCSErrorCount", .next32 "dot11TransmittedFrameCount",
     .next32 "dot11WEPUndecryptableCount", .next32 "dot11QoSDiscardedFragmentCount",
     .next32 "dot11AssociatedStationCount", .next32 "dot11QoSCFPollsReceivedCount",
     .next32 "dot11QoSCFPollsUnusedCount", .next32 "dot11QoSCFPollsUnusableCount",
     .next32 "dot11QoSCFPollsLostCount"]

def readCountersProcessor : Decode Unit :=
  logFields config
    [.percentage "5s_cpu", .percentage "1m_cpu", .percentage "5m_cpu",
     .next64 "total_memory_bytes", .next64 "free_memory_bytes"]

def readCountersRadio : Decode Unit :=
  logFields config
    [.next32 "radio_elapsed_time", .next32 "radio_on_channel_time",
     .next32 "radio_on_channel_busy_time"]

def readCountersHostHid : Decode Unit := do
  let _ ← logNextString config "hostname %s\n" 64
  mark .ptr
  sfLog config "UUID " []
  let uuid ← peek .ptr 0 16
  logHex config uuid
  sfLog config "\n" []
  let _ ← skipBytes 16
  let _ ← sfLogNext32 config "machine_type"
  let _ ← sfLogNext32 config "os_name"
  let _ ← logNextString config "os_release %s\n" 32

/-- The hardware addresses of adaptor `i`, from address `j` on. -/
def readAdaptorMACs (i : UInt32) : Nat → UInt32 → Decode Unit
  | 0, _ => return ()
  | remaining + 1, j => do
      mark .ptr
      let mac ← peek .ptr 0 6
      sfLog config "adaptor_%u_MAC_%u %02x%02x%02x%02x%02x%02x\n" [.word i, .word j, .bytes mac]
      let _ ← skipBytes 8
      note .iteration
      readAdaptorMACs i remaining (j + 1)

def readAdaptors : Nat → UInt32 → Decode Unit
  | 0, _ => return ()
  | remaining + 1, i => do
      let ifindex ← getData32
      sfLog config "adaptor_%u_ifIndex %u\n" [.word i, .word ifindex]
      let numMacs ← getData32
      sfLog config "adaptor_%u_MACs %u\n" [.word i, .word numMacs]
      readAdaptorMACs config i numMacs.toNat 0
      note .iteration
      readAdaptors remaining (i + 1)

def readCountersAdaptors : Decode Unit := do
  let numAdaptors ← getData32
  readAdaptors config numAdaptors.toNat 0

def readCountersHostParent : Decode Unit :=
  logFields config
    [.next32 "parent_dsClass", .next32 "parent_dsIndex"]

def readCountersHostCpu : Decode Unit :=
  logFields config
    [.nextFloat "cpu_load_one", .nextFloat "cpu_load_five", .nextFloat "cpu_load_fifteen",
     .next32 "cpu_proc_run", .next32 "cpu_proc_total", .next32 "cpu_num", .next32 "cpu_speed",
     .next32 "cpu_uptime", .next32 "cpu_user", .next32 "cpu_nice", .next32 "cpu_system",
     .next32 "cpu_idle", .next32 "cpu_wio", .next32 "cpuintr", .next32 "cpu_sintr",
     .next32 "cpuinterrupts", .next32 "cpu_contexts"]

def readCountersHostMem : Decode Unit :=
  logFields config
    [.next64 "mem_total", .next64 "mem_free", .next64 "mem_shared", .next64 "mem_buffers",
     .next64 "mem_cached", .next64 "swap_total", .next64 "swap_free", .next32 "page_in",
     .next32 "page_out", .next32 "swap_in", .next32 "swap_out"]

def readCountersHostDsk : Decode Unit :=
  logFields config
    [.next64 "disk_total", .next64 "disk_free", .percentage "disk_partition_max_used",
     .next32 "disk_reads", .next64 "disk_bytes_read", .next32 "disk_read_time",
     .next32 "disk_writes", .next64 "disk_bytes_written", .next32 "disk_write_time"]

def readCountersHostNio : Decode Unit :=
  logFields config
    [.next64 "nio_bytes_in", .next32 "nio_pkts_in", .next32 "nio_errs_in",
     .next32 "nio_drops_in", .next64 "nio_bytes_out", .next32 "nio_pkts_out",
     .next32 "nio_errs_out", .next32 "nio_drops_out"]

def readCountersHostVnode : Decode Unit :=
  logFields config
    [.next32 "vnode_mhz", .next32 "vnode_cpus", .next64 "vnode_memory",
     .next64 "vnode_memory_free", .next32 "vnode_num_domains"]

def readCountersHostVcpu : Decode Unit :=
  logFields config
    [.next32 "vcpu_state", .next32 "vcpu_cpu_mS", .next32 "vcpu_cpuCount"]

def readCountersHostVmem : Decode Unit :=
  logFields config
    [.next64 "vmem_memory", .next64 "vmem_maxMemory"]

def readCountersHostVdsk : Decode Unit :=
  logFields config
    [.next64 "vdsk_capacity", .next64 "vdsk_allocation", .next64 "vdsk_available",
     .next32 "vdsk_rd_req", .next64 "vdsk_rd_bytes", .next32 "vdsk_wr_req",
     .next64 "vdsk_wr_bytes", .next32 "vdsk_errs"]

def readCountersHostVnio : Decode Unit :=
  logFields config
    [.next64 "vnio_bytes_in", .next32 "vnio_pkts_in", .next32 "vnio_errs_in",
     .next32 "vnio_drops_in", .next64 "vnio_bytes_out", .next32 "vnio_pkts_out",
     .next32 "vnio_errs_out", .next32 "vnio_drops_out"]

def readCountersHostGpuNvml : Decode Unit :=
  logFields config
    [.next32 "nvml_device_count", .next32 "nvml_processes", .next32 "nvml_gpu_mS",
     .next32 "nvml_mem_mS", .next64 "nvml_mem_bytes_total", .next64 "nvml_mem_bytes_free",
     .next32 "nvml_ecc_errors", .next32 "nvml_energy_mJ", .next32 "nvml_temperature_C",
     .next32 "nvml_fan_speed_pc"]

def readCountersMemcache : Decode Unit :=
  logFields config
    [.next32 "memcache_uptime", .next32 "memcache_rusage_user",
     .next32 "memcache_rusage_system", .next32 "memcache_curr_connections",
     .next32 "memcache_total_connections", .next32 "memcache_connection_structures",
     .next32 "memcache_cmd_get", .next32 "memcache_cmd_set", .next32 "memcache_cmd_flush",
     .next32 "memcache_get_hits", .next32 "memcache_get_misses",
     .next32 "memcache_delete_misses", .next32 "memcache_delete_hits",
     .next32 "memcache_incr_misses", .next32 "memcache_incr_hits",
     .next32 "memcache_decr_misses", .next32 "memcache_decr_hits",
     .next32 "memcache_cas_misses", .next32 "memcache_cas_hits", .next32 "memcache_cas_badval",
     .next32 "memcache_auth_cmds", .next32 "memcache_auth_errors",
     .next64 "memcache_bytes_read", .next64 "memcache_bytes_written",
     .next32 "memcache_limit_maxbytes", .next32 "memcache_accepting_conns",
     .next32 "memcache_listen_disabled_num", .next32 "memcache_threads",
     .next32 "memcache_conn_yields", .next64 "memcache_bytes", .next32 "memcache_curr_items",
     .next32 "memcache_total_items", .next32 "memcache_evictions"]

def readCountersMemcache2 : Decode Unit :=
  logFields config
    [.next32 "memcache_cmd_set", .next32 "memcache_cmd_touch", .next32 "memcache_cmd_flush",
     .next32 "memcache_get_hits", .next32 "memcache_get_misses", .next32 "memcache_delete_hits",
     .next32 "memcache_delete_misses", .next32 "memcache_incr_hits",
     .next32 "memcache_incr_misses", .next32 "memcache_decr_hits",
     .next32 "memcache_decr_misses", .next32 "memcache_cas_hits", .next32 "memcache_cas_misses",
     .next32 "memcache_cas_badval", .next32 "memcache_auth_cmds",
     .next32 "memcache_auth_errors", .next32 "memcache_threads", .next32 "memcache_conn_yields",
     .next32 "memcache_listen_disabled_num", .next32 "memcache_curr_connections",
     .next32 "memcache_rejected_connections", .next32 "memcache_total_connections",
     .next32 "memcache_connection_structures", .next32 "memcache_evictions",
     .next32 "memcache_reclaimed", .next32 "memcache_curr_items",
     .next32 "memcache_total_items", .next64 "memcache_bytes_read",
     .next64 "memcache_bytes_written", .next64 "memcache_bytes",
     .next64 "memcache_limit_maxbytes"]

def readCountersHttp : Decode Unit :=
  logFields config
    [.next32 "http_method_option_count", .next32 "http_method_get_count",
     .next32 "http_method_head_count", .next32 "http_method_post_count",
     .next32 "http_method_put_count", .next32 "http_method_delete_count",
     .next32 "http_method_trace_count", .next32 "http_methd_connect_count",
     .next32 "http_method_other_count", .next32 "http_status_1XX_count",
     .next32 "http_status_2XX_count", .next32 "http_status_3XX_count",
     .next32 "http_status_4XX_count", .next32 "http_status_5XX_count",
     .next32 "http_status_other_count"]

def readCountersJVM : Decode Unit := do
  let _ ← logNextString config "jvm_name %s\n" 64
  let _ ← logNextString config "jvm_vendor %s\n" 32
  let _ ← logNextString config "jvm_version %s\n" 32

/-- The two file descriptor counts are read when the record is announced as long enough. -/
def readCountersJMX (length : UInt32) : Decode Unit := do
  logFields config
    [.next64 "heap_mem_initial", .next64 "heap_mem_used", .next64 "heap_mem_committed",
     .next64 "heap_mem_max", .next64 "non_heap_mem_initial", .next64 "non_heap_mem_used",
     .next64 "non_heap_mem_committed", .next64 "non_heap_mem_max", .next32 "gc_count",
     .next32 "gc_mS", .next32 "classes_loaded", .next32 "classes_total",
     .next32 "classes_unloaded", .next32 "compilation_mS", .next32 "threads_live",
     .next32 "threads_daemon", .next32 "threads_started"]
  when (length > 100) (logFields config [.next32 "fds_open", .next32 "fds_max"])

def readCountersAPP : Decode Unit := do
  let _ ← logNextString config "application %s\n" 32
  logFields config
    [.next32 "status_OK", .next32 "errors_OTHER", .next32 "errors_TIMEOUT",
     .next32 "errors_INTERNAL_ERROR", .next32 "errors_BAD_REQUEST", .next32 "errors_FORBIDDEN",
     .next32 "errors_TOO_LARGE", .next32 "errors_NOT_IMPLEMENTED", .next32 "errors_NOT_FOUND",
     .next32 "errors_UNAVAILABLE", .next32 "errors_UNAUTHORIZED"]

def readCountersAPPRESOURCE : Decode Unit :=
  logFields config
    [.next32 "user_time", .next32 "system_time", .next64 "memory_used", .next64 "memory_max",
     .next32 "files_open", .next32 "files_max", .next32 "connections_open",
     .next32 "connections_max"]

def readCountersAPPWORKERS : Decode Unit :=
  logFields config
    [.next32 "workers_active", .next32 "workers_idle", .next32 "workers_max",
     .next32 "requests_delayed", .next32 "requests_dropped"]

def readCountersVDI : Decode Unit :=
  logFields config
    [.next32 "vdi_sessions_current", .next32 "vdi_sessions_total",
     .next32 "vdi_sessions_duration", .next32 "vdi_rx_bytes", .next32 "vdi_tx_bytes",
     .next32 "vdi_rx_packets", .next32 "vdi_tx_packets", .next32 "vdi_rx_packets_lost",
     .next32 "vdi_tx_packets_lost", .next32 "vdi_rtt_min_ms", .next32 "vdi_rtt_max_ms",
     .next32 "vdi_rtt_avg_ms", .next32 "vdi_audio_rx_bytes", .next32 "vdi_audio_tx_bytes",
     .next32 "vdi_audio_tx_limit", .next32 "vdi_img_rx_bytes", .next32 "vdi_img_tx_bytes",
     .next32 "vdi_img_frames", .next32 "vdi_img_qual_min", .next32 "vdi_img_qual_max",
     .next32 "vdi_img_qual_avg", .next32 "vdi_usb_rx_bytes", .next32 "vdi_usb_tx_bytes"]

/-- The four port states are the octets of one word in memory order. -/
def readCountersLACP : Decode Unit := do
  sfLogNextMAC config "actorSystemID"
  sfLogNextMAC config "partnerSystemID"
  let _ ← sfLogNext32 config "attachedAggID"
  let portState ← getData32Nobswap
  sfLog config "actorAdminPortState %u\n" [.word (octetAt portState 0)]
  sfLog config "actorOperPortState %u\n" [.word (octetAt portState 1)]
  sfLog config "partnerAdminPortState %u\n" [.word (octetAt portState 2)]
  sfLog config "partnerOperPortState %u\n" [.word (octetAt portState 3)]
  logFields config
    [.next32 "LACPDUsRx", .next32 "markerPDUsRx", .next32 "markerResponsePDUsRx",
     .next32 "unknownRx", .next32 "illegalRx", .next32 "LACPDUsTx", .next32 "markerPDUsTx",
     .next32 "markerResponsePDUsTx"]

/-- The record a version 2 or 4 counters sample carries besides the generic one. -/
def readCounterBlockV2v4 (counterBlockVersion : UInt32) : Decode Unit :=
  if counterBlockVersion = 1 ∨ counterBlockVersion = 4 ∨ counterBlockVersion = 6 then
    readCountersGeneric config
  else if counterBlockVersion = 2 then do
    readCountersGeneric config
    readCountersEthernet config
  else if counterBlockVersion = 3 then do
    readCountersGeneric config
    readCountersTokenring config
  else if counterBlockVersion = 5 then do
    readCountersGeneric config
    readCountersVg config
  else if counterBlockVersion = 7 then
    readCountersVlan config
  else
    receiveError "unknown stats version"

def readCountersSampleV2v4 : Decode Unit := do
  sfLog config "sampleType COUNTERSSAMPLE\n" []
  let samplesGenerated ← getData32
  setWord .samplesGenerated samplesGenerated
  sfLog config "sampleSequenceNo %u\n" [.word samplesGenerated]
  let samplerId ← getData32
  setSamplerId samplerId
  logSourceId config "sourceId %u:%u\n" []
  let statsSamplingInterval ← getData32
  setWord .statsSamplingInterval statsSamplingInterval
  sfLog config "statsSamplingInterval %u\n" [.word statsSamplingInterval]
  let counterBlockVersion ← getData32
  setWord .counterBlockVersion counterBlockVersion
  sfLog config "counterBlockVersion %u\n" [.word counterBlockVersion]
  readCounterBlockV2v4 config counterBlockVersion
  when (config.outputFormat = .line) writeCountersLine

end SflowTool
