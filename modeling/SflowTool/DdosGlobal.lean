import SflowTool.DdosRecords

/-! The DDoS records that count for the whole device: the struct each of them is laid
over with the labels its fields are logged under, and the metrics some of them send
to the time-series server. -/
namespace SflowTool
open Decoding Decoding.Decoder

variable (config : SFConfig)

/-- The sum of some fields of a struct, in 64-bit arithmetic. -/
def sumOf (counters : String → UInt64) (fields : List String) : UInt64 :=
  fields.foldl (fun sum field => sum + counters field) 0

def metric (name : String) (tags : Line) (value : UInt64) : Metric :=
  ⟨name, config.time, value, tags⟩

/-- Metrics that are each the sum of some fields. -/
def sumMetrics (tags : Line) (counters : String → UInt64) (rows : List (String × List String)) :
    List Metric :=
  rows.map fun row => metric config row.1 tags (sumOf counters row.2)

def agentWord (agentAddr : Address) : UInt32 := UInt32.ofNat (beNat agentAddr.addr)

def agentTags : Decode Line := do
  let agentAddr ← getAddressVar .agentAddr
  return ⟨"agent=%08x\n", [.word (agentWord agentAddr)]⟩

/-- A record whose metrics are sums of its fields and are sent before it is logged. -/
def readExportedU64 (member : DdosMember) (fields : List String)
    (labels : List (String × String)) (rows : List (String × List String)) : Decode Unit := do
  let tags ← agentTags
  populateSflowStructU64 config member fields
  let counters ← getCounters member
  emit (.opentsdb (sumMetrics config tags counters rows))
  logCountersU64 config member labels

def sflowDdosL4GlobalCounters : List (String × String) :=
  [("intcp", "TCP received:"), ("tcp_est", "L4 TCP Established :"), ("tcp_outrst", "TCP out RST:"),
   ("tcp_synreceived", "TCP SYN received:"), ("tcp_syncookiessent", "TCP SYN cookie snt:"),
   ("tcp_syncookiessentfailed", "TCP SYN cookie snt fail:"),
   ("tcp_syncookiescheckfailed", "TCP SYN cookie failed:"),
   ("tcp_syn_rate", "TCP SYN rate per sec:"), ("tcp_exceed_drop", "TCP drop:"),
   ("src_tcp_exceed_drop", "TCP src drop :"),
   ("tcp_exceed_drop_crate_src", "TCP src conn rate drop:"),
   ("tcp_exceed_drop_prate_src", "TCP src pkt rate drop:"),
   ("tcp_exceed_drop_climit_src", "TCP src conn limit drop:"),
   ("tcp_exceed_drop_black_src", "TCP src black list drop:"),
   ("tcp_exceed_drop_crate_dst", "TCP dst conn rate drop:"),
   ("tcp_exceed_drop_prate_dst", "TCP dst pkt rate drop:"),
   ("tcp_exceed_drop_climit_dst", "TCP dst conn limit drop:"),
   ("tcp_exceed_drop_black_dst", "TCP dst black list drop:"),
   ("tcp_exceed_drop_crate_src_dst", "TCP src dst crate drop:"),
   ("tcp_exceed_drop_prate_src_dst", "TCP src dst prate drop:"),
   ("tcp_exceed_drop_climit_src_dst", "TCP src dst climit drop:"),
   ("tcp_reset_client", "Reset TCP client:"), ("tcp_reset_server", "Reset TCP server:"),
   ("inudp", "UDP received:"), ("udp_exceed_drop", "UDP drop:"),
   ("src_udp_exceed_drop", "UDP src drop:"),
   ("udp_exceed_drop_crate_src", "UDP src conn rate drop:"),
   ("udp_exceed_drop_prate_src", "UDP src pkt rate drop:"),
   ("udp_exceed_drop_climit_src", "UDP src conn limit drop:"),
   ("udp_exceed_drop_black_src", "UDP src black list drop:"),
   ("udp_exceed_drop_crate_dst", "UDP dst conn rate drop:"),
   ("udp_exceed_drop_prate_dst", "UDP dst pkt rate drop:"),
   ("udp_exceed_drop_climit_dst", "UDP dst climit drop:"),
   ("udp_exceed_drop_black_dst", "UDP dst black list drop:"),
   ("udp_exceed_drop_crate_src_dst", "UDP src dst crate drop:"),
   ("udp_exceed_drop_prate_src_dst", "UDP src dst prate drop:"),
   ("udp_exceed_drop_climit_src_dst", "UDP src dst conn limit drop:"),
   ("instateless", "Stateless packets:"), ("ip_outnoroute", "IP out noroute:"),
   ("other_exceed_drop", "Other proto drop:"), ("src_other_exceed_drop", "Other src drop:"),
   ("l2_dsr", "TCP SYN cookie pass:"), ("dst_learn", "Dest entry learned:"),
   ("src_learn", "Src entry learn :"), ("src_hit", "Src entry hit:"),
   ("dst_hit", "Dest entry hit:"), ("inicmp", "ICMP received:"),
   ("icmp_exceed_drop", "ICMP drop:"), ("src_icmp_exceed_drop", "ICMP src drop:"),
   ("icmp_exceed_drop_prate_dst", "ICMP pkt rate exceed drop:"),
   ("dns_malform_drop", "DNS malform drop :"), ("dns_qry_any_drop", "DNS query any drop:"),
   ("sync_src_wl_sent", "Sync src sent:"), ("sync_src_dst_wl_sent", "Sync src dst sent:"),
   ("sync_dst_wl_sent", "Sync dst sent:"), ("sync_src_wl_rcv", "Sync src rcv:"),
   ("sync_src_dst_wl_rcv", "Sync src dst rcv:"), ("sync_dst_wl_rcv", "Sync dst rcv:"),
   ("sync_wl_no_dst_drop", "Sync WL No dst drop:"), ("ip_rcvd", "IPv4 rcv:"),
   ("ipv6_rcvd", "IPv6 rcv:"), ("ip_sent", "IPv4 sent:"), ("ipv6_sent", "IPv6 sent:"),
   ("inother", "OTHER received:"), ("ip_tunnel_rcvd", "IPv4 tunnel rcv:"),
   ("ipv6_tunnel_rcvd", "IPv6 tunnel rcv:"), ("ip_tunnel_encap", "IPv4 tunnel encap:"),
   ("ip_tunnel_decap", "IPv4 tunnel decap:"),
   ("ip_tunnel_fail_encap_rcvd", "IPv4 tun fail encap rcv:"),
   ("ip_tunnel_rate", "IPv4 tunnel rate:"), ("gre_tunnel_encap", "GRE tunnel encap:"),
   ("gre_tunnel_fail_encap_rcvd", "GRE tun fail encap rcv:"),
   ("gre_tunnel_decap", "GRE tunnel decap:"), ("gre_tunnel_rate", "GRE tunnel rate:"),
   ("gre_tunnel_encap_key", "GRE tunnel encap w/ key:"),
   ("gre_tunnel_decap_key", "GRE tunnel decap w/ key:"),
   ("gre_tunnel_decap_drop_no_key", "GRE tun decap drp key mismatch:"),
   ("gre_v6_tunnel_rcvd", "GRE v6 tunnel rcv:"),
   ("gre_v6_tunnel_fail_encap_rcvd", "GRE v6 tun fail encap rcv :"),
   ("gre_v6_tunnel_decap", "GRE v6 tunnel decap:"), ("gre_v6_tunnel_rate", "GRE v6 tunnel rate:"),
   ("dst_port_deny", "Dest port deny:"), ("dst_port_undef_drop", "Dest port undef drop:"),
   ("dst_port_bl", "Dest port black list:"),
   ("dst_port_pkt_rate_exceed", "Dest port pkt rate excd :"),
   ("dst_port_conn_limm_exceed", "Dest port conn lim excd:"),
   ("dst_port_conn_rate_exceed", "Dest port conn rate excd:"), ("dst_sport_bl", "Dest sport BL:"),
   ("dst_sport_pkt_rate_exceed", "Dest sport pkt rate excd:"),
   ("dst_sport_conn_limm_exceed", "Dest sport conn lim excd:"),
   ("dst_sport_conn_rate_exceed", "Dest sport conn rate excd:"),
   ("tcp_ack_no_syn", "TCP ACK no SYN:"), ("tcp_out_of_order", "TCP out of order:"),
   ("tcp_zero_window", "TCP zero window:"), ("tcp_retransmit", "TCP rexmit:"),
   ("tcp_action_on_ack_drop", "TCP action-on-ack drop:"),
   ("tcp_action_on_ack_matched", "TCP action-on-ack matched:"),
   ("tcp_action_on_ack_timeout", "TCP action-on-ack timeout :"),
   ("tcp_action_on_ack_reset", "TCP action-on-ack reset"), ("src_entry_aged", "Src entry aged:"),
   ("dst_entry_aged", "Dest entry aged:"), ("zero_wind_fail_bl", "Zero win Fail BL:"),
   ("out_of_seq_fail_bl", "Out of seq Fail BL:"),
   ("tcp_retransmit_fail_bl", "TCP re-xmit Fail BL:"),
   ("tcp_action_on_ack_passed", "TCP action-on-ack passed:"),
   ("syn_authn_skipped", "TCP SYN auth skipped:"),
   ("syn_cookie_fail_bl", "TCP SYN cookie failed BL:"), ("udp_learn", "UDP learn:"),
   ("icmp_learn", "ICMP learn:"), ("udp_pass", "UDP passed:"),
   ("dns_auth_pass", "DNS auth passed:"),
   ("src_dst_other_frag_exceed_drop", "Src-Dest frag exc drop:"),
   ("src_other_frag_exceed_drop", "Src frag exc drop:"),
   ("dst_other_frag_exceed_drop", "Dest frag exc drop:"),
   ("over_conn_limit_tcp_syn_auth", "TCP over policy auth:"),
   ("over_conn_limit_tcp_port_syn_auth", "TCP port over policy auth :"),
   ("max_rexmit_syn_drop", "Re-xmit SYN excd drop:"),
   ("max_rexmit_syn_bl", "Re-xmit SYN excd bl:"), ("wellknown_port_drop", "Wellknown port drop:"),
   ("ntp_monlist_req_drop", "NTP monlist req drop:"),
   ("ntp_monlist_resp_drop", "NTP monlist resp drop:"),
   ("udp_payload_too_big_drop", "UDP payload too big drop"),
   ("udp_payload_too_small_drop", "UDP payload too small drop"),
   ("tcp_bl_drop_user_config", "TCP Src BL Deny User Cfg:"),
   ("udp_bl_drop_user_config", "UDP Src BL Deny User Cfg:"),
   ("icmp_bl_drop_user_config", "ICMP Src BL Deny User Cfg:"),
   ("other_bl_drop_user_config", "Other Src BL Deny User Cfg:"),
   ("over_conn_limit_tcp_syn_cookie", "TCP over policy SYN cookie :"),
   ("over_conn_limit_tcp_port_syn_cookie", "TCP port over policy cookie :"),
   ("dst_ipproto_pkt_rate_exceed", "Dest IP protcol pkt rate excd:"),
   ("tcp_action_on_ack_failed", "Action on ACK Failed:"),
   ("udp_exceed_drop_conn_prate_dst", "UDP conn dst prate drop:"),
   ("tcp_exceed_drop_conn_prate_dst", "TCP conn dst prate drop:"),
   ("dns_tcp_auth_pass", "DNS TCP Auth Passed:")]

def readCountersDdosCounter : Decode Unit :=
  readLabelledU64 config .l4 sflowDdosL4GlobalCounters

def sflowDdosHttpExtCounters : List (String × String) :=
  [("ofo_timer_expired", "OFO Timer Expired:"), ("partial_hdr", "Partial Header:"),
   ("ofo", "Out of Order Packets:"), ("retrans_fin", "TCP FIN Retransmit:"),
   ("retrans_rst", "TCP RST Retransmit:"), ("retrans_push", "TCP PSH Retransmit:"),
   ("retrans", "TCP Retransmit:"), ("chunk_bad", "Bad HTTP Chunk:"),
   ("chunk_sz_512", "Payload chunk size < 512:"), ("chunk_sz_1k", "Payload chunk size < 1K:"),
   ("chunk_sz_2k", "Payload chunk size < 2K:"), ("chunk_sz_4k", "Payload chunk size < 4K:"),
   ("chunk_sz_gt_4k", "Payload chunk size > 4K:"), ("neg_rsp_remain", "Negative response remain:"),
   ("too_many_headers", "Too many HTTP Headers:"),
   ("header_name_too_long", "HTTP Header Name too long:"), ("http11", "Request HTTP 1.1:"),
   ("http10", "Request HTTP 1.0:"), ("get", "Request method GET:"),
   ("head", "Request method HEAD:"), ("put", "Request method PUT:"),
   ("post", "Request method POST:"), ("trace", "Request method TRACE:"),
   ("options", "Request method OPTIONS:"), ("connect", "Request method CONNECT:"),
   ("del", "Request method DELETE:"), ("unknown", "Request method UNKNOWN:"),
   ("line_too_long", "Line too long:"), ("req_content_len", "Request Content-Length:"),
   ("rsp_chunk", "Response Chunk:"), ("parsereq_fail", "Parse request failure:"),
   ("request", "Request:"), ("neg_req_remain", "Negative request remain:"),
   ("client_rst", "Client TCP RST recv:"), ("req_retrans", "Request retransmit:"),
   ("req_ofo", "Request OFO:"), ("invalid_header", "Invalid HTTP Header:"),
   ("ddos_policy_violation", "Policy violation:"),
   ("lower_than_mss_exceed", "Fail min payload exceeded:"),
   ("dst_req_rate_exceed", "Dst request rate exceeded:"),
   ("src_req_rate_exceed", "Src request rate exceeded:"), ("req_processed", "Packets processed:"),
   ("new_syn", "TCP SYN:"), ("policy_drop", "Policy Drop:"),
   ("error_condition", "Error condition:"), ("ofo_queue_exceed", "OFO queue exceeded:"),
   ("alloc_fail", "Alloc Failed:"), ("alloc_hdr_fail", "Alloc header Failed:"),
   ("invalid_hdr_name", "Invalid HTTP header Name:"),
   ("invalid_hdr_val", "Invalid HTTP header Value:"),
   ("challenge_ud_fail", "Challenge URL redirect Fail:"),
   ("challenge_js_fail", "Challenge javascript Fail:"), ("challenge_fail", "challenge fail:"),
   ("challenge_js_sent", "Challenge javascript Sent:"),
   ("challenge_ud_sent", "Challenge URL redirect Sent:"),
   ("malform_bad_chunk", "Malform bad Chunk:"),
   ("malform_content_len_too_long", "Malform content len too long:"),
   ("malform_too_many_headers", "Malform too many headers:"),
   ("malform_header_name_too_long", "Malform header name too long:"),
   ("malform_line_too_long", "Malform line too long:"),
   ("malform_req_line_too_long", "Malform req line too long:"),
   ("window_small", "Window size small:"), ("window_small_drop", "Window size small Drop:"),
   ("use_hdr_ip_as_source", "Use ip in hdr as src:"),
   ("agent_filter_match", "Agent filter matched :"),
   ("agent_filter_blacklist", "Agent filter blacklisted:"),
   ("referer_filter_match", "Referer filter matched:"),
   ("referer_filter_blacklist", "Referer filter blacklisted:"),
   ("http_idle_timeout", "HTTP Idle Timeout:"), ("hps_rsp_10", "Response HTTP 1.0:"),
   ("hps_rsp_11", "Response HTTP 1.1:"), ("hps_req_sz_1k", "Request payload Size < 1K:"),
   ("hps_req_sz_2k", "Request payload Size < 2K:"),
   ("hps_req_sz_4k", "Request payload Size < 4K:"),
   ("hps_req_sz_8k", "Request payload Size < 8K:"),
   ("hps_req_sz_16k", "Request payload Size < 16K:"),
   ("hps_req_sz_32k", "Request payload Size < 32K:"),
   ("hps_req_sz_64k", "Request payload Size < 64K:"),
   ("hps_req_sz_256k", "Request payload Size < 256K:"),
   ("hps_req_sz_256k_plus", "Request payload Size > 256K:"),
   ("hps_rsp_sz_1k", "Response payload Size < 1K:"),
   ("hps_rsp_sz_2k", "Response payload Size < 2K:"),
   ("hps_rsp_sz_4k", "Response payload Size < 4K:"),
   ("hps_rsp_sz_8k", "Response payload Size < 8K:"),
   ("hps_rsp_sz_16k", "Response payload Size < 16K:"),
   ("hps_rsp_sz_32k", "Response payload Size < 32K:"),
   ("hps_rsp_sz_64k", "Response payload Size < 64K:"),
   ("hps_rsp_sz_256k", "Response payload Size < 256K:"),
   ("hps_rsp_sz_256k_plus", "Response payload Size > 256K:"),
   ("hps_rsp_status_1xx", "Status code 1XX:"), ("hps_rsp_status_2xx", "Status code 2XX:"),
   ("hps_rsp_status_3xx", "Status code 3XX:"), ("hps_rsp_status_4xx", "Status code 4XX:"),
   ("hps_rsp_status_5xx", "Status code 5XX:"),
   ("hps_rsp_status_504_AX", "Status code 504 AX-gen:"),
   ("hps_rsp_status_6xx", "Status code 6XX:"), ("hps_rsp_status_unknown", "Status code unknown:"),
   ("header_processing_time_0", "Header processing time < 1s:"),
   ("header_processing_time_1", "Header processing time < 10s:"),
   ("header_processing_time_2", "Header processing time < 30s:"),
   ("header_processing_time_3", "Header processing time >= 30s:"),
   ("header_processing_incomplete", "Header processing incomplete:"),
   ("hps_server_rst", "Server TCP RST recv:"), ("filter_hdr_match", "Dst Filter Hdr Match:"),
   ("filter_hdr_not_match", "Dst Filter Hdr Not Match:"),
   ("filter_hdr_action_blacklist", "Dst Filter Hdr Action BL:"),
   ("filter_hdr_action_drop", "Dst Filter Hdr Action Drop:"),
   ("filter_hdr_action_default_pass", "Dst Filter Hdr Action Default Pass:"),
   ("dst_post_rate_exceed", "Dst post rate exceeded:"),
   ("src_post_rate_exceed", "Src post rate exceeded:"),
   ("dst_resp_rate_exceed", "Dst resp rate exceeded:"),
   ("filter_hdr_action_whitelist", "Dst Filter Hdr Action WL:"),
   ("src_filter_hdr_match", "Src Filter Hdr Match:"),
   ("src_filter_hdr_not_match", "Src Filter Hdr Not Match:"),
   ("src_filter_hdr_action_blacklist", "Src Filter Hdr Action BL:"),
   ("src_filter_hdr_action_drop", "Src Filter Hdr Action Drop:"),
   ("src_filter_hdr_action_default_pass", "Src Filter Hdr Action Default Pass:"),
   ("src_filter_hdr_action_whitelist", "Src Filter Hdr Action WL:"),
   ("src_dst_filter_hdr_match", "SrcDst Filter Hdr Match:"),
   ("src_dst_filter_hdr_not_match", "SrcDst Filter Hdr Not Match:"),
   ("src_dst_filter_hdr_action_blacklist", "SrcDst Filter Hdr Action BL:"),
   ("src_dst_filter_hdr_action_drop", "SrcDst Filter Hdr Action Drop:"),
   ("src_dst_filter_hdr_action_default_pass", "SrcDst Filter Hdr Action Default Pass:"),
   ("src_dst_filter_hdr_action_whitelist", "SrcDst Filter Hdr Action WL:")]

def readCountersDdosHttpCounter : Decode Unit :=
  readExportedU64 config .http (sflowDdosHttpExtCounters.map Prod.fst) sflowDdosHttpExtCounters
    [("global_http_other_drop",
      ["ddos_policy_violation", "challenge_ud_sent", "challenge_js_sent"])]

def sflowDdosDnsStatsFields : List String :=
  ["force_tcp_auth", "dns_auth_udp", "dns_malform_drop", "dns_qry_any_drop", "dst_rate_limit0",
   "dst_rate_limit1", "dst_rate_limit2", "dst_rate_limit3", "dst_rate_limit4", "src_rate_limit0",
   "src_rate_limit1", "src_rate_limit2", "src_rate_limit3", "src_rate_limit4", "dns_auth_udp_pass",
   "dns_nx_bl", "dns_nx_drop", "dns_fqdn_stage2_exceed", "dns_is_nx", "dns_fqdn_label_len_exceed",
   "UNUSED1", "UNUSED2", "UNUSED3", "UNUSED4", "UNUSED5", "UNUSED6", "dns_pkt_processed",
   "dns_query_type_a", "dns_query_type_aaaa", "dns_query_type_ns", "dns_query_type_cname",
   "dns_query_type_any", "dns_query_type_srv", "dns_query_type_mx", "dns_query_type_soa",
   "dns_query_type_opt", "dns_tcp_auth_pass", "dns_auth_udp_fail", "dns_auth_udp_timeout"]

def sflowDdosDnsStatsLabels : List (String × String) :=
  [("force_tcp_auth", "Force TCP auth:"), ("dns_auth_udp", "DNS Auth UDP:"),
   ("dns_malform_drop", "DNS malform query Drop:"), ("dns_qry_any_drop", "DNS query ANY Drop:"),
   ("dst_rate_limit0", "Dest rate 0 Drop:"), ("dst_rate_limit1", "Dest rate 1 Drop:"),
   ("dst_rate_limit2", "Dest rate 2 Drop:"), ("dst_rate_limit3", "Dest rate 3 Drop:"),
   ("dst_rate_limit4", "Dest rate 4 Drop:"), ("src_rate_limit0", "Src rate 0 Drop:"),
   ("src_rate_limit1", "Src rate 1 Drop"), ("src_rate_limit2", "Src rate 2 Drop:"),
   ("src_rate_limit3", "Src rate 3 Drop:"), ("src_rate_limit4", "Src rate 4 Drop:"),
   ("dns_auth_udp_pass", "DNS Auth UDP Pass:"), ("dns_nx_bl", "NXDOMAIN query black-list:"),
   ("dns_nx_drop", "NXDOMAIN query drop:"),
   ("dns_fqdn_stage2_exceed", "FQDN stage-II Rate exceed/Src Drop:"),
   ("dns_is_nx", "Response is NXDOMAIN:"),
   ("dns_fqdn_label_len_exceed", "FQDN Label Length Exceed"),
   ("dns_pkt_processed", "DNS Packets Processed"), ("dns_query_type_a", "DNS Query type A"),
   ("dns_query_type_aaaa", "DNS Query type AAAA"), ("dns_query_type_ns", "DNS Query type NS"),
   ("dns_query_type_cname", "DNS Query type CNAME"), ("dns_query_type_any", "DNS Query type ANY"),
   ("dns_query_type_srv", "DNS Query type SRV"), ("dns_query_type_mx", "DNS Query type MX"),
   ("dns_query_type_soa", "DNS Query type SOA"), ("dns_query_type_opt", "DNS Query type OPT"),
   ("dns_tcp_auth_pass", "DNS TCP Auth Pass:"), ("dns_auth_udp_fail", "DNS Auth UDP Fail:"),
   ("dns_auth_udp_timeout", "DNS Auth UDP Timeout:")]

def readCountersDdosDnsCounter : Decode Unit :=
  readExportedU64 config .dns sflowDdosDnsStatsFields sflowDdosDnsStatsLabels
    [("global_force_tcp_auth", ["force_tcp_auth"])]

def sflowDdosAnomalyCounters : List (String × String) :=
  [("land_attack_drop", "Land attack Drop:"), ("empty_frag_drop", "Empty frag Drop:"),
   ("micro_frag_drop", "Micro frag Drop:"), ("ipv4_opt_drop", "IPv4 opt Drop:"),
   ("ip_frag_drop", "IP Frag Drop:"), ("bad_ip_hdr_len_drop", "Bad IP hdr len Drop:"),
   ("bad_ip_flags_drop", "Bad IP Flags Drop:"), ("bad_ip_ttl_drop", "Bad IP TTL Drop:"),
   ("no_ip_payload_drop", "No IP payload Drop:"),
   ("oversize_ip_pl_drop", "Oversize IP payload Drop:"),
   ("bad_ip_pl_len_drop", "Bad IP payload length Drop:"),
   ("bad_ip_frag_off_drop", "Bad IP frag offset Drop:"),
   ("bad_ip_csum_drop", "Bad IP Checksum Drop:"), ("icmp_pod_drop", "ICMP ping of death Drop:"),
   ("tcp_bad_urg_off_drop", "TCP Bad urg off Drop:"),
   ("tcp_short_hdr_drop", "TCP short hdr Drop:"), ("tcp_bad_ip_len_drop", "TCP bad IP len Drop:"),
   ("tcp_null_flags_drop", "TCP NULL Flags Drop:"), ("tcp_null_scan_drop", "TCP NULL scan Drop:"),
   ("tcp_syn_and_fin_drop", "TCP SYN and FIN Drop:"),
   ("tcp_xmas_flags_drop", "TCP XMAS flags Drop:"), ("tcp_xmas_scan_drop", "TCP XMAS scan Drop:"),
   ("tcp_syn_frag_drop", "TCP SYN Frag Drop:"), ("tcp_frag_header_drop", "TCP Frag header Drop:"),
   ("tcp_bad_csum_drop", "TCP bad csum Drop:"), ("udp_short_hdr_drop", "UDP short hdr Drop:"),
   ("udp_bad_leng_drop", "UDP bad length Drop:"), ("udp_kb_frag_drop", "UDP kerberos Frag Drop:"),
   ("udp_port_lb_drop", "UDP port LB Drop:"), ("udp_bad_csum_drop", "UDP bad checksum Drop:"),
   ("runt_ip_hdr_drop", "Runt IP header Drop:"),
   ("runt_tcpudp_hdr_drop", "Runt TCP/UDP header Drop:"),
   ("tun_mismatch_drop", "Tun mismatch Drop:"), ("tcp_opt_err", "TCP OPTIONS error Drop:")]

/-- Every anomaly is a drop; their sum is kept for the next brief record. -/
def readCountersDdosFpgaAnomalyCounter : Decode Unit := do
  let tags ← agentTags
  populateSflowStructU64 config .anomaly (sflowDdosAnomalyCounters.map Prod.fst)
  let counters ← getCounters .anomaly
  let packetAnomalyDropped := sumOf counters (sflowDdosAnomalyCounters.map Prod.fst)
  setDword .packetAnomalyDropped packetAnomalyDropped
  emit (.opentsdb [metric config "packet_anomaly_dropped" tags packetAnomalyDropped])
  logCountersU64 config .anomaly sflowDdosAnomalyCounters

def sflowDdosPacketCounters : List (String × String) :=
  [("ingress_bytes", "Ingress bytes:"), ("egress_bytes", "Egress bytes:"),
   ("packets_dropped_by_countermeasures", "Packets dropped by countermeasures:"),
   ("total_ingress_packets", "Total ingress packets:"),
   ("total_egress_packets", "Total egress packets:")]

def readCountersDdosPollingPackets : Decode Unit :=
  readLabelledU64 config .pollingPackets sflowDdosPacketCounters

def gL4ProtocolList : List String :=
  ["HOPOPT", "ICMP", "IGMP", "GGP", "IPv4", "ST", "TCP", "CBT", "EGP", "IGP", "BBN-RCC-MON",
   "NVP-II", "PUP", "ARGUS", "EMCON", "XNET", "CHAOS", "UDP", "MUX", "DCN-MEAS", "HMP", "PRM",
   "XNS-IDP", "TRUNK-1", "TRUNK-2", "LEAF-1", "LEAF-2", "RDP", "IRTP", "ISO-TP4", "NETBLT",
   "MFE-NSP", "MERIT-INP", "DCCP", "3PC", "IDPR", "XTP", "DDP", "IDPR-CMTP", "TP++", "IL", "IPv6",
   "SDRP", "IPv6-Route", "IPv6-Frag", "IDRP", "RSVP", "GRE", "DSR", "BNA", "ESP", "AH", "I-NLSP",
   "SWIPE", "NARP", "MOBILE", "TLSP", "SKIP", "IPv6-ICMP", "IPv6-NoNxt", "IPv6-Opts",
   "Any host internal protocol", "CFTP", "Any local network", "SAT-EXPAK", "KRYPTOLAN", "RVD",
   "IPPC", "Any distributed file system", "SAT-MON", "VISA", "IPCV", "CPNX", "CPHB", "WSN", "PVP",
   "BR-SAT-MON", "SUN-ND", "WB-MON", "WB-EXPAK", "ISO-IP", "VMTP", "SECURE-VMTP", "VINES",
   "TTP/IPTM", "NSFNET-IGP", "DGP", "TCF", "EIGRP", "OSPFIGP", "Sprite-RPC", "LARP", "MTP",
   "AX.25", "IPIP", "MICP", "SCC-SP", "ETHERIP", "ENCAP", "Any private encryption scheme", "GMTP",
   "IFMP", "PNNI", "PIM", "ARIS", "SCPS", "QNX", "A/N", "IPComp", "SNP", "Compaq-Peer",
   "IPX-in-IP", "VRRP", "PGM", "Any 0-hop protocol", "L2TP", "DDX", "IATP", "STP", "SRP", "UTI",
   "SMP", "SM", "PTP", "ISIS over IPv4", "FIRE", "CRTP", "CRUDP", "SSCOPMCE", "IPLT", "SPS",
   "PIPE", "SCTP", "FC", "RSVP-E2E-IGNORE", "Mobility Header", "UDPLite", "MPLS-in-IP", "manet",
   "HIP", "Shim6", "WESP", "ROHC", "Unassigned-143", "Unassigned-144", "Unassigned-145",
   "Unassigned-146", "Unassigned-147", "Unassigned-148", "Unassigned-149", "Unassigned-150",
   "Unassigned-151", "Unassigned-152", "Unassigned-153", "Unassigned-154", "Unassigned-155",
   "Unassigned-156", "Unassigned-157", "Unassigned-158", "Unassigned-159", "Unassigned-160",
   "Unassigned-161", "Unassigned-162", "Unassigned-163", "Unassigned-164", "Unassigned-165",
   "Unassigned-166", "Unassigned-167", "Unassigned-168", "Unassigned-169", "Unassigned-170",
   "Unassigned-171", "Unassigned-172", "Unassigned-173", "Unassigned-174", "Unassigned-175",
   "Unassigned-176", "Unassigned-177", "Unassigned-178", "Unassigned-179", "Unassigned-180",
   "Unassigned-181", "Unassigned-182", "Unassigned-183", "Unassigned-184", "Unassigned-185",
   "Unassigned-186", "Unassigned-187", "Unassigned-188", "Unassigned-189", "Unassigned-190",
   "Unassigned-191", "Unassigned-192", "Unassigned-193", "Unassigned-194", "Unassigned-195",
   "Unassigned-196", "Unassigned-197", "Unassigned-198", "Unassigned-199", "Unassigned-200",
   "Unassigned-201", "Unassigned-202", "Unassigned-203", "Unassigned-204", "Unassigned-205",
   "Unassigned-206", "Unassigned-207", "Unassigned-208", "Unassigned-209", "Unassigned-210",
   "Unassigned-211", "Unassigned-212", "Unassigned-213", "Unassigned-214", "Unassigned-215",
   "Unassigned-216", "Unassigned-217", "Unassigned-218", "Unassigned-219", "Unassigned-220",
   "Unassigned-221", "Unassigned-222", "Unassigned-223", "Unassigned-224", "Unassigned-225",
   "Unassigned-226", "Unassigned-227", "Unassigned-228", "Unassigned-229", "Unassigned-230",
   "Unassigned-231", "Unassigned-232", "Unassigned-233", "Unassigned-234", "Unassigned-235",
   "Unassigned-236", "Unassigned-237", "Unassigned-238", "Unassigned-239", "Unassigned-240",
   "Unassigned-241", "Unassigned-242", "Unassigned-243", "Unassigned-244", "Unassigned-245",
   "Unassigned-246", "Unassigned-247", "Unassigned-248", "Unassigned-249", "Unassigned-250",
   "Unassigned-251", "Unassigned-252", "Experimentation and testing-253",
   "Experimentation and testing-254", "Reserved-255"]

/-- One counter for each protocol number. -/
def sflowDdosL4Counters : List (String × String) :=
  gL4ProtocolList.zipIdx.map fun protocol =>
    ("protocol[" ++ toString protocol.2 ++ "]", protocol.1)

def readCountersDdosPollingL4Protocol : Decode Unit := do
  populateSflowStructU32 config .pollingL4 (sflowDdosL4Counters.map Prod.fst)
  logCountersU32 config .pollingL4 sflowDdosL4Counters

def sflowDdosTcpBasicCounterDir (direction : String) : List (String × String) :=
  [(direction ++ ".syn", "SYN:"), (direction ++ ".syn_ack", "SYN/ACK:"),
   (direction ++ ".fin", "FIN:"), (direction ++ ".rst", "RST:"), (direction ++ ".psh", "PUSH:"),
   (direction ++ ".ack", "ACK:"), (direction ++ ".urg", "URGENT:"), (direction ++ ".ece", "ECE:"),
   (direction ++ ".cwr", "CWR:"), (direction ++ ".ns", "NS:"),
   (direction ++ ".reserved_flag9", "FLAG-09:"), (direction ++ ".reserved_flag10", "FLAG-10:"),
   (direction ++ ".reserved_flag11", "FLAG-11"), (direction ++ ".no_flags", "No FLAGS"),
   (direction ++ ".option_mss", "OPTIONS-MSS:"),
   (direction ++ ".option_wscale", "OPTIONS-WSCALE:"),
   (direction ++ ".option_sack", "OPTIONS-SACK:"),
   (direction ++ ".option_ts", "OPTIONS-TIME STAMP:"),
   (direction ++ ".option_other", "OPTIONS-OTHER:")]

def readCountersDdosPollingTcpBasic : Decode Unit := do
  populateSflowStructU32 config .pollingTcpBasic
    ((sflowDdosTcpBasicCounterDir "rcvd" ++ sflowDdosTcpBasicCounterDir "sent").map Prod.fst)
  sfLogString config "RECEIVED:\n"
  logCountersU32 config .pollingTcpBasic (sflowDdosTcpBasicCounterDir "rcvd")
  sfLogString config "SENT:\n"
  logCountersU32 config .pollingTcpBasic (sflowDdosTcpBasicCounterDir "sent")

def sflowDdosSslL4 : List (String × String) :=
  [("ssll4_policy_reset", "Policy Reset:"), ("ssll4_policy_drop", "Policy Drop:"),
   ("ssll4_drop_packet", "Pkt Drop:"), ("ssll4_er_condition", "Error Condition:"),
   ("ssll4_processed", "Process:"), ("ssll4_new_syn", "New TCP SYN:"),
   ("ssll4_is_ssl3", "SSL v3:"), ("ssll4_is_tls1_1", "TLS v1.0:"),
   ("ssll4_is_tls1_2", "TLS v1.1:"), ("ssll4_is_tls1_3", "TLS v1.2:"),
   ("ssll4_is_renegotiation", "SSL Renegotiation:"),
   ("ssll4_renegotiation_exceed", "Renegotiation Excd:"),
   ("ssll4_is_dst_req_rate_exceed", "Dst Rate Excd Drop:"),
   ("ssll4_is_src_req_rate_exceed", "Src Rate Excd Drop:"),
   ("ssll4_do_auth_handshake", "Do Auth Handshake:"),
   ("ssll4_reset_for_handshake", "Reset While Others in HS:"),
   ("ssll4_handshake_timeout", "Auth handshake timeout:"),
   ("ssll4_auth_handshake_ok", "Auth handskake success:"),
   ("ssll4_auth_handshake_bl", "Auth handskake blacklisted:")]

def readCountersDdosSslL4Counter : Decode Unit :=
  readExportedU64 config .sslL4 (sflowDdosSslL4.map Prod.fst) sflowDdosSslL4
    [("global_ssl_drop", ["ssll4_policy_reset", "ssll4_drop_packet"])]

def sflowDdosL4TcpStats : List (String × String) :=
  [("tcp_sess_create", "TCP Session Create:"), ("intcp", "TCP Rcv:"),
   ("tcp_syn_rcvd", "TCP SYN Rcv:"), ("tcp_invalid_syn_rcvd", "TCP Invalid SYN Rcv:"),
   ("tcp_syn_ack_rcvd", "TCP SYN ACK Rcv:"), ("tcp_ack_rcvd", "TCP ACK Rcv:"),
   ("tcp_fin_rcvd", "TCP FIN Rcv:"), ("tcp_rst_rcvd", "TCP RST Rcv:"),
   ("tcp_outrst", "TCP Out RST:"), ("tcp_reset_client", "TCP Reset Client:"),
   ("tcp_reset_server", "TCP Reset Server:"), ("tcp_syn_rate", "TCP SYN Rate Per Sec:"),
   ("tcp_total_drop", "TCP Total Drop:"), ("tcp_drop_dst", "TCP Dst Drop:"),
   ("tcp_exceed_drop_any_dst", "TCP Dst Excd Drop:"),
   ("tcp_exceed_drop_prate_dst", "TCP Dst Pkt Rate Drop:"),
   ("tcp_exceed_drop_crate_dst", "TCP Dst Conn Rate Drop:"),
   ("tcp_exceed_drop_climit_dst", "TCP Dst Conn Limit Drop:"),
   ("tcp_drop_black_dst", "TCP Dst BL Drop:"), ("tcp_drop_src", "TCP Src Drop:"),
   ("tcp_exceed_drop_any_src", "TCP Src Excd Drop:"),
   ("tcp_exceed_drop_prate_src", "TCP Src Pkt Rate Drop:"),
   ("tcp_exceed_drop_crate_src", "TCP Src Conn Rate Drop:"),
   ("tcp_exceed_drop_climit_src", "TCP Src Conn Limit Drop:"),
   ("tcp_drop_black_src", "TCP Src BL Drop:"),
   ("tcp_drop_black_user_cfg_src", "TCP Src BL User Drop:"),
   ("tcp_drop_src_dst", "TCP SrcDst Drop:"),
   ("tcp_exceed_drop_any_src_dst", "TCP SrcDst Excd Drop:"),
   ("tcp_exceed_drop_prate_src_dst", "TCP SrcDst Pkt Rate Drop:"),
   ("tcp_exceed_drop_crate_src_dst", "TCP SrcDst Conn Rate Drop:"),
   ("tcp_exceed_drop_climit_src_dst", "TCP SrcDst Conn Limit Drop:"),
   ("tcp_drop_black_src_dst", "TCP SrcDst BL Drop:"),
   ("tcp_drop_black_user_cfg_src_dst", "TCP SrcDst BL User Drop:"),
   ("tcp_port_zero_drop", "TCP Port Zero Drop:"), ("tcp_syncookie_sent", "TCP SYN Cookie Sent:"),
   ("tcp_syncookie_sent_fail", "TCP SYN Cookie Sent Fail:"),
   ("tcp_syncookie_check_fail", "TCP SYN Cookie Check Fail:"),
   ("tcp_syncookie_hw_missing", "TCP SYN Cookie HW Miss:"),
   ("tcp_syncookie_fail_bl", "TCP SYN Cookie BL Fail:"),
   ("tcp_syncookie_pass", "TCP SYN Cookie Pass:"), ("syn_auth_pass", "TCP SYN Auth Pass:"),
   ("syn_auth_skip", "TCP SYN Auth Skip:"),
   ("over_conn_limit_tcp_syn_auth", "TCP SYN Auth Limit Excd:"),
   ("over_conn_limit_tcp_syn_cookie", "TCP SYN Cookie Limit Excd:"),
   ("over_conn_limit_tcp_port_syn_auth", "TCP Port SYN Auth Limit Excd:"),
   ("over_conn_limit_tcp_port_syn_cookie", "TCP Port SYN Cookie Limit Excd:"),
   ("tcp_action_on_ack_start", "TCP Action-On-Ack Init:"),
   ("tcp_action_on_ack_matched", "TCP Action-On-Ack Match:"),
   ("tcp_action_on_ack_passed", "TCP Action-On-Ack Pass:"),
   ("tcp_action_on_ack_failed", "TCP Action-On-Ack Fail:"),
   ("tcp_action_on_ack_timeout", "TCP Action-On-Ack Timeout:"),
   ("tcp_action_on_ack_reset", "TCP Action-On-Ack Reset:"), ("tcp_ack_no_syn", "TCP ACK No SYN:"),
   ("tcp_out_of_order", "TCP Out-Of-Seq:"), ("tcp_zero_window", "TCP Zero Window:"),
   ("tcp_retransmit", "TCP ReXmit:"), ("tcp_rexmit_syn_limit_drop", "TCP Rexmit SYN Excd Drop:"),
   ("tcp_zero_wind_bl", "TCP Zero Window BL:"), ("tcp_out_of_seq_bl", "TCP Out-Of-Seq BL:"),
   ("tcp_retransmit_bl", "TCP ReXmit BL:"), ("tcp_rexmit_syn_limit_bl", "TCP ReXmit SYN Excd BL:"),
   ("tcp_exceed_drop_conn_prate", "TCP Conn Pkt Rate Drop:"),
   ("tcp_action_on_ack_gap_drop", "TCP Action-On-Ack Retry-Gap Drop:"),
   ("tcp_action_on_ack_gap_pass", "TCP Action-On-Ack Retry-Gap Pass:"),
   ("tcp_new_conn_ack_retry_gap_start", "TCP New-Conn-Ack-Retry-Gap Init:"),
   ("tcp_new_conn_ack_retry_gap_passed", "TCP New-Conn-Ack-Retry-Gap Pass:"),
   ("tcp_new_conn_ack_retry_gap_failed", "TCP New-Conn-Ack-Retry-Gap Fail:"),
   ("tcp_new_conn_ack_retry_gap_timeout", "TCP New-Conn-Ack-Retry-Gap Timeout:"),
   ("tcp_new_conn_ack_retry_gap_reset", "TCP New-Conn-Ack-Retry-Gap Reset:"),
   ("tcp_new_conn_ack_retry_gap_drop", "TCP New-Conn-Ack-Retry-Gap Drop:"),
   ("tcp_action_on_syn_start", "TCP Action-On-Syn Init:"),
   ("tcp_action_on_syn_passed", "TCP Action-On-Syn Pass:"),
   ("tcp_action_on_syn_failed", "TCP Action-On-Syn Fail:"),
   ("tcp_action_on_syn_timeout", "TCP Action-On-Syn Timeout:"),
   ("tcp_action_on_syn_reset", "TCP Action-On-Syn Reset:"),
   ("tcp_action_on_syn_gap_drop", "TCP Action-On-Syn Retry-Gap Drop:"),
   ("tcp_action_on_syn_gap_pass", "TCP Action-On-Syn Retry-Gap Pass:"),
   ("tcp_unauth_rst_drop", "TCP Unauth RST Drop:"), ("tcp_filter_match", "Dst Filter Match:"),
   ("tcp_filter_not_match", "Dst Filter Not Match:"),
   ("tcp_filter_action_blacklist", "Dst Filter Action BL:"),
   ("tcp_filter_action_drop", "Dst Filter Action Drop:"),
   ("tcp_filter_action_default_pass", "Dst Filter Action Default Pass:"),
   ("tcp_over_limit_syn_auth_src", "TCP Src Over Limit Auth:"),
   ("tcp_over_limit_syn_auth_src_dst", "TCP SrcDst Over Limit Auth:"),
   ("tcp_over_limit_syn_cookie_src", "TCP Src Over Limit Cookie:"),
   ("tcp_over_limit_syn_cookie_src_dst", "TCP SrcDst Over Limit Cookie:"),
   ("tcp_exceed_drop_brate_dst", "TCP Dst KiBit Rate Drop (KiBit):"),
   ("tcp_exceed_drop_brate_src", "TCP Src KiBit Rate Drop (KiBit):"),
   ("tcp_exceed_drop_brate_src_dst", "TCP SrcDst KiBit Rate Drop (KiBit):"),
   ("tcp_concurrent", "TCP Concurrent Port Access:"),
   ("tcp_filter_action_whitelist", "Dst Filter Action WL:"),
   ("src_tcp_filter_match", "Src Filter Match:"),
   ("src_tcp_filter_not_match", "Src Filter Not Match:"),
   ("src_tcp_filter_action_blacklist", "Src Filter Action BL:"),
   ("src_tcp_filter_action_drop", "Src Filter Action Drop:"),
   ("src_tcp_filter_action_default_pass", "Src Filter Action Default Pass:"),
   ("src_tcp_filter_action_whitelist", "Src Filter Action WL:"),
   ("src_dst_tcp_filter_match", "SrcDst Filter Match:"),
   ("src_dst_tcp_filter_not_match", "SrcDst Filter Not Match:"),
   ("src_dst_tcp_filter_action_blacklist", "SrcDst Filter Action BL:"),
   ("src_dst_tcp_filter_action_drop", "SrcDst Filter Action Drop:"),
   ("src_dst_tcp_filter_action_default_pass", "SrcDst Filter Action Default Pass:"),
   ("src_dst_tcp_filter_action_whitelist", "SrcDst Filter Action WL:")]

def readCountersDdosL4TcpCounter : Decode Unit :=
  readExportedU64 config .l4Tcp (sflowDdosL4TcpStats.map Prod.fst) sflowDdosL4TcpStats
    [("global_tcp_auth", ["tcp_syncookie_sent", "tcp_syncookie_sent_fail"]),
     ("tcp_invalid_syn", ["tcp_invalid_syn_rcvd"])]

def sflowDdosL4UdpStatsFields : List String :=
  ["udp_sess_create", "inudp", "instateless", "udp_total_drop", "udp_drop_dst",
   "udp_exceed_drop_any_dst", "udp_exceed_drop_prate_dst", "udp_exceed_drop_crate_dst",
   "udp_exceed_drop_climit_dst", "udp_drop_black_dst", "udp_drop_src", "udp_exceed_drop_any_src",
   "udp_exceed_drop_prate_src", "udp_exceed_drop_crate_src", "udp_exceed_drop_climit_src",
   "udp_drop_black_src", "udp_drop_black_user_cfg_src", "udp_drop_src_dst",
   "udp_exceed_drop_any_src_dst", "udp_exceed_drop_prate_src_dst", "udp_exceed_drop_crate_src_dst",
   "udp_exceed_drop_climit_src_dst", "udp_drop_black_src_dst", "udp_drop_black_user_cfg_src_dst",
   "udp_port_zero_drop", "udp_wellknown_src_port_drop", "udp_exceed_drop_conn_prate",
   "udp_retry_start", "udp_retry_pass", "udp_retry_fail", "udp_retry_timeout",
   "udp_payload_too_big_drop", "udp_payload_too_small_drop", "ntp_monlist_req_drop",
   "ntp_monlist_resp_drop", "udp_filter_match", "udp_filter_not_match",
   "udp_filter_action_blacklist", "udp_filter_action_drop", "udp_filter_action_default_pass",
   "udp_filter_action_whitelist", "UNUSED1", "udp_auth_pass", "udp_over_limit_auth_dst",
   "udp_over_limit_auth_dst_port", "udp_over_limit_auth_src", "udp_over_limit_auth_src_dst",
   "udp_exceed_drop_brate_dst", "udp_exceed_drop_brate_src", "udp_exceed_drop_brate_src_dst",
   "src_udp_filter_match", "src_udp_filter_not_match", "src_udp_filter_action_blacklist",
   "src_udp_filter_action_drop", "src_udp_filter_action_default_pass",
   "src_udp_filter_action_whitelist", "src_dst_udp_filter_match", "src_dst_udp_filter_not_match",
   "src_dst_udp_filter_action_blacklist", "src_dst_udp_filter_action_drop",
   "src_dst_udp_filter_action_default_pass", "src_dst_udp_filter_action_whitelist"]

def sflowDdosL4UdpStatsLabels : List (String × String) :=
  [("udp_sess_create", "UDP Session Create:"), ("inudp", "UDP Rcv:"),
   ("instateless", "UDP Stateless:"), ("udp_total_drop", "UDP Total Drop:"),
   ("udp_drop_dst", "UDP Dst Drop:"), ("udp_exceed_drop_any_dst", "UDP Dst Excd Drop:"),
   ("udp_exceed_drop_prate_dst", "UDP Dst Pkt Rate Drop:"),
   ("udp_exceed_drop_crate_dst", "UDP Dst Conn Rate Drop:"),
   ("udp_exceed_drop_climit_dst", "UDP Dst Conn Limit Drop:"),
   ("udp_drop_black_dst", "UDP Dst BL Drop:"), ("udp_drop_src", "UDP Src Drop:"),
   ("udp_exceed_drop_any_src", "UDP Src Excd Drop:"),
   ("udp_exceed_drop_prate_src", "UDP Src Pkt Rate Drop:"),
   ("udp_exceed_drop_crate_src", "UDP Src Conn Rate Drop:"),
   ("udp_exceed_drop_climit_src", "UDP Src Conn Limit Drop:"),
   ("udp_drop_black_src", "UDP Src BL Drop:"),
   ("udp_drop_black_user_cfg_src", "UDP Src BL User Drop:"),
   ("udp_drop_src_dst", "UDP SrcDst Drop:"),
   ("udp_exceed_drop_any_src_dst", "UDP SrcDst Excd Drop:"),
   ("udp_exceed_drop_prate_src_dst", "UDP SrcDst Pkt Rate Drop:"),
   ("udp_exceed_drop_crate_src_dst", "UDP SrcDst Conn Rate Drop:"),
   ("udp_exceed_drop_climit_src_dst", "UDP SrcDst Conn Limit Drop:"),
   ("udp_drop_black_src_dst", "UDP SrcDst BL Drop:"),
   ("udp_drop_black_user_cfg_src_dst", "UDP SrcDst BL User Drop:"),
   ("udp_port_zero_drop", "UDP Port Zero Drop:"),
   ("udp_wellknown_src_port_drop", "UDP SrcPort Wellknown Drop:"),
   ("udp_exceed_drop_conn_prate", "UDP Conn Pkt Rate Drop:"),
   ("udp_retry_start", "UDP Retry Init:"), ("udp_retry_pass", "UDP Retry Pass:"),
   ("udp_retry_fail", "UDP Retry Fail:"), ("udp_retry_timeout", "UDP Retry Timeout:"),
   ("udp_payload_too_big_drop", "UDP Payload Too Large Drop:"),
   ("udp_payload_too_small_drop", "UDP Payload Too Small Drop:"),
   ("ntp_monlist_req_drop", "NTP Monlist Req Drop:"),
   ("ntp_monlist_resp_drop", "NTP Monlist Resp Drop:"), ("udp_filter_match", "Dst Filter Match:"),
   ("udp_filter_not_match", "Dst Filter Not Match:"),
   ("udp_filter_action_blacklist", "Dst Filter Action BL:"),
   ("udp_filter_action_whitelist", "Dst Filter Action WL:"),
   ("udp_filter_action_drop", "Dst Filter Action Drop:"),
   ("udp_filter_action_default_pass", "Dst Filter Action Default Pass:"),
   ("udp_auth_pass", "UDP Auth Pass:"), ("udp_over_limit_auth_dst", "UDP Dst Over Limit Auth:"),
   ("udp_over_limit_auth_dst_port", "UDP Dst Port Over Limit Auth:"),
   ("udp_over_limit_auth_src", "UDP Src Over Limit Auth:"),
   ("udp_over_limit_auth_src_dst", "UDP SrcDst Over Limit Auth:"),
   ("udp_exceed_drop_brate_dst", "UDP Dst KiBit Rate Drop (KiBit):"),
   ("udp_exceed_drop_brate_src", "UDP Src KiBit Rate Drop (KiBit):"),
   ("udp_exceed_drop_brate_src_dst", "UDP SrcDst KiBit Rate Drop (KiBit):"),
   ("src_udp_filter_match", "Src Filter Match:"),
   ("src_udp_filter_not_match", "Src Filter Not Match:"),
   ("src_udp_filter_action_blacklist", "Src Filter Action BL:"),
   ("src_udp_filter_action_whitelist", "Src Filter Action WL:"),
   ("src_udp_filter_action_drop", "Src Filter Action Drop:"),
   ("src_udp_filter_action_default_pass", "Src Filter Action Default Pass:"),
   ("src_dst_udp_filter_match", "SrcDst Filter Match:"),
   ("src_dst_udp_filter_not_match", "SrcDst Filter Not Match:"),
   ("src_dst_udp_filter_action_blacklist", "SrcDst Filter Action BL:"),
   ("src_dst_udp_filter_action_whitelist", "SrcDst Filter Action WL:"),
   ("src_dst_udp_filter_action_drop", "SrcDst Filter Action Drop:"),
   ("src_dst_udp_filter_action_default_pass", "SrcDst Filter Action Default Pass:")]

def readCountersDdosL4UdpCounter : Decode Unit := do
  populateSflowStructU64 config .l4Udp sflowDdosL4UdpStatsFields
  logCountersU64 config .l4Udp sflowDdosL4UdpStatsLabels

def sflowDdosL4OtherStatsFields : List String :=
  ["inother", "infrag", "other_total_drop", "other_drop_dst", "frag_drop",
   "other_exceed_drop_any_dst", "other_exceed_drop_prate_dst", "other_exceed_drop_fprate_dst",
   "other_frag_exceed_drop_dst", "other_drop_black_dst", "other_drop_src",
   "other_exceed_drop_any_src", "other_exceed_drop_prate_src", "other_exceed_drop_fprate_src",
   "other_frag_exceed_drop_src", "other_drop_black_src", "other_drop_black_user_cfg_src",
   "other_drop_src_dst", "other_exceed_drop_any_src_dst", "other_exceed_drop_prate_src_dst",
   "other_exceed_drop_fprate_src_dst", "other_frag_exceed_drop_src_dst",
   "other_drop_black_src_dst", "other_drop_black_user_cfg_src_dst", "other_exceed_drop_brate_dst",
   "other_exceed_drop_brate_src", "other_exceed_drop_brate_src_dst", "other_filter_match",
   "other_filter_not_match", "other_filter_action_blacklist", "other_filter_action_drop",
   "other_filter_action_default_pass", "other_filter_action_whitelist", "src_other_filter_match",
   "src_other_filter_not_match", "src_other_filter_action_blacklist",
   "src_other_filter_action_drop", "src_other_filter_action_default_pass",
   "src_other_filter_action_whitelist", "src_dst_other_filter_match",
   "src_dst_other_filter_not_match", "src_dst_other_filter_action_blacklist",
   "src_dst_other_filter_action_drop", "src_dst_other_filter_action_default_pass",
   "src_dst_other_filter_action_whitelist"]

def sflowDdosL4OtherStatsLabels : List (String × String) :=
  [("inother", "OTHER Rcv:"), ("infrag", "OTHER Frag Rcv:"),
   ("other_total_drop", "OTHER Total Drop:"), ("other_drop_dst", "OTHER Dst Drop:"),
   ("frag_drop", "OTHER Frag Drop:"), ("other_exceed_drop_any_dst", "OTHER Dst Excd Drop:"),
   ("other_exceed_drop_prate_dst", "OTHER Dst Pkt Rate Drop:"),
   ("other_exceed_drop_fprate_dst", "OTHER Dst Frag Rate Drop:"),
   ("other_frag_exceed_drop_dst", "OTHER Dst Frag Excd Drop:"),
   ("other_drop_black_dst", "OTHER Dst BL Drop:"), ("other_drop_src", "OTHER Src Drop:"),
   ("other_exceed_drop_any_src", "OTHER Src Excd Drop:"),
   ("other_exceed_drop_prate_src", "OTHER Src Pkt Rate Drop:"),
   ("other_exceed_drop_fprate_src", "OTHER Src Frag Rate Drop:"),
   ("other_frag_exceed_drop_src", "OTHER Src Frag Excd Drop:"),
   ("other_drop_black_src", "OTHER Src BL Drop:"),
   ("other_drop_black_user_cfg_src", "OTHER Src BL User Drop:"),
   ("other_drop_src_dst", "OTHER SrcDst Drop:"),
   ("other_exceed_drop_any_src_dst", "OTHER SrcDst Excd Drop:"),
   ("other_exceed_drop_prate_src_dst", "OTHER SrcDst Pkt Rate Drop:"),
   ("other_exceed_drop_fprate_src_dst", "OTHER SrcDst Frag Rate Drop:"),
   ("other_frag_exceed_drop_src_dst", "OTHER SrcDst Frag Excd Drop:"),
   ("other_drop_black_src_dst", "OTHER SrcDst BL Drop:"),
   ("other_drop_black_user_cfg_src_dst", "OTHER SrcDst BL User Drop:"),
   ("other_exceed_drop_brate_dst", "OTHER Dst KiBit Rate Drop (KiBit):"),
   ("other_exceed_drop_brate_src", "OTHER Src KiBit Rate Drop (KiBit):"),
   ("other_exceed_drop_brate_src_dst", "OTHER SrcDst KiBit Rate Drop (KiBit):"),
   ("other_filter_match", "Dst Filter Match:"),
   ("other_filter_not_match", "Dst Filter Not Match:"),
   ("other_filter_action_blacklist", "Dst Filter Action BL:"),
   ("other_filter_action_drop", "Dst Filter Action Drop:"),
   ("other_filter_action_default_pass", "Dst Filter Action Default Pass:"),
   ("other_filter_action_whitelist", "Dst Filter Action WL:"),
   ("other_filter_match", "Src Filter Match:"),
   ("src_other_filter_not_match", "Src Filter Not Match:"),
   ("src_other_filter_action_blacklist", "Src Filter Action BL:"),
   ("src_other_filter_action_drop", "Src Filter Action Drop:"),
   ("src_other_filter_action_default_pass", "Src Filter Action Default Pass:"),
   ("src_other_filter_action_whitelist", "Src Filter Action WL:"),
   ("src_dst_other_filter_match", "SrcDst Filter Match:"),
   ("src_dst_other_filter_not_match", "SrcDst Filter Not Match:"),
   ("src_dst_other_filter_action_blacklist", "SrcDst Filter Action BL:"),
   ("src_dst_other_filter_action_drop", "SrcDst Filter Action Drop:"),
   ("src_dst_other_filter_action_default_pass", "SrcDst Filter Action Default Pass:"),
   ("src_dst_other_filter_action_whitelist", "SrcDst Filter Action WL:")]

/-- The label of the source match counter shows the destination one. -/
def readCountersDdosL4OtherCounter : Decode Unit := do
  populateSflowStructU64 config .l4Other sflowDdosL4OtherStatsFields
  logCountersU64 config .l4Other sflowDdosL4OtherStatsLabels

def sflowDdosL4IcmpStats : List (String × String) :=
  [("inicmp", "ICMP Rcv:"), ("icmp_echo_rcvd", "ICMP Echo Rcv:"),
   ("icmp_other_rcvd", "ICMP other Rcv:"), ("icmp_total_drop", "ICMP Total Drop:"),
   ("icmp_drop_dst", "ICMP Dst Drop:"), ("icmp_exceed_drop_any_dst", "ICMP Dst Excd Drop:"),
   ("icmp_exceed_drop_prate_dst", "ICMP Dst Pkt Rate Drop:"),
   ("icmp_drop_black_dst", "ICMP Dst BL Drop:"), ("icmp_drop_src", "ICMP Src Drop:"),
   ("icmp_exceed_drop_any_src", "ICMP Src Excd Drop:"),
   ("icmp_exceed_drop_prate_src", "ICMP Src Pkt Rate Drop:"),
   ("icmp_drop_black_src", "ICMP Src BL Drop:"),
   ("icmp_drop_black_user_cfg_src", "ICMP Src BL User Drop:"),
   ("icmp_drop_src_dst", "ICMP SrcDst Drop:"),
   ("icmp_exceed_drop_any_src_dst", "ICMP SrcDst Excd Drop:"),
   ("icmp_exceed_drop_prate_src_dst", "ICMP SrcDst Pkt Rate Drop:"),
   ("icmp_drop_black_src_dst", "ICMP SrcDst BL Drop:"),
   ("icmp_drop_black_user_cfg_src_dst", "ICMP SrcDst BL User Drop:"),
   ("icmp_type_deny_drop", "ICMP Type Deny Drop:"),
   ("icmp_v4_rfc_undef_drop", "ICMPv4 RFC Undef Type Drop:"),
   ("icmp_v6_rfc_undef_drop", "ICMPv6 RFC Undef Type Drop:"),
   ("icmp_wildcard_deny_drop", "ICMP Wildcard Deny Drop:"),
   ("icmp_rate_exceed0", "ICMP Type Code Rate Excd 1:"),
   ("icmp_rate_exceed1", "ICMP Type Code Rate Excd 2:"),
   ("icmp_rate_exceed2", "ICMP Type Code Rate Excd 3:"),
   ("icmp_exceed_drop_brate_dst", "ICMP Dst KiBit Rate Drop (KiBit):"),
   ("icmp_exceed_drop_brate_src", "ICMP Src KiBit Rate Drop (KiBit):"),
   ("icmp_exceed_drop_brate_src_dst", "ICMP SrcDst KiBit Rate Drop (KiBit):")]

def readCountersDdosL4IcmpCounter : Decode Unit :=
  readLabelledU64 config .l4Icmp sflowDdosL4IcmpStats

def sflowDdosSwitchStats : List (String × String) :=
  [("ip_rcvd", "IPv4 Rcv:"), ("ip_sent", "IPv4 Sent:"), ("ipv6_rcvd", "IPv6 Rcv:"),
   ("ipv6_sent", "IPv6 Sent:"), ("instateless", "Stateless Pkt Rcv:"),
   ("out_no_route", "IPv4/v6 Out No Route:"), ("not_for_ddos", "Not For DDOS:"),
   ("mpls_rcvd", "MPLS Rcv:"), ("mpls_drop", "MPLS Drop:"), ("mpls_malformed", "MPLS Malformed:")]

def readCountersDdosL4SwitchCounter : Decode Unit :=
  readLabelledU64 config .l4Switch sflowDdosSwitchStats

def sflowDdosSessStats : List (String × String) :=
  [("v4_sess_create", "IPv4 Session Create:"), ("v6_sess_create", "IPv6 Session Create:"),
   ("tcp_sess_create", "TCP Session Create:"), ("tcp_conn_est_w_syn", "TCP Conn Est WL SYN:"),
   ("tcp_conn_est_w_ack", "TCP Conn Est WL ACK:"), ("tcp_conn_est", "TCP Conn Est:"),
   ("tcp_conn_close_w_rst", "TCP Conn Close WL RST:"),
   ("tcp_conn_close_w_fin", "TCP Conn Close WL FIN:"),
   ("tcp_conn_close_w_idle", "TCP Conn Close WL Idle:"),
   ("tcp_conn_close_w_half_open", "TCP Conn Close WL Half Open:"),
   ("tcp_conn_close", "TCP Conn Close:"), ("udp_sess_create", "UDP Session Create:"),
   ("udp_conn_est", "UDP Conn Est:"), ("udp_conn_close", "UDP Conn Close:")]

def readCountersDdosL4SessionCounter : Decode Unit :=
  readLabelledU64 config .l4Session sflowDdosSessStats

def sflowDdosSyncStats : List (String × String) :=
  [("sync_dst_wl_rcv", "Sync Dst Rcv:"), ("sync_dst_wl_sent", "Sync Dst Sent:"),
   ("sync_src_wl_rcv", "Sync Src Rcv:"), ("sync_src_wl_sent", "Sync Src Sent:"),
   ("sync_src_dst_wl_rcv", "Sync SrcDst Rcv:"), ("sync_src_dst_wl_sent", "Sync SrcDst Sent:"),
   ("sync_src_dst_wl_no_dst_drop", "Sync SrcDst No Dst Drop:"),
   ("sync_hello_rcv", "Sync Hello Rcv:"), ("sync_hello_sent", "Sync Hello Sent:"),
   ("sync_sent_fail", "Sync Sent Fail:"), ("sync_sent_no_peer", "Sync Sent No Peer:"),
   ("sync_rcv_fail", "Sync Rcv Fail:"), ("sync_dst_tcp_wl_sent", "Sync Sent Dst TCP WL:"),
   ("sync_dst_udp_wl_sent", "Sync Sent Dst UDP WL:"),
   ("sync_dst_icmp_wl_sent", "Sync Sent Dst ICMP WL:"),
   ("sync_dst_other_wl_sent", "Sync Sent Dst OTHER WL:"),
   ("sync_dst_tcp_bl_sent", "Sync Sent Dst TCP BL:"),
   ("sync_dst_udp_bl_sent", "Sync Sent Dst UDP BL:"),
   ("sync_dst_icmp_bl_sent", "Sync Sent Dst ICMP BL:"),
   ("sync_dst_other_bl_sent", "Sync Sent Dst OTHER BL:"),
   ("sync_src_tcp_wl_sent", "Sync Sent Src TCP WL:"),
   ("sync_src_udp_wl_sent", "Sync Sent Src UDP WL:"),
   ("sync_src_icmp_wl_sent", "Sync Sent Src ICMP WL:"),
   ("sync_src_other_wl_sent", "Sync Sent Src OTHER WL:"),
   ("sync_src_tcp_bl_sent", "Sync Sent Src TCP BL:"),
   ("sync_src_udp_bl_sent", "Sync Sent Src UDP BL:"),
   ("sync_src_icmp_bl_sent", "Sync Sent Src ICMP BL:"),
   ("sync_src_other_bl_sent", "Sync Sent Src OTHER BL:"),
   ("sync_src_dst_tcp_wl_sent", "Sync Sent SrcDst TCP WL:"),
   ("sync_src_dst_udp_wl_sent", "Sync Sent SrcDst UDP WL:"),
   ("sync_src_dst_icmp_wl_sent", "Sync Sent SrcDst ICMP WL:"),
   ("sync_src_dst_other_wl_sent", "Sync Sent SrcDst OTHER WL:"),
   ("sync_src_dst_tcp_bl_sent", "Sync Sent SrcDst UDP BL:"),
   ("sync_src_dst_udp_bl_sent", "Sync Sent SrcDst TCP BL:"),
   ("sync_src_dst_icmp_bl_sent", "Sync Sent SrcDst ICMP BL:"),
   ("sync_src_dst_other_bl_sent", "Sync Sent SrcDst OTHER BL:"),
   ("sync_dst_tcp_wl_rcvd", "Sync Rcv Dst UDP WL:"),
   ("sync_dst_udp_wl_rcvd", "Sync Rcv Dst TCP WL:"),
   ("sync_dst_icmp_wl_rcvd", "Sync Rcv Dst ICMP WL:"),
   ("sync_dst_other_wl_rcvd", "Sync Rcv Dst OTHER WL:"),
   ("sync_dst_tcp_bl_rcvd", "Sync Rcv Dst TCP BL:"),
   ("sync_dst_udp_bl_rcvd", "Sync Rcv Dst UDP BL:"),
   ("sync_dst_icmp_bl_rcvd", "Sync Rcv Dst ICMP BL:"),
   ("sync_dst_other_bl_rcvd", "Sync Rcv Dst OTHER BL:"),
   ("sync_src_tcp_wl_rcvd", "Sync Rcv Src TCP WL:"),
   ("sync_src_udp_wl_rcvd", "Sync Rcv Src UDP WL:"),
   ("sync_src_icmp_wl_rcvd", "Sync Rcv Src ICMP WL:"),
   ("sync_src_other_wl_rcvd", "Sync Rcv Src OTHER WL:"),
   ("sync_src_tcp_bl_rcvd", "Sync Rcv Src TCP BL:"),
   ("sync_src_udp_bl_rcvd", "Sync Rcv Src UDP BL:"),
   ("sync_src_icmp_bl_rcvd", "Sync Rcv Src ICMP BL:"),
   ("sync_src_other_bl_rcvd", "Sync Rcv Src OTHER BL:"),
   ("sync_src_dst_tcp_wl_rcvd", "Sync Rcv SrcDst TCP WL:"),
   ("sync_src_dst_udp_wl_rcvd", "Sync Rcv SrcDst UDP WL:"),
   ("sync_src_dst_icmp_wl_rcvd", "Sync Rcv SrcDst ICMP WL:"),
   ("sync_src_dst_other_wl_rcvd", "Sync Rcv SrcDst OTHER WL:"),
   ("sync_src_dst_tcp_bl_rcvd", "Sync Rcv SrcDst TCP BL:"),
   ("sync_src_dst_udp_bl_rcvd", "Sync Rcv SrcDst UDP BL:"),
   ("sync_src_dst_icmp_bl_rcvd", "Sync Rcv SrcDst ICMP BL:"),
   ("sync_src_dst_other_bl_rcvd", "Sync Rcv SrcDst OTHER BL:")]

def readCountersDdosL4SyncCounter : Decode Unit :=
  readLabelledU64 config .l4Sync sflowDdosSyncStats

def sflowDdosTunnelStats : List (String × String) :=
  [("ip_tunnel_rcvd", "IPv4 Tunnel Rcv:"), ("ip_tunnel_rate", "IPv4 Tunnel Encap:"),
   ("ip_tunnel_encap", "IPv4 Tunnel Encap Fail:"), ("ip_tunnel_encap_fail", "IPv4 Tunnel Decap:"),
   ("ip_tunnel_decap", "IPv4 Tunnel Decap Fail:"), ("ip_tunnel_decap_fail", "IPv4 Tunnel Rate:"),
   ("ipv6_tunnel_rcvd", "IPv6 Tunnel Rcv:"), ("ipv6_tunnel_rate", "IPv6 Tunnel Encap:"),
   ("ipv6_tunnel_encap", "IPv6 Tunnel Encap Fail:"),
   ("ipv6_tunnel_encap_fail", "IPv6 Tunnel Decap:"),
   ("ipv6_tunnel_decap", "IPv6 Tunnel Decap Fail:"),
   ("ipv6_tunnel_decap_fail", "IPv6 Tunnel Rate:"), ("gre_tunnel_rcvd", "GRE Tunnel Rcv:"),
   ("gre_tunnel_rate", "GRE Tunnel Encap:"), ("gre_tunnel_encap", "GRE Tunnel Encap Fail:"),
   ("gre_tunnel_encap_fail", "GRE Tunnel Decap:"), ("gre_tunnel_decap", "GRE Tunnel Decap Fail:"),
   ("gre_tunnel_decap_fail", "GRE Tunnel Rate:"),
   ("gre_tunnel_encap_key", "GRE Tunnel Encap W/ Key:"),
   ("gre_tunnel_decap_key", "GRE Tunnel Decap W/ Key:"),
   ("gre_tunnel_decap_drop_no_key", "GRE Tunnel Decap Key Mismatch Drop:"),
   ("gre_v6_tunnel_rcvd", "GRE V6 Tunnel Rcv:"), ("gre_v6_tunnel_rate", "GRE V6 Tunnel Encap:"),
   ("gre_v6_tunnel_encap", "GRE V6 Tunnel Encap Rcv Fail:"),
   ("gre_v6_tunnel_encap_fail", "GRE V6 Tunnel Decap:"),
   ("gre_v6_tunnel_decap", "GRE V6 Tunnel Decap Fail:"),
   ("gre_v6_tunnel_decap_fail", "GRE V6 Tunnel Rate:"),
   ("gre_v6_tunnel_encap_key", "GRE V6 Tunnel Encap W/ Key:"),
   ("gre_v6_tunnel_decap_key", "GRE V6 Tunnel Decap W/ Key:"),
   ("gre_v6_tunnel_decap_drop_no_key", "GRE V6 Tunnel Decap No Key Drop:")]

def readCountersDdosL4TunnelCounter : Decode Unit :=
  readLabelledU64 config .l4Tunnel sflowDdosTunnelStats

def sflowDdosTableStats : List (String × String) :=
  [("dst_entry_learn", "Dst Entry Learn:"), ("dst_entry_hit", "Dst Entry Hit:"),
   ("dst_entry_miss", "Dst Entry Miss:"), ("dst_entry_aged", "Dst Entry Aged:"),
   ("src_entry_learn", "Src Entry Learn:"), ("src_entry_hit", "Src Entry Hit:"),
   ("src_entry_miss", "Src Entry Miss:"), ("src_entry_aged", "Src Entry Aged:"),
   ("src_dst_entry_learn", "SrcDst Entry Learn:"), ("src_dst_entry_hit", "SrcDst Entry Hit:"),
   ("src_dst_entry_miss", "SrcDst Entry Miss:"), ("src_dst_entry_aged", "SrcDst Entry Aged:"),
   ("src_wl_tcp", "TCP Src WL:"), ("src_wl_udp", "UDP Src WL:"), ("src_wl_icmp", "ICMP Src WL:"),
   ("src_wl_other", "OTHER Src WL:"), ("src_bl_tcp", "TCP Src BL:"), ("src_bl_udp", "UDP Src BL:"),
   ("src_bl_icmp", "ICMP Src BL:"), ("src_bl_other", "OTHER Src BL:"),
   ("src_dst_wl_tcp", "TCP SrcDst WL:"), ("src_dst_wl_udp", "UDP SrcDst WL:"),
   ("src_dst_wl_icmp", "ICMP SrcDst WL:"), ("src_dst_wl_other", "OTHER SrcDst WL:"),
   ("src_dst_bl_tcp", "TCP SrcDst BL:"), ("src_dst_bl_udp", "UDP SrcDst BL:"),
   ("src_dst_bl_icmp", "ICMP SrcDst BL:"), ("src_dst_bl_other", "OTHER SrcDst BL:"),
   ("dst_over_limit_on", "Dst Over Limit Trigger ON:"),
   ("dst_port_over_limit_on", "Dst Port Over Limit Trigger ON:"),
   ("src_over_limit_on", "Src Over Limit Trigger ON:"),
   ("src_dst_over_limit_on", "SrcDst Over Limit Trigger ON:"),
   ("dst_over_limit_off", "Dst Over Limit Trigger OFF:"),
   ("dst_port_over_limit_off", "Dst Port Over Limit Trigger OFF:"),
   ("src_over_limit_off", "Src Over Limit Trigger OFF:"),
   ("src_dst_over_limit_off", "SrcDst Over Limit Trigger OFF:")]

def readCountersDdosEntryTableCounter : Decode Unit :=
  readLabelledU64 config .entryTable sflowDdosTableStats

def sflowDdosBriefStats : List (String × String) :=
  [("ip_rcvd", "IPv4 Rcv:"), ("ip_sent", "IPv4 Sent:"), ("ipv6_rcvd", "IPv6 Rcv:"),
   ("ipv6_sent", "IPv6 Sent:"), ("out_no_route", "IPv4/v6 Out No Route:"),
   ("not_for_ddos", "Not For DDOS:"), ("instateless", "Stateless Pkt Rcv:"), ("intcp", "TCP Rcv:"),
   ("inudp", "UDP Rcv:"), ("inicmp", "ICMP Rcv:"), ("inother", "OTHER Rcv:"),
   ("v4_sess_create", "IPv4 Session Create:"), ("v6_sess_create", "IPv6 Session Create:"),
   ("tcp_sess_create", "TCP Session Create:"), ("udp_sess_create", "UDP Session Create:"),
   ("sess_aged_out", "Session Age Out:"), ("tcp_total_drop", "TCP Total Drop:"),
   ("tcp_dst_drop", "TCP Dst Drop:"), ("tcp_src_drop", "TCP Src Drop:"),
   ("tcp_src_dst_drop", "TCP SrcDst Drop:"), ("tcp_drop_black_dst", "TCP Dst BL Drop:"),
   ("tcp_drop_black_src", "TCP Src BL Drop:"), ("tcp_drop_black_src_dst", "TCP SrcDst BL Drop:"),
   ("tcp_exceed_drop_any_dst", "TCP Dst Excd Drop:"),
   ("tcp_exceed_drop_any_src", "TCP Src Excd Drop:"),
   ("tcp_exceed_drop_any_src_dst", "TCP SrcDst Excd Drop:"), ("udp_total_drop", "UDP Total Drop:"),
   ("udp_dst_drop", "UDP Dst Drop:"), ("udp_src_drop", "UDP Src Drop:"),
   ("udp_src_dst_drop", "UDP SrcDst Drop:"), ("udp_drop_black_dst", "UDP Dst BL Drop:"),
   ("udp_drop_black_src", "UDP Src BL Drop:"), ("udp_drop_black_src_dst", "UDP SrcDst BL Drop:"),
   ("udp_exceed_drop_any_dst", "UDP Dst Excd Drop:"),
   ("udp_exceed_drop_any_src", "UDP Src Excd Drop:"),
   ("udp_exceed_drop_any_src_dst", "UDP SrcDst Excd Drop:"),
   ("icmp_total_drop", "ICMP Total Drop:"), ("icmp_dst_drop", "ICMP Dst Drop:"),
   ("icmp_src_drop", "ICMP Src Drop:"), ("icmp_src_dst_drop", "ICMP SrcDst Drop:"),
   ("icmp_drop_black_dst", "ICMP Dst BL Drop:"), ("icmp_drop_black_src", "ICMP Src BL Drop:"),
   ("icmp_drop_black_src_dst", "ICMP SrcDst BL Drop:"),
   ("icmp_exceed_drop_any_dst", "ICMP Dst Excd Drop:"),
   ("icmp_exceed_drop_any_src", "ICMP Src Excd Drop:"),
   ("icmp_exceed_drop_any_src_dst", "ICMP SrcDst Excd Drop:"),
   ("other_total_drop", "OTHER Total Drop:"), ("other_dst_drop", "OTHER Dst Drop:"),
   ("other_src_drop", "OTHER Src Drop:"), ("other_src_dst_drop", "OTHER SrcDst Drop:"),
   ("other_drop_black_dst", "OTHER Dst BL Drop:"), ("other_drop_black_src", "OTHER Src BL Drop:"),
   ("other_drop_black_src_dst", "OTHER SrcDst BL Drop:"),
   ("other_exceed_drop_any_dst", "OTHER Dst Excd Drop:"),
   ("other_exceed_drop_src", "OTHER Src Excd Drop:"),
   ("other_exceed_drop_src_dst", "OTHER SrcDst Excd Drop:"), ("infrag", "OTHER Frag Rcv:"),
   ("frag_drop", "OTHER Frag Drop:"), ("http_drop_total", "HTTP Total Drop:"),
   ("http_drop_dst", "HTTP Dst Drop:"), ("http_drop_src", "HTTP Src Drop:"),
   ("http_drop_src_dst", "HTTP SrcDst Drop:"), ("dns_udp_drop_total", "DNS-UDP Total Drop:"),
   ("dns_udp_drop_dst", "DNS-UDP Dst Drop:"), ("dns_udp_drop_src", "DNS-UDP Src Drop:"),
   ("dns_udp_drop_src_dst", "DNS-UDP SrcDst Drop:"), ("dns_tcp_drop_total", "DNS-TCP Total Drop:"),
   ("dns_tcp_drop_dst", "DNS-TCP Dst Drop:"), ("dns_tcp_drop_src", "DNS-TCP Src Drop:"),
   ("dns_tcp_drop_src_dst", "DNS-TCP SrcDst Drop:"), ("ssl_l4_drop_total", "SSL-L4 Total Drop:"),
   ("ssl_l4_drop_dst", "SSL-L4 Dst Drop:"), ("ssl_l4_drop_src", "SSL-L4 Src Drop:"),
   ("ssl_l4_drop_src_dst", "SSL-L4 SrcDst Drop:"), ("dst_port_undef_drop", "Dst Port Undef Drop:"),
   ("dst_port_exceed_drop_any", "Dst Port Excd Drop:"),
   ("dst_ipproto_bl", "Dst IP-Proto BL Drop:"), ("dst_port_bl", "Dst Port BL Drop:"),
   ("dst_sport_bl", "Dst SrcPort BL Drop:"),
   ("dst_sport_exceed_drop_any", "Dst SrcPort Excd Drop:"),
   ("dst_ipproto_rcvd", "Dst IP-Proto Rcv:"), ("dst_ipproto_drop", "Dst IP-Proto Drop:"),
   ("dst_ipproto_exceed_drop_any", "Dst IP-Proto Excd Drop:"), ("src_ip_bypass", "Src IP Bypass:"),
   ("mpls_rcvd", "MPLS Rcv:"), ("mpls_drop", "MPLS Drop:"), ("mpls_malformed", "MPLS Malformed:"),
   ("dst_scanning_detected", "Dst Scanning Detected:"), ("dst_ingress_bytes", "Ingress Bytes:"),
   ("dst_egress_bytes", "Egress Bytes:"), ("dst_ingress_packets", "Ingress Packets:"),
   ("dst_egress_packets", "Egress Packets:"), ("dst_ip_bypass", "Dst IP Bypass:"),
   ("dst_blackhole_inject", "Dst Blackhole Inject:"),
   ("dst_blackhole_withdraw", "Dst Blackhole Withdraw:"),
   ("dst_fwd_pkt_sent", "Incoming Packets Sent:"), ("dst_rev_pkt_sent", "Outgoing Packets Sent:"),
   ("dst_fwd_byte_sent", "Incoming Bytes Sent:"), ("dst_rev_byte_sent", "Outgoing Bytes Sent:")]

/-- The packets that passed are those received less the drops of the last anomaly
record, whatever device that came from. -/
def readCountersDdosBriefStatsCounter : Decode Unit := do
  let tags ← agentTags
  populateSflowStructU64 config .ddosBriefStats (sflowDdosBriefStats.map Prod.fst)
  let counters ← getCounters .ddosBriefStats
  let packetAnomalyDropped ← getDword .packetAnomalyDropped
  let packetAnomalyPassed := counters "ip_rcvd" + counters "ipv6_rcvd" - packetAnomalyDropped
  setDword .packetAnomalyPassed packetAnomalyPassed
  emit (.opentsdb (sumMetrics config tags counters
    [("intcp", ["intcp"]), ("inudp", ["inudp"]), ("inicmp", ["inicmp"]), ("inother", ["inother"]),
     ("tcp_total_drop", ["tcp_total_drop"]), ("udp_total_drop", ["udp_total_drop"]),
     ("icmp_total_drop", ["icmp_total_drop"]), ("other_total_drop", ["other_total_drop"]),
     ("tcp_sess_create", ["tcp_sess_create"]), ("udp_sess_create", ["udp_sess_create"]),
     ("global_dst_packet_sent", ["dst_fwd_pkt_sent"]),
     ("global_dst_ingress_bytes", ["dst_ingress_bytes"]),
     ("global_dst_egress_bytes", ["dst_fwd_byte_sent"])] ++
      [metric config "packet_anomaly_passed" tags packetAnomalyPassed]))
  logCountersU64 config .ddosBriefStats sflowDdosBriefStats

def sflowDdosLongStatsFields : List String :=
  ["tcp_syncookie_sent", "tcp_syncookie_pass", "tcp_syncookie_sent_fail",
   "tcp_syncookie_check_fail", "tcp_syncookie_fail_bl", "tcp_outrst", "tcp_syn_received",
   "tcp_syn_rate", "tcp_exceed_drop_prate_dst", "tcp_exceed_drop_crate_dst",
   "tcp_exceed_drop_climit_dst", "tcp_exceed_drop_prate_src", "tcp_exceed_drop_crate_src",
   "tcp_exceed_drop_climit_src", "tcp_exceed_drop_prate_src_dst", "tcp_exceed_drop_crate_src_dst",
   "tcp_exceed_drop_climit_src_dst", "udp_exceed_drop_prate_dst", "udp_exceed_drop_crate_dst",
   "udp_exceed_drop_climit_dst", "udp_exceed_drop_prate_src", "udp_exceed_drop_crate_src",
   "udp_exceed_drop_climit_src", "udp_exceed_drop_prate_src_dst", "udp_exceed_drop_crate_src_dst",
   "udp_exceed_drop_climit_src_dst", "udp_exceed_drop_conn_prate", "dns_malform_drop",
   "dns_qry_any_drop", "tcp_reset_client", "tcp_reset_server", "dst_entry_learn", "dst_entry_hit",
   "src_entry_learn", "src_entry_hit", "sync_src_wl_sent", "sync_src_dst_wl_sent",
   "sync_dst_wl_sent", "sync_src_wl_rcv", "sync_src_dst_wl_rcv", "sync_dst_wl_rcv",
   "dst_port_pkt_rate_exceed", "dst_port_conn_limm_exceed", "dst_port_conn_rate_exceed",
   "dst_sport_pkt_rate_exceed", "dst_sport_conn_limm_exceed", "dst_sport_conn_rate_exceed",
   "dst_ipproto_pkt_rate_exceed", "tcp_ack_no_syn", "tcp_ofo", "tcp_zero_window", "tcp_retransmit",
   "tcp_action_on_ack_start", "tcp_action_on_ack_matched", "tcp_action_on_ack_passed",
   "tcp_action_on_ack_failed", "tcp_action_on_ack_timeout", "tcp_action_on_ack_reset",
   "src_entry_aged", "dst_entry_aged", "tcp_zero_wind_bl", "tcp_ofo_bl", "tcp_retransmit_bl",
   "syn_auth_skip", "udp_retry_pass", "dns_auth_udp_pass", "dst_port_udp_wellknown_port_drop",
   "ntp_monlist_req_drop", "ntp_monlist_resp_drop", "udp_payload_too_big_drop",
   "udp_payload_too_small_drop", "other_frag_exceed_drop_dst", "other_frag_exceed_drop_src",
   "other_frag_exceed_drop_src_dst", "tcp_rexmit_syn_limit_drop", "tcp_rexmit_syn_limit_bl",
   "over_conn_limit_tcp_syn_auth", "over_conn_limit_tcp_syn_cookie",
   "over_conn_limit_tcp_port_syn_auth", "over_conn_limit_tcp_port_syn_cookie",
   "tcp_exceed_drop_conn_prate", "syn_auth_pass", "udp_retry_start", "udp_retry_fail",
   "udp_retry_timeout", "ip_tunnel_rcvd", "ipv6_tunnel_rcvd", "gre_tunnel_rcvd",
   "gre_v6_tunnel_rcvd", "dst_entry_miss", "src_entry_miss", "src_dst_entry_hit",
   "src_dst_entry_miss", "src_dst_entry_aged", "icmp_exceed_drop_prate_dst", "sync_wl_no_dst_drop",
   "src_dst_entry_learn", "dns_tcp_auth_pass", "dst_port_kbit_rate_exceed",
   "dst_sport_kbit_rate_exceed"]

def sflowDdosLongStatsLabels : List (String × String) :=
  [("tcp_syncookie_sent", "TCP SYN Cookie Sent:"), ("tcp_syncookie_pass", "TCP SYN Cookie Pass:"),
   ("tcp_syncookie_sent_fail", "TCP SYN Cookie Sent Fail:"),
   ("tcp_syncookie_check_fail", "TCP SYN Cookie Check Fail:"),
   ("tcp_syncookie_fail_bl", "TCP SYN Cookie BL Fail:"), ("tcp_outrst", "TCP Out RST:"),
   ("tcp_syn_received", "TCP SYN Rcv:"), ("tcp_syn_rate", "TCP SYN Rate Per Sec:"),
   ("tcp_exceed_drop_prate_dst", "TCP Dst Pkt Rate Drop:"),
   ("tcp_exceed_drop_crate_dst", "TCP Dst Conn Rate Drop:"),
   ("tcp_exceed_drop_climit_dst", "TCP Dst Conn Limit Drop:"),
   ("tcp_exceed_drop_prate_src", "TCP Src Pkt Rate Drop:"),
   ("tcp_exceed_drop_crate_src", "TCP Src Conn Rate Drop:"),
   ("tcp_exceed_drop_climit_src", "TCP Src Conn Limit Drop:"),
   ("tcp_exceed_drop_prate_src_dst", "TCP SrcDst Pkt Rate Drop:"),
   ("tcp_exceed_drop_crate_src_dst", "TCP SrcDst Conn Rate Drop:"),
   ("tcp_exceed_drop_climit_src_dst", "TCP SrcDst Conn Limit Drop:"),
   ("udp_exceed_drop_prate_dst", "UDP Dst Pkt Rate Drop:"),
   ("udp_exceed_drop_crate_dst", "UDP Dst Conn Rate Drop:"),
   ("udp_exceed_drop_climit_dst", "UDP Dst Conn Limit Drop:"),
   ("udp_exceed_drop_prate_src", "UDP Src Pkt Rate Drop:"),
   ("udp_exceed_drop_crate_src", "UDP Src Conn Rate Drop:"),
   ("udp_exceed_drop_climit_src", "UDP Src Conn Limit Drop:"),
   ("udp_exceed_drop_prate_src_dst", "UDP SrcDst Pkt Rate Drop:"),
   ("udp_exceed_drop_crate_src_dst", "UDP SrcDst Conn Rate Drop:"),
   ("udp_exceed_drop_climit_src_dst", "UDP SrcDst Conn Limit Drop:"),
   ("udp_exceed_drop_conn_prate", "UDP Conn Pkt Rate Drop:"),
   ("dns_malform_drop", "DNS Malform Drop:"), ("dns_qry_any_drop", "DNS Query Any Drop:"),
   ("tcp_reset_client", "TCP Reset Client:"), ("tcp_reset_server", "TCP Reset Server:"),
   ("dst_entry_learn", "Dst Entry Learn:"), ("dst_entry_hit", "Dst Entry Hit:"),
   ("src_entry_learn", "Src Entry Learn:"), ("src_entry_hit", "Src Entry Hit:"),
   ("sync_src_wl_sent", "Sync Src Sent:"), ("sync_src_dst_wl_sent", "Sync SrcDst Sent:"),
   ("sync_dst_wl_sent", "Sync Dst Sent:"), ("sync_src_wl_rcv", "Sync Src Rcv:"),
   ("sync_src_dst_wl_rcv", "Sync SrcDst Rcv:"), ("sync_dst_wl_rcv", "Sync Dst Rcv:"),
   ("dst_port_pkt_rate_exceed", "Dst Port Pkt Rate Excd:"),
   ("dst_port_conn_limm_exceed", "Dst Port Conn Limit Excd:"),
   ("dst_port_conn_rate_exceed", "Dst Port Conn Rate Excd:"),
   ("dst_sport_pkt_rate_exceed", "Dst SrcPort Pkt Rate Excd:"),
   ("dst_sport_conn_limm_exceed", "Dst SrcPort Conn Limit Excd:"),
   ("dst_sport_conn_rate_exceed", "Dst SrcPort Conn Rate Excd:"),
   ("dst_ipproto_pkt_rate_exceed", "Dst IP-Proto Pkt Rate Excd:"),
   ("tcp_ack_no_syn", "TCP ACK No SYN:"), ("tcp_ofo", "TCP Out-Of-Seq:"),
   ("tcp_zero_window", "TCP 0 Window:"), ("tcp_retransmit", "TCP ReXmit"),
   ("tcp_retransmit_bl", "TCP ReXmit BL:"), ("tcp_action_on_ack_start", "TCP Action-On-Ack Init:"),
   ("tcp_action_on_ack_matched", "TCP Action-On-Ack Match:"),
   ("tcp_action_on_ack_passed", "TCP Action-On-Ack Pass:"),
   ("tcp_action_on_ack_failed", "TCP Action-On-Ack Fail:"),
   ("tcp_action_on_ack_timeout", "TCP Action-On-Ack Timeout:"),
   ("tcp_action_on_ack_reset", "TCP Action-On-Ack Reset:"), ("src_entry_aged", "Src Entry Aged:"),
   ("dst_entry_aged", "Dst Entry Aged:"), ("tcp_zero_wind_bl", "TCP Zero Window BL:"),
   ("tcp_ofo_bl", "TCP Out-Of-Seq BL:"), ("syn_auth_skip", "TCP SYN Auth Skip:"),
   ("udp_retry_pass", "UDP Retry Pass:"), ("dns_auth_udp_pass", "DNS Auth UDP Pass:"),
   ("dst_port_udp_wellknown_port_drop", "UDP Wellknown Port Drop:"),
   ("ntp_monlist_req_drop", "NTP Monlist Req Drop:"),
   ("ntp_monlist_resp_drop", "NTP Monlist Resp Drop:"),
   ("udp_payload_too_big_drop", "UDP Payload Too Large Drop:"),
   ("udp_payload_too_small_drop", "UDP Payload Too Small Drop:"),
   ("other_frag_exceed_drop_dst", "OTHER Dst Frag Excd Drop:"),
   ("other_frag_exceed_drop_src", "OTHER Src Frag Excd Drop:"),
   ("other_frag_exceed_drop_src_dst", "OTHER SrcDst Frag Excd Drop:"),
   ("tcp_rexmit_syn_limit_drop", "TCP Rexmit SYN Excd Drop:"),
   ("tcp_rexmit_syn_limit_bl", "TCP ReXmit SYN Excd BL:"),
   ("over_conn_limit_tcp_syn_auth", "Over conn limit TCP SYN Auth"),
   ("over_conn_limit_tcp_syn_cookie", "Over conn limit TCP SYN Cookie"),
   ("over_conn_limit_tcp_port_syn_auth", "Over conn limit TCP port SYN Auth"),
   ("over_conn_limit_tcp_port_syn_cookie", "Over conn limit TCP port SYN Cookie"),
   ("tcp_exceed_drop_conn_prate", "TCP Conn Pkt Rate Drop:"),
   ("syn_auth_pass", "TCP SYN Auth Pass:"), ("udp_retry_start", "UDP Retry Init:"),
   ("udp_retry_fail", "UDP Retry Fail:"), ("udp_retry_timeout", "UDP Retry Timeout:"),
   ("ip_tunnel_rcvd", "IPv4 Tunnel Rcv:"), ("ipv6_tunnel_rcvd", "IPv6 Tunnel Rcv:"),
   ("gre_tunnel_rcvd", "GRE Tunnel Rcv:"), ("gre_v6_tunnel_rcvd", "GRE V6 Tunnel Rcv"),
   ("dst_entry_miss", "Dst Entry Miss:"), ("src_entry_miss", "Src Entry Miss:"),
   ("src_dst_entry_hit", "SrcDst Entry Hit:"), ("src_dst_entry_miss", "SrcDst Entry Miss:"),
   ("src_dst_entry_aged", "SrcDst Entry Aged:"),
   ("icmp_exceed_drop_prate_dst", "ICMP Dst Pkt Rate Drop:"),
   ("sync_wl_no_dst_drop", "Sync SrcDst No Dst Drop:"),
   ("src_dst_entry_learn", "SrcDst Entry Learn:"), ("dns_tcp_auth_pass", "DNS TCP Auth Pass:"),
   ("dst_port_kbit_rate_exceed", "Dst Port KiBit Rate Excd:"),
   ("dst_sport_kbit_rate_exceed", "Dst SrcPort KiBit Rate Excd:")]

def readCountersDdosLongStatsCounter : Decode Unit := do
  populateSflowStructU64 config .ddosLongStats sflowDdosLongStatsFields
  logCountersU64 config .ddosLongStats sflowDdosLongStatsLabels

end SflowTool
