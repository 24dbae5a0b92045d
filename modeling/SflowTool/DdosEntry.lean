import SflowTool.DdosGlobal

/-! The DDoS records that count for one protected entry. They begin with the common
header; the metrics they send are tagged with the entry's address. The derived
metrics go through statics of the process. -/
namespace SflowTool
open Decoding Decoding.Decoder

variable (config : SFConfig)

/-- The tags of an entry: `columns` is what stands between the prefix and the agent,
with `args` its arguments. -/
def entryTags (member : DdosMember) (columns columns6 : String) (args : List Arg) :
    Decode Line := do
  let common ← getCommon member
  let agentAddr ← getAddressVar .agentAddr
  if common.ipType = 1 then
    return ⟨"ip=%08x prefix=%d" ++ columns ++ " agent=%08x type=%x\n",
      [.word (UInt32.ofNat (beNat common.ip)), .word common.subnetMask] ++ args ++
        [.word (agentWord agentAddr), .word common.ipType]⟩
  else
    return ⟨"ip=%02x%02x%02x%02x%02x%02x%02x%02x%02x%02x%02x%02x%02x%02x%02x%02x prefix=%d" ++
        columns6 ++ " agent=%08x\n",
      [.bytes common.ip, .word common.subnetMask] ++ args ++ [.word (agentWord agentAddr)]⟩

/-- The port and application type of a record, as tag arguments. -/
def portArg (counters : String → UInt64) : Arg := .word (counters "port").toUInt32
def appTypeArg (counters : String → UInt64) : Arg := .word (counters "app_type").toUInt32

/-- A static that is set to a sum of fields just before it is sent. -/
def setSum (var : DwordVar) (counters : String → UInt64) (fields : List String) : Decode Unit :=
  setDword var (sumOf counters fields)

def sflowDdosIpCounterHttpT2DataFields : List String :=
  ["ofo_timer_expired", "partial_hdr", "ofo", "retrans_fin", "retrans_rst", "retrans_push",
   "retrans", "chunk_bad", "chunk_sz_512", "chunk_sz_1k", "chunk_sz_2k", "chunk_sz_4k",
   "chunk_sz_gt_4k", "neg_rsp_remain", "too_many_headers", "header_name_too_long", "http11",
   "http10", "get", "head", "put", "post", "trace", "options", "connect", "del", "unknown",
   "line_too_long", "req_content_len", "rsp_chunk", "parsereq_fail", "request", "neg_req_remain",
   "client_rst", "req_retrans", "req_ofo", "invalid_header", "ddos_policy_violation",
   "lower_than_mss_exceed", "dst_req_rate_exceed", "src_req_rate_exceed", "req_processed",
   "new_syn", "policy_drop", "error_condition", "ofo_queue_exceed", "alloc_fail", "get_line_fail",
   "alloc_hdr_fail", "invalid_hdr_name", "invalid_hdr_val", "challenge_ud_fail",
   "challenge_js_fail", "challenge_fail", "challenge_js_sent", "challenge_ud_sent",
   "malform_bad_chunk", "malform_content_len_too_long", "malform_too_many_headers",
   "malform_header_name_too_long", "malform_line_too_long", "malform_req_line_too_long",
   "window_small", "window_small_drop", "use_hdr_ip_as_source", "agent_filter_match",
   "agent_filter_blacklist", "referer_filter_match", "referer_filter_blacklist",
   "http_idle_timeout", "header_processing_time_0", "header_processing_time_1",
   "header_processing_time_2", "header_processing_time_3", "header_processing_incomplete",
   "req_sz_1k", "req_sz_2k", "req_sz_4k", "req_sz_8k", "req_sz_16k", "req_sz_32k", "req_sz_64k",
   "req_sz_256k", "req_sz_gt_256k", "filter_hdr_match", "filter_hdr_not_match",
   "filter_hdr_action_blacklist", "filter_hdr_action_drop", "filter_hdr_action_default_pass",
   "resp_code_1xx", "resp_code_2xx", "resp_code_3xx", "resp_code_4xx", "resp_code_5xx",
   "resp_code_other", "dst_post_rate_exceed", "src_post_rate_exceed", "dst_resp_rate_exceed",
   "filter_hdr_action_whitelist", "filter1_hdr_match", "filter2_hdr_match", "filter3_hdr_match",
   "filter4_hdr_match", "filter5_hdr_match", "filter_hdr_none_match", "src_partial_hdr",
   "src_parsereq_fail", "src_neg_req_remain", "src_ddos_policy_violation",
   "src_lower_than_mss_exceed", "src_policy_drop", "src_malform_bad_chunk",
   "src_challenge_ud_fail", "src_challenge_js_fail", "src_challenge_fail", "src_window_small_drop",
   "src_filter_hdr_action_drop", "src_challenge_ud_sent", "src_challenge_js_sent"]

def sflowDdosIpCounterHttpT2DataLabels : List (String × String) :=
  [("ofo_timer_expired", "OFO Timer Expired:"), ("partial_hdr", "Partial Header:"),
   ("ofo", "Out of Order Packets:"), ("retrans_fin", "TCP FIN Retransmit:"),
   ("retrans_rst", "TCP RST Retransmit:"), ("retrans_push", "TCP PSH Retransmit:"),
   ("retrans", "TCP Retransmit:"), ("chunk_bad", "Bad HTTP Chunk:"),
   ("chunk_sz_512", "Payload chunk size < 512:"), ("chunk_sz_1k", "Payload chunk size < 1K:"),
   ("chunk_sz_2k", "Payload chunk size < 2K:"), ("chunk_sz_4k", "Payload chunk size < 4K:"),
   ("chunk_sz_gt_4k", "Payload chunk size > 4K:"), ("neg_rsp_remain", "Negative response remain:"),
   ("too_many_headers", "Too many HTTP Headers:"),
   ("header_name_too_long", "HTTP Header Name too long:"), ("http11", "Request HTTP 1.1:"),
   ("http10", "Request HTTP 1.0:"), ("get", "Request method GET:"),
   ("head", "Request method HEAD:"), ("put", "Request method PUT:"),
   ("post", "Request method POST:"), ("trace", "Request method TRACE:"),
   ("options", "Request method OPTIONS:"), ("connect", "Request method CONNECT:"),
   ("del", "Request method DELETE:"), ("unknown", "Request method UNKNOWN:"),
   ("line_too_long", "Line too long:"), ("req_content_len", "Request Content-Length:"),
   ("rsp_chunk", "Response Chunk:"), ("parsereq_fail", "Parse request failure:"),
   ("request", "Request:"), ("neg_req_remain", "Negative request remain:"),
   ("client_rst", "Client TCP RST recv:"), ("req_retrans", "Request retransmit:"),
   ("req_ofo", "Request OFO:"), ("invalid_header", "Invalid HTTP Header:"),
   ("ddos_policy_violation", "Policy violation:"),
   ("lower_than_mss_exceed", "Fail min payload exceeded:"),
   ("dst_req_rate_exceed", "Dst request rate exceeded:"),
   ("src_req_rate_exceed", "Src request rate exceeded:"), ("req_processed", "Packets processed:"),
   ("new_syn", "TCP SYN:"), ("policy_drop", "Policy Drop:"),
   ("error_condition", "Error condition:"), ("ofo_queue_exceed", "OFO queue exceeded:"),
   ("alloc_fail", "Alloc Failed:"), ("alloc_hdr_fail", "Alloc header Failed:"),
   ("get_line_fail", "Get line Failed:"), ("invalid_hdr_name", "Invalid HTTP header Name:"),
   ("invalid_hdr_val", "Invalid HTTP header Value:"),
   ("challenge_ud_fail", "Challenge URL redirect Fail:"),
   ("challenge_js_fail", "Challenge javascript Fail:"), ("challenge_fail", "challenge fail:"),
   ("challenge_js_sent", "Challenge javascript Sent:"),
   ("challenge_ud_sent", "Challenge URL redirect Sent:"),
   ("malform_bad_chunk", "Malform bad Chunk:"),
   ("malform_content_len_too_long", "Malform content len too long:"),
   ("malform_too_many_headers", "Malform too many headers:"),
   ("malform_header_name_too_long", "Malform header name too long:"),
   ("malform_line_too_long", "Malform line too long:"),
   ("malform_req_line_too_long", "Malform req line too long:"),
   ("window_small", "Window size small:"), ("window_small_drop", "Window size small Drop:"),
   ("use_hdr_ip_as_source", "Use ip in hdr as src:"),
   ("agent_filter_match", "Agent filter matched :"),
   ("agent_filter_blacklist", "Agent filter blacklisted:"),
   ("referer_filter_match", "Referer filter matched:"),
   ("referer_filter_blacklist", "Referer filter blacklisted:"),
   ("http_idle_timeout", "HTTP Idle Timeout:"),
   ("header_processing_time_0", "Header processing time < 1s:"),
   ("header_processing_time_1", "Header processing time < 10s:"),
   ("header_processing_time_2", "Header processing time < 30s:"),
   ("header_processing_time_3", "Header processing time >= 30s:"),
   ("header_processing_incomplete", "Header processing incomplete:"),
   ("req_sz_1k", "Request payload Size < 1K:"), ("req_sz_2k", "Request payload Size < 2K:"),
   ("req_sz_4k", "Request payload Size < 4K:"), ("req_sz_8k", "Request payload Size < 8K:"),
   ("req_sz_16k", "Request payload Size < 16K:"), ("req_sz_32k", "Request payload Size < 32K:"),
   ("req_sz_64k", "Request payload Size < 64K:"), ("req_sz_256k", "Request payload Size < 256K:"),
   ("req_sz_gt_256k", "Request payload Size > 256K:"), ("filter_hdr_match", "Filter Hdr Match:"),
   ("filter_hdr_not_match", "Filter Hdr Not Match:"),
   ("filter_hdr_action_blacklist", "Filter Hdr Action BL:"),
   ("filter_hdr_action_drop", "Filter Hdr Action Drop:"),
   ("filter_hdr_action_default_pass", "Filter Hdr Action Default Pass:"),
   ("resp_code_1xx", "HTTP Status Code 1XX:"), ("resp_code_2xx", "HTTP Status Code 2XX:"),
   ("resp_code_3xx", "HTTP Status Code 3XX:"), ("resp_code_4xx", "HTTP Status Code 4XX:"),
   ("resp_code_5xx", "HTTP Status Code 5XX:"), ("resp_code_other", "HTTP Status Code OTHER:"),
   ("dst_post_rate_exceed", "Dst post rate exceeded:"),
   ("src_post_rate_exceed", "Src post rate exceeded:"),
   ("dst_resp_rate_exceed", "Dst response rate exceeded:"),
   ("filter_hdr_action_whitelist", "Filter Hdr Action WL:"),
   ("filter_hdr_match", "Filter1 Hdr Match:"), ("filter_hdr_match", "Filter2 Hdr Match:"),
   ("filter_hdr_match", "Filter3 Hdr Match:"), ("filter_hdr_match", "Filter4 Hdr Match:"),
   ("filter_hdr_match", "Filter5 Hdr Match:"), ("filter_hdr_match", "Filter None Hdr Match:"),
   ("src_partial_hdr", "Src Partial Header:"), ("src_parsereq_fail", "Src Parse request failure:"),
   ("src_neg_req_remain", "Src Negative request remain:"),
   ("src_ddos_policy_violation", "Src Policy violation:"),
   ("src_lower_than_mss_exceed", "Src Fail min payload exceeded:"),
   ("src_policy_drop", "Src Policy Drop:"), ("src_malform_bad_chunk", "Src Malform bad Chunk:"),
   ("src_challenge_ud_fail", "Src Challenge URL redirect Fail:"),
   ("src_challenge_js_fail", "Src Challenge javascript Fail:"),
   ("src_challenge_fail", "Src challenge fail:"),
   ("src_window_small_drop", "Src Window size small Drop:"),
   ("src_filter_hdr_action_drop", "Src Filter Hdr Action Drop:"),
   ("src_challenge_js_sent", "Src Challenge javascript Sent:"),
   ("src_challenge_ud_sent", "Src Challenge URL redirect Sent:")]

def httpDroppedFields : List String :=
  ["src_challenge_ud_fail", "src_challenge_js_fail", "src_policy_drop",
   "src_ddos_policy_violation", "src_challenge_ud_sent", "src_challenge_js_sent"]

def httpChallengeSentFields : List String :=
  ["challenge_ud_sent", "challenge_js_sent", "src_challenge_ud_sent", "src_challenge_js_sent",
   "challenge_ud_fail", "challenge_js_fail", "src_challenge_ud_fail", "src_challenge_js_fail"]

def dstHttpChallengeSentFields : List String :=
  ["challenge_js_sent", "challenge_ud_sent", "challenge_ud_fail", "challenge_js_fail"]

def httpExclSrcDroppedFields : List String :=
  ["src_policy_drop"]

def readCountersDdosHttpT2Counter : Decode Unit := do
  populateSflowStructU64 config .httpPerip sflowDdosIpCounterHttpT2DataFields
  let counters ← getCounters .httpPerip
  let tags ← entryTags .httpPerip " port=%d" " port=%d" [portArg counters]
  logCountersU64 config .httpPerip sflowDdosIpCounterHttpT2DataLabels
  setSum .httpDropped counters httpDroppedFields
  setSum .httpChallengeSent counters httpChallengeSentFields
  setSum .dstHttpChallengeSent counters dstHttpChallengeSentFields
  setSum .httpExclSrcDropped counters httpExclSrcDroppedFields
  emit (.opentsdb (sumMetrics config tags counters
    [("http_dropped", httpDroppedFields), ("http_challenge_sent", httpChallengeSentFields),
     ("dst_http_challenge_sent", dstHttpChallengeSentFields),
     ("http_policy_violation", ["ddos_policy_violation", "src_ddos_policy_violation"]),
     ("dst_http_policy_violation", ["ddos_policy_violation"]),
     ("http_excl_src_dropped", httpExclSrcDroppedFields)]))

def sflowDdosIpCounterUdpT2Data : List (String × String) :=
  [("filter1_match", "Filter1 Match:"), ("filter2_match", "Filter2 Match:"),
   ("filter3_match", "Filter3 Match:"), ("filter4_match", "Filter4 Match:"),
   ("filter5_match", "Filter5 Match:"), ("filter_none_match", "Filter None Match:")]

def readCountersDdosUdpT2Counter : Decode Unit :=
  readLabelledU64 config .udpPerip sflowDdosIpCounterUdpT2Data

def sflowDdosIpCounterTcpT2Data : List (String × String) :=
  [("filter1_match", "Filter1 Match:"), ("filter2_match", "Filter2 Match:"),
   ("filter3_match", "Filter3 Match:"), ("filter4_match", "Filter4 Match:"),
   ("filter5_match", "Filter5 Match:"), ("filter_none_match", "Filter None Match:")]

def readCountersDdosTcpT2Counter : Decode Unit :=
  readLabelledU64 config .tcpPerip sflowDdosIpCounterTcpT2Data

def sflowDdosIpCounterOtherT2Data : List (String × String) :=
  [("filter1_match", "Filter1 Match:"), ("filter2_match", "Filter2 Match:"),
   ("filter3_match", "Filter3 Match:"), ("filter4_match", "Filter4 Match:"),
   ("filter5_match", "Filter5 Match:"), ("filter_none_match", "Filter None Match:")]

def readCountersDdosOtherT2Counter : Decode Unit :=
  readLabelledU64 config .otherPerip sflowDdosIpCounterOtherT2Data

def sflowDdosIpCounterSslL4T2Data : List (String × String) :=
  [("ssll4_policy_reset", "Policy Reset:"), ("ssll4_policy_drop", "Policy Drop:"),
   ("ssll4_drop_packet", "Drop packets:"), ("ssll4_er_condition", "Error condition:"),
   ("ssll4_processed", "Processed:"), ("ssll4_new_syn", "New TCP SYN:"),
   ("ssll4_is_ssl3", "SSL v3:"), ("ssll4_is_tls1_1", "TLS v1.0:"),
   ("ssll4_is_tls1_2", "TLS v1.1:"), ("ssll4_is_tls1_3", "TLS v1.2:"),
   ("ssll4_is_renegotiation", "SSL Renegotiation:"),
   ("ssll4_renegotiation_exceed", "Renegotiation exceeded:"),
   ("ssll4_is_dst_req_rate_exceed", "Dst rate exceeded:"),
   ("ssll4_is_src_req_rate_exceed", "Src rate exceeded:"),
   ("ssll4_do_auth_handshake", "Do Auth Handshake:"),
   ("ssll4_reset_for_handshake", "Reset While Others in HS:"),
   ("ssll4_handshake_timeout", "Auth handshake timeout:"),
   ("ssll4_auth_handshake_ok", "Auth handshake success:"),
   ("ssll4_auth_handshake_bl", "Auth handshake blacklisted:"),
   ("src_ssll4_policy_drop", "Src Policy Drop:"), ("src_ssll4_drop_packet", "Src Drop packets:"),
   ("src_ssll4_renegotiation_exceed", "Src Renegotiation exceeded:"),
   ("src_ssll4_auth_handshake_bl", "Src Auth handskake blacklisted:"),
   ("src_ssll4_policy_reset", "Src Policy Reset:")]

def readCountersDdosSslL4T2Counter : Decode Unit := do
  populateSflowStructU64 config .sslL4Perip (sflowDdosIpCounterSslL4T2Data.map Prod.fst)
  let counters ← getCounters .sslL4Perip
  let tags ← entryTags .sslL4Perip " port=%d" "  port=%d" [portArg counters]
  logCountersU64 config .sslL4Perip sflowDdosIpCounterSslL4T2Data
  emit (.opentsdb (sumMetrics config tags counters
    [("ssl_dropped", ["src_ssll4_drop_packet", "src_ssll4_policy_reset"]),
     ("dst_ssl_dropped", ["ssll4_drop_packet", "ssll4_policy_reset"])]))

def sflowDdosIpCounterDnsT2DataFields : List String :=
  ["force_tcp_auth", "udp_auth", "dst_rate_limit0", "dst_rate_limit1", "dst_rate_limit2",
   "dst_rate_limit3", "dst_rate_limit4", "dst_is_nx", "dst_fqdn_stage2_rate_exceed", "dst_nx_bl",
   "dst_nx_drop", "dns_req_sent", "dns_req_size_exceed", "dns_req_retrans",
   "dns_tcp_req_incomplete", "dns_fqdn_label_len_exceed", "UNUSED1", "UNUSED2", "UNUSED3",
   "UNUSED4", "UNUSED5", "UNUSED6", "dns_query_type_a", "dns_query_type_aaaa", "dns_query_type_ns",
   "dns_query_type_cname", "dns_query_type_any", "dns_query_type_srv", "dns_query_type_mx",
   "dns_query_type_soa", "dns_query_type_opt", "dns_udp_auth_fail", "dns_malform_drop",
   "src_rate_limit0", "src_rate_limit1", "src_rate_limit2", "src_rate_limit3", "src_rate_limit4",
   "src_dns_fqdn_label_len_exceed", "src_dns_udp_auth_fail", "src_force_tcp_auth",
   "src_dns_malform_drop"]

def sflowDdosIpCounterDnsT2DataLabels : List (String × String) :=
  [("force_tcp_auth", "Force TCP auth:"), ("udp_auth", "UDP auth:"),
   ("dst_rate_limit0", "Dest rate 0 Drop:"), ("dst_rate_limit1", "Dest rate 1 Drop:"),
   ("dst_rate_limit2", "Dest rate 2 Drop:"), ("dst_rate_limit3", "Dest rate 3 Drop:"),
   ("dst_rate_limit4", "Dest rate 4 Drop:"), ("dst_is_nx", "Response is NXDOMAIN:"),
   ("dst_fqdn_stage2_rate_exceed", "FQDN stage-II Exceed:"), ("dst_nx_bl", "NXDOMAIN query BL:"),
   ("dst_nx_drop", "NXDOMAIN Drop:"), ("dns_req_sent", "Request:"),
   ("dns_req_size_exceed", "UDP req size exceed:"), ("dns_req_retrans", "UDP req retrans:"),
   ("dns_tcp_req_incomplete", "TCP req incomplete:"),
   ("dns_fqdn_label_len_exceed", "FQDN Label Length Exceed:"),
   ("dns_query_type_a", "DNS Query A:"), ("dns_query_type_aaaa", "DNS Query AAAA:"),
   ("dns_query_type_ns", "DNS Query NS:"), ("dns_query_type_cname", "DNS Query CNAME:"),
   ("dns_query_type_any", "DNS Query ANY:"), ("dns_query_type_srv", "DNS Query SRV:"),
   ("dns_query_type_mx", "DNS Query MX:"), ("dns_query_type_soa", "DNS Query SOA:"),
   ("dns_query_type_opt", "DNS Query OPTIONS:"), ("dns_udp_auth_fail", "UDP Auth Fail:"),
   ("dns_malform_drop", "DNS Malformed Query Drop:"), ("src_rate_limit0", "Src rate 0 Drop:"),
   ("src_rate_limit1", "Src rate 1 Drop:"), ("src_rate_limit2", "Src rate 2 Drop:"),
   ("src_rate_limit3", "Src rate 3 Drop:"), ("src_rate_limit4", "Src rate 4 Drop:"),
   ("src_dns_fqdn_label_len_exceed", "Src FQDN Label Length Exceed:"),
   ("src_dns_udp_auth_fail", "Src UDP Auth Fail:"), ("src_force_tcp_auth", "Src Force TCP auth:"),
   ("src_dns_malform_drop", "Src DNS Malformed Query Drop:")]

def dnsDroppedFields : List String :=
  ["src_force_tcp_auth", "src_dns_udp_auth_fail", "src_dns_malform_drop", "dst_nx_bl",
   "dst_nx_drop", "src_dns_fqdn_label_len_exceed", "src_rate_limit0", "src_rate_limit1",
   "src_rate_limit2", "src_rate_limit3", "src_rate_limit4"]

/-- The last metric is a static that nothing assigns. -/
def readCountersDdosDnsCounterT2 : Decode Unit := do
  populateSflowStructU64 config .dnsPerip sflowDdosIpCounterDnsT2DataFields
  let counters ← getCounters .dnsPerip
  let tags ← entryTags .dnsPerip " port=%d app-type=%d" " port=%d app-type=%d"
    [portArg counters, appTypeArg counters]
  logCountersU64 config .dnsPerip sflowDdosIpCounterDnsT2DataLabels
  setSum .dnsDropped counters dnsDroppedFields
  let dnsExclSrcDropped ← getDword .dnsExclSrcDropped
  emit (.opentsdb (sumMetrics config tags counters
    [("dns_dropped", dnsDroppedFields), ("dst_force_tcp", ["force_tcp_auth"]),
     ("force_tcp", ["force_tcp_auth", "src_force_tcp_auth"])] ++
      [metric config "dns_excl_src_dropped" tags dnsExclSrcDropped]))

def sflowDdosIpCounterIcmpT2Data : List (String × String) :=
  [("icmp_type_deny_drop", "ICMP Type Deny Drop :"),
   ("icmpv4_rfc_undef_drop", "ICMPv4 RFC Undef Type Drop:"),
   ("icmpv6_rfc_undef_drop", "ICMPv6 RFC Undef Type Drop:"),
   ("icmp_rate_exceed0", "ICMP Type Code Rate Excd 1 :"),
   ("icmp_rate_exceed1", "ICMP Type Code Rate Excd 2 :"),
   ("icmp_rate_exceed2", "ICMP Type Code Rate Excd 3 :"),
   ("icmp_wildcard_deny_drop", "ICMP Wildcard Deny Drop:")]

def readCountersDdosIcmpCounterT2 : Decode Unit := do
  populateSflowStructU64 config .icmpPerip (sflowDdosIpCounterIcmpT2Data.map Prod.fst)
  let counters ← getCounters .icmpPerip
  let tags ← entryTags .icmpPerip "" "" []
  setSum .icmpDropped counters (sflowDdosIpCounterIcmpT2Data.map Prod.fst)
  emit (.opentsdb (sumMetrics config tags counters
    [("icmp_dropped", sflowDdosIpCounterIcmpT2Data.map Prod.fst)]))
  logCountersU64 config .icmpPerip sflowDdosIpCounterIcmpT2Data

def sflowDdosIpCounterL4T2DataFields : List String :=
  ["dst_frag_pkt_rate_exceed", "dst_icmp_pkt_rate_exceed", "dst_other_pkt_rate_exceed",
   "dst_tcp_src_drop", "dst_udp_src_drop", "dst_icmp_src_drop", "dst_other_src_drop",
   "dst_tcp_pkt_rcvd", "dst_tcp_conn_limit_exceed", "dst_tcp_any_exceed", "dst_tcp_pkt",
   "dst_tcp_pkt_rate_exceed", "dst_tcp_syn", "dst_tcp_syn_drop", "dst_tcp_conn_rate_exceed",
   "dst_frag_src_rate_drop", "dst_udp_conn_limit_exceed", "dst_udp_pkt", "dst_udp_pkt_rate_exceed",
   "dst_tcp_auth", "dst_udp_conn_rate_exceed", "dst_tcp_drop", "dst_udp_drop", "dst_icmp_drop",
   "dst_frag_drop", "dst_other_drop", "dst_pkt_sent", "dst_udp_pkt_sent", "dst_tcp_pkt_sent",
   "dst_icmp_pkt_sent", "dst_other_pkt_sent", "dst_icmp_pkt", "dst_other_pkt",
   "dst_tcp_src_rate_drop", "dst_udp_src_rate_drop", "dst_icmp_src_rate_drop",
   "dst_other_src_rate_drop", "dst_port_pkt_rate_exceed", "dst_port_conn_limit_exceed",
   "dst_port_conn_rate_exceed", "dst_udp_any_exceed", "dst_udp_filter_match",
   "dst_udp_filter_not_match", "dst_udp_filter_action_blacklist", "dst_udp_filter_action_drop",
   "dst_udp_filter_action_default_pass", "dst_tcp_filter_match", "dst_tcp_filter_not_match",
   "dst_tcp_filter_action_blacklist", "dst_tcp_filter_action_drop",
   "dst_tcp_filter_action_default_pass", "dst_udp_filter_action_whitelist", "dst_udp_pkt_rcvd",
   "dst_icmp_pkt_rcvd", "dst_other_pkt_rcvd", "tcp_syn_cookie_fail", "tcp_syn_rcvd",
   "tcp_syn_ack_rcvd", "tcp_ack_rcvd", "tcp_fin_rcvd", "tcp_rst_rcvd", "ingress_bytes",
   "egress_bytes", "ingress_packets", "egress_packets", "tcp_fwd_recv", "udp_fwd_recv",
   "icmp_fwd_recv", "dst_over_limit_on", "dst_over_limit_off", "dst_port_over_limit_on",
   "dst_port_over_limit_off", "dst_over_limit_action", "dst_port_over_limit_action",
   "scanning_detected_drop", "scanning_detected_blacklist", "dst_udp_kibit_rate_drop",
   "dst_tcp_kibit_rate_drop", "dst_icmp_kibit_rate_drop", "dst_other_kibit_rate_drop",
   "dst_port_undef_drop", "dst_port_bl", "dst_src_port_bl", "dst_tcp_session_created",
   "dst_udp_session_created", "dst_tcp_filter_action_whitelist", "dst_other_filter_match",
   "dst_other_filter_not_match", "dst_other_filter_action_blacklist",
   "dst_other_filter_action_drop", "dst_other_filter_action_default_pass",
   "dst_other_filter_action_whitelist", "dst_blackhole_inject", "dst_blackhole_withdraw",
   "dst_out_no_route", "dst_port_kbit_rate_exceed", "dst_tcp_out_of_seq_excd",
   "dst_tcp_retransmit_excd", "dst_tcp_zero_window_excd", "dst_tcp_conn_prate_excd",
   "dst_tcp_action_on_ack_init", "dst_tcp_action_on_ack_gap_drop", "dst_tcp_action_on_ack_fail",
   "dst_tcp_action_on_ack_pass", "dst_tcp_action_on_syn_init", "dst_tcp_action_on_syn_gap_drop",
   "dst_tcp_action_on_syn_fail", "dst_tcp_action_on_syn_pass", "dst_udp_min_payload",
   "dst_udp_max_payload", "dst_udp_conn_prate_excd", "dst_udp_ntp_monlist_req",
   "dst_udp_ntp_monlist_resp", "dst_udp_wellknown_sport_drop", "dst_udp_retry_init",
   "dst_udp_retry_pass", "dst_icmp_any_exceed", "dst_other_any_exceed", "dst_drop_frag_pkt",
   "src_udp_min_payload", "src_udp_max_payload", "src_udp_ntp_monlist_req",
   "src_udp_ntp_monlist_resp", "src_tcp_action_on_ack_gap_drop", "src_tcp_action_on_syn_gap_drop",
   "tcp_new_conn_ack_retry_gap_drop", "src_tcp_new_conn_ack_retry_gap_drop",
   "src_tcp_filter_action_blacklist", "src_tcp_filter_action_drop", "src_tcp_out_of_seq_excd",
   "src_tcp_retransmit_excd", "src_tcp_zero_window_excd", "src_tcp_conn_prate_excd",
   "src_udp_filter_action_blacklist", "src_dst_udp_filter_action_blacklist",
   "src_udp_filter_action_drop", "src_dst_udp_filter_action_drop", "src_udp_conn_prate_excd",
   "src_other_filter_action_blacklist", "src_dst_other_filter_action_blacklist",
   "src_other_filter_action_drop", "src_dst_other_filter_action_drop",
   "dst_port_src_over_limit_action", "src_tcp_action_on_ack_fail", "src_tcp_action_on_syn_fail",
   "src_udp_wellknown_sport_drop", "src_tcp_syn_cookie_fail", "src_tcp_action_on_ack_init",
   "src_tcp_action_on_syn_init", "src_udp_retry_init", "tcp_rst_cookie_fail", "tcp_unauth_drop",
   "src_tcp_rst_cookie_fail", "src_tcp_unauth_drop", "dst_l4_tcp_blacklist_drop",
   "dst_l4_udp_blacklist_drop", "dst_l4_icmp_blacklist_drop", "dst_l4_other_blacklist_drop",
   "src_dst_l4_tcp_blacklist_drop", "src_dst_l4_udp_blacklist_drop",
   "src_dst_l4_icmp_blacklist_drop", "src_dst_l4_other_blacklist_drop", "src_tcp_auth",
   "dst_fwd_pkt_sent", "dst_rev_pkt_sent"]

def sflowDdosIpCounterL4T2DataLabels : List (String × String) :=
  [("dst_frag_pkt_rate_exceed", "OTHER drop - Frag rate exceed:"),
   ("dst_icmp_pkt_rate_exceed", "ICMP drop - Pkt rate exceed:"),
   ("dst_other_pkt_rate_exceed", "OTHER drop - Pkt rate exceed:"),
   ("dst_tcp_src_drop", "SRC dst src drop"), ("dst_udp_src_drop", "UDP dst src drop"),
   ("dst_icmp_src_drop", "ICMP dst src drop"), ("dst_other_src_drop", "OTHER dst src drop"),
   ("dst_tcp_pkt_rcvd", "TCP dst pkt rcvd"),
   ("dst_tcp_conn_limit_exceed", "TCP drop - Conn limit exceed:"),
   ("dst_tcp_any_exceed", "TCP drop:total rate excd:"), ("dst_tcp_pkt", "TCP pkt rcvd:"),
   ("dst_tcp_pkt_rate_exceed", "TCP drop - Pkt rate excd:"),
   ("dst_tcp_syn", "TCP dst SYN pkt rcvd:"), ("dst_tcp_syn_drop", "TCP dst SYN pkt drop:"),
   ("dst_tcp_conn_rate_exceed", "TCP drop - Conn rate exceed:"),
   ("dst_frag_src_rate_drop", "Frag dst src rate drop:"),
   ("dst_udp_conn_limit_exceed", "UDP drop - Conn limit exceed:"),
   ("dst_udp_pkt", "UDP pkt rcvd:"), ("dst_udp_pkt_rate_exceed", "UDP drop - Pkt rate exceed:"),
   ("dst_tcp_auth", "TCP Auth Sent:"),
   ("dst_udp_conn_rate_exceed", "UDP drop - Conn rate exceed:"), ("dst_tcp_drop", "TCP drop:"),
   ("dst_udp_drop", "UDP drop:"), ("dst_icmp_drop", "ICMP drop:"), ("dst_frag_drop", "Frag drop:"),
   ("dst_other_drop", "Other drop:"), ("dst_pkt_sent", "Packets Forwarded:"),
   ("dst_fwd_pkt_sent", "Incoming Packets Forwarded:"),
   ("dst_rev_pkt_sent", "Outgoing Packets Forwarded:"),
   ("dst_udp_pkt_sent", "UDP Packets Forwarded:"), ("dst_tcp_pkt_sent", "TCP Packets Forwarded:"),
   ("dst_icmp_pkt_sent", "ICMP Packets Forwarded:"),
   ("dst_other_pkt_sent", "Other Packets Forwarded:"), ("dst_icmp_pkt", "ICMP pkt rcvd:"),
   ("dst_other_pkt", "OTHER pkt rcvd:"), ("dst_tcp_src_rate_drop", "TCP dst src rate drop:"),
   ("dst_udp_src_rate_drop", "UDP dst src rate drop:"),
   ("dst_icmp_src_rate_drop", "ICMP dst src rate drop:"),
   ("dst_other_src_rate_drop", "Other dst src rate drop:"),
   ("dst_port_pkt_rate_exceed", "PORT drop - Pkt rate exceed:"),
   ("dst_port_kbit_rate_exceed", "PORT drop - KiBit rate exceed:"),
   ("dst_port_conn_limit_exceed", "PORT drop - Conn limit exceed:"),
   ("dst_port_conn_rate_exceed", "PORT drop - Conn rate exceed:"),
   ("dst_udp_any_exceed", "UDP drop:total rate excd:"),
   ("dst_udp_filter_match", "UDP Filter Match:"),
   ("dst_udp_filter_not_match", "UDP Filter Not Match:"),
   ("dst_udp_filter_action_blacklist", "UDP Filter Action BL:"),
   ("dst_udp_filter_action_drop", "UDP Filter Action Drop:"),
   ("dst_udp_filter_action_default_pass", "UDP Filter Action Default Pass:"),
   ("dst_tcp_filter_match", "TCP Filter Match:"),
   ("dst_tcp_filter_not_match", "TCP Filter Not Match:"),
   ("dst_tcp_filter_action_blacklist", "TCP Filter Action BL:"),
   ("dst_tcp_filter_action_drop", "TCP Filter Action Drop:"),
   ("dst_tcp_filter_action_default_pass", "TCP Filter Action Default Pass:"),
   ("dst_udp_filter_action_whitelist", "UDP Filter Action WL:"),
   ("dst_udp_pkt_rcvd", "UDP dst pkt rcvd"), ("dst_icmp_pkt_rcvd", "ICMP dst pkt rcvd"),
   ("dst_icmp_any_exceed", "ICMP drop:total rate excd:"),
   ("dst_other_pkt_rcvd", "OTHER dst pkt rcvd"),
   ("dst_other_any_exceed", "OTHER drop:total rate excd:"),
   ("tcp_syn_cookie_fail", "TCP Syn Cookie Failed"),
   ("tcp_rst_cookie_fail", "TCP RST Cookie Failed"),
   ("tcp_unauth_drop", "TCP Un-Auth Packet Drop"), ("tcp_syn_rcvd", "TCP SYN Rcv"),
   ("tcp_syn_ack_rcvd", "TCP SYN ACK Rcv"), ("tcp_ack_rcvd", "TCP ACK Rcv"),
   ("tcp_fin_rcvd", "TCP FIN ACK Rcv"), ("tcp_rst_rcvd", "TCP RST Rcv"),
   ("ingress_bytes", "Ingress Bytes"), ("egress_bytes", "Egress Bytes"),
   ("ingress_packets", "Ingress Packets"), ("egress_packets", "Egress Packets"),
   ("tcp_fwd_recv", "TCP FWD recv"), ("udp_fwd_recv", "UDP FWD recv"),
   ("icmp_fwd_recv", "ICMP FWD recv"), ("dst_over_limit_on", "DST overlimit on trigger"),
   ("dst_over_limit_off", "DST overlimit off trigger"),
   ("dst_port_over_limit_on", "DST port overlimit on trigger"),
   ("dst_port_over_limit_off", "DST port overlimit off trig"),
   ("dst_over_limit_action", "DST overlimit action"),
   ("dst_port_over_limit_action", "DST port overlimit action"),
   ("scanning_detected_drop", "Scanning Detected drop"),
   ("scanning_detected_blacklist", "Scanning Detected blacklist"),
   ("dst_udp_kibit_rate_drop", "UDP drop:KiBit rate excd"),
   ("dst_tcp_kibit_rate_drop", "TCP drop:KiBit rate excd"),
   ("dst_icmp_kibit_rate_drop", "ICMP drop:KiBit rate excd"),
   ("dst_other_kibit_rate_drop", "OTHER drop:KiBit rate excd"),
   ("dst_port_undef_drop", "Dst Port Undef Drop"), ("dst_port_bl", "Dst Port BL Drop"),
   ("dst_src_port_bl", "Dst SrcPort BL"), ("dst_tcp_session_created", "Dst TCP Session Created"),
   ("dst_udp_session_created", "Dst UDP Session Created"),
   ("dst_tcp_filter_action_whitelist", "TCP Filter Action WL:"),
   ("dst_other_filter_match", "OTHER Filter Match:"),
   ("dst_other_filter_not_match", "OTHER Filter Not Match:"),
   ("dst_other_filter_action_blacklist", "OTHER Filter Action BL:"),
   ("dst_other_filter_action_drop", "OTHER Filter Action Drop:"),
   ("dst_other_filter_action_default_pass", "OTHER Filter Action Default Pass:"),
   ("dst_other_filter_action_whitelist", "Other Filter Action WL:"),
   ("dst_blackhole_inject", "Dst Blackhole Inject"),
   ("dst_blackhole_withdraw", "Dst Blackhole Withdraw"),
   ("dst_out_no_route", "Dst IPv4/v6 Out No Route"),
   ("dst_tcp_out_of_seq_excd", "Dst TCP Out-Of-Seq BL"),
   ("dst_tcp_retransmit_excd", "Dst TCP ReXmit BL"),
   ("dst_tcp_zero_window_excd", "Dst TCP 0 Window BL"),
   ("dst_tcp_conn_prate_excd", "Dst TCP Conn Pkt Rate Drop"),
   ("dst_tcp_action_on_ack_init", "Dst TCP Action-On-Ack Init"),
   ("dst_tcp_action_on_ack_gap_drop", "Dst TCP Action-On-Ack Retry-Gap Drop"),
   ("dst_tcp_action_on_ack_fail", "Dst TCP Action-On-Ack Fail"),
   ("dst_tcp_action_on_ack_pass", "Dst TCP Action-On-Ack Pass"),
   ("dst_tcp_action_on_syn_init", "Dst TCP Action-On-Syn Init"),
   ("dst_tcp_action_on_syn_gap_drop", "Dst TCP Action-On-Syn Retry-Gap Drop"),
   ("dst_tcp_action_on_syn_fail", "Dst TCP Action-On-Syn Fail"),
   ("dst_tcp_action_on_syn_pass", "Dst TCP Action-On-Syn Pass"),
   ("dst_udp_min_payload", "Dst UDP Payload Too Small Drop"),
   ("dst_udp_max_payload", "Dst UDP Payload Too Large Drop"),
   ("dst_udp_conn_prate_excd", "Dst UDP Conn Pkt Rate Drop"),
   ("dst_udp_ntp_monlist_req", "Dst UDP Monlist Req Drop"),
   ("dst_udp_ntp_monlist_resp", "Dst UDP Monlist Resp Drop"),
   ("dst_udp_wellknown_sport_drop", "Dst UDP Wellknown Port Drop"),
   ("dst_udp_retry_init", "Dst UDP Retry Init"), ("dst_udp_retry_pass", "Dst UDP Retry Fail"),
   ("dst_drop_frag_pkt", "Dst Drop Frag Pkt"),
   ("dst_l4_tcp_blacklist_drop", "Dst L4-type TCP Blacklist Drop"),
   ("dst_l4_udp_blacklist_drop", "Dst L4-type UDP Blacklist Drop"),
   ("dst_l4_icmp_blacklist_drop", "Dst L4-type ICMP Blacklist Drop"),
   ("dst_l4_other_blacklist_drop", "Dst L4-type OTHER Blacklist Drop"),
   ("src_udp_min_payload", "Src UDP Payload Too Small Drop"),
   ("src_udp_max_payload", "Src UDP Payload Too Large Drop"),
   ("src_udp_ntp_monlist_req", "Src UDP Monlist Req Drop"),
   ("src_udp_ntp_monlist_resp", "Src UDP Monlist Resp Drop"),
   ("src_tcp_action_on_ack_gap_drop", "Src TCP Action-On-Ack Retry-Gap Drop"),
   ("src_tcp_action_on_syn_gap_drop", "Src TCP Action-On-Syn Retry-Gap Drop"),
   ("tcp_new_conn_ack_retry_gap_drop", "Dst TCP New Conn Ack Retry-Gap Drop"),
   ("src_tcp_new_conn_ack_retry_gap_drop", "Src Dst TCP New Conn Ack Retry-Gap Drop"),
   ("src_tcp_filter_action_blacklist", "Src TCP Filter Action BL:"),
   ("src_tcp_filter_action_drop", "Src TCP Filter Action Drop:"),
   ("src_tcp_out_of_seq_excd", "Src TCP Out-Of-Seq BL"),
   ("src_tcp_retransmit_excd", "Src TCP ReXmit BL"),
   ("src_tcp_zero_window_excd", "Src TCP 0 Window BL"),
   ("src_tcp_conn_prate_excd", "Src TCP Conn Pkt Rate Drop"),
   ("src_udp_filter_action_blacklist", "Src UDP Filter Action BL:"),
   ("src_udp_filter_action_drop", "Src UDP Filter Action Drop:"),
   ("src_udp_conn_prate_excd", "Src UDP Conn Pkt Rate Drop"),
   ("src_other_filter_action_blacklist", "Src OTHER Filter Action BL:"),
   ("src_other_filter_action_drop", "Src OTHER Filter Action Drop:"),
   ("dst_port_src_over_limit_action", "DST port Src overlimit action"),
   ("src_tcp_auth", "Src TCP Auth Sent"),
   ("src_tcp_action_on_ack_fail", "DST port Src overlimit action"),
   ("src_tcp_action_on_syn_fail", "DST port Src overlimit action"),
   ("src_udp_wellknown_sport_drop", "DST port Src overlimit action"),
   ("src_tcp_syn_cookie_fail", "DST port Src overlimit action"),
   ("src_tcp_rst_cookie_fail", "Src TCP RST Cookie Failed"),
   ("src_tcp_unauth_drop", "Src TCP Un-Auth Packet Drop"),
   ("src_tcp_action_on_ack_init", "DST port Src overlimit action"),
   ("src_tcp_action_on_syn_init", "DST port Src overlimit action"),
   ("src_udp_retry_init", "DST port Src overlimit action"),
   ("src_dst_l4_tcp_blacklist_drop", "Src Dst L4-type TCP Blacklist Drop"),
   ("src_dst_l4_udp_blacklist_drop", "Src Dst L4-type UDP Blacklist Drop"),
   ("src_dst_l4_icmp_blacklist_drop", "Src Dst L4-type ICMP Blacklist Drop"),
   ("src_dst_l4_other_blacklist_drop", "Src Dst L4-type OTHER Blacklist Drop")]

def dstDropTotalFields : List String :=
  ["dst_tcp_drop", "dst_udp_drop", "dst_icmp_drop", "dst_other_drop", "dst_tcp_auth",
   "src_tcp_auth"]

def portWildcardsDroppedFields : List String :=
  ["dst_port_undef_drop"]

def dstRatesDroppedFields : List String :=
  ["dst_tcp_any_exceed", "dst_udp_any_exceed", "dst_icmp_any_exceed", "dst_other_any_exceed",
   "dst_l4_tcp_blacklist_drop", "dst_l4_udp_blacklist_drop", "dst_l4_icmp_blacklist_drop",
   "dst_l4_other_blacklist_drop", "dst_drop_frag_pkt"]

def srcAuthDroppedFields : List String :=
  ["src_tcp_out_of_seq_excd", "src_tcp_retransmit_excd", "src_tcp_zero_window_excd",
   "src_tcp_conn_prate_excd", "src_tcp_action_on_ack_gap_drop", "src_tcp_action_on_ack_fail",
   "src_tcp_action_on_syn_gap_drop", "src_tcp_action_on_syn_fail", "src_udp_conn_prate_excd",
   "src_udp_wellknown_sport_drop", "src_udp_min_payload", "src_udp_max_payload",
   "src_other_filter_action_blacklist", "src_other_filter_action_drop",
   "src_udp_filter_action_blacklist", "src_udp_filter_action_drop",
   "src_tcp_filter_action_blacklist", "src_tcp_filter_action_drop", "src_tcp_syn_cookie_fail",
   "src_tcp_action_on_ack_init", "src_tcp_action_on_syn_init", "src_udp_ntp_monlist_req",
   "src_udp_ntp_monlist_resp", "src_udp_retry_init", "src_tcp_auth", "src_tcp_rst_cookie_fail",
   "src_tcp_unauth_drop"]

def srcRatesDroppedFields : List String :=
  ["dst_tcp_src_rate_drop", "dst_udp_src_rate_drop", "dst_icmp_src_rate_drop",
   "dst_other_src_rate_drop", "src_dst_l4_tcp_blacklist_drop", "src_dst_l4_udp_blacklist_drop",
   "src_dst_l4_icmp_blacklist_drop", "src_dst_l4_other_blacklist_drop"]

def portCmMinuend : List String :=
  ["dst_tcp_drop", "dst_udp_drop", "dst_icmp_drop", "dst_tcp_auth"]

def portCmSubtrahend : List String :=
  ["dst_tcp_any_exceed", "dst_udp_any_exceed", "dst_icmp_any_exceed", "dst_l4_tcp_blacklist_drop",
   "dst_l4_udp_blacklist_drop", "dst_l4_icmp_blacklist_drop", "dst_port_undef_drop",
   "dst_tcp_src_drop", "dst_udp_src_drop", "dst_icmp_src_drop"]

def ipProtoSubtrahend : List String :=
  ["dst_other_any_exceed", "dst_other_src_drop", "dst_drop_frag_pkt",
   "dst_l4_other_blacklist_drop"]

/-- What is sent of the counters of an entry before the derived ones. -/
def l4EntryMetrics : List (String × List String) :=
  [("dst_tcp_pkt", ["dst_tcp_pkt"]), ("dst_udp_pkt", ["dst_udp_pkt"]),
   ("dst_icmp_pkt", ["dst_icmp_pkt"]), ("dst_other_pkt", ["dst_other_pkt"]),
   ("dst_tcp_syn", ["dst_tcp_syn"]), ("dst_tcp_fin_rcvd", ["tcp_fin_rcvd"]),
   ("dst_tcp_pkt_rcvd", ["dst_tcp_pkt_rcvd"]), ("dst_udp_pkt_rcvd", ["dst_udp_pkt_rcvd"]),
   ("dst_icmp_pkt_rcvd", ["dst_icmp_pkt_rcvd"]), ("dst_other_pkt_rcvd", ["dst_other_pkt_rcvd"]),
   ("dst_tcp_drop", ["dst_tcp_drop", "dst_tcp_auth", "src_tcp_auth"]),
   ("dst_udp_drop", ["dst_udp_drop"]), ("dst_icmp_drop", ["dst_icmp_drop"]),
   ("dst_other_drop", ["dst_other_drop"]),
   ("dst_tcp_session_created", ["dst_tcp_session_created"]),
   ("dst_udp_session_created", ["dst_udp_session_created"]),
   ("dst_recvd_total", ["ingress_packets"]), ("dst_drop_total", dstDropTotalFields),
   ("dst_total_packet_pass", ["dst_fwd_pkt_sent"]), ("dst_total_packet_drop", dstDropTotalFields),
   ("dst.ingress_packets", ["ingress_packets"]), ("dst.ingress_bytes", ["ingress_bytes"]),
   ("dst.egress_packets", ["egress_packets"]), ("dst.egress_bytes", ["egress_bytes"])]

/-- The differences are unsigned: one that would be negative wraps, and the test that
is to set it to zero never holds. -/
def readCountersDdosL4IpCounterT2 : Decode Unit := do
  populateSflowStructU64 config .l4Perip sflowDdosIpCounterL4T2DataFields
  let counters ← getCounters .l4Perip
  let tags ← entryTags .l4Perip "" "" []
  setSum .portWildcardsDropped counters portWildcardsDroppedFields
  setSum .dstRatesDropped counters dstRatesDroppedFields
  setSum .srcAuthDropped counters srcAuthDroppedFields
  setSum .srcRatesDropped counters srcRatesDroppedFields
  let ipProtoDropped :=
    ipProtoSubtrahend.foldl (fun left field => left - counters field) (counters "dst_other_drop")
  setDword .ipProtoDropped ipProtoDropped
  let portCmDropped := sumOf counters portCmMinuend - sumOf counters portCmSubtrahend
  setDword .portCmDropped portCmDropped
  emit (.opentsdb (sumMetrics config tags counters l4EntryMetrics ++
    sumMetrics config tags counters
      [("dst_rates_dropped", dstRatesDroppedFields),
       ("port_wildcards_dropped", portWildcardsDroppedFields),
       ("src_rates_dropped", srcRatesDroppedFields)] ++
    [metric config "port_cm_dropped" tags portCmDropped] ++
    sumMetrics config tags counters [("src_auth_dropped", srcAuthDroppedFields)] ++
    [metric config "ip_proto_dropped" tags ipProtoDropped] ++
    sumMetrics config tags counters [("out_no_route", ["dst_out_no_route"])]))
  logCountersU64 config .l4Perip sflowDdosIpCounterL4T2DataLabels

def sflowDdosIpCounterL4ExtT2Data : List (String × String) :=
  [("dst_fwd_bytes_sent", "Incoming Bytes Forwarded"),
   ("dst_rev_bytes_sent", "Outgoing Bytes Forwarded"),
   ("tcp_l4_syn_cookie_fail", "L4-type TCP Syn Cookie Failed"),
   ("tcp_l4_rst_cookie_fail", "L4-type TCP RST Cookie Failed"),
   ("tcp_l4_unauth_drop", "L4-type TCP Un-Auth Packet Drop"),
   ("dst_l4_tcp_auth", "L4-type TCP Auth Sent"),
   ("src_frag_pkt_rate_exceed", "OTHER drop - Src Frag rate exceed:"),
   ("src_frag_drop", "Src Frag drop:"), ("dst_frag_timeout_drop", "Frag timeout drop:"),
   ("dst_tcp_invalid_syn", "TCP Invalid SYN Received:")]

/-- Every counter of the extended record is a metric of its own name. -/
def readCountersDdosL4ExtIpCounterT2 : Decode Unit := do
  populateSflowStructU64 config .l4ExtPerip (sflowDdosIpCounterL4ExtT2Data.map Prod.fst)
  let counters ← getCounters .l4ExtPerip
  let tags ← entryTags .l4ExtPerip "" "" []
  emit (.opentsdb (sumMetrics config tags counters
    (sflowDdosIpCounterL4ExtT2Data.map fun label => (label.1, [label.1]))))
  logCountersU64 config .l4ExtPerip sflowDdosIpCounterL4ExtT2Data

end SflowTool
