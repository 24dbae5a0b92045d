import SflowTool.DdosEntry

/-! The version 5 counters sample. Its elements go to decoders by tag and are not
checked against their declared lengths one by one; the sample is, at its end. The
generic interface record and the processor record go to the flexible record decoder. -/
namespace SflowTool
open Decoding Decoding.Decoder

variable (config : SFConfig)

def enterpriseA10 (format : UInt32) : UInt32 := ((40842 : UInt32) <<< 12) + format

/-- The tag of the generic interface record and of the vendor's own generic record. -/
def tagCountersGeneric : UInt32 := 1
def tagCountersGenericA10 : UInt32 := enterpriseA10 3000

def tagCountersHostGpuNvml : UInt32 := ((5703 : UInt32) <<< 12) + 1

/-- The records of one decoder for each tag. -/
def plainCounterDecoders (length : UInt32) : List (UInt32 × Decode Unit) :=
  [(2, readCountersEthernet config),
   (3, readCountersTokenring config),
   (4, readCountersVg config),
   (5, readCountersVlan config),
   (6, readCounters80211 config),
   (7, readCountersLACP config),
   (1002, readCountersRadio config),
   (2000, readCountersHostHid config),
   (2001, readCountersAdaptors config),
   (2002, readCountersHostParent config),
   (2003, readCountersHostCpu config),
   (2004, readCountersHostMem config),
   (2005, readCountersHostDsk config),
   (2006, readCountersHostNio config),
   (2100, readCountersHostVnode config),
   (2101, readCountersHostVcpu config),
   (2102, readCountersHostVmem config),
   (2103, readCountersHostVdsk config),
   (2104, readCountersHostVnio config),
   (tagCountersHostGpuNvml, readCountersHostGpuNvml config),
   (2200, readCountersMemcache config),
   (2204, readCountersMemcache2 config),
   (2201, readCountersHttp config),
   (2105, readCountersJVM config),
   (2106, readCountersJMX config length),
   (2202, readCountersAPP config),
   (2203, readCountersAPPRESOURCE config),
   (2206, readCountersAPPWORKERS config),
   (2205, readCountersVDI config),
   (enterpriseA10 80, readCountersDdosDstIndicators config),
   (enterpriseA10 81, readCountersDdosDstTcpIndicators config),
   (enterpriseA10 82, readCountersDdosDstUdpIndicators config),
   (enterpriseA10 83, readCountersDdosDstIcmpIndicators config),
   (enterpriseA10 84, readCountersDdosDstOtherIndicators config)]

/-- The records that go to the flexible record decoder. -/
def flexCounterDecoders : List (UInt32 × Decode Unit) :=
  [(tagCountersGeneric, do
      printf "\nhit SFLCOUNTERS_GENERIC_41n:\n" []
      readCountersA10_4_1_n_generic config),
   (1001, readCountersA10_4_1_n_generic config),
   (tagCountersGenericA10, do
      printf "\nhit SFL_COUNTER_REC_GENERIC_A10_41n:\n" []
      readCountersA10_4_1_n_generic config)]

def described (description : String) (decoder : Decode Unit) : Decode Unit := do
  sflDdosDescription description
  decoder

/-- A per-entry record with a port: the common header, the port, and the counters in
what the context length leaves. -/
def readPortEntry (member : DdosMember) (description : String) (readPort readStats : Decode Unit) :
    Decode Unit :=
  described description do
    readCountersDdosIpCounterCommon config member
    readPort
    sflDdosUpdateCtxLen config (commonSize + 4)
    readStats

/-- A per-entry record without a port. -/
def readPlainEntry (member : DdosMember) (description : String) (readStats : Decode Unit) :
    Decode Unit :=
  described description do
    readCountersDdosIpCounterCommon config member
    sflDdosUpdateCtxLen config commonSize
    readStats

/-- The DDoS records, each of which first sets the description. -/
def ddosCounterDecoders : List (UInt32 × Decode Unit) :=
  [(enterpriseA10 1, described "Sflow DDoS generic Global Ctrs" (readCountersDdosCounter config)),
   (enterpriseA10 2, described "Sflow DDoS Entry Ctrs" (readCountersDdosIpCounter config)),
   (enterpriseA10 3, described "Sflow DDoS HTTP Global Ctrs" (readCountersDdosHttpCounter config)),
   (enterpriseA10 4, described "Sflow DDoS DNS Global Ctrs" (readCountersDdosDnsCounter config)),
   (enterpriseA10 9,
     described "Sflow DDoS Anomaly Global Ctrs" (readCountersDdosFpgaAnomalyCounter config)),
   (enterpriseA10 5, readPortEntry config .httpPerip "Sflow DDoS HTTP Per-entry Ctrs"
     (readCountersDdosHttpIpCounter config) (readCountersDdosHttpT2Counter config)),
   (enterpriseA10 6, readPortEntry config .dnsPerip "Sflow DDoS DNS Per-entry Ctrs"
     (readCountersDdosDnsIpCounter config) (readCountersDdosDnsCounterT2 config)),
   (enterpriseA10 7, readPlainEntry config .l4Perip "Sflow DDoS General Per-entry Ctrs"
     (readCountersDdosL4IpCounterT2 config)),
   (enterpriseA10 16, readPlainEntry config .l4ExtPerip "Sflow DDoS Extended Per-entry Ctrs"
     (readCountersDdosL4ExtIpCounterT2 config)),
   (enterpriseA10 8, described "Sflow DDoS Entry Port Ctrs" (readCountersDdosPortIpCounter config)),
   (enterpriseA10 60,
     described "Sflow DDoS Entry Map Ctrs" (readCountersDdosPollingEntryMap config)),
   (enterpriseA10 64,
     described "Sflow DDoS Polling Packet Ctrs" (readCountersDdosPollingPackets config)),
   (enterpriseA10 65,
     described "Sflow DDoS Polling L4 protocol Ctrs" (readCountersDdosPollingL4Protocol config)),
   (enterpriseA10 66,
     described "Sflow DDoS Polling TCP basic Ctrs" (readCountersDdosPollingTcpBasic config)),
   (enterpriseA10 67,
     described "Sflow DDoS Polling TCP stateful Ctrs" (readCountersDdosPollingTcpStateful config)),
   (enterpriseA10 68,
     described "Sflow DDoS Polling HTTP Ctrs" (readCountersDdosPollingHttp config)),
   (enterpriseA10 10,
     described "Sflow DDoS SSL-L4 Global Ctrs" (readCountersDdosSslL4Counter config)),
   (enterpriseA10 11, readPortEntry config .sslL4Perip "Sflow DDoS SSL-L4 Per-entry Ctrs"
     (readCountersDdosSslL4IpCounter config) (readCountersDdosSslL4T2Counter config)),
   (enterpriseA10 12, readPlainEntry config .icmpPerip "Sflow DDoS ICMP Per-entry Ctrs"
     (readCountersDdosIcmpCounterT2 config)),
   (enterpriseA10 13, readPortEntry config .udpPerip "Sflow DDoS UDP Per-entry Ctrs"
     (readCountersDdosUdpIpCounter config) (readCountersDdosUdpT2Counter config)),
   (enterpriseA10 14, readPortEntry config .tcpPerip "Sflow DDoS TCP Per-entry Ctrs"
     (readCountersDdosTcpIpCounter config) (readCountersDdosTcpT2Counter config)),
   (enterpriseA10 15, readPortEntry config .otherPerip "Sflow DDoS OTHER Per-entry Ctrs"
     (readCountersDdosOtherIpCounter config) (readCountersDdosOtherT2Counter config)),
   (enterpriseA10 21,
     described "Sflow DDoS L4 TCP Global Ctrs" (readCountersDdosL4TcpCounter config)),
   (enterpriseA10 22,
     described "Sflow DDoS L4 UDP Global Ctrs" (readCountersDdosL4UdpCounter config)),
   (enterpriseA10 23,
     described "Sflow DDoS L4 ICMP Global Ctrs" (readCountersDdosL4IcmpCounter config)),
   (enterpriseA10 24,
     described "Sflow DDoS L4 Other Global Ctrs" (readCountersDdosL4OtherCounter config)),
   (enterpriseA10 25,
     described "Sflow DDoS Switch Global Ctrs" (readCountersDdosL4SwitchCounter config)),
   (enterpriseA10 26,
     described "Sflow DDoS Sync Global Ctrs" (readCountersDdosL4SyncCounter config)),
   (enterpriseA10 27,
     described "Sflow DDoS Tunnel Global Ctrs" (readCountersDdosL4TunnelCounter config)),
   (enterpriseA10 28,
     described "Sflow DDoS session Global Ctrs" (readCountersDdosL4SessionCounter config)),
   (enterpriseA10 29,
     described "Sflow DDoS Table Global Ctrs" (readCountersDdosEntryTableCounter config)),
   (enterpriseA10 30,
     described "Sflow DDoS Brief Global Ctrs" (readCountersDdosBriefStatsCounter config)),
   (enterpriseA10 31,
     described "Sflow DDoS Detailed Global Ctrs" (readCountersDdosLongStatsCounter config))]

/-- The counter record decoders of version 5 by tag. -/
def counterDecoders (length : UInt32) : List (UInt32 × Decode Unit) :=
  plainCounterDecoders config length ++ flexCounterDecoders config ++ ddosCounterDecoders config

def readCounterElementBody (tag length : UInt32) : Decode Unit :=
  match (counterDecoders config length).lookup tag with
  | some decoder => decoder
  | none => skipTLVRecord config tag length "Skip_counters_sample_element"

/-- The format and enterprise of a tag, as the bit fields of the host give them. -/
def printEnterprise (tag : UInt32) : Decode Unit :=
  printf "format %lu == id ==%lu \n" [.word (tag &&& 0xfff), .word (tag >>> 12)]

/-- The check of the element against its declared length is switched off. -/
def readCounterElement : Decode Unit := do
  let tag ← getData32
  sfLog config "%-35s %s\n" [.name "counterBlock_tag", .tag tag]
  let length ← getData32
  setWord .currentContextLength length
  mark .start
  note (.counterElement tag length)
  printEnterprise (htonl tag)
  printEnterprise tag
  printf "!!!!!!!!!!!tag == %lu; tag1 = %lu\n" [.word tag, .word (htonl tag)]
  readCounterElementBody config tag length
  note .counterElementEnd

def readCounterElements : Nat → Decode Unit
  | 0 => return ()
  | remaining + 1 => do
      readCounterElement config
      note .iteration
      readCounterElements remaining

def readCountersSample (expanded : Bool) : Decode Unit := do
  sfLog config "%-35s COUNTERSSAMPLE\n" [.name "sampleType:"]
  let sampleLength ← getData32
  mark .sampleStart
  let samplesGenerated ← getData32
  setWord .samplesGenerated samplesGenerated
  sfLog config "%-35s %u\n" [.name "sampleSequenceNo", .word samplesGenerated]
  readSourceId expanded
  logSourceId config "%-35s %u:%u\n" [.name "sourceId"]
  let numElements ← getData32
  readCounterElements config numElements.toNat
  lengthCheck "length_check_2_counters_sample" .sampleStart sampleLength
  note .countersSampleEnd
  when (config.outputFormat = .line) writeCountersLine

end SflowTool
