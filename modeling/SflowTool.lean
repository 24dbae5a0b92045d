import SflowTool.ProcessExit
import SflowTool.StandardOutput
import SflowTool.ReceivedBytes
import SflowTool.FlowFraming
import SflowTool.NetFlowExport
import SflowTool.SpoofedExport
import SflowTool.Sessions
import SflowTool.FlowSequence
import SflowTool.Pacing
import SflowTool.Progress
import SflowTool.Commitment
import SflowTool.RejectedCounters
import SflowTool.SampleEncodings
import SflowTool.Freshness
import SflowTool.AgentMetrics
import SflowTool.WifiAddresses
import SflowTool.CapturedBytes
import SflowTool.CountedArrays
import SflowTool.ASPaths
import SflowTool.ExtensionChains
import SflowTool.HeaderBounds
import SflowTool.MetricDelivery
import SflowTool.VlanFilter
import SflowTool.StoredCounters
import SflowTool.PcapFile
import SflowTool.CounterReports
import SflowTool.EntryDrops
import SflowTool.FullCounters
import SflowTool.IndicatorLayouts
import SflowTool.VlanLookups
import SflowTool.EntryArrays
import SflowTool.GenericReads
import SflowTool.ExportedTotals
import SflowTool.RecordHistories
import SflowTool.InternetChecksum
import SflowTool.UrlEncoding
import SflowTool.VlanGrammar
import SflowTool.SocketDescriptors
import SflowTool.PcapByteOrder
import SflowTool.CounterObjects
import SflowTool.CommonHeaders
import SflowTool.PcapOffsets
import SflowTool.LinkLayers
import SflowTool.MetricTexts
import SflowTool.GenericCounters
import SflowTool.RepeatedReports
import SflowTool.RecordStrings
import SflowTool.CounterFraming
import SflowTool.HexDump
import SflowTool.SkippedBytes
import SflowTool.NameLookups
import SflowTool.AgentIsolation
import SflowTool.SampleIsolation
import SflowTool.DatagramExtent
import SflowTool.PcapOutput
import SflowTool.Packets
import SflowTool.SampledPackets
import SflowTool.PacketDatagrams
import SflowTool.CommandLine
import SflowTool.Forwarding
import SflowTool.Concurring
import SflowTool.DatagramCourses
import SflowTool.OptionIndependence
