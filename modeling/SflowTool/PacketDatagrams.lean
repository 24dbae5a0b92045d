import SflowTool.SampledPackets
import SflowTool.SampleEncodings
import SflowTool.PcapOutput

/-! Datagrams of sampled packets, from an agent that encodes them to the lines they come out as.
Each sample is a flow with one record, the first octets of a frame, and may be encoded compact or
expanded. -/
namespace SflowTool
open Decoding Decoding.Decoder Packets

variable {config : SFConfig}

section Encoding

/-- A sampled packet: what the agent says of it, and what it has captured. -/
structure PacketSample where
  expanded : Bool
  head : FlowHead
  fits : expanded = false → (SampleHead.flow head).Compact
  single : head.numElements = 1
  sampledPacketSize : UInt32
  stripped : UInt32
  frame : Frame

/-- Octets with as many zeros behind them as they need to be whole quads. -/
def padded (octets : List UInt8) : List UInt8 :=
  octets ++ List.replicate ((4 - octets.length % 4) % 4) 0

def counted (octets : List UInt8) : List UInt8 := be32 (UInt32.ofNat octets.length) ++ octets

namespace PacketSample

/-- The record of the header, of a frame of Ethernet. -/
def record (packet : PacketSample) : List UInt8 :=
  be32 1 ++ (be32 packet.sampledPacketSize ++ (be32 packet.stripped ++
    (be32 (UInt32.ofNat packet.frame.octets.length) ++ padded packet.frame.octets)))

def content (packet : PacketSample) : List UInt8 :=
  ((SampleHead.flow packet.head).words packet.expanded).flatMap be32 ++
    (be32 1 ++ counted packet.record)

def octets (packet : PacketSample) : List UInt8 :=
  be32 (if packet.expanded then 3 else 1) ++ counted packet.content

end PacketSample

/-- A datagram of sampled packets. -/
structure PacketDatagram where
  agent : Address
  sized : agent.octets.length = if agent.type = 1 then 4 else 16
  agentSubId : UInt32
  sequenceNo : UInt32
  sysUpTime : UInt32
  packets : List PacketSample

namespace PacketDatagram

def header (datagram : PacketDatagram) : List UInt8 :=
  be32 5 ++ (be32 datagram.agent.type ++ (datagram.agent.octets ++ (be32 datagram.agentSubId ++
    (be32 datagram.sequenceNo ++ (be32 datagram.sysUpTime ++
      be32 (UInt32.ofNat datagram.packets.length))))))

def octets (datagram : PacketDatagram) : List UInt8 :=
  datagram.header ++ datagram.packets.flatMap PacketSample.octets

end PacketDatagram

end Encoding

section Fields
variable {buffer : Buffer} {sample : SFSample}

theorem yields_logPort (title : String) (format port : UInt32) :
    (run buffer (logPort config title format port) sample).Yields () sample := by
  unfold logPort
  split_ifs
  iterate 4 exact yields_sfLog buffer _ _ _
  exact yields_pure buffer _ _

theorem yields_logSourceId (fmt : String) (args : List Arg) :
    (run buffer (logSourceId config fmt args) sample).Yields () sample :=
  yields_bind buffer _ _ (yields_getWord buffer _ _) (yields_bind buffer _ _
    (yields_getWord buffer _ _) (yields_sfLog buffer _ _ _))

/-- The source of a sample comes out the same in both encodings. -/
theorem yields_readSourceId {expanded : Bool} {dsClass dsIndex : UInt32} {rest : List UInt8}
    (fits : expanded = false → dsClass < 256 ∧ dsIndex < 2 ^ 24)
    (holds : buffer.Holds sample.cursor
      ((sourceWords expanded dsClass dsIndex).flatMap be32 ++ rest)) :
    ∃ final, (run buffer (readSourceId expanded) sample).Yields () final ∧
      final = holding (holding (sample.moved (4 * (sourceWords expanded dsClass dsIndex).length))
        .dsClass dsClass) .dsIndex dsIndex ∧ buffer.Holds final.cursor rest := by
  cases expanded with
  | false =>
      obtain ⟨small, room⟩ := fits rfl
      obtain ⟨upper, lower⟩ := packed_source dsClass dsIndex small room
      obtain ⟨read, behind⟩ := yields_word _ rest holds
      have set : setSamplerId (dsClass <<< 24 ||| dsIndex) = (do
          setWord .dsClass dsClass
          setWord .dsIndex dsIndex) := by
        unfold setSamplerId
        rw [upper, lower]
      refine ⟨_, yields_bind buffer _ _ read ?_, rfl, behind⟩
      rw [set]
      exact yields_bind buffer _ _ (yields_setWord buffer _ _ _) (yields_setWord buffer _ _ _)
  | true =>
      obtain ⟨read, behind⟩ := yields_word dsClass (be32 dsIndex ++ rest) holds
      obtain ⟨further, last⟩ := @yields_word buffer (holding (sample.moved 4) .dsClass dsClass)
        dsIndex rest behind
      exact ⟨_, yields_bind buffer _ _ read (yields_bind buffer _ _ (yields_setWord buffer _ _ _)
        (yields_bind buffer _ _ further (yields_setWord buffer _ _ _))), rfl, last⟩

/-- So do its ports, though their formats are set in another order. -/
theorem yields_readPorts {expanded : Bool} {head : FlowHead} {rest : List UInt8}
    (fits : expanded = false → (SampleHead.flow head).Compact)
    (holds : buffer.Holds sample.cursor ((portWords expanded head).flatMap be32 ++ rest)) :
    ∃ final, (run buffer (readPorts expanded) sample).Yields () final ∧
      final = holding (holding (holding (holding
        (sample.moved (4 * (portWords expanded head).length))
        .inputPortFormat head.inputPortFormat) .inputPort head.inputPort)
        .outputPortFormat head.outputPortFormat) .outputPort head.outputPort ∧
      buffer.Holds final.cursor rest := by
  cases expanded with
  | false =>
      obtain ⟨-, -, inFormatSmall, inSmall, outFormatSmall, outSmall⟩ := fits rfl
      obtain ⟨inFormat, inPort⟩ := packed_port _ _ inFormatSmall inSmall
      obtain ⟨outFormat, outPort⟩ := packed_port _ _ outFormatSmall outSmall
      obtain ⟨input, behind⟩ := yields_word (head.inputPortFormat <<< 30 ||| head.inputPort)
        (be32 (head.outputPortFormat <<< 30 ||| head.outputPort) ++ rest) holds
      obtain ⟨output, last⟩ := yields_word _ rest behind
      refine ⟨_, yields_bind buffer _ _ input (yields_bind buffer _ _ output ?_), rfl, last⟩
      simp only [inFormat, inPort, outFormat, outPort]
      rw [@holding_comm _ .inputPort .outputPortFormat (by decide) _ _]
      exact yields_bind buffer _ _ (yields_setWord buffer _ _ _) (yields_bind buffer _ _
        (yields_setWord buffer _ _ _) (yields_bind buffer _ _ (yields_setWord buffer _ _ _)
          (yields_setWord buffer _ _ _)))
  | true =>
      obtain ⟨inFormat, one⟩ := yields_word head.inputPortFormat (be32 head.inputPort ++
        (be32 head.outputPortFormat ++ (be32 head.outputPort ++ rest))) holds
      obtain ⟨input, two⟩ := @yields_word buffer
        (holding (sample.moved 4) .inputPortFormat head.inputPortFormat) head.inputPort _ one
      obtain ⟨outFormat, three⟩ := @yields_word buffer (holding (State.moved (holding
        (sample.moved 4) .inputPortFormat head.inputPortFormat) 4) .inputPort head.inputPort)
        head.outputPortFormat _ two
      obtain ⟨output, last⟩ := @yields_word buffer (holding (State.moved (holding (State.moved
        (holding (sample.moved 4) .inputPortFormat head.inputPortFormat) 4) .inputPort
        head.inputPort) 4) .outputPortFormat head.outputPortFormat) head.outputPort rest three
      exact ⟨_, yields_bind buffer _ _ inFormat (yields_bind buffer _ _ (yields_setWord buffer _ _ _)
        (yields_bind buffer _ _ input (yields_bind buffer _ _ (yields_setWord buffer _ _ _)
        (yields_bind buffer _ _ outFormat (yields_bind buffer _ _ (yields_setWord buffer _ _ _)
        (yields_bind buffer _ _ output (yields_setWord buffer _ _ _))))))), rfl, last⟩

/-- What the fields of a sample leave behind: those that are exported, and the columns that the
packets before it have set. -/
structure HeadRead (expanded : Bool) (head : FlowHead) (sample final : SFSample) : Prop where
  cursor : final.cursor = sample.cursor + 4 * ((SampleHead.flow head).words expanded).length
  marks : final.marks = sample.marks
  version : wordOf final .datagramVersion = wordOf sample .datagramVersion
  agent : addressOf final .agentAddr = addressOf sample .agentAddr
  meanSkipCount : wordOf final .meanSkipCount = head.meanSkipCount
  inputPort : wordOf final .inputPort = head.inputPort
  outputPort : wordOf final .outputPort = head.outputPort
  columns : columnsOf final = columnsOf sample

theorem yields_head {expanded : Bool} {head : FlowHead} {rest : List UInt8}
    (fits : expanded = false → (SampleHead.flow head).Compact)
    (holds : buffer.Holds sample.cursor
      (((SampleHead.flow head).words expanded).flatMap be32 ++ rest)) :
    ∃ final, (run buffer (do
        readFlowSampleFields config expanded
        getData32) sample).Yields head.numElements final ∧ HeadRead expanded head sample final ∧
      buffer.Holds final.cursor rest := by
  simp only [SampleHead.words, List.flatMap_cons, List.flatMap_append, List.append_assoc,
    List.flatMap_nil, List.nil_append] at holds
  obtain ⟨generated, behindGenerated⟩ := yields_word head.samplesGenerated _ holds
  obtain ⟨sourced, source, sourceEnds, behindSource⟩ := @yields_readSourceId buffer
    (holding (sample.moved 4) .samplesGenerated head.samplesGenerated) expanded head.dsClass
    head.dsIndex _ (fun compact => ⟨(fits compact).1, (fits compact).2.1⟩) behindGenerated
  obtain ⟨skip, behindSkip⟩ := yields_word head.meanSkipCount _ behindSource
  obtain ⟨pool, behindPool⟩ := @yields_word buffer
    (holding (sourced.moved 4) .meanSkipCount head.meanSkipCount) head.samplePool _ behindSkip
  obtain ⟨drops, behindDrops⟩ := @yields_word buffer (holding (State.moved (holding
    (sourced.moved 4) .meanSkipCount head.meanSkipCount) 4) .samplePool head.samplePool)
    head.dropEvents _ behindPool
  let dropped := holding (State.moved (holding (State.moved (holding (sourced.moved 4)
    .meanSkipCount head.meanSkipCount) 4) .samplePool head.samplePool) 4) .dropEvents head.dropEvents
  obtain ⟨ported, ports, portsEnd, behindPorts⟩ := @yields_readPorts buffer dropped expanded head _
    fits behindDrops
  let opened := holdingText (holding ported .clfValid 0) .clfClient []
  obtain ⟨number, behind⟩ := @yields_word buffer opened head.numElements rest behindPorts
  have fields : (run buffer (readFlowSampleFields config expanded) sample).Yields () opened := by
    unfold readFlowSampleFields
    refine yields_bind buffer _ _ generated (yields_bind buffer _ _ (yields_setWord buffer _ _ _) ?_)
    refine yields_logged buffer _ _ _ (yields_bind buffer _ _ source ?_)
    refine yields_bind buffer _ _ (yields_logSourceId _ _) (yields_bind buffer _ _ skip ?_)
    refine yields_bind buffer _ _ (yields_setWord buffer _ _ _) (yields_bind buffer _ _ pool ?_)
    refine yields_bind buffer _ _ (yields_setWord buffer _ _ _) (yields_bind buffer _ _ drops ?_)
    refine yields_bind buffer _ _ (yields_setWord buffer _ _ _) (yields_logged buffer _ _ _ ?_)
    refine yields_logged buffer _ _ _ (yields_logged buffer _ _ _ ?_)
    refine yields_bind buffer _ _ ports (yields_bind buffer _ _ (yields_getWord buffer _ _) ?_)
    refine yields_bind buffer _ _ (yields_getWord buffer _ _) (yields_bind buffer _ _
      (yields_logPort _ _ _) ?_)
    refine yields_bind buffer _ _ (yields_getWord buffer _ _) (yields_bind buffer _ _
      (yields_getWord buffer _ _) (yields_bind buffer _ _ (yields_logPort _ _ _) ?_))
    exact yields_bind buffer _ _ (yields_setWord buffer _ _ _) (yields_setText buffer _ _ _)
  subst portsEnd sourceEnds
  refine ⟨_, yields_bind buffer _ _ fields number, ⟨?_, rfl, rfl, rfl, rfl, rfl, rfl, rfl⟩, behind⟩
  show sample.cursor + 4 + 4 * (sourceWords expanded head.dsClass head.dsIndex).length + 4 + 4 + 4 +
    4 * (portWords expanded head).length + 4 = _
  simp only [SampleHead.words, List.length_cons, List.length_append, List.length_nil]
  omega

end Fields

section Records
variable {buffer : Buffer} {sample : SFSample}

theorem length_padded (octets : List UInt8) :
    (padded octets).length = 4 * ((octets.length + 3) / 4) := by
  simp only [padded, List.length_append, List.length_replicate]
  omega

theorem length_counted (octets : List UInt8) : (counted octets).length = 4 + octets.length := by
  simp only [counted, List.length_append, length_be32]

theorem PacketSample.length_record (packet : PacketSample) :
    packet.record.length = 16 + 4 * ((packet.frame.octets.length + 3) / 4) := by
  simp only [record, List.length_append, length_be32, length_padded]
  omega

/-- A sampled packet has been read: where its octets are kept, what was said of it, and the
columns it has set. -/
structure PacketRead (packet : PacketSample) (buffer : Buffer) (sample final : SFSample) : Prop where
  words : [.datagramVersion, .inputPort, .outputPort, .meanSkipCount].map (wordOf final) =
    [.datagramVersion, .inputPort, .outputPort, .meanSkipCount].map (wordOf sample)
  agent : addressOf final .agentAddr = addressOf sample .agentAddr
  sampledPacketSize : wordOf final .sampledPacketSize = packet.sampledPacketSize
  stripped : wordOf final .stripped = packet.stripped
  headerLen : wordOf final .headerLen = UInt32.ofNat packet.frame.octets.length
  captured : buffer.Holds (final.marks .header) packet.frame.octets
  columns : columnsOf final = frameColumns (columnsOf sample) packet.frame

/-- The record of a frame with its four words read, and the octets skipped behind a pointer. -/
def recordHeld (packet : PacketSample) (sample : SFSample) : SFSample :=
  let sized := holding (State.moved (holding (sample.moved 4) .headerProtocol 1) 4)
    .sampledPacketSize packet.sampledPacketSize
  let stripped := holding (State.moved sized 4) .stripped packet.stripped
  let counted := holding (State.moved stripped 4) .headerLen (UInt32.ofNat packet.frame.octets.length)
  State.moved (holding (State.marked counted .header) .gotHeader 1)
    (quadBytes (UInt32.ofNat packet.frame.octets.length))

/-- The octets that the record announces are there, and stay where they were read. -/
theorem record_held {packet : PacketSample} {rest : List UInt8} (small : buffer.length < 2 ^ 32 - 3)
    (holds : buffer.Holds sample.cursor (packet.record ++ rest)) :
    (UInt32.ofNat packet.frame.octets.length).toNat = packet.frame.octets.length ∧
      quadBytes (UInt32.ofNat packet.frame.octets.length) =
        4 * ((packet.frame.octets.length + 3) / 4) ∧
      sample.cursor + 16 + 4 * ((packet.frame.octets.length + 3) / 4) ≤ buffer.length ∧
      HeaderHolds buffer (recordHeld packet sample) 0 packet.frame.octets := by
  simp only [PacketSample.record, List.append_assoc] at holds
  have octets := holds.right.right.right.right
  have room := octets.left.room
  simp only [length_padded, length_be32] at room
  have counted : (UInt32.ofNat packet.frame.octets.length).toNat = packet.frame.octets.length :=
    UInt32.toNat_ofNat_of_lt' (by show _ < 2 ^ 32; omega)
  have quads := quadBytes_toNat (UInt32.ofNat packet.frame.octets.length) (by omega)
  rw [counted] at quads
  exact ⟨counted, by omega, by omega, octets.left.left⟩

theorem yields_held {packet : PacketSample} {rest : List UInt8} {final : SFSample}
    (small : buffer.length < 2 ^ 32 - 3) (version : wordOf sample .datagramVersion = 5)
    (holds : buffer.Holds sample.cursor (packet.record ++ rest))
    (dissected : (run buffer (dissectPacket config 1) (recordHeld packet sample)).Yields () final) :
    (run buffer (readFlowSampleHeader config) sample).Yields () final := by
  obtain ⟨counted, quads, room, -⟩ := record_held small holds
  simp only [PacketSample.record, List.append_assoc] at holds
  obtain ⟨protocol, one⟩ := yields_word 1 _ holds
  obtain ⟨size, two⟩ := @yields_word buffer (holding (sample.moved 4) .headerProtocol 1)
    packet.sampledPacketSize _ one
  let sized := holding (State.moved (holding (sample.moved 4) .headerProtocol 1) 4)
    .sampledPacketSize packet.sampledPacketSize
  obtain ⟨strip, three⟩ := @yields_word buffer sized packet.stripped _ two
  let stripped := holding (State.moved sized 4) .stripped packet.stripped
  obtain ⟨length, -⟩ := @yields_word buffer stripped (UInt32.ofNat packet.frame.octets.length) _ three
  have skipped := @yields_skip collector buffer (UInt32.ofNat packet.frame.octets.length)
    (holding (State.marked (holding (State.moved stripped 4) .headerLen
      (UInt32.ofNat packet.frame.octets.length)) .header) .gotHeader 1)
    (by rw [counted]; omega) (by
      show sample.cursor + 4 + 4 + 4 + 4 + quadBytes _ ≤ _
      omega)
  unfold readFlowSampleHeader
  refine yields_logged buffer _ _ _ (yields_bind buffer _ _ protocol ?_)
  refine yields_bind buffer _ _ (yields_setWord buffer _ _ _) (yields_logged buffer _ _ _ ?_)
  refine yields_bind buffer _ _ size (yields_bind buffer _ _ (yields_setWord buffer _ _ _) ?_)
  refine yields_logged buffer _ _ _ (yields_bind buffer _ _ (yields_getWord buffer _ _) ?_)
  refine yields_bind buffer _ _ (@yields_when collector stripped buffer _ _ _ _ (fun _ => ?_) ?_) ?_
  · exact yields_bind buffer _ _ strip (yields_bind buffer _ _ (yields_setWord buffer _ _ _)
      (yields_sfLog buffer _ _ _))
  · -- from version 5 on the agent says how much was stripped
    have newer : wordOf sample .datagramVersion > 4 := by
      rw [version]
      decide
    exact fun old => absurd newer old
  refine yields_bind buffer _ _ length (yields_bind buffer _ _ (yields_setWord buffer _ _ _) ?_)
  refine yields_logged buffer _ _ _ (yields_bind buffer _ _ (@yields_mark collector buffer _ _) ?_)
  refine yields_bind buffer _ _ (yields_setWord buffer _ _ _) (yields_bind buffer _ _ skipped ?_)
  refine yields_logged buffer _ _ _ (yields_bind buffer _ _ (@yields_note collector buffer _ _) ?_)
  exact dissected

theorem yields_record {packet : PacketSample} {rest : List UInt8}
    (small : buffer.length < 2 ^ 32 - 3) (version : wordOf sample .datagramVersion = 5)
    (holds : buffer.Holds sample.cursor (packet.record ++ rest)) :
    ∃ final, (run buffer (readFlowSampleHeader config) sample).Yields () final ∧
      final.cursor = sample.cursor + packet.record.length ∧
      (∀ name, name ≠ .header → final.marks name = sample.marks name) ∧
      PacketRead packet buffer sample final ∧ buffer.Holds final.cursor rest := by
  obtain ⟨counted, quads, -, captured⟩ := record_held small holds
  obtain ⟨final, dissected, kept, columns⟩ :=
    @dissects_frame config buffer (recordHeld packet sample) packet.frame captured counted
  have place : final.cursor = sample.cursor + packet.record.length := by
    rw [kept.cursor, packet.length_record]
    show sample.cursor + 4 + 4 + 4 + 4 + quadBytes _ = _
    omega
  refine ⟨final, yields_held small version holds dissected, place, fun name other => ?_, ?_,
    place ▸ holds.right⟩
  · rw [kept.marks]
    exact @State.marked_other collector _ .header name other
  · have before : keptVars.map (wordOf (recordHeld packet sample)) = [wordOf sample .datagramVersion,
      wordOf sample .inputPort, wordOf sample .outputPort, wordOf sample .meanSkipCount,
      packet.sampledPacketSize, packet.stripped,
      UInt32.ofNat packet.frame.octets.length] := rfl
    have words := kept.words.trans before
    simp only [keptVars, List.map_cons, List.map_nil, List.cons.injEq, and_true] at words
    obtain ⟨first, input, output, mean, sized, cut, long⟩ := words
    refine ⟨?_, kept.agent, sized, cut, long, ?_, columns⟩
    · simp only [List.map_cons, List.map_nil, first, input, output, mean]
    · rw [kept.marks]
      exact captured

/-- A length check passes where as much was moved as was announced. -/
theorem yields_lengthCheck (description : String) {origin : Mark} {len : UInt32}
    (moved : UInt32.ofNat (sample.cursor - sample.marks origin) = len) :
    (run buffer (lengthCheck description origin len) sample).Yields () sample := by
  rw [run_lengthCheck, if_pos (congrArg adjustLen moved)]
  exact ⟨rfl, rfl⟩

theorem yields_element {packet : PacketSample} {rest : List UInt8}
    (small : buffer.length < 2 ^ 32 - 3) (version : wordOf sample .datagramVersion = 5)
    (holds : buffer.Holds sample.cursor (be32 1 ++ (counted packet.record ++ rest))) :
    ∃ final, (run buffer (readFlowElement config) sample).Yields () final ∧
      final.cursor = sample.cursor + 4 + (counted packet.record).length ∧
      final.marks .sampleStart = sample.marks .sampleStart ∧
      PacketRead packet buffer sample final ∧ buffer.Holds final.cursor rest := by
  obtain ⟨tag, one⟩ := yields_word 1 _ holds
  simp only [counted, List.append_assoc] at one
  obtain ⟨length, two⟩ := yields_word _ _ one
  let opened := State.marked (State.moved (State.moved sample 4) 4) .start
  obtain ⟨final, decoded, place, marks, read, behind⟩ := @yields_record config buffer opened packet rest small
    version two
  have measured : UInt32.ofNat (final.cursor - final.marks .start) =
      UInt32.ofNat packet.record.length := by
    have start : final.marks .start = opened.cursor := marks .start nofun
    rw [place, start, Nat.add_sub_cancel_left]
  refine ⟨final, ?_, ?_, marks .sampleStart nofun, ?_, behind⟩
  · unfold readFlowElement
    refine yields_bind buffer _ _ tag (yields_logged buffer _ _ _ (yields_bind buffer _ _ length ?_))
    refine yields_bind buffer _ _ (@yields_mark collector buffer .start _) ?_
    refine yields_bind buffer _ _ (@yields_note collector buffer _ _) ?_
    refine yields_bind buffer _ _ decoded (yields_bind buffer _ _ (yields_lengthCheck _ measured) ?_)
    exact @yields_note collector buffer _ _
  · rw [place, length_counted]
    show sample.cursor + 4 + 4 + _ = _
    omega
  · exact ⟨read.words, read.agent, read.sampledPacketSize, read.stripped, read.headerLen,
      read.captured, read.columns⟩

/-- The FLOW line of a sampled packet where its columns have come to these. -/
def packetLine (agent : Address) (packet : PacketSample) (columns : Columns) : FlowLine where
  agentAddr := agent
  inputPort := packet.head.inputPort
  outputPort := packet.head.outputPort
  ethSrc := columns.ethSrc
  ethDst := columns.ethDst
  ethType := columns.ethType
  inVlan := columns.inVlan
  outVlan := columns.outVlan
  ipsrc := columns.ipsrc
  ipdst := columns.ipdst
  ipProtocol := columns.ipProtocol
  ipTos := columns.ipTos
  ipTTL := columns.ipTTL
  sport := columns.sport
  dport := columns.dport
  tcpFlags := columns.tcpFlags
  sampledPacketSize := packet.sampledPacketSize
  ipBytes := packet.sampledPacketSize - packet.stripped - columns.offsetToIPV4
  meanSkipCount := packet.head.meanSkipCount

/-- A sample has been decoded: what is exported of it, and what the next one finds. -/
structure SampleRead (packet : PacketSample) (buffer : Buffer) (sample final : SFSample) : Prop where
  cursor : final.cursor = sample.cursor + (counted packet.content).length
  version : wordOf final .datagramVersion = wordOf sample .datagramVersion
  agent : addressOf final .agentAddr = addressOf sample .agentAddr
  columns : columnsOf final = frameColumns (columnsOf sample) packet.frame
  line : flowLineOf final = packetLine (addressOf sample .agentAddr) packet
    (frameColumns (columnsOf sample) packet.frame)
  sampledPacketSize : wordOf final .sampledPacketSize = packet.sampledPacketSize
  headerLen : wordOf final .headerLen = UInt32.ofNat packet.frame.octets.length
  captured : buffer.Holds (final.marks .header) packet.frame.octets

theorem yields_sample {packet : PacketSample} {rest : List UInt8}
    (small : buffer.length < 2 ^ 32 - 3) (version : wordOf sample .datagramVersion = 5)
    (holds : buffer.Holds sample.cursor (counted packet.content ++ rest)) :
    ∃ final, (run buffer (decodeFlowSample config packet.expanded) sample).Yields () final ∧
      SampleRead packet buffer sample final ∧ buffer.Holds final.cursor rest := by
  have ends := holds.right
  rw [counted, List.append_assoc] at holds
  obtain ⟨length, one⟩ := yields_word _ _ holds
  let opened := State.marked (State.moved sample 4) .sampleStart
  simp only [PacketSample.content, List.append_assoc] at one
  obtain ⟨found, fields, head, two⟩ := @yields_head config buffer opened packet.expanded packet.head _
    packet.fits one
  obtain ⟨final, decoded, place, start, read, three⟩ := @yields_element config buffer found packet rest
    small (head.version.trans version) two
  obtain ⟨words, agent, size, stripped, headerLen, captured, columns⟩ := read
  simp only [List.map_cons, List.map_nil, List.cons.injEq, and_true] at words
  obtain ⟨versioned, input, output, mean⟩ := words
  have moved : final.cursor = opened.cursor + packet.content.length := by
    rw [place, head.cursor]
    simp only [PacketSample.content, List.length_append, length_words, length_be32]
    omega
  have measured : UInt32.ofNat (final.cursor - final.marks .sampleStart) =
      UInt32.ofNat packet.content.length := by
    have begun : final.marks .sampleStart = opened.cursor :=
      start.trans (congrFun head.marks .sampleStart)
    rw [moved, begun, Nat.add_sub_cancel_left]
  have carried : columnsOf final = frameColumns (columnsOf sample) packet.frame := by
    rw [columns, head.columns]
    rfl
  have agreed : addressOf final .agentAddr = addressOf sample .agentAddr := agent.trans head.agent
  have line : flowLineOf final =
      packetLine (addressOf final .agentAddr) packet (columnsOf final) := by
    simp only [flowLineOf, packetLine, columnsOf, ipSize, input, output, mean, size, stripped,
      head.inputPort, head.outputPort, head.meanSkipCount]
  refine ⟨final, ?_, ⟨?_, versioned.trans head.version, agreed, carried, ?_, size, headerLen,
    captured⟩, three⟩
  · obtain ⟨_, middle, first, number⟩ := yields_split buffer fields
    unfold decodeFlowSample
    refine yields_logged buffer _ _ _ (yields_bind buffer _ _ length ?_)
    refine yields_bind buffer _ _ (@yields_mark collector buffer .sampleStart _) ?_
    refine yields_bind buffer _ _ first (yields_bind buffer _ _ number ?_)
    rw [packet.single]
    -- the one element of the sample
    have elements : (run buffer (readFlowElements config 1) found).Yields () final :=
      yields_bind buffer _ _ decoded (yields_bind buffer _ _ (@yields_note collector buffer _ _)
        (yields_pure buffer _ _))
    refine yields_bind buffer _ _ elements (yields_bind buffer _ _ (yields_lengthCheck _ measured) ?_)
    exact @yields_note collector buffer _ _
  · rw [moved, length_counted]
    exact Nat.add_assoc ..
  · rw [line, agreed, carried]

end Records

section Written
variable {buffer : Buffer} {sample : SFSample}

/-- The VLAN filter, by the columns. -/
def Columns.Passes (config : SFConfig) (columns : Columns) : Prop :=
  config.gotVlanFilter = false ∨ config.vlanFilter columns.inVlan = true ∨
    config.vlanFilter columns.outVlan = true

instance (columns : Columns) : Decidable (columns.Passes config) :=
  inferInstanceAs (Decidable (_ ∨ _))

/-- The record of a tcpdump file that a sampled packet comes out as. -/
def packetRecord (config : SFConfig) (packet : PacketSample) : PcapPacket where
  tsSec := config.now
  caplen := UInt32.ofNat packet.frame.octets.length
  len := packet.sampledPacketSize
  pad := config.tcpdumpHdrPad
  captured := packet.frame.octets

/-- The output that these datagrams are followed to. -/
inductive Output where
  | line
  | pcap

/-- A tcpdump file has what was captured where the content is not removed. -/
def Output.Chosen (config : SFConfig) : Output → Prop
  | .line => config.outputFormat = .line
  | .pcap => config.outputFormat = .pcap ∧ config.removeContent = false

def Output.event (config : SFConfig) (agent : Address) (packet : PacketSample) (columns : Columns) :
    Output → Event
  | .line => .flowLine (packetLine agent packet columns)
  | .pcap => .pcapPacket (packetRecord config packet)

/-- The packets with the columns they come to: each finds them as those before it have left them. -/
def seenPackets : Columns → List PacketSample → List (PacketSample × Columns)
  | _, [] => []
  | columns, packet :: packets =>
      let seen := frameColumns columns packet.frame
      (packet, seen) :: seenPackets seen packets

/-- Those that the filter lets pass. -/
def passedPackets (config : SFConfig) (columns : Columns) (packets : List PacketSample) :
    List (PacketSample × Columns) :=
  (seenPackets columns packets).filter fun seen => seen.2.Passes config

def packetsWritten (config : SFConfig) (output : Output) (agent : Address) (columns : Columns)
    (packets : List PacketSample) : List Event :=
  (passedPackets config columns packets).map fun seen => output.event config agent seen.1 seen.2

theorem packetsWritten_cons (config : SFConfig) (output : Output) (agent : Address)
    (columns : Columns) (packet : PacketSample) (packets : List PacketSample) :
    packetsWritten config output agent columns (packet :: packets) =
      (let seen := frameColumns columns packet.frame
      if seen.Passes config then [output.event config agent packet seen] else []) ++
        packetsWritten config output agent (frameColumns columns packet.frame) packets := by
  unfold packetsWritten passedPackets
  rw [seenPackets, List.filter_cons]
  by_cases passes : (frameColumns columns packet.frame).Passes config
  · simp only [passes, decide_true, if_true, List.map_cons, List.singleton_append]
  · simp only [passes, decide_false, if_false, Bool.false_eq_true, List.nil_append]

/-- What reaches standard output of a decode. -/
def stdoutOf {α : Type} (decoded : Run collector α) : List Event :=
  (eventsOf decoded).filter Event.onStdout

/-- Operations that write at most a line of the full format, or a diagnostic. -/
def MutedOp (config : SFConfig) : Op collector → Prop
  | .emit event => event.Gated config ∧ event.silent = true
  | _ => True

theorem muted_of_quiet {op : Op collector} (quiet : QuietOp config op) : MutedOp config op := by
  cases op with
  | emit event => exact quiet
  | _ => trivial

/-! Counted once for each way it is handed on, as before. -/
set_option synthInstance.maxSize 1000000000000

theorem muted_of_flow {α : Type} (program : Decode α) [uses : Uses (FlowOp config) program] :
    Uses (MutedOp config) program := by
  refine uses.mono fun op allow => ?_
  rcases allow with plain | ⟨_, rfl⟩ | ⟨_, rfl⟩
  · exact muted_of_quiet plain.1
  · trivial
  · trivial

instance (name : Mark) : Uses (MutedOp config) (@Decoder.mark collector name) :=
  uses_single _ trivial
instance (mark : Note) : Uses (MutedOp config) (@Decoder.note collector mark) :=
  uses_single _ trivial
instance (var : WordVar) : Uses (MutedOp config) (getWord var) := uses_single _ trivial
instance (var : WordVar) (value : UInt32) : Uses (MutedOp config) (setWord var value) :=
  uses_single _ trivial
instance : Uses (MutedOp config) getData32 := muted_of_flow _
instance (description : String) (origin : Mark) (len : UInt32) :
    Uses (MutedOp config) (lengthCheck description origin len) := muted_of_flow _
instance (fmt : String) (args : List Arg) : Uses (MutedOp config) (sfLog config fmt args) :=
  muted_of_flow _
instance (tag length : UInt32) : Uses (MutedOp config) (readFlowElementBody config tag length) :=
  muted_of_flow _
instance (expanded : Bool) : Uses (MutedOp config) (readFlowSampleFields config expanded) :=
  muted_of_flow _

instance (remaining : Nat) : Uses (MutedOp config) (readFlowElements config remaining) := by
  have element : Uses (MutedOp config) (readFlowElement config) := by
    unfold readFlowElement
    infer_instance
  induction remaining with
  | zero => exact .pure ()
  | succ remaining ih =>
      unfold readFlowElements
      infer_instance

instance (expanded : Bool) : Uses (MutedOp config) (decodeFlowSample config expanded) := by
  unfold decodeFlowSample
  infer_instance

instance : Uses (MutedOp config) (readDatagramHeader config) := by
  have surveyed : Uses (QuietOp config) (@Decoder.survey collector) :=
    uses_single _ PermitsReport.survey
  have quiet : Uses (QuietOp config) (readDatagramHeader config) := by
    unfold readDatagramHeader
    infer_instance
  exact quiet.mono fun _ allow => muted_of_quiet allow

/-- Outside the full format such a program writes nothing. -/
theorem muted_stdout {α : Type} (format : config.outputFormat ≠ .full) (buffer : Buffer)
    (program : Decode α) [muted : Uses (MutedOp config) program] (sample : SFSample) :
    stdoutOf (run buffer program sample) = [] := by
  have unshown : Uses (@Unshown collector Event.onStdout) program := by
    refine muted.mono fun op allow => ?_
    cases op with
    | emit event =>
        obtain ⟨gated, silent⟩ := allow
        cases event with
        | log line => exact absurd gated format
        | errout _ | receiveError _ _ _ _ => rfl
        | _ => cases silent
    | _ => trivial
  refine List.filter_eq_nil_iff.mpr fun event member shown => ?_
  obtain ⟨sent, emitted, rfl⟩ := List.mem_map.mp member
  exact unshown_silent buffer _ unshown sample ⟨sent, emitted, shown⟩

theorem Output.Chosen.format {output : Output} (chosen : output.Chosen config) :
    config.outputFormat ≠ .full := by
  cases output with
  | line => exact fun full => OutputFormat.noConfusion (full.symm.trans chosen)
  | pcap => exact fun full => OutputFormat.noConfusion (full.symm.trans chosen.1)

/-- What a composition writes, and behind a program that writes nothing. -/
theorem stdout_bind {α β : Type} {program : Decode α} {next : α → Decode β} {value : α}
    {middle : SFSample} (yielded : (run buffer program sample).Yields value middle) :
    stdoutOf (run buffer (program >>= next) sample) =
      stdoutOf (run buffer program sample) ++ stdoutOf (run buffer (next value) middle) := by
  rw [run_seq]
  obtain ⟨returned, reached⟩ := yielded
  generalize run buffer program sample = first at returned reached ⊢
  obtain ⟨outcome, after, trace, notes⟩ := first
  cases returned
  cases reached
  unfold stdoutOf
  rw [← List.filter_append, ← eventsOf_after]
  rfl

theorem stdout_behind {α β : Type} (format : config.outputFormat ≠ .full) {program : Decode α}
    {next : α → Decode β} {value : α} {middle : SFSample} [Uses (MutedOp config) program]
    (yielded : (run buffer program sample).Yields value middle) :
    stdoutOf (run buffer (program >>= next) sample) = stdoutOf (run buffer (next value) middle) := by
  rw [stdout_bind yielded, muted_stdout format buffer program, List.nil_append]

theorem yields_emission {output : Output} (chosen : output.Chosen config) :
    (run buffer (emitFlowSample config) sample).Yields () sample := by
  obtain ⟨notes, filtered⟩ := @run_sampleFilterOK config buffer sample
  have accepted : (run buffer (sampleFilterOK config) sample).Yields
      (decide (passesFilter config sample)) sample := by
    rw [filtered]
    exact ⟨rfl, rfl⟩
  unfold emitFlowSample
  refine yields_bind buffer _ _ accepted (yields_when buffer _ _ _ (fun _ => ?_) fun _ => rfl)
  cases output with
  | line =>
      rw [show config.outputFormat = .line from chosen]
      exact ⟨rfl, rfl⟩
  | pcap =>
      rw [chosen.1]
      have written := @run_writePcapPacket config buffer sample
      show (run buffer (writePcapPacket config) sample).Yields () sample
      rw [written]
      exact ⟨rfl, rfl⟩

/-- A sampled packet that was read is written by itself, if the filter lets it pass. -/
theorem emission_written {output : Output} {packet : PacketSample} {final : SFSample}
    (chosen : output.Chosen config) (small : buffer.length < 2 ^ 32 - 3)
    (read : SampleRead packet buffer sample final) :
    stdoutOf (run buffer (emitFlowSample config) final) =
      let seen := frameColumns (columnsOf sample) packet.frame
      if seen.Passes config then [output.event config (addressOf sample .agentAddr) packet seen]
      else [] := by
  have events := @emission_events config buffer final
  have passes : passesFilter config final ↔
      (frameColumns (columnsOf sample) packet.frame).Passes config := by
    rw [← read.columns]
    exact Iff.rfl
  unfold exportedEvents at events
  unfold stdoutOf
  rw [events]
  simp only [passes]
  split
  · cases output with
    | line =>
        rw [show config.outputFormat = .line from chosen]
        simp only [read.line]
        rfl
    | pcap =>
        have captured : pcapPacketOf config buffer final = packetRecord config packet := by
          have whole : captureLength config final = UInt32.ofNat packet.frame.octets.length := by
            unfold captureLength
            rw [chosen.2, read.headerLen]
            rfl
          have room := read.captured.room
          have counted : (UInt32.ofNat packet.frame.octets.length).toNat =
              packet.frame.octets.length := UInt32.toNat_ofNat_of_lt' (by show _ < 2 ^ 32; omega)
          -- what the header mark points at is still the frame
          unfold pcapPacketOf packetRecord
          rw [whole, counted, read.sampledPacketSize, read.captured.2]
        rw [chosen.1]
        simp only [captured]
        rfl
  · rfl

/-- One sample of a datagram: its columns are set over those of the packets before it. -/
theorem yields_packet {output : Output} {packet : PacketSample} {rest : List UInt8}
    (chosen : output.Chosen config) (small : buffer.length < 2 ^ 32 - 3)
    (version : wordOf sample .datagramVersion = 5)
    (holds : buffer.Holds sample.cursor (packet.octets ++ rest)) :
    ∃ final, (run buffer (readSample config) sample).Yields () final ∧
      wordOf final .datagramVersion = 5 ∧
      addressOf final .agentAddr = addressOf sample .agentAddr ∧
      columnsOf final = frameColumns (columnsOf sample) packet.frame ∧
      stdoutOf (run buffer (readSample config) sample) =
        (let seen := frameColumns (columnsOf sample) packet.frame
        if seen.Passes config then [output.event config (addressOf sample .agentAddr) packet seen]
        else []) ∧ buffer.Holds final.cursor rest := by
  rw [PacketSample.octets, List.append_assoc] at holds
  obtain ⟨typed, one⟩ := yields_word _ _ holds
  let opened := holding (State.moved sample 4) .sampleType (if packet.expanded then 3 else 1)
  obtain ⟨final, decoded, read, behind⟩ := @yields_sample config buffer opened packet rest small
    version one
  have flow : readSampleV5 config (if packet.expanded then 3 else 1) =
      readFlowSample config packet.expanded := by
    cases packet.expanded with
    | false => exact if_pos rfl
    | true => rfl
  have written := emission_written chosen small read
  have emitted := @yields_emission config buffer final output chosen
  have sampled : (run buffer (readFlowSample config packet.expanded) opened).Yields () final := by
    rw [readFlowSample_split]
    exact yields_bind buffer _ _ decoded emitted
  have silent := chosen.format
  have shown : stdoutOf (run buffer (readFlowSample config packet.expanded) opened) =
      stdoutOf (run buffer (emitFlowSample config) final) := by
    rw [readFlowSample_split]
    exact stdout_behind silent decoded
  have recent : wordOf opened .datagramVersion ≥ 5 := by
    rw [show wordOf opened .datagramVersion = 5 from version]
    exact UInt32.le_refl 5
  refine ⟨final, ?_, read.version.trans version, read.agent, read.columns, ?_, behind⟩
  · unfold readSample
    refine yields_bind buffer _ _ typed (yields_bind buffer _ _ (yields_setWord buffer _ _ _) ?_)
    refine yields_logged buffer _ _ _ (yields_logged buffer _ _ _ ?_)
    refine yields_bind buffer _ _ (yields_getWord buffer _ _) ?_
    exact yields_bind buffer _ _ (yields_pos buffer recent (flow ▸ sampled))
      (yields_sfLog buffer _ _ _)
  · unfold readSample
    refine (stdout_behind silent typed).trans ?_
    refine (stdout_behind silent (yields_setWord buffer _ _ _)).trans ?_
    refine (stdout_behind silent (yields_sfLog buffer _ _ _)).trans ?_
    refine (stdout_behind silent (yields_sfLog buffer _ _ _)).trans ?_
    refine (stdout_behind silent (yields_getWord buffer _ _)).trans ?_
    rw [if_pos recent, flow]
    refine (stdout_bind sampled).trans ?_
    rw [muted_stdout silent buffer (sfLog _ _ _), List.append_nil, shown]
    exact written

/-- The samples of a datagram, by induction on those that are left. -/
theorem packets_written {output : Output} (chosen : output.Chosen config)
    (small : buffer.length < 2 ^ 32 - 3) (samplesInPacket samp : UInt32)
    (packets : List PacketSample) (sample : SFSample)
    (version : wordOf sample .datagramVersion = 5)
    (holds : buffer.Holds sample.cursor (packets.flatMap PacketSample.octets)) :
    (run buffer (readSamples config samplesInPacket packets.length samp) sample).outcome = .ok () ∧
      stdoutOf (run buffer (readSamples config samplesInPacket packets.length samp) sample) =
        packetsWritten config output (addressOf sample .agentAddr) (columnsOf sample) packets := by
  induction packets generalizing sample samp with
  | nil => exact ⟨rfl, rfl⟩
  | cons packet packets ih =>
      rw [List.flatMap_cons] at holds
      have room := holds.left.room
      obtain ⟨final, yields, versioned, agent, columns, written, behind⟩ :=
        @yields_packet config buffer sample output packet _ chosen small version holds
      have more : sample.cursor < buffer.length := by
        simp only [PacketSample.octets, List.length_append, length_be32] at room
        omega
      obtain ⟨outcome, events⟩ := readSamples_events samplesInPacket samp packets.length sample more
        yields.outcome
      rw [yields.state] at outcome events
      obtain ⟨done, later⟩ := ih (samp + 1) final versioned behind
      refine ⟨outcome.trans done, (congrArg (List.filter Event.onStdout) events).trans ?_⟩
      rw [agent, columns] at later
      rw [packetsWritten_cons, List.filter_append]
      exact congrArg₂ (· ++ ·) written later

end Written

section Datagrams
variable {buffer : Buffer} {sample : SFSample}

theorem word_held {place : Nat} {word : UInt32} {rest : List UInt8}
    (holds : buffer.Holds place (be32 word ++ rest)) :
    wordFrom buffer place = word ∧ buffer.Holds (place + 4) rest := by
  have bytes : buffer.slice place 4 = be32 word := holds.left.2
  refine ⟨?_, holds.right⟩
  unfold wordFrom
  rw [bytes, word_be32]

theorem header_read {datagram : PacketDatagram} (start : sample.cursor = 0)
    (holds : buffer.Holds 0 datagram.octets) :
    ∃ opened, (run buffer (readDatagramHeader config) sample).Yields
        (UInt32.ofNat datagram.packets.length) opened ∧
      wordOf opened .datagramVersion = 5 ∧ addressOf opened .agentAddr = datagram.agent ∧
      columnsOf opened = columnsOf sample ∧
      buffer.Holds opened.cursor (datagram.packets.flatMap PacketSample.octets) := by
  simp only [PacketDatagram.octets, PacketDatagram.header, List.append_assoc] at holds
  obtain ⟨version, one⟩ := word_held holds
  obtain ⟨type, two⟩ := word_held one
  have address := two.left.2
  have three := two.right
  rw [datagram.sized, ← type] at address three
  obtain ⟨subId, four⟩ := word_held three
  obtain ⟨sequence, five⟩ := word_held four
  obtain ⟨upTime, six⟩ := word_held five
  obtain ⟨number, behind⟩ := word_held six
  have here := openedSample_cursor buffer start
  have size : headerSize buffer = 4 + 4 + (if wordFrom buffer 4 = 1 then 4 else 16) + 4 + 4 + 4 + 4 := by
    unfold headerSize addressSize
    omega
  obtain ⟨returns, holds⟩ := @decides_header config buffer sample (by rw [start, version])
  obtain ⟨value, returned⟩ := returns (by rw [here, size]; exact behind.room.trans' (Nat.le_add_right _ _))
  obtain ⟨counted, reached, -⟩ := holds.of_ok returned
  refine ⟨openedSample buffer sample, ⟨?_, reached⟩, ?_, ?_, rfl, ?_⟩
  · rw [returned, counted, here, size]
    exact congrArg Except.ok number
  · rw [openedSample_version, start, version]
  · show addressAt buffer (sample.cursor + 4) = datagram.agent
    rw [start]
    unfold addressAt
    rw [address, type]
  · rw [here, size]
    exact behind

theorem packets_length (packets : List PacketSample) :
    packets.length ≤ (packets.flatMap PacketSample.octets).length := by
  induction packets with
  | nil => exact Nat.le_refl 0
  | cons packet packets ih =>
      simp only [List.flatMap_cons, List.length_append, List.length_cons, PacketSample.octets,
        length_be32]
      omega

end Datagrams

section Instances

/-- A tagged frame with a segment of TCP, and an untagged one with a datagram of UDP. -/
def segmentFrame : Frame where
  destination := ⟨[0, 1, 2, 3, 4, 5], rfl⟩
  source := ⟨[0, 1, 2, 3, 4, 6], rfl⟩
  tag := some 0x2064
  network := .ipV4
    { tos := 0
      totalLength := 40
      identification := 1
      fragment := 0x4000
      ttl := 64
      checksum := 0
      source := ⟨[192, 0, 2, 1], rfl⟩
      destination := ⟨[192, 0, 2, 2], rfl⟩
      options := [⟨[1, 1, 1, 1], rfl⟩]
      few := by decide
      content := .first (.tcp 49152 80 ⟨List.replicate 8 0, rfl⟩ 0x50 0x12 ⟨List.replicate 6 0, rfl⟩ [])
      agrees := ⟨False.elim, fun fragmented => absurd rfl fragmented⟩ }

def messageFrame : Frame where
  destination := ⟨[0, 1, 2, 3, 4, 6], rfl⟩
  source := ⟨[0, 1, 2, 3, 4, 5], rfl⟩
  tag := none
  network := .ipV6
    { upper := 0x6c
      version := rfl
      label := ⟨[0, 0, 0], rfl⟩
      payloadLength := 9
      hopLimit := 63
      source := ⟨List.replicate 16 1, rfl⟩
      destination := ⟨List.replicate 16 2, rfl⟩
      transport := .udp 53 49153 9 0 [7]
      plain := by decide }

def sampledHead : FlowHead := ⟨7, 0, 3, 100, 5, 6, 0, 3, 0, 4, 1⟩

theorem sampledHead_single : sampledHead.numElements = 1 := rfl

theorem sampledHead_fits (expanded : Bool) :
    expanded = false → (SampleHead.flow sampledHead).Compact := by
  intro
  and_intros <;> decide

theorem sampledAgent_sized : (Address.ipV4 [10, 0, 0, 1]).octets.length =
    if (Address.ipV4 [10, 0, 0, 1]).type = 1 then 4 else 16 := rfl

/-- The first of them in the compact encoding and the second in the expanded one. -/
def twoPackets : PacketDatagram where
  agent := .ipV4 [10, 0, 0, 1]
  sized := sampledAgent_sized
  agentSubId := 0
  sequenceNo := 1
  sysUpTime := 100
  packets := [⟨false, sampledHead, sampledHead_fits false, sampledHead_single, 66, 4, segmentFrame⟩,
    ⟨true, sampledHead, sampledHead_fits true, sampledHead_single, 67, 4, messageFrame⟩]

end Instances

section Sessions

/-- What a datagram starts with. -/
def clearedColumns : Columns := columnsOf startedProcess

theorem stdout_bytes (text : Event → List UInt8) (events : List Event) :
    events.flatMap (Event.written text) =
      (events.filter Event.onStdout).flatMap (Event.written text) := by
  induction events with
  | nil => rfl
  | cons event events ih =>
      rw [List.flatMap_cons, ih, List.filter_cons]
      split
      · rfl
      · next unseen =>
          have nothing : event.written text = [] := by
            cases event <;> first | rfl | exact absurd rfl unseen
          rw [nothing, List.nil_append]

end Sessions

end SflowTool
