import SflowTool.ASPaths
import SflowTool.LinkLayers
import SflowTool.Packets
import SflowTool.SampleIsolation

/-! Sampled packets from the wire to the FLOW line. A datagram carries the first octets of frames;
each of them sets the columns it has something for, and a column that it has nothing for is that
of the packets before it in the datagram. -/
namespace SflowTool
open Decoding Decoding.Decoder Packets

variable {config : SFConfig}

section Columns

/-- The columns of a FLOW line that come from the packet. -/
structure Columns where
  ethSrc : Text
  ethDst : Text
  ethType : UInt32
  inVlan : UInt32
  outVlan : UInt32
  ipsrc : Address
  ipdst : Address
  ipProtocol : UInt32
  ipTos : UInt32
  ipTTL : UInt32
  sport : UInt32
  dport : UInt32
  tcpFlags : UInt32
  offsetToIPV4 : UInt32

def columnsOf (sample : SFSample) : Columns where
  ethSrc := textOf sample .ethSrc
  ethDst := textOf sample .ethDst
  ethType := wordOf sample .ethType
  inVlan := wordOf sample .inVlan
  outVlan := wordOf sample .outVlan
  ipsrc := addressOf sample .ipsrc
  ipdst := addressOf sample .ipdst
  ipProtocol := wordOf sample .dcdIpProtocol
  ipTos := wordOf sample .dcdIpTos
  ipTTL := wordOf sample .dcdIpTTL
  sport := wordOf sample .dcdSport
  dport := wordOf sample .dcdDport
  tcpFlags := wordOf sample .dcdTcpFlags
  offsetToIPV4 := wordOf sample .offsetToIPV4

/-- What a transport header sets: the type and the code of ICMP go where the ports do. -/
def transportColumns (columns : Columns) : Transport → Columns
  | .icmp type code _ _ => { columns with sport := type.toUInt32, dport := code.toUInt32 }
  | .tcp source destination _ _ flags _ _ =>
      { columns with sport := source.toUInt32, dport := destination.toUInt32,
                     tcpFlags := flags.toUInt32 }
  | .udp source destination _ _ _ =>
      { columns with sport := source.toUInt32, dport := destination.toUInt32 }
  | .other _ _ _ => columns

/-- Nothing is looked at in a later fragment. -/
def contentColumns (columns : Columns) : Content → Columns
  | .first transport => transportColumns columns transport
  | .later _ _ => columns

def ipV4Columns (columns : Columns) (packet : IPv4) : Columns :=
  contentColumns { columns with
    ipsrc := .ipV4 packet.source.octets
    ipdst := .ipV4 packet.destination.octets
    ipProtocol := packet.content.protocol.toUInt32
    ipTos := packet.tos.toUInt32
    ipTTL := packet.ttl.toUInt32 } packet.content

/-- Of the traffic class only the upper half is taken. -/
def ipV6Columns (columns : Columns) (packet : IPv6) : Columns :=
  transportColumns { columns with
    ipsrc := .ipV6 packet.source.octets
    ipdst := .ipV6 packet.destination.octets
    ipProtocol := packet.transport.protocol.toUInt32
    ipTos := packet.upper.toUInt32 &&& 15
    ipTTL := packet.hopLimit.toUInt32 } packet.transport

/-- What a frame carries sets the type, and an IPv4 packet the offset that its size is counted by. -/
def networkColumns (columns : Columns) (place : Nat) (network : Network) : Columns :=
  let typed := { columns with ethType := network.etherType.toUInt32 }
  match network with
  | .ipV4 packet => ipV4Columns { typed with offsetToIPV4 := UInt32.ofNat place } packet
  | .ipV6 packet => ipV6Columns typed packet
  | .other _ _ _ _ _ => typed

/-- The addresses and the tag of a frame. -/
def linkColumns (columns : Columns) (frame : Frame) : Columns :=
  { columns with
    ethSrc := frame.source.octets
    ethDst := frame.destination.octets
    inVlan := match frame.tag with
      | some control => control.toUInt32 &&& 0x0fff
      | none => columns.inVlan }

def frameColumns (columns : Columns) (frame : Frame) : Columns :=
  networkColumns (linkColumns columns frame) frame.place frame.network

end Columns

section Header
variable {buffer : Buffer} {sample : SFSample}

/-- The sampled header has these octets at a place. -/
def HeaderHolds (buffer : Buffer) (sample : SFSample) (place : Nat) (octets : List UInt8) : Prop :=
  buffer.Holds (sample.marks .header + place) octets

theorem HeaderHolds.split {place : Nat} {first second : List UInt8}
    (holds : HeaderHolds buffer sample place (first ++ second)) :
    HeaderHolds buffer sample place first ∧
      HeaderHolds buffer sample (place + first.length) second := by
  refine ⟨holds.left, ?_⟩
  have behind := holds.right
  rwa [Nat.add_assoc] at behind

theorem HeaderHolds.octet {place : Nat} {octet : UInt8} {rest : List UInt8}
    (holds : HeaderHolds buffer sample place (octet :: rest)) :
    headerByteOf buffer sample place = octet.toUInt32 ∧
      HeaderHolds buffer sample (place + 1) rest := by
  have one : HeaderHolds buffer sample place ([octet] ++ rest) := holds
  obtain ⟨first, behind⟩ := one.split
  refine ⟨?_, behind⟩
  have bytes : buffer.slice (sample.marks .header + place) 1 = [octet] := first.2
  unfold headerByteOf
  rw [bytes]
  simp [beNat]

theorem HeaderHolds.half {place : Nat} {value : UInt16} {rest : List UInt8}
    (holds : HeaderHolds buffer sample place (half value ++ rest)) :
    headerHalfOf buffer sample place = value.toUInt32 ∧
      HeaderHolds buffer sample (place + 2) rest := by
  obtain ⟨first, behind⟩ := holds.split
  refine ⟨?_, behind⟩
  have bytes : headerOctets buffer sample place 2 = Packets.half value := first.2
  have bound := value.toNat_lt
  unfold headerHalfOf
  rw [bytes, ← UInt32.toNat_inj]
  simp only [Packets.half, beNat, List.foldl_cons, List.foldl_nil, UInt32.toNat_ofNat',
    UInt16.toNat_toUInt8, UInt16.toNat_shiftRight, UInt16.reduceToNat, Nat.reduceMod,
    Nat.shiftRight_eq_div_pow, UInt16.toNat_toUInt32]
  omega

theorem HeaderHolds.octets {place count : Nat} {octets : Octets count} {rest : List UInt8}
    (holds : HeaderHolds buffer sample place (octets.octets ++ rest)) :
    headerOctets buffer sample place count = octets.octets ∧
      HeaderHolds buffer sample (place + count) rest := by
  obtain ⟨first, behind⟩ := holds.split
  have bytes := first.2
  rw [octets.sized] at bytes behind
  exact ⟨bytes, behind⟩

/-- The words that the dissection of a header leaves alone. -/
def keptVars : List WordVar :=
  [.datagramVersion, .inputPort, .outputPort, .meanSkipCount, .sampledPacketSize, .stripped,
    .headerLen]

structure Kept (sample final : SFSample) : Prop where
  cursor : final.cursor = sample.cursor
  marks : final.marks = sample.marks
  words : keptVars.map (wordOf final) = keptVars.map (wordOf sample)
  agent : addressOf final .agentAddr = addressOf sample .agentAddr

theorem Kept.word {final : SFSample} (kept : Kept sample final) {var : WordVar}
    (member : var ∈ keptVars) : wordOf final var = wordOf sample var :=
  List.map_inj_left.mp kept.words var member

theorem Kept.trans {middle final : SFSample} (first : Kept sample middle)
    (second : Kept middle final) : Kept sample final where
  cursor := second.cursor.trans first.cursor
  marks := second.marks.trans first.marks
  words := second.words.trans first.words
  agent := second.agent.trans first.agent

/-- The dissection comes to these columns. -/
def Dissects (buffer : Buffer) (sample : SFSample) (program : Decode Unit) (columns : Columns) :
    Prop :=
  ∃ final, (run buffer program sample).Yields () final ∧ Kept sample final ∧
    columnsOf final = columns

/-- The word that a half word of a copied header is. -/
theorem half_copied (count index : Nat) {place : Nat} {value : UInt16} {rest : List UInt8}
    (holds : HeaderHolds buffer sample (place + index) (Packets.half value ++ rest))
    (inside : index + 2 ≤ count) :
    halfAt (headerOctets buffer sample place count) index = value.toUInt32 := by
  rw [halfAt_headerOctets buffer sample place count index inside]
  exact holds.half.1

theorem octet_copied (count index : Nat) {place : Nat} {value : UInt8} {rest : List UInt8}
    (holds : HeaderHolds buffer sample (place + index) (value :: rest)) (inside : index < count) :
    octetAt (headerOctets buffer sample place count) index = value.toUInt32 := by
  rw [octetAt_headerOctets buffer sample place count index inside]
  exact holds.octet.1

/-- Where the first eight octets of a transport header are there, its decode goes on. -/
theorem dissects_whole {ptr : Nat} {transport : Transport}
    (ends : ptr + transport.octets.length = headerBytes sample)
    (known : transport.protocol = 1 ∨ transport.protocol = 6 ∨ transport.protocol = 17)
    {columns : Columns} {rest : Decode Unit} (decoded : Dissects buffer sample rest columns) :
    Dissects buffer sample (do
      let headerLen ← getWord .headerLen
      if ptr + 8 > headerLen.toNat then return ()
      rest) columns := by
  obtain ⟨final, yields, kept, same⟩ := decoded
  have whole := transport.length_octets known
  have room : ¬ptr + 8 > headerBytes sample := by omega
  exact ⟨final, yields_bind buffer _ _ (yields_getWord buffer _ sample)
    (yields_neg buffer room yields), kept, same⟩

theorem protocol_apart {found value : UInt8}
    (protocol : wordOf sample .dcdIpProtocol = found.toUInt32) (differs : found ≠ value) :
    ¬wordOf sample .dcdIpProtocol = value.toUInt32 := by
  rw [protocol]
  exact fun equal => differs (UInt8.toUInt32_inj.mp equal)

theorem dissects_icmp {ptr : Nat} {type code : UInt8} {rest : List UInt8} {whole : 6 ≤ rest.length}
    (holds : HeaderHolds buffer sample ptr (Transport.icmp type code rest whole).octets)
    (ends : ptr + (Transport.icmp type code rest whole).octets.length = headerBytes sample)
    (icmp : wordOf sample .dcdIpProtocol = 1) :
    Dissects buffer sample (decodeIPLayer4 config ptr)
      (transportColumns (columnsOf sample) (.icmp type code rest whole)) := by
  apply dissects_whole ends (.inl rfl)
  have typed := octet_copied 2 0 holds (by decide)
  have coded := octet_copied 2 1 holds.octet.2 (by decide)
  refine ⟨_, yields_bind buffer _ _ (yields_getWord buffer _ sample) (yields_pos buffer icmp
    (yields_bind buffer _ _ (yields_headerOctets buffer _ _ _)
      (yields_logged buffer _ _ _ (yields_logged buffer _ _ _
        (yields_bind buffer _ _ (yields_setWord buffer _ _ _)
          (yields_bind buffer _ _ (yields_setWord buffer _ _ _)
            (yields_setWord buffer _ _ _))))))), ⟨rfl, rfl, rfl, rfl⟩, ?_⟩
  rw [typed, coded]
  rfl

theorem dissects_tcp {ptr : Nat} {source destination : UInt16} {numbers : Octets 8}
    {offset flags : UInt8} {tail : Octets 6} {payload : List UInt8}
    (holds : HeaderHolds buffer sample ptr
      (Transport.tcp source destination numbers offset flags tail payload).octets)
    (ends : ptr + (Transport.tcp source destination numbers offset flags tail payload).octets.length =
      headerBytes sample) (tcp : wordOf sample .dcdIpProtocol = (6 : UInt8).toUInt32) :
    Dissects buffer sample (decodeIPLayer4 config ptr) (transportColumns (columnsOf sample)
      (.tcp source destination numbers offset flags tail payload)) := by
  have icmp := @protocol_apart sample 6 1 tcp (by decide)
  apply dissects_whole ends (.inr (.inl rfl))
  have ports := half_copied 20 0 holds (by decide)
  have behind := half_copied 20 2 holds.half.2 (by decide)
  -- the flags stand behind both numbers and the offset
  have numbered := holds.half.2.half.2.octets.2
  have flagged := octet_copied 20 13 numbered.octet.2 (by decide)
  refine ⟨_, yields_bind buffer _ _ (yields_getWord buffer _ sample) (yields_neg buffer icmp
    (yields_pos buffer tcp (yields_bind buffer _ _ (yields_headerOctets buffer _ _ _)
      (yields_bind buffer _ _ (yields_setWord buffer _ _ _)
        (yields_bind buffer _ _ (yields_setWord buffer _ _ _)
          (yields_bind buffer _ _ (yields_setWord buffer _ _ _)
            (yields_logged buffer _ _ _ (yields_logged buffer _ _ _ (yields_logged buffer _ _ _
              (yields_setWord buffer _ _ _)))))))))), ⟨rfl, rfl, rfl, rfl⟩, ?_⟩
  rw [ports, behind, flagged]
  rfl

theorem dissects_udp {ptr : Nat} {source destination length checksum : UInt16} {payload : List UInt8}
    (holds : HeaderHolds buffer sample ptr
      (Transport.udp source destination length checksum payload).octets)
    (ends : ptr + (Transport.udp source destination length checksum payload).octets.length =
      headerBytes sample) (udp : wordOf sample .dcdIpProtocol = (17 : UInt8).toUInt32) :
    Dissects buffer sample (decodeIPLayer4 config ptr) (transportColumns (columnsOf sample)
      (.udp source destination length checksum payload)) := by
  have icmp := @protocol_apart sample 17 1 udp (by decide)
  have tcp := @protocol_apart sample 17 6 udp (by decide)
  apply dissects_whole ends (.inr (.inr rfl))
  have ports := half_copied 8 0 holds (by decide)
  have behind := half_copied 8 2 holds.half.2 (by decide)
  refine ⟨_, yields_bind buffer _ _ (yields_getWord buffer _ sample) (yields_neg buffer icmp
    (yields_neg buffer tcp (yields_pos buffer udp
      (yields_bind buffer _ _ (yields_headerOctets buffer _ _ _)
        (yields_bind buffer _ _ (yields_setWord buffer _ _ _)
          (yields_bind buffer _ _ (yields_setWord buffer _ _ _)
            (yields_bind buffer _ _ (yields_setWord buffer _ _ _)
              (yields_logged buffer _ _ _ (yields_logged buffer _ _ _ (yields_logged buffer _ _ _
                (yields_setWord buffer _ _ _))))))))))), ⟨rfl, rfl, rfl, rfl⟩, ?_⟩
  rw [ports, behind]
  rfl

theorem dissects_other {ptr : Nat} {protocol : UInt8} {payload : List UInt8}
    {unknown : protocol ≠ 1 ∧ protocol ≠ 6 ∧ protocol ≠ 17}
    (other : wordOf sample .dcdIpProtocol = protocol.toUInt32) :
    Dissects buffer sample (decodeIPLayer4 config ptr)
      (transportColumns (columnsOf sample) (.other protocol payload unknown)) := by
  -- fewer than eight octets may be left of it
  by_cases room : ptr + 8 > headerBytes sample
  · exact ⟨sample, yields_bind buffer _ _ (yields_getWord buffer _ sample)
      (yields_pos buffer room (yields_pure buffer _ _)), ⟨rfl, rfl, rfl, rfl⟩, rfl⟩
  · exact ⟨_, yields_bind buffer _ _ (yields_getWord buffer _ sample) (yields_neg buffer room
      (yields_bind buffer _ _ (yields_getWord buffer _ sample)
        (yields_neg buffer (protocol_apart other unknown.1)
          (yields_neg buffer (protocol_apart other unknown.2.1)
            (yields_neg buffer (protocol_apart other unknown.2.2)
              (yields_setWord buffer _ _ _)))))), ⟨rfl, rfl, rfl, rfl⟩, rfl⟩

/-- A transport header sets its columns, where its first eight octets are there if it is one. -/
theorem dissects_transport {ptr : Nat} {transport : Transport}
    (holds : HeaderHolds buffer sample ptr transport.octets)
    (ends : ptr + transport.octets.length = headerBytes sample)
    (protocol : wordOf sample .dcdIpProtocol = transport.protocol.toUInt32) :
    Dissects buffer sample (decodeIPLayer4 config ptr)
      (transportColumns (columnsOf sample) transport) := by
  cases transport with
  | icmp type code rest whole => exact dissects_icmp holds ends protocol
  | tcp source destination numbers offset flags tail payload => exact dissects_tcp holds ends protocol
  | udp source destination length checksum payload => exact dissects_udp holds ends protocol
  | other found payload unknown => exact dissects_other protocol

/-- The version and the length of an IPv4 header, by its first octet. -/
theorem ipV4_first (options : Nat) (few : options ≤ 10) :
    (UInt8.ofNat (0x45 + options)).toUInt32 >>> 4 = 4 ∧
      5 ≤ (UInt8.ofNat (0x45 + options)).toUInt32 &&& 15 ∧
      ((UInt8.ofNat (0x45 + options)).toUInt32 &&& 0x0f) * 4 = UInt32.ofNat (20 + 4 * options) := by
  have all : ∀ count ∈ List.range 11, (UInt8.ofNat (0x45 + count)).toUInt32 >>> 4 = 4 ∧
      5 ≤ (UInt8.ofNat (0x45 + count)).toUInt32 &&& 15 ∧
      ((UInt8.ofNat (0x45 + count)).toUInt32 &&& 0x0f) * 4 = UInt32.ofNat (20 + 4 * count) := by
    decide
  exact all options (List.mem_range.mpr (Nat.lt_succ_of_le few))

/-- An address of a copied header. -/
theorem octets_copied (count index : Nat) {size : Nat} {place : Nat} {octets : Octets size}
    {rest : List UInt8} (holds : HeaderHolds buffer sample (place + index) (octets.octets ++ rest))
    (inside : index + size ≤ count) :
    ((headerOctets buffer sample place count).drop index).take size = octets.octets := by
  unfold headerOctets
  rw [slice_part _ _ _ _ _ inside, Nat.add_assoc]
  exact holds.octets.1

/-- An IPv4 header, and behind its options what it carries. -/
structure IPV4Held (buffer : Buffer) (sample : SFSample) (place : Nat) (packet : IPv4) : Prop where
  first : octetAt (headerOctets buffer sample place 20) 0 =
    (UInt8.ofNat (0x45 + packet.options.length)).toUInt32
  tos : octetAt (headerOctets buffer sample place 20) 1 = packet.tos.toUInt32
  fragment : halfAt (headerOctets buffer sample place 20) 6 = packet.fragment.toUInt32
  ttl : octetAt (headerOctets buffer sample place 20) 8 = packet.ttl.toUInt32
  protocol : octetAt (headerOctets buffer sample place 20) 9 = packet.content.protocol.toUInt32
  source : ((headerOctets buffer sample place 20).drop 12).take 4 = packet.source.octets
  destination : ((headerOctets buffer sample place 20).drop 16).take 4 = packet.destination.octets
  content : HeaderHolds buffer sample (place + (20 + 4 * packet.options.length))
    packet.content.octets

theorem ipV4_held {place : Nat} {packet : IPv4}
    (holds : HeaderHolds buffer sample place packet.octets) :
    IPV4Held buffer sample place packet := by
  have tos := holds.octet.2
  have length := tos.octet.2
  have fragment := length.half.2.half.2
  have ttl := fragment.half.2
  have protocol := ttl.octet.2
  have source := protocol.octet.2.half.2
  have destination := source.octets.2
  have options := destination.octets.2
  have content := options.split.2
  rw [options_length] at content
  exact {
    first := octet_copied _ 0 holds (by decide)
    tos := octet_copied _ 1 tos (by decide)
    fragment := half_copied _ 6 fragment (by decide)
    ttl := octet_copied _ 8 ttl (by decide)
    protocol := octet_copied _ 9 protocol (by decide)
    source := octets_copied _ 12 source (by decide)
    destination := octets_copied _ 16 destination (by decide)
    content := by rwa [← Nat.add_assoc] }

theorem fragment_offset (word : UInt16) :
    word.toUInt32 &&& 0x1fff > 0 ↔ word &&& 0x1fff ≠ 0 := by
  have widened : word.toUInt32 &&& 0x1fff = (word &&& 0x1fff).toUInt32 := by
    rw [UInt16.toUInt32_and]
    rfl
  rw [widened, gt_iff_lt, UInt32.pos_iff_ne_zero]
  exact not_congr (@UInt16.toUInt32_inj (word &&& 0x1fff) 0)

theorem dissects_content {ptr : Nat} {content : Content} {fragment : UInt32}
    (holds : HeaderHolds buffer sample ptr content.octets)
    (ends : ptr + content.octets.length = headerBytes sample)
    (protocol : wordOf sample .dcdIpProtocol = content.protocol.toUInt32)
    (later : fragment > 0 ↔ content.IsLater) :
    Dissects buffer sample (if fragment > 0 then
        sfLog config "IPFragmentOffset %u\n" [.word fragment]
      else decodeIPLayer4 config ptr) (contentColumns (columnsOf sample) content) := by
  cases content with
  | first transport =>
      rw [if_neg fun fragmented => later.mp fragmented]
      exact dissects_transport holds ends protocol
  | later other octets =>
      rw [if_pos (later.mpr trivial)]
      exact ⟨sample, yields_sfLog buffer _ _ _, ⟨rfl, rfl, rfl, rfl⟩, rfl⟩

/-- An IPv4 header sets the addresses, and what it carries the rest. -/
theorem dissects_ipV4 {place : Nat} {packet : IPv4}
    (holds : HeaderHolds buffer sample place packet.octets)
    (ends : place + packet.octets.length = headerBytes sample)
    (got : wordOf sample .gotIPV4 ≠ 0) (offset : (wordOf sample .offsetToIPV4).toNat = place) :
    Dissects buffer sample (decodeIPV4 config) (ipV4Columns (columnsOf sample) packet) := by
  obtain ⟨first, tos, fragment, ttl, protocol, source, destination, content⟩ := ipV4_held holds
  let middle := holding (holding (holding (holding (holdingAddress (holdingAddress sample .ipsrc
    (.ipV4 packet.source.octets)) .ipdst (.ipV4 packet.destination.octets)) .dcdIpProtocol
    packet.content.protocol.toUInt32) .dcdIpTos packet.tos.toUInt32) .dcdIpTTL packet.ttl.toUInt32)
    .ipFragmentOffset (packet.fragment.toUInt32 &&& 0x1fff)
  obtain ⟨-, -, quads⟩ := ipV4_first packet.options.length packet.few
  have few := packet.few
  have size : (UInt32.ofNat (20 + 4 * packet.options.length)).toNat =
      20 + 4 * packet.options.length :=
    UInt32.toNat_ofNat_of_lt' (Nat.lt_of_le_of_lt (by omega : _ ≤ 60) (by decide))
  have whole := packet.length_octets
  obtain ⟨final, yields, kept, same⟩ := @dissects_content config buffer middle _ packet.content
    (packet.fragment.toUInt32 &&& 0x1fff) content
    (by show _ = headerBytes sample; omega) rfl
    ((fragment_offset packet.fragment).trans packet.agrees.symm)
  have before : Kept sample middle := ⟨rfl, rfl, rfl, rfl⟩
  refine ⟨final, ?_, before.trans kept, same⟩
  unfold decodeIPV4
  refine yields_bind buffer _ _ (yields_getWord buffer _ sample) (yields_neg buffer got ?_)
  refine yields_bind buffer _ _ (yields_getWord buffer _ sample) ?_
  rw [offset]
  refine yields_bind buffer _ _ (yields_headerOctets buffer _ _ _) ?_
  simp only [source, destination, protocol, tos, ttl, fragment, first, quads, size]
  refine yields_bind buffer _ _ (yields_setAddressVar buffer _ _ _) ?_
  refine yields_bind buffer _ _ (yields_setAddressVar buffer _ _ _) ?_
  refine yields_bind buffer _ _ (yields_setWord buffer _ _ _) ?_
  refine yields_bind buffer _ _ (yields_setWord buffer _ _ _) ?_
  refine yields_bind buffer _ _ (yields_setWord buffer _ _ _) ?_
  refine yields_logged buffer _ _ _ (yields_logged buffer _ _ _ (yields_logged buffer _ _ _ ?_))
  refine yields_logged buffer _ _ _ (yields_logged buffer _ _ _ (yields_logged buffer _ _ _ ?_))
  exact yields_bind buffer _ _ (yields_setWord buffer _ _ _) yields

theorem unskipped {kind : UInt8} (other : kind ∉ extensionKinds) : ¬SkippedHeader kind.toUInt32 := by
  have known (value : UInt8) (member : value ∈ extensionKinds) : kind.toUInt32 ≠ value.toUInt32 :=
    fun same => other (UInt8.toUInt32_inj.mp same ▸ member)
  rintro (hop | routing | fragment | auth | options)
  · exact known 0 (by decide) hop
  · exact known 43 (by decide) routing
  · exact known 44 (by decide) fragment
  · exact known 51 (by decide) auth
  · exact known 60 (by decide) options

/-- An IPv6 header sets the addresses, and what follows it the ports. -/
theorem dissects_ipV6 {place : Nat} {packet : IPv6}
    (holds : HeaderHolds buffer sample place packet.octets)
    (ends : place + packet.octets.length = headerBytes sample)
    (got : wordOf sample .gotIPV6 ≠ 0) (offset : (wordOf sample .offsetToIPV6).toNat = place) :
    Dissects buffer sample (decodeIPV6 config) (ipV6Columns (columnsOf sample) packet) := by
  have first := holds.octet
  have label := first.2.octets
  have protocol := label.2.half.2
  have hops := protocol.octet.2
  have source := hops.octet.2
  have destination := source.octets.2
  have content := destination.octets.2
  have whole := packet.length_octets
  have version : packet.upper.toUInt32 >>> 4 = 6 := (version_bits packet.upper 6).mpr packet.version
  have announced : headerByteOf buffer sample (place + 6) =
      packet.transport.protocol.toUInt32 := protocol.octet.1
  have hopped : headerByteOf buffer sample (place + 7) = packet.hopLimit.toUInt32 := hops.octet.1
  have sourced : headerOctets buffer sample (place + 8) 16 = packet.source.octets := source.octets.1
  have destined : headerOctets buffer sample (place + 24) 16 = packet.destination.octets :=
    destination.octets.1
  let fields := ipV6Decoded buffer sample place packet.upper.toUInt32
  let middle := holding fields .dcdIpProtocol packet.transport.protocol.toUInt32
  obtain ⟨final, yields, kept, same⟩ := @dissects_transport config buffer middle _ packet.transport
    content (by show _ = headerBytes sample; omega) rfl
  have before : Kept sample middle := ⟨rfl, rfl, rfl, rfl⟩
  refine ⟨final, ?_, before.trans kept, same.trans ?_⟩
  · rw [decodeIPV6_calls]
    have arrived (headerLen fuel : Nat) : (run buffer (skipIPV6Extensions config headerLen (fuel + 2)
        packet.transport.protocol.toUInt32 (place + 40)) fields).Yields
          (some (packet.transport.protocol.toUInt32, place + 40)) fields := by
      have ends : skipIPV6Extensions config headerLen (fuel + 2)
          packet.transport.protocol.toUInt32 (place + 40) =
            pure (some (packet.transport.protocol.toUInt32, place + 40)) :=
        if_neg (unskipped packet.plain)
      rw [ends]
      exact yields_pure buffer _ _
    have called : (run buffer (transportCall config) sample).Yields
        (some (packet.transport.protocol.toUInt32, place + 40)) fields := by
      have read := @readIPV6Fields_yields config buffer sample place packet.upper.toUInt32
      rw [announced] at read
      unfold transportCall
      refine yields_bind buffer _ _ (yields_getWord buffer _ sample) (yields_neg buffer got ?_)
      refine yields_bind buffer _ _ (yields_getWord buffer _ sample) ?_
      rw [offset]
      refine yields_bind buffer _ _ (yields_headerByte buffer _ sample) ?_
      rw [first.1]
      refine yields_neg buffer (not_not.mpr version) (yields_bind buffer _ _ read ?_)
      exact yields_bind buffer _ _ (yields_getWord buffer _ fields) (arrived _ _)
    refine yields_bind buffer _ _ called ?_
    exact yields_bind buffer _ _ (yields_setWord buffer _ _ _) (yields_logged buffer _ _ _ yields)
  · unfold ipV6Columns
    rw [← hopped, ← sourced, ← destined]
    rfl

end Header

section Frames
variable {buffer : Buffer} {sample : SFSample}

/-- The addresses, the type behind the tag and what the frame carries are where they are looked
for. -/
structure FrameHeld (buffer : Buffer) (sample : SFSample) (frame : Frame) : Prop where
  destination : headerOctets buffer sample 0 6 = frame.destination.octets
  source : headerOctets buffer sample 6 6 = frame.source.octets
  tag : match frame.tag with
    | some control => Tagged buffer sample ∧ headerHalfOf buffer sample 14 = control.toUInt32
    | none => ¬Tagged buffer sample
  type : frameType buffer sample = (frame.network.etherType.toUInt32, frame.place)
  network : HeaderHolds buffer sample frame.place frame.network.octets

theorem etherType_untagged (network : Network) : ¬network.etherType.toUInt32 = 0x8100 := by
  have other : network.etherType ≠ 0x8100 := by
    cases network with
    | ipV4 packet => exact (by decide : (0x0800 : UInt16) ≠ 0x8100)
    | ipV6 packet => exact (by decide : (0x86dd : UInt16) ≠ 0x8100)
    | other etherType octets whole typed unknown => exact unknown.2.2
  exact fun same => other (UInt16.toUInt32_inj.mp same)

theorem frame_held {frame : Frame} (holds : HeaderHolds buffer sample 0 frame.octets) :
    FrameHeld buffer sample frame := by
  obtain ⟨destination, source, tag, network⟩ := frame
  have first := holds.octets
  have second := first.2.octets
  cases tag with
  | none =>
      have type := second.2.half
      have untagged : ¬Tagged buffer sample := by
        unfold Tagged
        rw [show headerHalfOf buffer sample 12 = network.etherType.toUInt32 from type.1]
        exact etherType_untagged network
      refine ⟨first.1, second.1, untagged, ?_, type.2⟩
      unfold frameType
      rw [if_neg untagged]
      exact congrArg (·, 14) type.1
  | some control =>
      have marked : HeaderHolds buffer sample 12 (half 0x8100 ++ (half control ++
          (half network.etherType ++ network.octets))) := by
        have behind := second.2
        simp only [Frame.tagOctets, List.append_assoc] at behind
        exact behind
      have controlled := marked.half.2.half
      have type := controlled.2.half
      have tagged : Tagged buffer sample := marked.half.1
      refine ⟨first.1, second.1, ⟨tagged, controlled.1⟩, ?_, type.2⟩
      unfold frameType
      rw [if_pos tagged]
      exact congrArg (·, 18) type.1

theorem frameDecoded_columns {frame : Frame} (held : FrameHeld buffer sample frame) :
    columnsOf (frameDecoded buffer sample) = linkColumns (columnsOf sample) frame ∧
      Kept sample (frameDecoded buffer sample) ∧
      wordOf (frameDecoded buffer sample) .gotIPV4 = 0 ∧
      wordOf (frameDecoded buffer sample) .gotIPV6 = 0 := by
  obtain ⟨destination, source, tag, -, -⟩ := held
  unfold frameDecoded tagDecoded linkColumns
  rw [destination, source]
  cases marked : frame.tag with
  | none =>
      rw [marked] at tag
      have untagged : ¬Tagged buffer (holdingText (holdingText (holding (holding sample .gotIPV4 0)
        .gotIPV6 0) .ethDst frame.destination.octets) .ethSrc frame.source.octets) := tag
      rw [if_neg untagged]
      exact ⟨rfl, ⟨rfl, rfl, rfl, rfl⟩, rfl, rfl⟩
  | some control =>
      rw [marked] at tag
      have tagged : Tagged buffer (holdingText (holdingText (holding (holding sample .gotIPV4 0)
        .gotIPV6 0) .ethDst frame.destination.octets) .ethSrc frame.source.octets) := tag.1
      rw [if_pos tagged]
      refine ⟨?_, ⟨rfl, rfl, rfl, rfl⟩, rfl, rfl⟩
      simp only [← tag.2]
      rfl

theorem etherType_large (network : Network) : 1536 < network.etherType.toUInt32.toNat := by
  rw [UInt16.toNat_toUInt32]
  cases network with
  | ipV4 packet => exact (by decide : 1536 < (0x0800 : UInt16).toNat)
  | ipV6 packet => exact (by decide : 1536 < (0x86dd : UInt16).toNat)
  | other etherType octets whole typed unknown => exact typed

theorem network_whole (network : Network) : 20 ≤ network.octets.length := by
  cases network with
  | ipV4 packet =>
      have size := packet.length_octets
      show 20 ≤ packet.octets.length
      omega
  | ipV6 packet =>
      have size := packet.length_octets
      show 20 ≤ packet.octets.length
      omega
  | other etherType octets whole typed unknown => exact whole

/-- A frame's type is known behind its tag, and is neither that of IPX nor a length. -/
theorem carried_frame {frame : Frame} (held : FrameHeld buffer sample frame)
    (whole : headerBytes sample = frame.octets.length) :
    carriedType buffer sample = some (frame.network.etherType.toUInt32, frame.place) := by
  have large := etherType_large frame.network
  have size := frame.length_octets
  have carried := network_whole frame.network
  have place : 14 ≤ frame.place := by
    unfold Frame.place
    split <;> omega
  have other (value : UInt32) (small : value.toNat ≤ 1536) :
      ¬frame.network.etherType.toUInt32 = value := by
    rintro rfl
    omega
  have noIPX : ¬(headerBytes sample < 34 ∨
      isIPX buffer sample frame.network.etherType.toUInt32 frame.place = true) := by
    rintro (short | ipx)
    · omega
    · obtain ⟨low | middle | high, -⟩ := of_decide_eq_true ipx
      · exact other _ (by decide) low
      · exact other _ (by decide) middle
      · exact other _ (by decide) high
  have noLength : ¬frame.network.etherType.toUInt32 ≤ 1500 := by
    rw [UInt32.le_iff_toNat_le]
    show ¬_ ≤ 1500
    omega
  unfold carriedType
  simp only [held.type]
  rw [if_neg noIPX, if_neg noLength]

/-- What is done with an IP header that was found. -/
def decodePacket (config : SFConfig) : Decode Unit := do
  let gotIPV4 ← getWord .gotIPV4
  if gotIPV4 ≠ 0 then
    logIPSize config .offsetToIPV4
    decodeIPV4 config
  else
    let gotIPV6 ← getWord .gotIPV6
    when (gotIPV6 ≠ 0) do
      logIPSize config .offsetToIPV6
      decodeIPV6 config

/-- What is done with a header once it is skipped. -/
def dissectPacket (config : SFConfig) (headerProtocol : UInt32) : Decode Unit := do
  dissectHeader config headerProtocol
  decodePacket config

theorem yields_logIPSize (offsetVar : WordVar) :
    (run buffer (logIPSize config offsetVar) sample).Yields () sample :=
  yields_bind buffer _ _ (yields_getWord buffer _ _) (yields_bind buffer _ _
    (yields_getWord buffer _ _) (yields_bind buffer _ _ (yields_getWord buffer _ _)
      (yields_sfLog buffer _ _ _)))

/-- The type of IPv4, and the packet behind it. -/
theorem dissects_ipV4_type {place : Nat} {packet : IPv4}
    (holds : HeaderHolds buffer sample place packet.octets)
    (ends : place + packet.octets.length = headerBytes sample)
    (small : (UInt32.ofNat place).toNat = place) :
    Dissects buffer sample (do
        decodeEthernetType (wordOf sample .headerLen) 0x0800 place
        decodePacket config) (networkColumns (columnsOf sample) place (.ipV4 packet)) := by
  obtain ⟨version, quads, -⟩ := ipV4_first packet.options.length packet.few
  have first : headerByteOf buffer sample place =
      (UInt8.ofNat (0x45 + packet.options.length)).toUInt32 := holds.octet.1
  have whole := packet.length_octets
  have carries : CarriesIPV4 buffer sample 0x0800 place := by
    refine ⟨rfl, ?_, ?_, ?_⟩
    · omega
    · rw [first, version]
    · rw [first]
      exact quads
  let found := holding (holding (holding sample .ethType 0x0800) .gotIPV4 1) .offsetToIPV4
    (UInt32.ofNat place)
  have got : ¬wordOf found .gotIPV4 = 0 := by
    show ¬(1 : UInt32) = 0
    decide
  obtain ⟨final, yields, kept, same⟩ := @dissects_ipV4 config buffer found place packet holds ends
    got small
  have before : Kept sample found := ⟨rfl, rfl, rfl, rfl⟩
  refine ⟨final, ?_, before.trans kept, same⟩
  refine yields_bind buffer _ _ (yields_ipV4_type carries) ?_
  refine yields_bind buffer _ _ (yields_getWord buffer _ found) (yields_pos buffer got ?_)
  exact yields_bind buffer _ _ (yields_logIPSize _) yields

theorem dissects_ipV6_type {place : Nat} {packet : IPv6}
    (holds : HeaderHolds buffer sample place packet.octets)
    (ends : place + packet.octets.length = headerBytes sample)
    (small : (UInt32.ofNat place).toNat = place) (noIPV4 : wordOf sample .gotIPV4 = 0) :
    Dissects buffer sample (do
        decodeEthernetType (wordOf sample .headerLen) 0x86dd place
        decodePacket config) (networkColumns (columnsOf sample) place (.ipV6 packet)) := by
  have first : headerByteOf buffer sample place = packet.upper.toUInt32 := holds.octet.1
  have carries : CarriesIPV6 buffer sample 0x86dd place := by
    refine ⟨rfl, ?_⟩
    rw [first]
    exact (version_bits packet.upper 6).mpr packet.version
  let found := holding (holding (holding sample .ethType 0x86dd) .gotIPV6 1) .offsetToIPV6
    (UInt32.ofNat place)
  have got : wordOf found .gotIPV6 ≠ 0 := by
    show ¬(1 : UInt32) = 0
    decide
  obtain ⟨final, yields, kept, same⟩ := @dissects_ipV6 config buffer found place packet holds ends
    got small
  have before : Kept sample found := ⟨rfl, rfl, rfl, rfl⟩
  refine ⟨final, ?_, before.trans kept, same⟩
  refine yields_bind buffer _ _ (yields_ipV6_type carries) ?_
  -- IPv4 is asked for first
  refine yields_bind buffer _ _ (yields_getWord buffer _ found) ?_
  refine yields_neg buffer (not_not.mpr noIPV4) ?_
  refine yields_bind buffer _ _ (yields_getWord buffer _ found) ?_
  rw [when_pos got]
  exact yields_bind buffer _ _ (yields_logIPSize _) yields

/-- Of another type, nothing is decoded. -/
theorem dissects_other_type {place : Nat} {etherType : UInt16}
    (unknown : etherType ≠ 0x0800 ∧ etherType ≠ 0x86dd) (noIPV4 : wordOf sample .gotIPV4 = 0)
    (noIPV6 : wordOf sample .gotIPV6 = 0) :
    Dissects buffer sample (do
        decodeEthernetType (wordOf sample .headerLen) etherType.toUInt32 place
        decodePacket config) { columnsOf sample with ethType := etherType.toUInt32 } := by
  have differs {value : UInt16} (other : etherType ≠ value) :
      ¬etherType.toUInt32 = value.toUInt32 := fun same => other (UInt16.toUInt32_inj.mp same)
  let found := holding sample .ethType etherType.toUInt32
  refine ⟨found, ?_, ⟨rfl, rfl, rfl, rfl⟩, rfl⟩
  refine yields_bind buffer _ _ (yields_bind buffer _ _ (yields_setWord buffer _ _ _)
    (yields_neg buffer (differs unknown.1) (yields_neg buffer (differs unknown.2)
      (yields_pure buffer _ _)))) ?_
  refine yields_bind buffer _ _ (yields_getWord buffer _ found) ?_
  refine yields_neg buffer (not_not.mpr noIPV4) ?_
  refine yields_bind buffer _ _ (yields_getWord buffer _ found) ?_
  rw [when_neg (show ¬wordOf found .gotIPV6 ≠ 0 from not_not.mpr noIPV6)]
  exact yields_pure buffer _ _

/-- The type of a frame and what it carries. -/
theorem dissects_network {place : Nat} {network : Network}
    (holds : HeaderHolds buffer sample place network.octets)
    (ends : place + network.octets.length = headerBytes sample)
    (small : (UInt32.ofNat place).toNat = place) (noIPV4 : wordOf sample .gotIPV4 = 0)
    (noIPV6 : wordOf sample .gotIPV6 = 0) :
    Dissects buffer sample (do
        decodeEthernetType (wordOf sample .headerLen) network.etherType.toUInt32 place
        decodePacket config) (networkColumns (columnsOf sample) place network) := by
  cases network with
  | ipV4 packet => exact dissects_ipV4_type holds ends small
  | ipV6 packet => exact dissects_ipV6_type holds ends small noIPV4
  | other etherType octets whole typed unknown =>
      exact dissects_other_type ⟨unknown.1, unknown.2.1⟩ noIPV4 noIPV6

/-- The columns of a frame are set from its octets. -/
theorem dissects_frame {frame : Frame} (holds : HeaderHolds buffer sample 0 frame.octets)
    (whole : headerBytes sample = frame.octets.length) :
    Dissects buffer sample (dissectPacket config 1) (frameColumns (columnsOf sample) frame) := by
  have held := frame_held holds
  have size := frame.length_octets
  obtain ⟨linked, kept, noIPV4, noIPV6⟩ := frameDecoded_columns held
  have same := frameDecoded_same buffer sample
  have length : headerBytes (frameDecoded buffer sample) = headerBytes sample :=
    congrArg UInt32.toNat same.headerLen
  have behind : HeaderHolds buffer (frameDecoded buffer sample) frame.place frame.network.octets := by
    unfold HeaderHolds
    rw [same.marks]
    exact held.network
  have small : (UInt32.ofNat frame.place).toNat = frame.place := by
    unfold Frame.place
    split <;> rfl
  obtain ⟨final, yields, further, columns⟩ := @dissects_network config _ _ _ _ behind
    (by rw [length, whole, size]) small noIPV4 noIPV6
  rw [linked] at columns
  refine ⟨final, ?_, kept.trans further, columns⟩
  obtain ⟨value, found, ethernet, decoded⟩ := yields_split buffer yields
  exact yields_bind buffer _ _ (yields_linkLayer (carried_frame held whole)
    (same.headerLen ▸ ethernet)) decoded

end Frames

end SflowTool
