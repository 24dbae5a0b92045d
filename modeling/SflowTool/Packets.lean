import Mathlib

/-! Packets as they lie on the wire: a frame with its addresses and at most one tag, an IP header
of either version behind it, and what that carries. What is captured of a packet may end anywhere
behind its transport header. -/
namespace Packets

/-- Octets of a known number. -/
structure Octets (count : Nat) where
  octets : List UInt8
  sized : octets.length = count

/-- A half word with its high octet first. -/
def half (value : UInt16) : List UInt8 := [(value >>> 8).toUInt8, value.toUInt8]

/-- What an IP header carries. The fixed part of a transport header is there in any case; the
payload is what was captured of it. -/
inductive Transport where
  | icmp (type code : UInt8) (rest : List UInt8) (whole : 6 ≤ rest.length)
  | tcp (source destination : UInt16) (numbers : Octets 8) (offset flags : UInt8) (tail : Octets 6)
      (payload : List UInt8)
  | udp (source destination length checksum : UInt16) (payload : List UInt8)
  | other (protocol : UInt8) (payload : List UInt8)
      (unknown : protocol ≠ 1 ∧ protocol ≠ 6 ∧ protocol ≠ 17)

namespace Transport

def protocol : Transport → UInt8
  | .icmp .. => 1
  | .tcp .. => 6
  | .udp .. => 17
  | .other protocol _ _ => protocol

def octets : Transport → List UInt8
  | .icmp type code rest _ => type :: code :: rest
  | .tcp source destination numbers offset flags tail payload =>
      half source ++ (half destination ++ (numbers.octets ++ (offset :: flags ::
        (tail.octets ++ payload))))
  | .udp source destination length checksum payload =>
      half source ++ (half destination ++ (half length ++ (half checksum ++ payload)))
  | .other _ payload _ => payload

end Transport

/-- What a fragment carries: the transport header is in the first of them. -/
inductive Content where
  | first (transport : Transport)
  | later (protocol : UInt8) (octets : List UInt8)

namespace Content

def protocol : Content → UInt8
  | .first transport => transport.protocol
  | .later protocol _ => protocol

def octets : Content → List UInt8
  | .first transport => transport.octets
  | .later _ octets => octets

def IsLater : Content → Prop
  | .first _ => False
  | .later _ _ => True

end Content

/-- An IPv4 packet. Its header has up to ten words of options. -/
structure IPv4 where
  tos : UInt8
  totalLength : UInt16
  identification : UInt16
  fragment : UInt16
  ttl : UInt8
  checksum : UInt16
  source : Octets 4
  destination : Octets 4
  options : List (Octets 4)
  few : options.length ≤ 10
  content : Content
  agrees : content.IsLater ↔ fragment &&& 0x1fff ≠ 0

def IPv4.octets (packet : IPv4) : List UInt8 :=
  UInt8.ofNat (0x45 + packet.options.length) :: packet.tos :: (half packet.totalLength ++
    (half packet.identification ++ (half packet.fragment ++ (packet.ttl :: packet.content.protocol ::
      (half packet.checksum ++ (packet.source.octets ++ (packet.destination.octets ++
        (packet.options.flatMap Octets.octets ++ packet.content.octets))))))))

/-- Extension headers of an IPv6 packet by the number that announces them. -/
def extensionKinds : List UInt8 := [0, 43, 44, 51, 60]

/-- An IPv6 packet without extension headers. The first octet is the version and the upper half
of the traffic class. -/
structure IPv6 where
  upper : UInt8
  version : upper >>> 4 = 6
  label : Octets 3
  payloadLength : UInt16
  hopLimit : UInt8
  source : Octets 16
  destination : Octets 16
  transport : Transport
  plain : transport.protocol ∉ extensionKinds

def IPv6.octets (packet : IPv6) : List UInt8 :=
  packet.upper :: (packet.label.octets ++ (half packet.payloadLength ++ (packet.transport.protocol ::
    packet.hopLimit :: (packet.source.octets ++ (packet.destination.octets ++
      packet.transport.octets)))))

/-- What a frame carries: an IP packet, or something else of a type of its own. -/
inductive Network where
  | ipV4 (packet : IPv4)
  | ipV6 (packet : IPv6)
  | other (etherType : UInt16) (octets : List UInt8) (whole : 20 ≤ octets.length)
      (typed : 1536 < etherType)
      (unknown : etherType ≠ 0x0800 ∧ etherType ≠ 0x86dd ∧ etherType ≠ 0x8100)

namespace Network

def etherType : Network → UInt16
  | .ipV4 _ => 0x0800
  | .ipV6 _ => 0x86dd
  | .other etherType _ _ _ _ => etherType

def octets : Network → List UInt8
  | .ipV4 packet => packet.octets
  | .ipV6 packet => packet.octets
  | .other _ octets _ _ _ => octets

end Network

/-- An Ethernet frame, with the control word of its tag if it has one. -/
structure Frame where
  destination : Octets 6
  source : Octets 6
  tag : Option UInt16
  network : Network

namespace Frame

def tagOctets : Option UInt16 → List UInt8
  | some control => half 0x8100 ++ half control
  | none => []

def octets (frame : Frame) : List UInt8 :=
  frame.destination.octets ++ (frame.source.octets ++ (tagOctets frame.tag ++
    (half frame.network.etherType ++ frame.network.octets)))

/-- Where what the frame carries begins. -/
def place (frame : Frame) : Nat := if frame.tag.isSome then 18 else 14

end Frame

@[simp] theorem length_half (value : UInt16) : (half value).length = 2 := rfl

theorem options_length (options : List (Octets 4)) :
    (options.flatMap Octets.octets).length = 4 * options.length := by
  induction options with
  | nil => rfl
  | cons option options ih =>
      rw [List.flatMap_cons, List.length_append, ih, option.sized, List.length_cons]
      omega

/-- A transport header that is known by its protocol is eight octets at least. -/
theorem Transport.length_octets (transport : Transport)
    (known : transport.protocol = 1 ∨ transport.protocol = 6 ∨ transport.protocol = 17) :
    8 ≤ transport.octets.length := by
  cases transport with
  | icmp type code rest whole =>
      simp only [octets, List.length_cons]
      omega
  | tcp source destination numbers offset flags tail payload =>
      simp only [octets, List.length_append, length_half, numbers.sized]
      omega
  | udp source destination length checksum payload =>
      simp only [octets, List.length_append, length_half]
      omega
  | other protocol payload unknown =>
      rcases known with icmp | tcp | udp
      · exact absurd icmp unknown.1
      · exact absurd tcp unknown.2.1
      · exact absurd udp unknown.2.2

theorem IPv4.length_octets (packet : IPv4) : packet.octets.length =
    20 + 4 * packet.options.length + packet.content.octets.length := by
  simp only [octets, List.length_cons, List.length_append, length_half, packet.source.sized,
    packet.destination.sized, options_length]
  omega

theorem IPv6.length_octets (packet : IPv6) :
    packet.octets.length = 40 + packet.transport.octets.length := by
  simp only [octets, List.length_cons, List.length_append, length_half, packet.label.sized,
    packet.source.sized, packet.destination.sized]
  omega

theorem Frame.length_octets (frame : Frame) :
    frame.octets.length = frame.place + frame.network.octets.length := by
  obtain ⟨destination, source, tag, network⟩ := frame
  cases tag with
  | none =>
      simp only [octets, tagOctets, place, List.length_append, length_half, destination.sized,
        source.sized, List.length_nil, Option.isSome_none, Bool.false_eq_true, if_false]
      omega
  | some control =>
      simp only [octets, tagOctets, place, List.length_append, length_half, destination.sized,
        source.sized, Option.isSome_some, if_true]
      omega

end Packets
