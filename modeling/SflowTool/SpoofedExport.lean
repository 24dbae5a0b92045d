import SflowTool.NetFlowExport
import SflowTool.OnesComplement

/-! The NetFlow export through a raw socket. One packet template is kept for the life of
the process and changed in place by every send; while the UDP checksum is summed, a
pseudo header lies over the end of the IP header. The template is modelled as the memory
it is. The UDP checksum field is cleared before it is summed, the IP checksum field is
not, so that from the second packet on the IP checksum depends on the one before. -/
namespace SflowTool
open Decoding OnesComplement

/-- An IPv4 header as its struct lies in the memory of a little-endian host. -/
structure MyIpHdr where
  versionAndHeaderLen : UInt8
  tos : UInt8
  totLen : UInt16
  id : UInt16
  fragOff : UInt16
  ttl : UInt8
  protocol : UInt8
  check : UInt16
  saddr : UInt32
  daddr : UInt32

def MyIpHdr.octets (ip : MyIpHdr) : List UInt8 :=
  [ip.versionAndHeaderLen, ip.tos] ++ le16 ip.totLen ++ le16 ip.id ++ le16 ip.fragOff ++
  [ip.ttl, ip.protocol] ++ le16 ip.check ++ le32 ip.saddr ++ le32 ip.daddr

structure MyUdpHdr where
  uhSport : UInt16
  uhDport : UInt16
  uhUlen : UInt16
  uhSum : UInt16

def MyUdpHdr.octets (udp : MyUdpHdr) : List UInt8 :=
  le16 udp.uhSport ++ le16 udp.uhDport ++ le16 udp.uhUlen ++ le16 udp.uhSum

structure MySendPacket where
  ip : MyIpHdr
  udp : MyUdpHdr
  data : List UInt8

def MySendPacket.octets (packet : MySendPacket) : List UInt8 :=
  packet.ip.octets ++ packet.udp.octets ++ packet.data

/-- What a sender keeps: the memory of the template and the last IP id. -/
structure SpoofSender where
  sendPkt : List UInt8
  ipid : UInt16

def spoofsourceSendpacketSize : Nat := 2000

/-- Some octets written over memory from an offset on. -/
def splice (memory : List UInt8) (offset : Nat) (octets : List UInt8) : List UInt8 :=
  memory.take offset ++ octets ++ memory.drop (offset + octets.length)

/-- The summing loop of `in_checksum`. -/
def inChecksumLoop : List UInt8 → Nat → Nat
  | low :: high :: rest, sum => inChecksumLoop rest (sum + (low.toNat + 256 * high.toNat))
  | [low], sum => sum + low.toNat
  | [], sum => sum

def inChecksum (octets : List UInt8) : UInt16 :=
  let sum := inChecksumLoop octets 0
  let sum := (sum >>> 16) + (sum &&& 0xffff)
  let sum := sum + (sum >>> 16)
  ~~~UInt16.ofNat sum

/-- The template of a new socket; address and port as the options hold them. -/
def openNetFlowSocketSpoof (netFlowOutputIP : UInt32) (netFlowOutputPort : UInt16) :
    SpoofSender where
  sendPkt := MySendPacket.octets
    { ip :=
        { versionAndHeaderLen := 0x45, tos := 0, totLen := 0, id := 0, fragOff := 0, ttl := 64,
          protocol := 17, check := 0, saddr := 0, daddr := netFlowOutputIP }
      udp :=
        { uhSport := htons netFlowOutputPort, uhDport := htons netFlowOutputPort, uhUlen := 0,
          uhSum := 0 }
      data := List.replicate spoofsourceSendpacketSize 0 }
  ipid := 12000

/-- What is exported: the source address to use and the packet. -/
structure SpoofedExport where
  saddr : UInt32
  pkt : NFFlowPkt5

/-- The whole packet, and where in it the fields lie that a send reads or writes. -/
def packetLen : UInt16 := 100
def idOffset : Nat := 4
def checkOffset : Nat := 10
def saddrOffset : Nat := 12
def udpOffset : Nat := 20
def ulenOffset : Nat := 24
def sumOffset : Nat := 26
def dataOffset : Nat := 28
def udpMagicSize : Nat := 12

/-- The octets of a field. -/
def fieldAt (memory : List UInt8) (offset size : Nat) : List UInt8 :=
  (memory.drop offset).take size

/-- The pseudo header of a UDP checksum, from the fields of the packet. -/
def udpMagicHdr (memory : List UInt8) : List UInt8 :=
  fieldAt memory saddrOffset 8 ++ [0, 17] ++ fieldAt memory ulenOffset 2

/-- One send: the template it leaves and the octets it hands over. -/
def sendNetFlowDatagramSpoof (sent : SpoofedExport) (sender : SpoofSender) :
    SpoofSender × List UInt8 :=
  let memory := splice sender.sendPkt dataOffset sent.pkt.octets
  let ipid := sender.ipid + 1
  let memory := splice memory idOffset (le16 (htons ipid))
  let memory := splice memory 2 (le16 (htons packetLen))
  let memory := splice memory ulenOffset (le16 (htons (packetLen - 20)))
  let memory := splice memory saddrOffset (le32 sent.saddr)
  -- the field that is written here is among the words that are summed
  let check := inChecksum (memory.take 20)
  let memory := splice memory checkOffset (le16 (if check = 0 then 0xffff else check))
  let saved := fieldAt memory (udpOffset - udpMagicSize) udpMagicSize
  let memory := splice memory (udpOffset - udpMagicSize) (udpMagicHdr memory)
  let memory := splice memory sumOffset (le16 0)
  let sum := inChecksum (fieldAt memory (udpOffset - udpMagicSize)
    ((packetLen - 20).toNat + udpMagicSize))
  let memory := splice memory sumOffset (le16 (if sum = 0 then 0xffff else sum))
  let memory := splice memory (udpOffset - udpMagicSize) saved
  (⟨memory, ipid⟩, memory.take packetLen.toNat)

/-- A send of a run: what is exported, the sender before it and the octets it sends. -/
structure SpoofedSend where
  sent : SpoofedExport
  before : SpoofSender
  packet : List UInt8

def spoofedSends : List SpoofedExport → SpoofSender → List SpoofedSend
  | [], _ => []
  | sent :: rest, sender =>
      ⟨sent, sender, (sendNetFlowDatagramSpoof sent sender).2⟩ ::
        spoofedSends rest (sendNetFlowDatagramSpoof sent sender).1

/-- The exports among the events of a run, with the numbers they were stamped with. -/
def spoofedExport (event : Stamped collector) : Option SpoofedExport :=
  match event.event with
  | .netFlowSpoofed saddr _ => (sentPacket event).map fun pkt => ⟨leWord saddr, pkt⟩
  | _ => none

section Checksum

theorem inChecksumLoop_eq (octets : List UInt8) (sum : Nat) :
    inChecksumLoop octets sum = sum + (wordsLE octets).sum := by
  fun_induction inChecksumLoop octets sum with
  | case1 low high rest sum ih =>
      rw [ih]
      simp only [wordsLE, List.sum_cons]
      omega
  | case2 sum low => simp [wordsLE]
  | case3 sum => simp [wordsLE]

/-- Folding the upper half in twice and complementing gives what is missing to a
multiple of 0xffff. -/
theorem fold_cancels (total : Nat) (small : total < 2 ^ 31) :
    let folded := total / 2 ^ 16 + total % 2 ^ 16
    (total + (2 ^ 16 - 1 - (folded + folded / 2 ^ 16) % 2 ^ 16)) % 0xffff = 0 := by
  intro folded
  have split : total = 65536 * (total / 2 ^ 16) + total % 2 ^ 16 := by omega
  by_cases carry : folded < 2 ^ 16
  · have none : folded / 2 ^ 16 = 0 := Nat.div_eq_of_lt carry
    have once : (folded + folded / 2 ^ 16) % 2 ^ 16 = folded := by
      rw [none]
      exact Nat.mod_eq_of_lt carry
    have whole : total + (2 ^ 16 - 1 - folded) = 65535 * (total / 2 ^ 16 + 1) := by omega
    rw [once, whole]
    exact Nat.mul_mod_right _ _
  · have one : folded / 2 ^ 16 = 1 := by omega
    have around : (folded + folded / 2 ^ 16) % 2 ^ 16 = folded + 1 - 2 ^ 16 := by
      rw [one]
      omega
    have whole : total + (2 ^ 16 - 1 - (folded + 1 - 2 ^ 16)) =
        65535 * (total / 2 ^ 16 + 2) := by omega
    rw [around, whole]
    exact Nat.mul_mod_right _ _

/-- The checksum and the words it was taken over cancel modulo 0xffff. -/
theorem inChecksum_cancels (octets : List UInt8) (small : (wordsLE octets).sum < 2 ^ 31) :
    ((wordsLE octets).sum + (inChecksum octets).toNat) % 0xffff = 0 := by
  have low : ∀ number : Nat, number &&& 65535 = number % 2 ^ 16 :=
    fun number => Nat.and_two_pow_sub_one_eq_mod number 16
  have plain := inChecksumLoop_eq octets 0
  simp only [inChecksum, plain, Nat.zero_add, UInt16.toNat_not, UInt16.toNat_ofNat', low,
    Nat.shiftRight_eq_div_pow, UInt16.size]
  exact fold_cancels _ small

/-- The words of 65535 octets: 32767 of them and a last octet. -/
theorem wordsLE_fits (octets : List UInt8) (short : octets.length ≤ 65535) :
    (wordsLE octets).sum < 2 ^ 31 := by
  have sharp : (wordsLE octets).sum ≤
      65535 * (octets.length / 2) + 255 * (octets.length % 2) := by
    fun_induction wordsLE octets with
    | case1 low high rest ih =>
        have lowBound := low.toNat_lt
        have highBound := high.toNat_lt
        have further := ih (by rw [List.length_cons, List.length_cons] at short; omega)
        simp only [List.sum_cons, List.length_cons]
        omega
    | case2 low =>
        have lowBound := low.toNat_lt
        simp only [List.sum_cons, List.sum_nil, List.length_cons, List.length_nil]
        omega
    | case3 => exact Nat.zero_le _
  omega

/-- What is kept of a checksum: 0xffff stands for zero. -/
def checksumField (octets : List UInt8) : UInt16 :=
  if inChecksum octets = 0 then 0xffff else inChecksum octets

/-- The field still cancels, and is never zero. -/
theorem checksumField_cancels (octets : List UInt8) (short : octets.length ≤ 65535) :
    0 < (checksumField octets).toNat ∧
      ((wordsLE octets).sum + (checksumField octets).toNat) % 0xffff = 0 := by
  have cancels := inChecksum_cancels octets (wordsLE_fits octets short)
  unfold checksumField
  by_cases zero : inChecksum octets = 0
  · rw [zero] at cancels
    rw [if_pos zero]
    exact ⟨by decide, by simpa using cancels⟩
  · rw [if_neg zero]
    refine ⟨?_, cancels⟩
    have positive : (inChecksum octets).toNat ≠ 0 := fun none =>
      zero (UInt16.toNat_inj.mp none)
    omega

end Checksum

section Layout

def MyIpHdr.magic (ip : MyIpHdr) (ulen : UInt16) : List UInt8 :=
  le32 ip.saddr ++ le32 ip.daddr ++ [0, 17] ++ le16 ulen

/-- The header a send leaves in the template, but for its checksum. -/
def MyIpHdr.addressed (ip : MyIpHdr) (sent : SpoofedExport) (ipid : UInt16) : MyIpHdr :=
  { ip with id := htons ipid, totLen := htons packetLen, saddr := sent.saddr }

def MySendPacket.filledIp (packet : MySendPacket) (sent : SpoofedExport) (ipid : UInt16) : MyIpHdr :=
  { packet.ip.addressed sent ipid with
    check := checksumField (packet.ip.addressed sent ipid).octets }

def MySendPacket.clearedUdp (packet : MySendPacket) : MyUdpHdr :=
  { packet.udp with uhUlen := htons (packetLen - 20), uhSum := 0 }

/-- The octets under the UDP checksum, its own field cleared. -/
def MySendPacket.summed (packet : MySendPacket) (sent : SpoofedExport) (ipid : UInt16) :
    List UInt8 :=
  (packet.filledIp sent ipid).magic packet.clearedUdp.uhUlen ++ packet.clearedUdp.octets ++
    sent.pkt.octets

/-- The template a send leaves. -/
def MySendPacket.filled (packet : MySendPacket) (sent : SpoofedExport) (ipid : UInt16) :
    MySendPacket where
  ip := packet.filledIp sent ipid
  udp := { packet.clearedUdp with uhSum := checksumField (packet.summed sent ipid) }
  data := sent.pkt.octets ++ packet.data.drop 72

section Fields
variable (packet : MySendPacket) (half : UInt16) (word : UInt32)

theorem splice_id : splice packet.octets idOffset (le16 half) =
    { packet with ip := { packet.ip with id := half } }.octets := rfl
theorem splice_totLen : splice packet.octets 2 (le16 half) =
    { packet with ip := { packet.ip with totLen := half } }.octets := rfl
theorem splice_check : splice packet.octets checkOffset (le16 half) =
    { packet with ip := { packet.ip with check := half } }.octets := rfl
theorem splice_saddr : splice packet.octets saddrOffset (le32 word) =
    { packet with ip := { packet.ip with saddr := word } }.octets := rfl
theorem splice_ulen : splice packet.octets ulenOffset (le16 half) =
    { packet with udp := { packet.udp with uhUlen := half } }.octets := rfl
theorem take_ip : packet.octets.take 20 = packet.ip.octets := rfl

theorem splice_data (octets : List UInt8) : splice packet.octets dataOffset octets =
    { packet with data := octets ++ packet.data.drop octets.length }.octets := by
  have behind : packet.octets.drop (dataOffset + octets.length) =
      packet.data.drop octets.length := by
    rw [← List.drop_drop]
    rfl
  unfold splice
  rw [behind]
  rfl

/-- The memory while the pseudo header lies over the IP header. -/
def MySendPacket.blatted : List UInt8 :=
  splice (splice packet.octets (udpOffset - udpMagicSize) (udpMagicHdr packet.octets)) sumOffset
    (le16 0)

/-- The template before the part that the pseudo header covers, that part, and the ports
and the length behind it. -/
def MySendPacket.front : List UInt8 :=
  [packet.ip.versionAndHeaderLen, packet.ip.tos] ++ le16 packet.ip.totLen ++ le16 packet.ip.id ++
  le16 packet.ip.fragOff

def MySendPacket.covered : List UInt8 :=
  [packet.ip.ttl, packet.ip.protocol] ++ le16 packet.ip.check ++ le32 packet.ip.saddr ++
  le32 packet.ip.daddr

def MySendPacket.ports : List UInt8 :=
  le16 packet.udp.uhSport ++ le16 packet.udp.uhDport ++ le16 packet.udp.uhUlen

theorem octets_parts : packet.octets =
    packet.front ++ (packet.covered ++ (packet.ports ++ (le16 packet.udp.uhSum ++ packet.data))) := by
  simp only [MySendPacket.octets, MyIpHdr.octets, MyUdpHdr.octets, MySendPacket.front,
    MySendPacket.covered, MySendPacket.ports, List.append_assoc]

theorem udpMagicHdr_octets :
    udpMagicHdr packet.octets = packet.ip.magic packet.udp.uhUlen := rfl

theorem splice_part (before part behind octets : List UInt8) (offset : Nat)
    (place : before.length = offset) (same : octets.length = part.length) :
    splice (before ++ (part ++ behind)) offset octets = before ++ (octets ++ behind) := by
  subst place
  unfold splice
  rw [same, List.take_left, ← List.drop_drop, List.drop_left, List.drop_left, List.append_assoc]

theorem splice_sum (covering : List UInt8) (twelve : covering.length = udpMagicSize)
    (old new : UInt16) :
    splice (packet.front ++ (covering ++ (packet.ports ++ (le16 old ++ packet.data)))) sumOffset
        (le16 new) =
      packet.front ++ (covering ++ (packet.ports ++ (le16 new ++ packet.data))) := by
  have place : (packet.front ++ (covering ++ packet.ports)).length = sumOffset := by
    rw [List.length_append, List.length_append, twelve]
    rfl
  have part := splice_part (packet.front ++ (covering ++ packet.ports)) (le16 old) packet.data
    (le16 new) sumOffset place rfl
  simpa only [List.append_assoc] using part

theorem blatted_parts : packet.blatted =
    packet.front ++ (packet.ip.magic packet.udp.uhUlen ++ (packet.ports ++ (le16 0 ++ packet.data))) := by
  have covered : splice packet.octets (udpOffset - udpMagicSize) (udpMagicHdr packet.octets) =
      packet.front ++ (packet.ip.magic packet.udp.uhUlen ++
        (packet.ports ++ (le16 packet.udp.uhSum ++ packet.data))) := by
    rw [udpMagicHdr_octets, octets_parts]
    exact splice_part _ _ _ _ _ rfl rfl
  unfold MySendPacket.blatted
  rw [covered]
  exact splice_sum packet _ rfl _ _

theorem fieldAt_blatted (size : Nat) :
    fieldAt packet.blatted (udpOffset - udpMagicSize) (20 + size) =
      packet.ip.magic packet.udp.uhUlen ++ { packet.udp with uhSum := 0 }.octets ++
        packet.data.take size := by
  have front : packet.front.length = udpOffset - udpMagicSize := rfl
  have headers : (packet.ip.magic packet.udp.uhUlen ++ packet.ports ++ le16 0).length = 20 := rfl
  have grouped : packet.blatted.drop (udpOffset - udpMagicSize) =
      (packet.ip.magic packet.udp.uhUlen ++ packet.ports ++ le16 0) ++ packet.data := by
    rw [blatted_parts, ← front, List.drop_left]
    simp only [List.append_assoc]
  unfold fieldAt
  rw [grouped, ← headers, List.take_length_add_append]
  simp only [MySendPacket.ports, MyUdpHdr.octets, List.append_assoc]

theorem restored : splice (splice packet.blatted sumOffset (le16 half)) (udpOffset - udpMagicSize)
    (fieldAt packet.octets (udpOffset - udpMagicSize) udpMagicSize) =
      { packet with udp := { packet.udp with uhSum := half } }.octets := by
  have saved : fieldAt packet.octets (udpOffset - udpMagicSize) udpMagicSize = packet.covered := rfl
  rw [saved, blatted_parts, splice_sum packet _ rfl]
  refine (splice_part packet.front _ _ packet.covered _ rfl rfl).trans ?_
  exact (octets_parts { packet with udp := { packet.udp with uhSum := half } }).symm

end Fields

/-- The pseudo header leaves no trace: after the send the memory is that of a packet
struct in which only fields that the send assigns have changed. -/
theorem send_filled (packet : MySendPacket) (sent : SpoofedExport) (ipid : UInt16) :
    sendNetFlowDatagramSpoof sent ⟨packet.octets, ipid⟩ =
      (⟨(packet.filled sent (ipid + 1)).octets, ipid + 1⟩,
        (packet.filled sent (ipid + 1)).octets.take 100) := by
  have data : sent.pkt.octets.length = 72 := length_octets sent.pkt
  have whole : (packetLen - 20).toNat + udpMagicSize = 20 + 72 := by decide
  have exact : (sent.pkt.octets ++ packet.data.drop 72).take 72 = sent.pkt.octets := by
    rw [← data]
    exact List.take_left
  simp only [sendNetFlowDatagramSpoof, splice_id, splice_totLen, splice_data, splice_ulen,
    splice_saddr, take_ip, splice_check, data, whole]
  simp only [← MySendPacket.blatted.eq_1, fieldAt_blatted, restored, exact]
  rfl

end Layout

section Valid

/-- The pseudo header a receiver sums in front of the UDP header. -/
def pseudoHeader (packet : List UInt8) : List UInt8 :=
  fieldAt packet 12 8 ++ [0, 17] ++ fieldAt packet 24 2

/-- A send that hands over a valid datagram, in which what the pseudo header covered is
as it was: the time to live, the protocol and the two addresses. -/
structure SpoofedSend.Valid (netFlowOutputIP : UInt32) (send : SpoofedSend) : Prop where
  header : SumsFull (send.packet.take 20)
  payload : SumsFull (pseudoHeader send.packet ++ send.packet.drop 20)
  totLen : beNat (fieldAt send.packet 2 2) = send.packet.length
  ulen : beNat (fieldAt send.packet 24 2) = send.packet.length - 20
  restored : fieldAt send.packet 8 2 = [64, 17]
  source : fieldAt send.packet 12 4 = le32 send.sent.saddr
  destination : fieldAt send.packet 16 4 = le32 netFlowOutputIP

/-- The template holds a checksum that the next sum does not notice. -/
def SpoofedSend.Clean (send : SpoofedSend) : Prop :=
  fieldAt send.before.sendPkt checkOffset 2 = [0, 0] ∨
    fieldAt send.before.sendPkt checkOffset 2 = [255, 255]

theorem half_octets (half : UInt16) :
    half.toUInt8.toNat + 256 * (half >>> 8).toUInt8.toNat = half.toNat := by
  have bound := half.toNat_lt
  simp only [UInt16.toNat_toUInt8, UInt16.toNat_shiftRight, UInt16.reduceToNat, Nat.reduceMod,
    Nat.shiftRight_eq_div_pow]
  omega

theorem le16_inj (one two : UInt16) : le16 one = le16 two ↔ one = two := by
  constructor
  · intro same
    have first := half_octets one
    have second := half_octets two
    simp only [le16, List.cons.injEq, and_true] at same
    rw [same.1, same.2] at first
    exact UInt16.toNat_inj.mp (first.symm.trans second)
  · rintro rfl
    rfl

/-- A checksum counts in the sum of its header as one word. -/
theorem sum_check (ip : MyIpHdr) : ∃ rest, ∀ check,
    (wordsLE { ip with check := check }.octets).sum = rest + check.toNat := by
  refine ⟨(wordsLE { ip with check := 0 }.octets).sum, fun check => ?_⟩
  have half := half_octets check
  have cleared := half_octets 0
  simp only [MyIpHdr.octets, le16, le32, List.cons_append, List.nil_append, wordsLE, List.sum_cons,
    List.sum_nil]
  rw [UInt16.toNat_zero] at cleared
  omega

theorem sum_uhSum (udp : MyUdpHdr) : ∃ rest, ∀ uhSum,
    (wordsLE { udp with uhSum := uhSum }.octets).sum = rest + uhSum.toNat := by
  refine ⟨(wordsLE { udp with uhSum := 0 }.octets).sum, fun uhSum => ?_⟩
  have half := half_octets uhSum
  have cleared := half_octets 0
  simp only [MyUdpHdr.octets, le16, List.cons_append, List.nil_append, wordsLE, List.sum_cons,
    List.sum_nil]
  rw [UInt16.toNat_zero] at cleared
  omega

theorem residue_iff (half : UInt16) : half.toNat % 0xffff = 0 ↔ half = 0 ∨ half = 0xffff := by
  have bound := half.toNat_lt
  constructor
  · intro none
    rcases Nat.eq_zero_or_pos half.toNat with zero | positive
    · exact .inl (UInt16.toNat_inj.mp zero)
    · exact .inr (UInt16.toNat_inj.mp (show half.toNat = (0xffff : UInt16).toNat by
        simp only [UInt16.reduceToNat]
        omega))
  · rintro (rfl | rfl) <;> decide

/-- The header that a send leaves sums to 0xffff exactly when the checksum it found was
one that sums do not notice. -/
theorem filledIp_full (packet : MySendPacket) (sent : SpoofedExport) (ipid : UInt16) :
    SumsFull (packet.filledIp sent ipid).octets ↔ packet.ip.check = 0 ∨ packet.ip.check = 0xffff := by
  obtain ⟨rest, sums⟩ := sum_check (packet.ip.addressed sent ipid)
  have before : (wordsLE (packet.ip.addressed sent ipid).octets).sum =
      rest + packet.ip.check.toNat := sums packet.ip.check
  have after : (wordsLE (packet.filledIp sent ipid).octets).sum =
      rest + (checksumField (packet.ip.addressed sent ipid).octets).toNat := sums _
  have short : (packet.ip.addressed sent ipid).octets.length ≤ 65535 :=
    show 20 ≤ 65535 by decide
  obtain ⟨positive, cancels⟩ := checksumField_cancels (packet.ip.addressed sent ipid).octets short
  rw [before] at cancels
  rw [sumsFull_iff, ← residue_iff, after]
  constructor
  · rintro ⟨_, full⟩
    omega
  · intro none
    exact ⟨by omega, by omega⟩

theorem length_magic (ip : MyIpHdr) (ulen : UInt16) : (ip.magic ulen).length = 12 := rfl
theorem length_udp (udp : MyUdpHdr) : udp.octets.length = 8 := rfl

theorem summed_even (packet : MySendPacket) (sent : SpoofedExport) (ipid : UInt16) (udp : MyUdpHdr) :
    (wordsLE ((packet.filledIp sent ipid).magic packet.clearedUdp.uhUlen ++ udp.octets ++
        sent.pkt.octets)).sum =
      (wordsLE ((packet.filledIp sent ipid).magic packet.clearedUdp.uhUlen)).sum +
        (wordsLE udp.octets).sum + (wordsLE sent.pkt.octets).sum := by
  rw [List.append_assoc, wordsLE_append _ _ (by rw [length_magic]),
    wordsLE_append _ _ (by rw [length_udp]), List.sum_append, List.sum_append, Nat.add_assoc]

/-- The UDP checksum is right whatever the template held. -/
theorem filled_udp_full (packet : MySendPacket) (sent : SpoofedExport) (ipid : UInt16) :
    SumsFull ((packet.filledIp sent ipid).magic packet.clearedUdp.uhUlen ++
      (packet.filled sent ipid).udp.octets ++ sent.pkt.octets) := by
  have short : (packet.summed sent ipid).length ≤ 65535 := by
    have data := length_octets sent.pkt
    have headers : ((packet.filledIp sent ipid).magic packet.clearedUdp.uhUlen ++
      packet.clearedUdp.octets).length = 20 := rfl
    unfold MySendPacket.summed
    rw [List.length_append, headers, data]
    decide
  obtain ⟨rest, sums⟩ := sum_uhSum packet.clearedUdp
  have cleared : (wordsLE packet.clearedUdp.octets).sum = rest + (0 : UInt16).toNat := sums 0
  have after : (wordsLE (packet.filled sent ipid).udp.octets).sum =
      rest + (checksumField (packet.summed sent ipid)).toNat := sums _
  obtain ⟨positive, cancels⟩ := checksumField_cancels (packet.summed sent ipid) short
  have before : (wordsLE (packet.summed sent ipid)).sum = _ :=
    summed_even packet sent ipid packet.clearedUdp
  rw [before, cleared, UInt16.toNat_zero] at cancels
  rw [sumsFull_iff, summed_even, after]
  exact ⟨by omega, by omega⟩

/-- What every send leaves as the socket was opened with. -/
structure MySendPacket.Template (netFlowOutputIP : UInt32) (packet : MySendPacket) : Prop where
  ttl : packet.ip.ttl = 64
  protocol : packet.ip.protocol = 17
  daddr : packet.ip.daddr = netFlowOutputIP

theorem sent_octets (packet : MySendPacket) (sent : SpoofedExport) (ipid : UInt16) :
    (packet.filled sent ipid).octets.take 100 =
      (packet.filledIp sent ipid).octets ++
        ((packet.filled sent ipid).udp.octets ++ sent.pkt.octets) := by
  have whole : ((packet.filledIp sent ipid).octets ++
      ((packet.filled sent ipid).udp.octets ++ sent.pkt.octets)).length = 100 := by
    have data := length_octets sent.pkt
    rw [List.length_append, List.length_append, length_udp, data]
    rfl
  have grouped : (packet.filled sent ipid).octets = ((packet.filledIp sent ipid).octets ++
      ((packet.filled sent ipid).udp.octets ++ sent.pkt.octets)) ++ packet.data.drop 72 := by
    simp only [MySendPacket.octets, MySendPacket.filled, List.append_assoc]
  rw [grouped, ← whole, List.take_left]

/-- A send hands over a valid datagram exactly when the template is clean. -/
theorem send_valid_iff (netFlowOutputIP : UInt32) (packet : MySendPacket)
    (template : packet.Template netFlowOutputIP) (sent : SpoofedExport) (ipid : UInt16) :
    SpoofedSend.Valid netFlowOutputIP ⟨sent, ⟨packet.octets, ipid⟩,
        (sendNetFlowDatagramSpoof sent ⟨packet.octets, ipid⟩).2⟩ ↔
      SpoofedSend.Clean ⟨sent, ⟨packet.octets, ipid⟩,
        (sendNetFlowDatagramSpoof sent ⟨packet.octets, ipid⟩).2⟩ := by
  have found : fieldAt packet.octets checkOffset 2 = le16 packet.ip.check := rfl
  have length : ((packet.filledIp sent (ipid + 1)).octets ++
      ((packet.filled sent (ipid + 1)).udp.octets ++ sent.pkt.octets)).length = 100 := by
    have data := length_octets sent.pkt
    rw [List.length_append, List.length_append, length_udp, data]
    rfl
  have clean : (fieldAt packet.octets checkOffset 2 = [0, 0] ∨
      fieldAt packet.octets checkOffset 2 = [255, 255]) ↔
        packet.ip.check = 0 ∨ packet.ip.check = 0xffff := by
    rw [found]
    exact or_congr (le16_inj packet.ip.check 0) (le16_inj packet.ip.check 0xffff)
  have handed : (sendNetFlowDatagramSpoof sent ⟨packet.octets, ipid⟩).2 =
      (packet.filledIp sent (ipid + 1)).octets ++
        ((packet.filled sent (ipid + 1)).udp.octets ++ sent.pkt.octets) := by
    rw [send_filled, sent_octets]
  rw [handed]
  unfold SpoofedSend.Clean
  rw [clean, ← filledIp_full packet sent (ipid + 1)]
  constructor
  · intro valid
    exact valid.header
  · intro header
    refine ⟨header, ?_, ?_, ?_, ?_, rfl, ?_⟩
    · have summed := filled_udp_full packet sent (ipid + 1)
      rw [List.append_assoc] at summed
      exact summed
    · rw [length]
      show beNat (le16 (htons packetLen)) = 100
      decide
    · rw [length]
      show beNat (le16 (htons (packetLen - 20))) = 100 - 20
      decide
    · show [packet.ip.ttl, packet.ip.protocol] = [64, 17]
      rw [template.ttl, template.protocol]
    · show le32 packet.ip.daddr = le32 netFlowOutputIP
      rw [template.daddr]

/-- Along a run of sends that starts from a template, validity and cleanness agree send
by send. -/
theorem sends_valid_iff (netFlowOutputIP : UInt32) (exports : List SpoofedExport)
    (packet : MySendPacket) (template : packet.Template netFlowOutputIP) (ipid : UInt16) :
    ∀ send ∈ spoofedSends exports ⟨packet.octets, ipid⟩, send.Valid netFlowOutputIP ↔ send.Clean := by
  induction exports generalizing packet ipid with
  | nil => exact List.forall_mem_nil _
  | cons sent rest ih =>
      intro send member
      rcases List.mem_cons.mp member with rfl | later
      · exact send_valid_iff netFlowOutputIP packet template sent ipid
      · rw [send_filled] at later
        have kept : (packet.filled sent (ipid + 1)).Template netFlowOutputIP :=
          ⟨template.ttl, template.protocol, template.daddr⟩
        exact ih _ kept _ send later

/-- Every packet of a run of exports is a valid datagram exactly when every send but the
first finds the checksum 0xffff in the template. -/
theorem spoofed_sends_valid_iff (netFlowOutputIP : UInt32) (netFlowOutputPort : UInt16)
    (trace : List (Stamped collector)) :
    (∀ send ∈ spoofedSends (trace.filterMap spoofedExport)
        (openNetFlowSocketSpoof netFlowOutputIP netFlowOutputPort), send.Valid netFlowOutputIP) ↔
      ∀ send ∈ spoofedSends (trace.filterMap spoofedExport)
        (openNetFlowSocketSpoof netFlowOutputIP netFlowOutputPort), send.Clean := by
  have opened := sends_valid_iff netFlowOutputIP (trace.filterMap spoofedExport)
    { ip :=
        { versionAndHeaderLen := 0x45, tos := 0, totLen := 0, id := 0, fragOff := 0, ttl := 64,
          protocol := 17, check := 0, saddr := 0, daddr := netFlowOutputIP }
      udp :=
        { uhSport := htons netFlowOutputPort, uhDport := htons netFlowOutputPort, uhUlen := 0,
          uhSum := 0 }
      data := List.replicate spoofsourceSendpacketSize 0 } ⟨rfl, rfl, rfl⟩ 12000
  exact forall₂_congr opened

/-- The exports of a datagram with two flow samples. -/
def twoExports : List (Stamped collector) :=
  (receiveSFlowDatagram { netFlowConfig 1000 with spoofSource := true }
    (datagramOf (datagramHeaderV5 2 ++ udpSample ++ udpSample)) firstSample).trace

theorem second_spoofed_send_invalid :
    ¬∀ (netFlowOutputIP : UInt32) (netFlowOutputPort : UInt16) (trace : List (Stamped collector)),
      ∀ send ∈ spoofedSends (trace.filterMap spoofedExport)
        (openNetFlowSocketSpoof netFlowOutputIP netFlowOutputPort), send.Valid netFlowOutputIP := by
  intro valid
  have wrong : ∃ send ∈ spoofedSends (twoExports.filterMap spoofedExport)
      (openNetFlowSocketSpoof 0x0100007f 9999), ¬SumsFull (send.packet.take 20) := by
    decide +kernel
  obtain ⟨send, member, header⟩ := wrong
  exact header (valid 0x0100007f 9999 twoExports send member).header

end Valid

end SflowTool
