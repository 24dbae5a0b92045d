import SflowTool.HeaderSpecs

/-! The extension headers of an IPv6 packet. A header is eight bytes long and eight more
for each unit of its length byte; the walk takes each to be two bytes shorter, so that it
reads the second header in the last two bytes of the first. -/
namespace SflowTool
open Decoding Decoding.Decoder

variable {config : SFConfig}

section Chains

/-- An extension header: the kind that announces it and its length byte. -/
structure ExtensionHeader where
  kind : UInt32
  optionLen : UInt32

/-- The bytes of a header by its length byte. -/
def extensionBytes (optionLen : UInt32) : Nat := 8 * (optionLen.toNat + 1)

/-- The bytes of a chain whose headers are as long as their length byte says. -/
def chainBytes (size : UInt32 → Nat) (chain : List ExtensionHeader) : Nat :=
  (chain.map fun header => size header.optionLen).sum

/-- A chain lies at a place, announced by the next-header value before it, and its last
header announces the protocol. -/
def Carries (size : UInt32 → Nat) (byteAt : Nat → UInt32) :
    List ExtensionHeader → UInt32 → Nat → UInt32 → Prop
  | [], nextHeader, _, protocol => nextHeader = protocol
  | header :: rest, nextHeader, place, protocol =>
      header.kind = nextHeader ∧ header.optionLen = byteAt (place + 1) ∧
        Carries size byteAt rest (byteAt place) (place + size header.optionLen) protocol

instance (nextHeader : UInt32) : Decidable (SkippedHeader nextHeader) :=
  inferInstanceAs (Decidable (_ ∨ _ ∨ _ ∨ _ ∨ _))

instance decidableCarries (size : UInt32 → Nat) (byteAt : Nat → UInt32) :
    (chain : List ExtensionHeader) → (nextHeader : UInt32) → (place : Nat) → (protocol : UInt32) →
      Decidable (Carries size byteAt chain nextHeader place protocol)
  | [], nextHeader, _, protocol => inferInstanceAs (Decidable (nextHeader = protocol))
  | header :: rest, _, place, protocol =>
      have := decidableCarries size byteAt rest (byteAt place) (place + size header.optionLen) protocol
      inferInstanceAs (Decidable (_ ∧ _ ∧ _))

variable {size : UInt32 → Nat} {byteAt : Nat → UInt32}

@[simp] theorem chainBytes_cons (header : ExtensionHeader) (rest : List ExtensionHeader) :
    chainBytes size (header :: rest) = size header.optionLen + chainBytes size rest := rfl

theorem carries_octets (octets : ∀ place, (byteAt place).toNat < 256)
    (chain : List ExtensionHeader) (nextHeader : UInt32) (place : Nat) (protocol : UInt32)
    (carried : Carries size byteAt chain nextHeader place protocol) :
    ∀ header ∈ chain, header.optionLen.toNat < 256 := by
  induction chain generalizing nextHeader place with
  | nil => exact fun _ member => absurd member List.not_mem_nil
  | cons header rest ih =>
      obtain ⟨-, length, further⟩ := carried
      intro other member
      rcases List.mem_cons.mp member with rfl | later
      · rw [length]
        exact octets _
      · exact ih _ _ further other later

/-- A chain as the walk takes it is shorter by two bytes a header. -/
theorem chainBytes_short (chain : List ExtensionHeader)
    (octets : ∀ header ∈ chain, header.optionLen.toNat < 256) :
    chainBytes extensionSkip chain + 2 * chain.length = chainBytes extensionBytes chain := by
  induction chain with
  | nil => rfl
  | cons header rest ih =>
      have tail := ih fun other member => octets other (List.mem_cons_of_mem _ member)
      have head := extensionSkip_octet header.optionLen (octets header List.mem_cons_self)
      rw [chainBytes_cons, chainBytes_cons, List.length_cons, extensionBytes]
      omega

theorem chainBytes_eight (chain : List ExtensionHeader) :
    chainBytes extensionBytes chain % 8 = 0 := by
  induction chain with
  | nil => rfl
  | cons header rest ih =>
      rw [chainBytes_cons, extensionBytes]
      omega

/-- The walk arrives exactly where a chain of the headers it skips ends, each taken two
bytes short. -/
theorem arrives_iff (headerLen : Nat) (nextHeader : UInt32) (place : Nat) (protocol : UInt32)
    (final : Nat) (inside : final ≤ headerLen) :
    SkipsExtensions byteAt headerLen nextHeader place (some (protocol, final)) ↔
      ¬SkippedHeader protocol ∧ ∃ chain, (∀ header ∈ chain, SkippedHeader header.kind) ∧
        Carries extensionSkip byteAt chain nextHeader place protocol ∧
        final = place + chainBytes extensionSkip chain := by
  constructor
  · intro walked
    generalize result : some (protocol, final) = arrived at walked
    induction walked with
    | arrived nextHeader place other =>
        cases result
        exact ⟨other, [], nofun, rfl, rfl⟩
    | ranOff => cases result
    | round nextHeader place arrived skipped within rest ih =>
        obtain ⟨other, chain, kinds, carried, whole⟩ := ih result
        refine ⟨other, ⟨nextHeader, byteAt (place + 1)⟩ :: chain, ?_, ⟨rfl, rfl, carried⟩, ?_⟩
        · intro header member
          rcases List.mem_cons.mp member with rfl | later
          · exact skipped
          · exact kinds header later
        · rw [whole, chainBytes_cons, Nat.add_assoc]
  · rintro ⟨other, chain, kinds, carried, whole⟩
    induction chain generalizing nextHeader place with
    | nil =>
        have arrived : nextHeader = protocol := carried
        have same : final = place := whole
        rw [arrived, same]
        exact .arrived protocol place other
    | cons header rest ih =>
        obtain ⟨announced, length, further⟩ := carried
        rw [chainBytes_cons, ← Nat.add_assoc, length] at whole
        rw [length] at further
        refine .round nextHeader place _ ?_ (by omega) ?_
        · rw [← announced]
          exact kinds header List.mem_cons_self
        · exact ih _ _ (fun other member => kinds other (List.mem_cons_of_mem _ member)) further whole

theorem walk_unique {headerLen : Nat} {nextHeader : UInt32} {place : Nat}
    {first second : Option (UInt32 × Nat)}
    (walked : SkipsExtensions byteAt headerLen nextHeader place first)
    (again : SkipsExtensions byteAt headerLen nextHeader place second) : first = second := by
  induction walked with
  | arrived nextHeader place other =>
      cases again with
      | arrived => rfl
      | ranOff _ _ skipped => exact absurd skipped other
      | round _ _ _ skipped => exact absurd skipped other
  | ranOff nextHeader place skipped beyond =>
      cases again with
      | arrived _ _ other => exact absurd skipped other
      | ranOff => rfl
      | round _ _ _ _ inside => exact absurd inside (Nat.not_le.mpr beyond)
  | round nextHeader place result skipped inside rest ih =>
      cases again with
      | arrived _ _ other => exact absurd skipped other
      | ranOff _ _ _ beyond => exact absurd inside (Nat.not_le.mpr beyond)
      | round _ _ _ _ _ further => exact ih further

end Chains

section Transport
variable {buffer : Buffer} {sample : SFSample}

/-- The fields of the fixed IPv6 header behind the version check, which end in its
next-header byte. -/
def readIPV6Fields (config : SFConfig) (ptr : Nat) (first : UInt32) : Decode UInt32 := do
  setWord .dcdIpTos (first &&& 15)
  sfLog config "IPTOS %u\n" [.word (first &&& 15)]
  let label ← peek .header (ptr + 1) 3
  sfLog config "IP6_label 0x%lx\n" [.word (UInt32.ofNat (beNat label))]
  let payloadLen ← headerHalf (ptr + 4)
  (if payloadLen = 0 then sfLog config "IPV6_payloadLen <jumbo>\n" []
    else sfLog config "IPV6_payloadLen %u\n" [.word payloadLen])
  let nextHeader ← headerByte (ptr + 6)
  let ttl ← headerByte (ptr + 7)
  setWord .dcdIpTTL ttl
  sfLog config "IPTTL %u\n" [.word ttl]
  let src ← peek .header (ptr + 8) 16
  setAddressVar .ipsrc (Address.ipV6 src)
  sfLog config "srcIP6 %s\n" [.address (Address.ipV6 src)]
  let dst ← peek .header (ptr + 24) 16
  setAddressVar .ipdst (Address.ipV6 dst)
  sfLog config "dstIP6 %s\n" [.address (Address.ipV6 dst)]
  return nextHeader

/-- The decode of an IPv6 header up to its call of `decodeIPLayer4`: the protocol it sets
and the place it passes, or nothing where it returns before. -/
def transportCall (config : SFConfig) : Decode (Option (UInt32 × Nat)) := do
  let gotIPV6 ← getWord .gotIPV6
  if gotIPV6 = 0 then
    return none
  let offset ← getWord .offsetToIPV6
  let first ← headerByte offset.toNat
  if first >>> 4 ≠ 6 then
    sfLog config "header decode error: unexpected IP version: %d\n" [.word (first >>> 4)]
    return none
  let nextHeader ← readIPV6Fields config offset.toNat first
  let headerLen ← getWord .headerLen
  skipIPV6Extensions config headerLen.toNat (headerLen.toNat + 2) nextHeader (offset.toNat + 40)

theorem branch_bind {α β : Type} (guard : Prop) [Decidable guard] (yes no : Decode α)
    (next : α → Decode β) :
    (if guard then yes else no) >>= next = if guard then yes >>= next else no >>= next := by
  split <;> rfl

def decodeTransport (config : SFConfig) : Option (UInt32 × Nat) → Decode Unit
  | none => return ()
  | some (nextHeader, ptr) => do
      setWord .dcdIpProtocol nextHeader
      sfLog config "IPProtocol %u\n" [.word nextHeader]
      decodeIPLayer4 config ptr

theorem decodeIPV6_calls :
    decodeIPV6 config = (transportCall config >>= fun called => decodeTransport config called) := by
  simp only [decodeIPV6, transportCall, readIPV6Fields, LawfulMonad.bind_assoc, pure_bind,
    branch_bind]
  rfl

/-- Two samples that look at the same header. -/
structure SameHeader (first second : SFSample) : Prop where
  marks : first.marks .header = second.marks .header
  headerLen : wordOf first .headerLen = wordOf second .headerLen

theorem SameHeader.headerByteOf {first second : SFSample} (same : SameHeader first second) :
    headerByteOf buffer first = headerByteOf buffer second := by
  funext offset
  rw [SflowTool.headerByteOf, SflowTool.headerByteOf, same.marks]

/-- The sample behind the fixed IPv6 header. -/
def ipV6Decoded (buffer : Buffer) (sample : SFSample) (ptr : Nat) (first : UInt32) : SFSample :=
  holdingAddress (holdingAddress (holding (holding sample .dcdIpTos (first &&& 15)) .dcdIpTTL
    (headerByteOf buffer sample (ptr + 7))) .ipsrc (.ipV6 (headerOctets buffer sample (ptr + 8) 16)))
    .ipdst (.ipV6 (headerOctets buffer sample (ptr + 24) 16))

theorem readIPV6Fields_yields (ptr : Nat) (first : UInt32) :
    (run buffer (readIPV6Fields config ptr first) sample).Yields
      (headerByteOf buffer sample (ptr + 6)) (ipV6Decoded buffer sample ptr first) := by
  have payload (middle : SFSample) (payloadLen : UInt32) :
      (run buffer (if payloadLen = 0 then sfLog config "IPV6_payloadLen <jumbo>\n" []
        else sfLog config "IPV6_payloadLen %u\n" [.word payloadLen]) middle).Yields () middle := by
    split
    · exact yields_sfLog buffer _ _ middle
    · exact yields_sfLog buffer _ _ middle
  refine yields_bind buffer _ _ (yields_setWord buffer _ _ _) ?_
  refine yields_logged buffer _ _ _ (yields_bind buffer _ _ (yields_headerOctets buffer _ _ _) ?_)
  refine yields_logged buffer _ _ _ (yields_bind buffer _ _ (yields_headerHalf buffer _ _) ?_)
  refine yields_bind buffer _ _ (payload _ _) ?_
  refine yields_bind buffer _ _ (yields_headerByte buffer _ _) ?_
  refine yields_bind buffer _ _ (yields_headerByte buffer _ _) ?_
  refine yields_bind buffer _ _ (yields_setWord buffer _ _ _) (yields_logged buffer _ _ _ ?_)
  refine yields_bind buffer _ _ (yields_headerOctets buffer _ _ _) ?_
  refine yields_bind buffer _ _ (yields_setAddressVar buffer _ _ _) (yields_logged buffer _ _ _ ?_)
  refine yields_bind buffer _ _ (yields_headerOctets buffer _ _ _) ?_
  refine yields_bind buffer _ _ (yields_setAddressVar buffer _ _ _) (yields_logged buffer _ _ _ ?_)
  exact yields_pure buffer _ _

/-- The first look at an IPv6 header: its place, its version, and where the walk over its
extensions begins. -/
theorem transportCall_walks (got : wordOf sample .gotIPV6 ≠ 0)
    (version : headerByteOf buffer sample (wordOf sample .offsetToIPV6).toNat >>> 4 = 6) :
    ∃ result final, SkipsExtensions (headerByteOf buffer sample) (wordOf sample .headerLen).toNat
        (headerByteOf buffer sample ((wordOf sample .offsetToIPV6).toNat + 6))
        ((wordOf sample .offsetToIPV6).toNat + 40) result ∧
      (run buffer (transportCall config) sample).Yields result final ∧ SameHeader final sample := by
  have fields := @readIPV6Fields_yields config buffer sample (wordOf sample .offsetToIPV6).toNat
    (headerByteOf buffer sample (wordOf sample .offsetToIPV6).toNat)
  have same : SameHeader (ipV6Decoded buffer sample (wordOf sample .offsetToIPV6).toNat
    (headerByteOf buffer sample (wordOf sample .offsetToIPV6).toNat)) sample := ⟨rfl, rfl⟩
  generalize ipV6Decoded buffer sample (wordOf sample .offsetToIPV6).toNat
    (headerByteOf buffer sample (wordOf sample .offsetToIPV6).toNat) = final at fields same
  obtain ⟨result, walked, ended⟩ := @skipIPV6Extensions_ends config buffer
    (wordOf final .headerLen).toNat ((wordOf final .headerLen).toNat + 2)
    (headerByteOf buffer sample ((wordOf sample .offsetToIPV6).toNat + 6))
    ((wordOf sample .offsetToIPV6).toNat + 40) final (by omega) (by omega)
  rw [same.headerByteOf, same.headerLen] at walked
  refine ⟨result, final, walked, ?_, same⟩
  refine yields_bind buffer _ _ (yields_getWord buffer _ sample) (yields_neg buffer got ?_)
  refine yields_bind buffer _ _ (yields_getWord buffer _ sample) ?_
  refine yields_bind buffer _ _ (yields_headerByte buffer _ sample) ?_
  refine yields_neg buffer (not_not.mpr version) (yields_bind buffer _ _ fields ?_)
  exact yields_bind buffer _ _ (yields_getWord buffer _ final) ended

/-- What the transport header at a place leaves: its ports, and the protocol as it was. -/
theorem decodeIPLayer4_ports (ptr : Nat) (room : ptr + 8 ≤ (wordOf sample .headerLen).toNat) :
    ∃ final, (run buffer (decodeIPLayer4 config ptr) sample).Yields () final ∧
      wordOf final .dcdIpProtocol = wordOf sample .dcdIpProtocol ∧
      (wordOf sample .dcdIpProtocol = 6 ∨ wordOf sample .dcdIpProtocol = 17 →
        wordOf final .dcdSport = headerHalfOf buffer sample ptr ∧
          wordOf final .dcdDport = headerHalfOf buffer sample (ptr + 2)) := by
  have entered {final : SFSample} {rest : Decode Unit}
      (decoded : (run buffer rest sample).Yields () final) : (run buffer (do
        let headerLen ← getWord .headerLen
        if ptr + 8 > headerLen.toNat then return ()
        rest) sample).Yields () final :=
    yields_bind buffer _ _ (yields_getWord buffer _ sample)
      (yields_neg buffer (Nat.not_lt.mpr room) decoded)
  by_cases icmp : wordOf sample .dcdIpProtocol = 1
  · let octets := headerOctets buffer sample ptr 2
    refine ⟨holding (holding (holding sample .dcdSport (octetAt octets 0)) .dcdDport
      (octetAt octets 1)) .offsetToPayload (UInt32.ofNat (ptr + 2)), entered ?_, rfl, ?_⟩
    · refine yields_bind buffer _ _ (yields_getWord buffer _ sample) (yields_pos buffer icmp ?_)
      refine yields_bind buffer _ _ (yields_headerOctets buffer _ _ _) ?_
      refine yields_logged buffer _ _ _ (yields_logged buffer _ _ _ ?_)
      refine yields_bind buffer _ _ (yields_setWord buffer _ _ _) ?_
      refine yields_bind buffer _ _ (yields_setWord buffer _ _ _) ?_
      exact yields_setWord buffer _ _ _
    · rw [icmp]
      exact fun other => absurd other (by decide)
  by_cases tcp : wordOf sample .dcdIpProtocol = 6
  · let octets := headerOctets buffer sample ptr 20
    refine ⟨holding (holding (holding (holding sample .dcdSport (halfAt octets 0)) .dcdDport
      (halfAt octets 2)) .dcdTcpFlags (octetAt octets 13)) .offsetToPayload
      (UInt32.ofNat ptr + (octetAt octets 12 >>> 4) * 4), entered ?_, rfl, fun _ => ⟨?_, ?_⟩⟩
    · refine yields_bind buffer _ _ (yields_getWord buffer _ sample) (yields_neg buffer icmp ?_)
      refine yields_pos buffer tcp (yields_bind buffer _ _ (yields_headerOctets buffer _ _ _) ?_)
      refine yields_bind buffer _ _ (yields_setWord buffer _ _ _) ?_
      refine yields_bind buffer _ _ (yields_setWord buffer _ _ _) ?_
      refine yields_bind buffer _ _ (yields_setWord buffer _ _ _) ?_
      refine yields_logged buffer _ _ _ (yields_logged buffer _ _ _ (yields_logged buffer _ _ _ ?_))
      exact yields_setWord buffer _ _ _
    · exact halfAt_headerOctets buffer sample ptr 20 0 (by decide)
    · exact halfAt_headerOctets buffer sample ptr 20 2 (by decide)
  by_cases udp : wordOf sample .dcdIpProtocol = 17
  · let octets := headerOctets buffer sample ptr 8
    refine ⟨holding (holding (holding (holding sample .dcdSport (halfAt octets 0)) .dcdDport
      (halfAt octets 2)) .udpPduLen (halfAt octets 4)) .offsetToPayload
      (UInt32.ofNat (ptr + 8)), entered ?_, rfl, fun _ => ⟨?_, ?_⟩⟩
    · refine yields_bind buffer _ _ (yields_getWord buffer _ sample) (yields_neg buffer icmp ?_)
      refine yields_neg buffer tcp (yields_pos buffer udp ?_)
      refine yields_bind buffer _ _ (yields_headerOctets buffer _ _ _) ?_
      refine yields_bind buffer _ _ (yields_setWord buffer _ _ _) ?_
      refine yields_bind buffer _ _ (yields_setWord buffer _ _ _) ?_
      refine yields_bind buffer _ _ (yields_setWord buffer _ _ _) ?_
      refine yields_logged buffer _ _ _ (yields_logged buffer _ _ _ (yields_logged buffer _ _ _ ?_))
      exact yields_setWord buffer _ _ _
    · exact halfAt_headerOctets buffer sample ptr 8 0 (by decide)
    · exact halfAt_headerOctets buffer sample ptr 8 2 (by decide)
  · refine ⟨holding sample .offsetToPayload (UInt32.ofNat ptr), entered ?_, rfl, ?_⟩
    · refine yields_bind buffer _ _ (yields_getWord buffer _ sample) (yields_neg buffer icmp ?_)
      exact yields_neg buffer tcp (yields_neg buffer udp (yields_setWord buffer _ _ _))
    · rintro (known | known)
      · exact absurd known tcp
      · exact absurd known udp

/-- The kinds of header a chain is made of: hop-by-hop, routing and destination options. -/
def ExtensionHeader.Known (header : ExtensionHeader) : Prop :=
  header.kind = 0 ∨ header.kind = 43 ∨ header.kind = 60

theorem ExtensionHeader.Known.skipped {header : ExtensionHeader} (known : header.Known) :
    SkippedHeader header.kind := by
  rcases known with hop | routing | options
  · exact .inl hop
  · exact .inr (.inl routing)
  · exact .inr (.inr (.inr (.inr options)))

/-- The place of the fixed IPv6 header. -/
def ipV6Place (sample : SFSample) : Nat := (wordOf sample .offsetToIPV6).toNat

/-- A sampled IPv6 packet with a chain of extension headers, all of it captured, and eight
bytes of what follows. -/
structure ExtendedPacket (buffer : Buffer) (sample : SFSample) (chain : List ExtensionHeader)
    (protocol : UInt32) : Prop where
  got : wordOf sample .gotIPV6 ≠ 0
  version : headerByteOf buffer sample (ipV6Place sample) >>> 4 = 6
  known : ∀ header ∈ chain, header.Known
  carried : Carries extensionBytes (headerByteOf buffer sample) chain
    (headerByteOf buffer sample (ipV6Place sample + 6)) (ipV6Place sample + 40) protocol
  other : ¬SkippedHeader protocol
  fits : ipV6Place sample + 40 + chainBytes extensionBytes chain + 8 ≤
    (wordOf sample .headerLen).toNat

/-- The transport header at a place is decoded, as the one of this protocol. -/
structure TransportReached (config : SFConfig) (buffer : Buffer) (sample : SFSample)
    (protocol : UInt32) (place : Nat) : Prop where
  called : (run buffer (transportCall config) sample).outcome = .ok (some (protocol, place))
  stored : wordOf (run buffer (decodeIPV6 config) sample).state .dcdIpProtocol = protocol
  ports : protocol = 6 ∨ protocol = 17 →
    wordOf (run buffer (decodeIPV6 config) sample).state .dcdSport =
        headerHalfOf buffer sample place ∧
      wordOf (run buffer (decodeIPV6 config) sample).state .dcdDport =
        headerHalfOf buffer sample (place + 2)

/-- The bytes of a chain that, each header taken for two bytes less than it is, make up
another chain to the same end. What that loses is made good by longer headers, and lengths
are counted by eights, so that it takes four headers or a multiple of it. -/
def Coincides (buffer : Buffer) (sample : SFSample) (chain : List ExtensionHeader)
    (protocol : UInt32) : Prop :=
  ∃ misread : List ExtensionHeader, misread ≠ [] ∧ 4 ∣ misread.length ∧
    (∀ header ∈ misread, SkippedHeader header.kind) ∧
    Carries extensionSkip (headerByteOf buffer sample) misread
      (headerByteOf buffer sample (ipV6Place sample + 6)) (ipV6Place sample + 40) protocol ∧
    chainBytes extensionSkip misread = chainBytes extensionBytes chain

/-- Short chains never coincide with a misread one. -/
theorem coincidence_length {chain : List ExtensionHeader} {protocol : UInt32}
    (coincides : Coincides buffer sample chain protocol) : 24 ≤ chainBytes extensionBytes chain := by
  obtain ⟨misread, some, ⟨fours, counted⟩, -, carried, length⟩ := coincides
  have octets := carries_octets (headerByteOf_lt buffer sample) misread _ _ _ carried
  have short := chainBytes_short misread octets
  have least : 8 * misread.length ≤ chainBytes extensionBytes misread := by
    clear some counted carried length octets short
    induction misread with
    | nil => exact Nat.le_refl _
    | cons header rest ih =>
        rw [chainBytes_cons, List.length_cons, extensionBytes]
        omega
  have positive := List.length_pos_iff.mpr some
  omega

/-- Where `decodeIPLayer4` is called at the place of the transport header, the rest follows. -/
theorem reached_of_called {chain : List ExtensionHeader} {protocol : UInt32}
    (packet : ExtendedPacket buffer sample chain protocol)
    (called : (run buffer (transportCall config) sample).outcome =
      .ok (some (protocol, ipV6Place sample + 40 + chainBytes extensionBytes chain))) :
    TransportReached config buffer sample protocol
      (ipV6Place sample + 40 + chainBytes extensionBytes chain) := by
  have fits := packet.fits
  obtain ⟨result, middle, -, found, same⟩ :=
    @transportCall_walks config buffer sample packet.got packet.version
  generalize ipV6Place sample + 40 + chainBytes extensionBytes chain = place at called fits ⊢
  have arrived : result = some (protocol, place) := Except.ok.inj (found.outcome.symm.trans called)
  subst arrived
  have room : place + 8 ≤ (wordOf (holding middle .dcdIpProtocol protocol) .headerLen).toNat := by
    rw [wordOf_holding_other _ (by decide), same.headerLen]
    exact fits
  obtain ⟨final, decoded, kept, ports⟩ := @decodeIPLayer4_ports config buffer
    (holding middle .dcdIpProtocol protocol) place room
  have whole : (run buffer (decodeIPV6 config) sample).Yields () final := by
    rw [decodeIPV6_calls]
    exact yields_bind buffer _ _ found
      (yields_bind buffer _ _ (yields_setWord buffer _ _ _) (yields_logged buffer _ _ _ decoded))
  have halves : headerHalfOf buffer (holding middle .dcdIpProtocol protocol) =
      headerHalfOf buffer sample := by
    funext offset
    rw [headerHalfOf, headerHalfOf, headerOctets, headerOctets, holding_marks, same.marks]
  rw [halves, wordOf_holding_self] at ports
  refine ⟨called, ?_, ?_⟩
  · rw [whole.state]
    exact kept.trans (wordOf_holding_self ..)
  · rw [whole.state]
    exact ports

/-- A chain of extension headers is skipped to its end exactly where there is none, or
where its bytes coincide with a misread one. -/
theorem extension_chain_skipped_iff (config : SFConfig) (buffer : Buffer) (sample : SFSample)
    (chain : List ExtensionHeader) (protocol : UInt32)
    (packet : ExtendedPacket buffer sample chain protocol) :
    TransportReached config buffer sample protocol
        (ipV6Place sample + 40 + chainBytes extensionBytes chain) ↔
      chain = [] ∨ Coincides buffer sample chain protocol := by
  obtain ⟨result, middle, walked, found, same⟩ :=
    @transportCall_walks config buffer sample packet.got packet.version
  have inside : ipV6Place sample + 40 + chainBytes extensionBytes chain ≤
      (wordOf sample .headerLen).toNat := Nat.le_trans (Nat.le_add_right _ 8) packet.fits
  have arrives := @arrives_iff (headerByteOf buffer sample) (wordOf sample .headerLen).toNat
    (headerByteOf buffer sample (ipV6Place sample + 6)) (ipV6Place sample + 40) protocol
    (ipV6Place sample + 40 + chainBytes extensionBytes chain) inside
  constructor
  · intro reached
    have arrived := Except.ok.inj (found.outcome.symm.trans reached.called)
    rw [arrived] at walked
    obtain ⟨-, misread, skipped, carried, whole⟩ := arrives.mp walked
    have length : chainBytes extensionSkip misread = chainBytes extensionBytes chain := by omega
    by_cases none : misread = []
    · subst none
      left
      cases chain with
      | nil => rfl
      | cons header rest =>
          have kind : header.kind = protocol := packet.carried.1.trans carried
          have known := (packet.known header List.mem_cons_self).skipped
          rw [kind] at known
          exact absurd known packet.other
    · right
      have octets := carries_octets (headerByteOf_lt buffer sample) misread _ _ _ carried
      have short := chainBytes_short misread octets
      have eight := chainBytes_eight chain
      have units := chainBytes_eight misread
      exact ⟨misread, none, by omega, skipped, carried, length⟩
  · intro skippable
    have arrived : SkipsExtensions (headerByteOf buffer sample) (wordOf sample .headerLen).toNat
        (headerByteOf buffer sample (ipV6Place sample + 6)) (ipV6Place sample + 40)
        (some (protocol, ipV6Place sample + 40 + chainBytes extensionBytes chain)) := by
      rcases skippable with none | ⟨misread, -, -, skipped, carried, length⟩
      · subst none
        exact arrives.mpr ⟨packet.other, [], nofun, packet.carried, rfl⟩
      · exact arrives.mpr ⟨packet.other, misread, skipped, carried, by rw [length]⟩
    apply reached_of_called packet
    rw [found.outcome, walk_unique walked arrived]

end Transport

section Examples

/-- An IPv6 packet with a UDP datagram from port 5000 to port 53 in it, behind extension
headers of the given bytes. -/
def ipV6Capture (first : UInt8) (extensions : List UInt8) : List UInt8 :=
  [0x60, 0, 0, 0, 0, 8 + UInt8.ofNat extensions.length, first, 64] ++ List.replicate 32 0x20 ++
    extensions ++ [0x13, 0x88, 0x00, 0x35, 0, 8, 0, 0]

/-- A sample whose header is such a packet. -/
def ipV6Sample (headerLen : UInt32) : SFSample :=
  holding (holding firstSample .gotIPV6 1) .headerLen headerLen

/-- A hop-by-hop header of eight bytes, behind which the walk is two bytes early. -/
theorem hop_by_hop_misplaces :
    ExtendedPacket (.ofBytes (ipV6Capture 0 [17, 0, 1, 4, 0, 0, 0, 0])) (ipV6Sample 56) [⟨0, 0⟩] 17 ∧
    ¬TransportReached (defaultConfig .full) (.ofBytes (ipV6Capture 0 [17, 0, 1, 4, 0, 0, 0, 0]))
      (ipV6Sample 56) 17 48 := by
  refine ⟨⟨by decide +kernel, by decide +kernel, ?_, by decide +kernel, by decide, by decide⟩, ?_⟩
  · intro header only
    rw [List.mem_singleton.mp only]
    exact .inl rfl
  · intro reached
    have ports := (reached.ports (.inr rfl)).1
    exact absurd ports (by decide +kernel)

theorem unextended_packet_reached :
    TransportReached (defaultConfig .full) (.ofBytes (ipV6Capture 17 [])) (ipV6Sample 48) 17
        (ipV6Place (ipV6Sample 48) + 40 + chainBytes extensionBytes []) ↔
      [] = ([] : List ExtensionHeader) ∨ Coincides (.ofBytes (ipV6Capture 17 [])) (ipV6Sample 48) [] 17 :=
  extension_chain_skipped_iff (defaultConfig .full) (.ofBytes (ipV6Capture 17 [])) (ipV6Sample 48)
    [] 17 ⟨by decide +kernel, by decide +kernel, nofun, by decide +kernel, by decide, by decide⟩

end Examples

end SflowTool
