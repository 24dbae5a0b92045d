import SflowTool.HeaderBounds
import SflowTool.PcapOffsets

/-! The two walks over an Ethernet frame. The search in a captured frame and the dissection of a
sampled header are copies with tests of their own; on a frame with no more than the one tag that
both know they find the same IP header. -/
namespace SflowTool
open Decoding Decoding.Decoder

variable {config : SFConfig} {buffer : Buffer} {sample : SFSample}

section Dissection

theorem yields_vlanTag (buffer : Buffer) (sample : SFSample) :
    (run buffer (decodeVLANTag config) sample).Yields (frameType buffer sample)
      (tagDecoded buffer sample) := by
  unfold decodeVLANTag frameType tagDecoded
  refine yields_bind buffer _ _ (yields_headerHalf buffer 12 sample) ?_
  by_cases tagged : Tagged buffer sample
  · rw [if_pos (show headerHalfOf buffer sample 12 = 0x8100 from tagged), if_pos tagged,
      if_pos tagged]
    refine yields_bind buffer _ _ (yields_headerHalf buffer 14 sample) ?_
    refine yields_logged buffer _ _ _ (yields_logged buffer _ _ _ ?_)
    refine yields_bind buffer _ _ (yields_setWord buffer .inVlan _ sample) ?_
    exact yields_bind buffer _ _ (yields_headerHalf buffer 16 _) (yields_pure buffer _ _)
  · rw [if_neg (show ¬headerHalfOf buffer sample 12 = 0x8100 from tagged), if_neg tagged,
      if_neg tagged]
    exact yields_pure buffer _ sample

theorem yields_ipx (buffer : Buffer) (typeLen : UInt32) (ptr : Nat) (sample : SFSample) :
    (run buffer (peekForIPX typeLen ptr) sample).Yields (isIPX buffer sample typeLen ptr) sample := by
  unfold peekForIPX isIPX
  by_cases known : typeLen = 0x0200 ∨ typeLen = 0x0201 ∨ typeLen = 0x0600
  · simp only [known, true_and]
    exact yields_bind buffer _ _ (yields_headerHalf buffer ptr sample)
      (yields_bind buffer _ _ (yields_headerHalf buffer (ptr + 2) sample) (yields_pure buffer _ _))
  · rw [if_neg known]
    simp only [known, false_and, decide_false]
    exact yields_pure buffer false sample

/-- Where an 802.2 header is behind a length, it is one of the two that the dissection knows. -/
theorem yields_8022 {ptr place : Nat} {typeLen : UInt32}
    (named : llcType buffer sample ptr = some (typeLen, place)) :
    (run buffer (decode8022 config ptr) sample).Yields (some (typeLen, place)) sample := by
  unfold llcType at named
  unfold decode8022
  simp only at named
  refine yields_bind buffer _ _ (yields_headerByte buffer ptr sample) ?_
  split at named
  · rename_i snap
    obtain ⟨first, second, third⟩ := snap
    split at named
    · cases named
    rename_i oui
    simp only [not_not] at oui
    cases named
    rw [if_pos (Or.inl first)]
    refine yields_bind buffer _ _ (yields_headerByte buffer (ptr + 1) sample) ?_
    rw [if_pos (Or.inl ⟨first, second⟩)]
    refine yields_bind buffer _ _ (yields_headerByte buffer (ptr + 2) sample) ?_
    rw [if_pos ⟨first, second, third⟩]
    refine yields_bind buffer _ _ (yields_headerOctets buffer (ptr + 3) 3 sample) ?_
    rw [if_neg (not_not.mpr oui)]
    exact yields_bind buffer _ _ (yields_headerHalf buffer (ptr + 6) sample) (yields_pure buffer _ _)
  · rename_i noSnap
    split at named
    · rename_i ip
      obtain ⟨first, second, third⟩ := ip
      cases named
      rw [if_pos (Or.inr first)]
      refine yields_bind buffer _ _ (yields_headerByte buffer (ptr + 1) sample) ?_
      rw [if_pos (Or.inr ⟨first, second⟩)]
      refine yields_bind buffer _ _ (yields_headerByte buffer (ptr + 2) sample) ?_
      rw [if_neg noSnap, if_pos ⟨first, second, third⟩]
      exact yields_pure buffer _ sample
    · cases named

theorem yields_ipV4_type {place : Nat} {typeLen : UInt32}
    (carries : CarriesIPV4 buffer sample typeLen place) :
    (run buffer (decodeEthernetType (wordOf sample .headerLen) typeLen place) sample).Yields ()
      (holding (holding (holding sample .ethType typeLen) .gotIPV4 1) .offsetToIPV4
        (UInt32.ofNat place)) := by
  obtain ⟨type, whole, version, quads⟩ := carries
  have room : ¬(place ≤ (wordOf sample .headerLen).toNat ∧
      (wordOf sample .headerLen).toNat - place < 20) := by
    have bytes : headerBytes sample = (wordOf sample .headerLen).toNat := rfl
    omega
  unfold decodeEthernetType
  refine yields_bind buffer _ _ (yields_setWord buffer .ethType typeLen sample) ?_
  rw [if_pos type, if_neg room]
  refine yields_bind buffer _ _ (yields_headerByte buffer place _) ?_
  refine yields_neg buffer (not_not.mpr version) (yields_neg buffer (UInt32.not_lt.mpr quads) ?_)
  exact yields_bind buffer _ _ (yields_setWord buffer .gotIPV4 1 _)
    (yields_setWord buffer .offsetToIPV4 _ _)

theorem yields_ipV6_type {place : Nat} {headerLen typeLen : UInt32}
    (carries : CarriesIPV6 buffer sample typeLen place) :
    (run buffer (decodeEthernetType headerLen typeLen place) sample).Yields ()
      (holding (holding (holding sample .ethType typeLen) .gotIPV6 1) .offsetToIPV6
        (UInt32.ofNat place)) := by
  obtain ⟨type, version⟩ := carries
  unfold decodeEthernetType
  refine yields_bind buffer _ _ (yields_setWord buffer .ethType typeLen sample) ?_
  have noIPV4 : ¬typeLen = 0x0800 := by
    rw [type]
    decide
  rw [if_neg noIPV4, if_pos type]
  refine yields_bind buffer _ _ (yields_headerByte buffer place _) ?_
  exact yields_neg buffer (not_not.mpr version) (yields_bind buffer _ _
    (yields_setWord buffer .gotIPV6 1 _) (yields_setWord buffer .offsetToIPV6 _ _))

/-- A sample once the addresses and the tag of a frame are decoded. -/
def frameDecoded (buffer : Buffer) (sample : SFSample) : SFSample :=
  tagDecoded buffer (holdingText (holdingText (holding (holding sample .gotIPV4 0) .gotIPV6 0)
    .ethDst (headerOctets buffer sample 0 6)) .ethSrc (headerOctets buffer sample 6 6))

theorem frameDecoded_same (buffer : Buffer) (sample : SFSample) :
    SameHeader (frameDecoded buffer sample) sample := by
  unfold frameDecoded tagDecoded
  split
  · exact ⟨rfl, rfl⟩
  · exact ⟨rfl, rfl⟩

/-- A frame whose type is known comes to the decode of that type. -/
theorem yields_linkLayer {place : Nat} {typeLen : UInt32} {final : SFSample}
    (carried : carriedType buffer sample = some (typeLen, place))
    (typed : (run buffer (decodeEthernetType (wordOf sample .headerLen) typeLen place)
      (frameDecoded buffer sample)).Yields () final) :
    (run buffer (decodeLinkLayer config) sample).Yields () final := by
  have same := frameDecoded_same buffer sample
  unfold carriedType at carried
  simp only at carried
  split at carried
  · cases carried
  rename_i neither
  obtain ⟨long, noIPX⟩ := not_or.mp neither
  have room : 34 ≤ (wordOf sample .headerLen).toNat := Nat.not_lt.mp long
  have ethernet : ¬wordOf sample .headerLen < 14 := by
    rw [UInt32.lt_iff_toNat_lt]
    show ¬(wordOf sample .headerLen).toNat < 14
    omega
  have ipV4Room : ¬wordOf sample .headerLen < 34 := by
    rw [UInt32.lt_iff_toNat_lt]
    show ¬(wordOf sample .headerLen).toNat < 34
    omega
  rw [decodeLinkLayer_frames]
  refine yields_bind buffer _ _ (yields_setWord buffer .gotIPV4 0 sample) ?_
  refine yields_bind buffer _ _ (yields_setWord buffer .gotIPV6 0 _) ?_
  refine yields_bind buffer _ _ (yields_getWord buffer .headerLen _) ?_
  refine yields_neg buffer ethernet ?_
  refine yields_bind buffer _ _ (yields_headerOctets buffer 0 6 _) (yields_logged buffer _ _ _ ?_)
  refine yields_bind buffer _ _ (yields_setText buffer .ethDst _ _) ?_
  refine yields_bind buffer _ _ (yields_headerOctets buffer 6 6 _) (yields_logged buffer _ _ _ ?_)
  refine yields_bind buffer _ _ (yields_setText buffer .ethSrc _ _) ?_
  refine yields_bind buffer _ _ (yields_vlanTag buffer _) ?_
  show (run buffer (decodeFrame config (wordOf sample .headerLen) (frameType buffer sample))
    (frameDecoded buffer sample)).Yields () final
  unfold decodeFrame
  refine yields_neg buffer ipV4Room ?_
  refine yields_bind buffer _ _ (yields_ipx buffer _ _ _) ?_
  have alike : isIPX buffer (frameDecoded buffer sample) = isIPX buffer sample := by
    funext typeLen place
    unfold isIPX
    rw [same.headerHalfOf]
  rw [alike]
  refine yields_neg buffer noIPX ?_
  by_cases length : (frameType buffer sample).1 ≤ 1500
  · rw [if_pos length] at carried ⊢
    have named : llcType buffer (frameDecoded buffer sample) (frameType buffer sample).2 =
        some (typeLen, place) := by
      unfold llcType
      rw [same.headerByteOf, same.headerHalfOf, same.headerOctets]
      exact carried
    exact yields_bind buffer _ _ (yields_8022 named) typed
  · rw [if_neg length] at carried ⊢
    have known : frameType buffer sample = (typeLen, place) := Option.some.inj carried
    rw [known]
    exact typed

end Dissection

section Agreement

/-- The bytes of a sample's header by their place. -/
def headerOf (buffer : Buffer) (sample : SFSample) (place : Nat) : UInt8 :=
  buffer.byte (sample.marks .header + place)

theorem headerHalfOf_toNat (buffer : Buffer) (sample : SFSample) (place : Nat) :
    (headerHalfOf buffer sample place).toNat = typeLenAt (headerOf buffer sample) place := by
  have high := (buffer.byte (sample.marks .header + place)).toNat_lt
  have low := (buffer.byte (sample.marks .header + place + 1)).toNat_lt
  simp only [headerHalfOf, headerOctets, Buffer.slice, List.range_succ, List.range_zero,
    List.nil_append, List.map_append, List.map_cons, List.map_nil, List.cons_append, beNat,
    List.foldl_cons, List.foldl_nil, UInt32.toNat_ofNat', Nat.add_zero, typeLenAt, headerOf,
    ← Nat.add_assoc]
  omega

theorem headerHalfOf_eq_iff (place value : Nat) (small : value < 2 ^ 32) :
    headerHalfOf buffer sample place = UInt32.ofNat value ↔
      typeLenAt (headerOf buffer sample) place = value := by
  rw [← UInt32.toNat_inj, headerHalfOf_toNat, UInt32.toNat_ofNat_of_lt' small]

theorem headerByteOf_eq (place : Nat) :
    headerByteOf buffer sample place = (headerOf buffer sample place).toUInt32 := by
  rw [← UInt32.toNat_inj, headerByteOf_toNat, UInt8.toNat_toUInt32]
  rfl

theorem headerByteOf_eq_iff (place : Nat) (value : UInt8) :
    headerByteOf buffer sample place = value.toUInt32 ↔ headerOf buffer sample place = value := by
  rw [headerByteOf_eq]
  exact ⟨fun same => UInt8.toUInt32_inj.mp same, congrArg UInt8.toUInt32⟩

/-- At most one tag, and that one of the kind that both walks know. -/
def OneKnownTag (buf : Nat → UInt8) : Prop :=
  typeLenAt buf 12 ≠ 0x9100 ∧
    (typeLenAt buf 12 = 0x8100 → ¬(typeLenAt buf 16 = 0x8100 ∨ typeLenAt buf 16 = 0x9100))

theorem OneKnownTag.frameType {fin typeLen ptr : Nat} (tags : OneKnownTag (headerOf buffer sample))
    (behind : BehindTags (headerOf buffer sample) fin (typeLenAt (headerOf buffer sample) 12) 14
      typeLen ptr) :
    (frameType buffer sample).1.toNat = typeLen ∧ (frameType buffer sample).2 = ptr := by
  unfold SflowTool.frameType
  by_cases tagged : Tagged buffer sample
  · have first : typeLenAt (headerOf buffer sample) 12 = 0x8100 :=
      (headerHalfOf_eq_iff 12 0x8100 (by decide)).mp tagged
    rw [if_pos tagged]
    cases behind with
    | untagged other => exact absurd (Or.inl first) other
    | tag _ _ rest =>
      cases rest with
      | untagged _ => exact ⟨headerHalfOf_toNat buffer sample 16, rfl⟩
      | tag again _ _ => exact absurd again (tags.2 first)
  · have none : typeLenAt (headerOf buffer sample) 12 ≠ 0x8100 := fun first =>
      tagged ((headerHalfOf_eq_iff 12 0x8100 (by decide)).mpr first)
    rw [if_neg tagged]
    cases behind with
    | untagged _ => exact ⟨headerHalfOf_toNat buffer sample 12, rfl⟩
    | tag tagged' _ _ =>
      rcases tagged' with first | second
      · exact absurd first none
      · exact absurd second tags.1

theorem typeLenAt_full (buf : Nat → UInt8) (place : Nat) :
    typeLenAt buf place = 0xffff ↔ buf place = 0xff ∧ buf (place + 1) = 0xff := by
  have high := (buf place).toNat_lt
  have low := (buf (place + 1)).toNat_lt
  rw [← UInt8.toNat_inj, ← UInt8.toNat_inj]
  show (buf place).toNat * 256 + (buf (place + 1)).toNat = 65535 ↔
    (buf place).toNat = 255 ∧ (buf (place + 1)).toNat = 255
  omega

theorem isIPX_iff (typeLen : UInt32) (place : Nat) :
    isIPX buffer sample typeLen place = true ↔
      pcapIPX (headerOf buffer sample) typeLen.toNat place := by
  have known (value : Nat) (small : value < 2 ^ 32) :
      typeLen = UInt32.ofNat value ↔ typeLen.toNat = value := by
    rw [← UInt32.toNat_inj, UInt32.toNat_ofNat_of_lt' small]
  unfold isIPX pcapIPX
  rw [decide_eq_true_eq, show (0xffff : UInt32) = UInt32.ofNat 0xffff from rfl,
    headerHalfOf_eq_iff place 0xffff (by decide), typeLenAt_full, UInt32.le_iff_toNat_le,
    UInt32.le_iff_toNat_le, headerHalfOf_toNat, show (0x0200 : UInt32) = UInt32.ofNat 0x0200 from rfl,
    show (0x0201 : UInt32) = UInt32.ofNat 0x0201 from rfl,
    show (0x0600 : UInt32) = UInt32.ofNat 0x0600 from rfl, known _ (by decide), known _ (by decide),
    known _ (by decide)]
  exact Iff.rfl

theorem organisation_octets (place : Nat) : headerOctets buffer sample place 3 = [0, 0, 0] ↔
    headerOf buffer sample place = 0 ∧ headerOf buffer sample (place + 1) = 0 ∧
      headerOf buffer sample (place + 2) = 0 := by
  simp only [headerOctets, Buffer.slice, List.range_succ, List.range_zero, List.nil_append,
    List.map_append, List.map_cons, List.map_nil, List.cons_append, Nat.add_zero, List.cons.injEq,
    and_true, headerOf, ← Nat.add_assoc]

theorem control_bit (octet : UInt8) : octet.toUInt32 &&& 0x01 ≠ 0 ↔ octet &&& 0x01 ≠ 0 := by
  have widened : octet.toUInt32 &&& 0x01 = (octet &&& 0x01).toUInt32 := by
    rw [UInt8.toUInt32_and]
    rfl
  rw [widened]
  exact not_congr (@UInt8.toUInt32_inj (octet &&& 0x01) 0)

theorem version_bits (octet value : UInt8) : octet.toUInt32 >>> 4 = value.toUInt32 ↔ octet >>> 4 = value := by
  have widened : octet.toUInt32 >>> 4 = (octet >>> 4).toUInt32 := by
    rw [← UInt32.toNat_inj]
    simp
  rw [widened]
  exact UInt8.toUInt32_inj

theorem quads_bits (octet : UInt8) : 5 ≤ octet.toUInt32 &&& 15 ↔ 5 ≤ octet &&& 15 := by
  rw [UInt32.le_iff_toNat_le, UInt8.le_iff_toNat_le, UInt32.toNat_and, UInt8.toNat_and,
    UInt8.toNat_toUInt32]
  rfl

/-- Both walks find the same type behind a frame's tag, in the same place. -/
theorem frame_carried {etherType link : Nat} (tags : OneKnownTag (headerOf buffer sample))
    (frame : EthernetFrame (headerOf buffer sample) (headerBytes sample) etherType link) :
    ∃ typeLen, carriedType buffer sample = some (typeLen, link) ∧ typeLen.toNat = etherType := by
  obtain ⟨-, typeLen, ptr, behind, room, other, announced⟩ := frame
  obtain ⟨type, place⟩ := tags.frameType behind
  unfold carriedType
  generalize frameType buffer sample = found at type place
  obtain ⟨foundType, foundPlace⟩ := found
  cases type
  cases place
  have noIPX : ¬(headerBytes sample < 34 ∨ isIPX buffer sample foundType foundPlace = true) := by
    rintro (short | ipx)
    · simp only at room
      omega
    · exact other ((isIPX_iff foundType foundPlace).mp ipx)
  simp only [if_neg noIPX, UInt32.le_iff_toNat_le]
  cases announced with
  | ethernet type =>
    exact ⟨foundType, if_neg (Nat.not_le.mpr type), rfl⟩
  | snap length saps oui =>
    refine ⟨headerHalfOf buffer sample (foundPlace + 6), ?_, headerHalfOf_toNat buffer sample _⟩
    rw [if_pos (show foundType.toNat ≤ (1500 : UInt32).toNat from length), llcType]
    have first := (headerByteOf_eq_iff foundPlace 0xAA).mpr saps.1
    have second := (headerByteOf_eq_iff (foundPlace + 1) 0xAA).mpr saps.2.1
    have third := (headerByteOf_eq_iff (foundPlace + 2) 0x03).mpr saps.2.2
    have same := (organisation_octets (foundPlace + 3)).mpr oui
    simp only
    rw [if_pos ⟨first, second, third⟩, if_neg (not_not.mpr same)]
  | ip length saps =>
    refine ⟨0x0800, ?_, rfl⟩
    rw [if_pos (show foundType.toNat ≤ (1500 : UInt32).toNat from length), llcType]
    have first := (headerByteOf_eq_iff foundPlace 0x06).mpr saps.1
    have second := (headerByteOf_eq_iff (foundPlace + 1) 0x06).mpr saps.2.1
    have third : headerByteOf buffer sample (foundPlace + 2) &&& 0x01 ≠ 0 := by
      rw [headerByteOf_eq]
      exact (control_bit _).mpr saps.2.2
    have noSnap : ¬(headerByteOf buffer sample foundPlace = 0xAA ∧
        headerByteOf buffer sample (foundPlace + 1) = 0xAA ∧
          headerByteOf buffer sample (foundPlace + 2) = 0x03) := by
      rintro ⟨snap, -⟩
      rw [first] at snap
      exact absurd snap (by decide)
    simp only
    rw [if_neg noSnap, if_pos ⟨first, second, third⟩]

/-- What the search has found in a frame of a type that it knows. -/
theorem found_carries {buf : Nat → UInt8} {len off etherType link : Nat}
    (found : pcapOffsetToSFlow buf len = some off) (frame : EthernetFrame buf len etherType link)
    (known : etherType = 0x0800 ∨ etherType = 0x86DD) :
    ∃ ipLength, CarriesIP buf etherType link ipLength ∧ off = link + ipLength + 8 := by
  obtain ⟨etherType', link', frame', behind⟩ := pcapOffset_frames.mp found
  obtain ⟨rfl, rfl⟩ := frame.unique frame'
  rcases (skipIPHeader_iff frame.room).mp behind with ⟨ipLength, carries, place, -⟩ | ⟨noIPV4, noIPV6, -⟩
  · exact ⟨ipLength, carries, place⟩
  · rcases known with ipV4 | ipV6
    · exact absurd ipV4 noIPV4
    · exact absurd ipV6 noIPV6

theorem link_word {link : Nat} (room : link + 26 ≤ headerBytes sample) :
    (UInt32.ofNat link).toNat = link := by
  have limit := (wordOf sample .headerLen).toNat_lt
  have bytes : headerBytes sample = (wordOf sample .headerLen).toNat := rfl
  exact UInt32.toNat_ofNat_of_lt' (by show link < 2 ^ 32; omega)

theorem ipV4_walks_agree {off link : Nat} (tags : OneKnownTag (headerOf buffer sample))
    (found : pcapOffsetToSFlow (headerOf buffer sample) (headerBytes sample) = some off)
    (frame : EthernetFrame (headerOf buffer sample) (headerBytes sample) 0x0800 link) :
    ∃ final, (run buffer (decodeLinkLayer config) sample).Yields () final ∧
      wordOf final .gotIPV4 = 1 ∧ (wordOf final .offsetToIPV4).toNat = link := by
  obtain ⟨typeLen, carried, type⟩ := frame_carried tags frame
  obtain ⟨ipLength, carries, -⟩ := found_carries found frame (.inl rfl)
  have same := frameDecoded_same buffer sample
  have fits : CarriesIPV4 buffer (frameDecoded buffer sample) typeLen link := by
    cases carries with
    | ipV4 _ version quads =>
      refine ⟨UInt32.toNat_inj.mp type, ?_, ?_, ?_⟩
      · have room := frame.room
        have bytes : headerBytes (frameDecoded buffer sample) = headerBytes sample :=
          congrArg UInt32.toNat same.headerLen
        omega
      · rw [same.headerByteOf, headerByteOf_eq]
        exact (version_bits _ 4).mpr version
      · rw [same.headerByteOf, headerByteOf_eq]
        exact (quads_bits _).mpr quads
    | ipV6 type _ => exact absurd type (by decide)
  refine ⟨_, yields_linkLayer carried (same.headerLen ▸ yields_ipV4_type fits), ?_, ?_⟩
  · rfl
  · exact link_word frame.room

theorem ipV6_walks_agree {off link : Nat} (tags : OneKnownTag (headerOf buffer sample))
    (found : pcapOffsetToSFlow (headerOf buffer sample) (headerBytes sample) = some off)
    (frame : EthernetFrame (headerOf buffer sample) (headerBytes sample) 0x86DD link) :
    ∃ final, (run buffer (decodeLinkLayer config) sample).Yields () final ∧
      wordOf final .gotIPV6 = 1 ∧ (wordOf final .offsetToIPV6).toNat = link := by
  obtain ⟨typeLen, carried, type⟩ := frame_carried tags frame
  obtain ⟨ipLength, carries, -⟩ := found_carries found frame (.inr rfl)
  have same := frameDecoded_same buffer sample
  have fits : CarriesIPV6 buffer (frameDecoded buffer sample) typeLen link := by
    cases carries with
    | ipV6 _ version =>
      refine ⟨UInt32.toNat_inj.mp type, ?_⟩
      rw [same.headerByteOf, headerByteOf_eq]
      exact (version_bits _ 6).mpr version
    | ipV4 type _ _ => exact absurd type (by decide)
  refine ⟨_, yields_linkLayer carried (yields_ipV6_type fits), ?_, ?_⟩
  · rfl
  · exact link_word frame.room

/-- On a frame in which the search finds something the dissection of the same bytes finds the
same IP header: the offsets differ by the headers between them. -/
theorem walks_agree (config : SFConfig) (buffer : Buffer) (sample : SFSample) (off link : Nat)
    (tags : OneKnownTag (headerOf buffer sample))
    (found : pcapOffsetToSFlow (headerOf buffer sample) (headerBytes sample) = some off) :
    (EthernetFrame (headerOf buffer sample) (headerBytes sample) 0x0800 link →
      ∃ final, (run buffer (decodeLinkLayer config) sample).Yields () final ∧
        wordOf final .gotIPV4 = 1 ∧ ((wordOf final .offsetToIPV4).toNat : Int) =
          off - 8 - 4 * (headerOf buffer sample link &&& 15).toNat) ∧
      (EthernetFrame (headerOf buffer sample) (headerBytes sample) 0x86DD link →
        ∃ final, (run buffer (decodeLinkLayer config) sample).Yields () final ∧
          wordOf final .gotIPV6 = 1 ∧ ((wordOf final .offsetToIPV6).toNat : Int) = off - 48) := by
  constructor
  · intro frame
    obtain ⟨final, yields, got, offset⟩ := ipV4_walks_agree tags found frame
    obtain ⟨ipLength, carries, place⟩ := found_carries found frame (.inl rfl)
    refine ⟨final, yields, got, ?_⟩
    cases carries with
    | ipV4 _ _ _ => omega
    | ipV6 type _ => exact absurd type (by decide)
  · intro frame
    obtain ⟨final, yields, got, offset⟩ := ipV6_walks_agree tags found frame
    obtain ⟨ipLength, carries, place⟩ := found_carries found frame (.inr rfl)
    refine ⟨final, yields, got, ?_⟩
    cases carries with
    | ipV4 type _ _ => exact absurd type (by decide)
    | ipV6 _ _ => omega

/-- A frame of sixty octets with one tag and an IPv4 header. -/
def taggedFrame : Buffer := .ofBytes [0, 0, 0, 0, 0, 1, 0, 0, 0, 0, 0, 2, 0x81, 0, 0, 7, 0x08, 0, 0x45]

def taggedSample : SFSample := holding firstSample .headerLen 60

theorem tagged_frame_agrees : ∃ final,
    (run taggedFrame (decodeLinkLayer (defaultConfig .full)) taggedSample).Yields () final ∧
      wordOf final .gotIPV4 = 1 ∧ ((wordOf final .offsetToIPV4).toNat : Int) = (46 : Nat) - 8 -
        4 * (headerOf taggedFrame taggedSample 18 &&& 15).toNat := by
  have tags : OneKnownTag (headerOf taggedFrame taggedSample) :=
    ⟨by decide +kernel, fun _ => by decide +kernel⟩
  have inner : BehindTags (headerOf taggedFrame taggedSample) 60 0x0800 18 0x0800 18 :=
    .untagged (by decide)
  refine (walks_agree (defaultConfig .full) taggedFrame taggedSample 46 18 tags (by decide +kernel)).1 ?_
  exact ⟨by decide +kernel, 0x0800, 18, .tag (by decide +kernel) (by decide +kernel) inner,
    by decide +kernel, by decide +kernel, .ethernet (by decide)⟩

end Agreement

end SflowTool
