import SflowTool.Preconditions
import SflowTool.ExtensionChains
import SflowTool.WifiAddresses
import SflowTool.CapturedBytes

/-! Where the header dissection looks. Nothing but a few tests of the header's length keeps
it inside the sampled header, so that each branch has a shortest header of its own. -/
namespace SflowTool
open Decoding Decoding.Decoder

variable {config : SFConfig} {buffer : Buffer} {sample : SFSample}

section Looks

/-- The length of the sampled header. -/
def headerBytes (sample : SFSample) : Nat := (wordOf sample .headerLen).toNat

/-- A look falls inside the sampled header. -/
abbrev InsideHeader (buffer : Buffer) (sample : SFSample) : SFSample → Op collector → Prop :=
  PeekInside buffer (sample.marks .header) (sample.marks .header + headerBytes sample)

variable {low high : Nat}

theorem weakest_sfLog (fmt : String) (args : List Arg) (post : Unit → SFSample → Prop) :
    Weakest buffer (PeekInside buffer low high) (sfLog config fmt args) post sample ↔
      post () sample := by
  unfold sfLog Decoder.when
  by_cases full : config.outputFormat = .full
  · rw [if_pos full]
    exact ⟨And.right, fun met => ⟨trivial, met⟩⟩
  · rw [if_neg full]
    exact Iff.rfl

theorem weakest_getWord (var : WordVar) (post : UInt32 → SFSample → Prop) :
    Weakest buffer (PeekInside buffer low high) (getWord var) post sample ↔
      post (wordOf sample var) sample := ⟨And.right, fun met => ⟨trivial, met⟩⟩

theorem weakest_setWord (var : WordVar) (value : UInt32) (post : Unit → SFSample → Prop) :
    Weakest buffer (PeekInside buffer low high) (setWord var value) post sample ↔
      post () (holding sample var value) := ⟨And.right, fun met => ⟨trivial, met⟩⟩

theorem weakest_setText (var : TextVar) (value : Text) (post : Unit → SFSample → Prop) :
    Weakest buffer (PeekInside buffer low high) (setText var value) post sample ↔
      post () (holdingText sample var value) := ⟨And.right, fun met => ⟨trivial, met⟩⟩

theorem weakest_setAddressVar (var : AddressVar) (value : Address) (post : Unit → SFSample → Prop) :
    Weakest buffer (PeekInside buffer low high) (setAddressVar var value) post sample ↔
      post () (holdingAddress sample var value) := ⟨And.right, fun met => ⟨trivial, met⟩⟩

/-- A look inside the header, which a window of the header's length allows. -/
theorem weakest_octets {state : SFSample} (same : SameHeader state sample) (offset count : Nat)
    (some : 0 < count) (post : List UInt8 → SFSample → Prop) :
    Weakest buffer (InsideHeader buffer sample) (@Decoder.peek collector .header offset count) post
        state ↔
      offset + count ≤ headerBytes sample ∧ post (headerOctets buffer state offset count) state := by
  have marks := same.marks
  have inside : PeekInside buffer (sample.marks .header) (sample.marks .header + headerBytes sample)
      state (.peek Mark.header offset count) ↔ offset + count ≤ headerBytes sample := by
    constructor
    · intro within
      have last := (within (count - 1) (by omega)).2
      rw [marks] at last
      omega
    · intro fits index small
      rw [marks]
      omega
  exact and_congr inside Iff.rfl

theorem weakest_headerByte {state : SFSample} (same : SameHeader state sample) (offset : Nat)
    (post : UInt32 → SFSample → Prop) :
    Weakest buffer (InsideHeader buffer sample) (headerByte offset) post state ↔
      offset + 1 ≤ headerBytes sample ∧ post (headerByteOf buffer state offset) state := by
  unfold headerByte
  rw [weakest_bind, weakest_octets same offset 1 Nat.one_pos]
  exact Iff.rfl

theorem weakest_headerHalf {state : SFSample} (same : SameHeader state sample) (offset : Nat)
    (post : UInt32 → SFSample → Prop) :
    Weakest buffer (InsideHeader buffer sample) (headerHalf offset) post state ↔
      offset + 2 ≤ headerBytes sample ∧ post (headerHalfOf buffer state offset) state := by
  unfold headerHalf
  rw [weakest_bind, weakest_octets same offset 2 Nat.two_pos]
  exact Iff.rfl

end Looks

section Conditions

/-- The offsets of the IP headers that are marked as there lie in the sampled header. -/
def Framed (sample : SFSample) : Prop :=
  (wordOf sample .gotIPV4 ≠ 0 → (wordOf sample .offsetToIPV4).toNat ≤ headerBytes sample) ∧
    (wordOf sample .gotIPV6 ≠ 0 → (wordOf sample .offsetToIPV6).toNat ≤ headerBytes sample)

/-- The offset of the payload does. -/
def PayloadInside (sample : SFSample) : Prop :=
  (wordOf sample .offsetToPayload).toNat ≤ headerBytes sample

/-- The bytes of a TCP header by its data offset. -/
def tcpHeaderBytes (buffer : Buffer) (sample : SFSample) (place : Nat) : Nat :=
  4 * ((headerByteOf buffer sample (place + 12)).toNat / 16)

/-- A transport header that is looked at has eight bytes, a TCP header its first twenty and
all that its data offset announces; one that is not leaves the offset of the payload. -/
def TransportFits (buffer : Buffer) (sample : SFSample) (protocol : UInt32) (place : Nat) : Prop :=
  if place + 8 ≤ headerBytes sample then
    protocol = 6 → place + 20 ≤ headerBytes sample ∧
      (place + tcpHeaderBytes buffer sample place) % 2 ^ 32 ≤ headerBytes sample
  else PayloadInside sample

/-- An IPv4 header has its first twenty bytes, and what follows it fits unless it is a later
fragment, of which nothing is looked at. -/
def IPV4Fits (buffer : Buffer) (sample : SFSample) (place : Nat) : Prop :=
  place + 20 ≤ headerBytes sample ∧
    if headerHalfOf buffer sample (place + 6) &&& 0x1FFF > 0 then PayloadInside sample
    else TransportFits buffer sample (headerByteOf buffer sample (place + 9))
      (place + 4 * ((headerByteOf buffer sample place).toNat % 16))

/-- Every extension header of an IPv6 packet that the walk comes to has the two bytes that
are read of it, and the transport header behind the last one fits. -/
inductive ExtensionsFit (buffer : Buffer) (sample : SFSample) : UInt32 → Nat → Prop where
  | transport (nextHeader : UInt32) (place : Nat) (other : ¬SkippedHeader nextHeader)
      (fits : TransportFits buffer sample nextHeader place) :
      ExtensionsFit buffer sample nextHeader place
  | ranOff (nextHeader : UInt32) (place : Nat) (skipped : SkippedHeader nextHeader)
      (fits : place + 2 ≤ headerBytes sample)
      (beyond : place + extensionSkip (headerByteOf buffer sample (place + 1)) > headerBytes sample)
      (payload : PayloadInside sample) : ExtensionsFit buffer sample nextHeader place
  | round (nextHeader : UInt32) (place : Nat) (skipped : SkippedHeader nextHeader)
      (fits : place + 2 ≤ headerBytes sample)
      (inside : place + extensionSkip (headerByteOf buffer sample (place + 1)) ≤ headerBytes sample)
      (rest : ExtensionsFit buffer sample (headerByteOf buffer sample place)
        (place + extensionSkip (headerByteOf buffer sample (place + 1)))) :
      ExtensionsFit buffer sample nextHeader place

/-- What is taken for an IPv6 header has the byte its version is in, and if it is one all
forty bytes. -/
def IPV6Fits (buffer : Buffer) (sample : SFSample) (place : Nat) : Prop :=
  place + 1 ≤ headerBytes sample ∧
    if headerByteOf buffer sample place >>> 4 ≠ 6 then PayloadInside sample
    else place + 40 ≤ headerBytes sample ∧
      ExtensionsFit buffer sample (headerByteOf buffer sample (place + 6)) (place + 40)

end Conditions

section Transport

theorem SameHeader.refl (sample : SFSample) : SameHeader sample sample := ⟨rfl, rfl⟩

/-- The words by which the offsets are judged. -/
def frameVars : List WordVar := [.gotIPV4, .offsetToIPV4, .gotIPV6, .offsetToIPV6, .headerLen]

theorem frame_holding {var word : WordVar} (value : UInt32) (other : var ∉ frameVars)
    (member : word ∈ frameVars) : wordOf (holding sample var value) word = wordOf sample word := by
  apply wordOf_holding_other
  intro same
  rw [same] at member
  exact other member

theorem headerBytes_holding {var : WordVar} (value : UInt32) (other : var ∉ frameVars) :
    headerBytes (holding sample var value) = headerBytes sample := by
  rw [headerBytes, frame_holding value other (by decide), headerBytes]

theorem framed_holding {var : WordVar} (value : UInt32) (other : var ∉ frameVars) :
    Framed (holding sample var value) ↔ Framed sample := by
  rw [Framed, Framed, headerBytes_holding value other, frame_holding value other (by decide),
    frame_holding value other (by decide), frame_holding value other (by decide),
    frame_holding value other (by decide)]

theorem payload_holding (value : UInt32) :
    PayloadInside (holding sample .offsetToPayload value) ↔ value.toNat ≤ headerBytes sample := Iff.rfl

theorem octetAt_headerOctets (buffer : Buffer) (sample : SFSample) (place count index : Nat)
    (inside : index < count) : octetAt (headerOctets buffer sample place count) index =
      headerByteOf buffer sample (place + index) := by
  have long : index < (headerOctets buffer sample place count).length := by
    rw [headerOctets, Buffer.length_slice]
    exact inside
  rw [← UInt32.toNat_inj, headerByteOf_toNat, octetAt, List.getD_eq_getElem _ _ long,
    UInt8.toNat_toUInt32]
  simp only [headerOctets, Buffer.slice_getElem, Nat.add_assoc]

/-- A place inside the header is the same counted in 32 bits. -/
theorem place_word {place : Nat} (inside : place ≤ headerBytes sample) :
    (UInt32.ofNat place).toNat = place := by
  have short : headerBytes sample < 2 ^ 32 := (wordOf sample .headerLen).toNat_lt
  rw [UInt32.toNat_ofNat', Nat.mod_eq_of_lt (by omega)]

theorem tcp_payload (place : Nat) :
    (UInt32.ofNat place + (octetAt (headerOctets buffer sample place 20) 12 >>> 4) * 4).toNat =
      (place + tcpHeaderBytes buffer sample place) % 2 ^ 32 := by
  rw [octetAt_headerOctets _ _ _ _ _ (by decide), tcpHeaderBytes]
  have octet := headerByteOf_lt buffer sample (place + 12)
  generalize headerByteOf buffer sample (place + 12) = byte at octet ⊢
  simp only [UInt32.toNat_add, UInt32.toNat_mul, UInt32.toNat_shiftRight, UInt32.toNat_ofNat',
    UInt32.reduceToNat, Nat.shiftRight_eq_div_pow, Nat.reduceMod, Nat.reducePow]
  omega

theorem transport_fits_iff (ptr : Nat) :
    Weakest buffer (InsideHeader buffer sample) (decodeIPLayer4 config ptr)
        (fun _ final => Framed final ∧ PayloadInside final) sample ↔
      Framed sample ∧ TransportFits buffer sample (wordOf sample .dcdIpProtocol) ptr := by
  have look := @weakest_octets buffer sample sample (.refl sample) ptr
  unfold decodeIPLayer4 TransportFits
  simp (disch := decide) only [weakest_bind, weakest_ite, weakest_getWord, weakest_pure,
    weakest_sfLog, weakest_setWord, framed_holding, payload_holding, headerBytes_holding]
  by_cases room : ptr + 8 ≤ headerBytes sample
  · rw [if_neg (show ¬ptr + 8 > (wordOf sample .headerLen).toNat from Nat.not_lt.mpr room),
      if_pos room]
    by_cases icmp : wordOf sample .dcdIpProtocol = 1
    · rw [if_pos icmp, look 2 (by decide), icmp,
        place_word (show ptr + 2 ≤ headerBytes sample by omega)]
      constructor
      · rintro ⟨-, framed, -⟩
        exact ⟨framed, fun tcp => absurd tcp (by decide)⟩
      · rintro ⟨framed, -⟩
        exact ⟨by omega, framed, by omega⟩
    rw [if_neg icmp]
    by_cases tcp : wordOf sample .dcdIpProtocol = 6
    · rw [if_pos tcp, look 20 (by decide), tcp_payload]
      constructor
      · rintro ⟨whole, framed, payload⟩
        exact ⟨framed, fun _ => ⟨whole, payload⟩⟩
      · rintro ⟨framed, fits⟩
        exact ⟨(fits tcp).1, framed, (fits tcp).2⟩
    rw [if_neg tcp]
    by_cases udp : wordOf sample .dcdIpProtocol = 17
    · rw [if_pos udp, look 8 (by decide), place_word room]
      constructor
      · rintro ⟨-, framed, -⟩
        exact ⟨framed, fun other => absurd other tcp⟩
      · rintro ⟨framed, -⟩
        exact ⟨room, framed, room⟩
    · rw [if_neg udp,
        place_word (show ptr ≤ headerBytes sample by omega)]
      constructor
      · rintro ⟨framed, -⟩
        exact ⟨framed, fun other => absurd other tcp⟩
      · rintro ⟨framed, -⟩
        exact ⟨framed, by omega⟩
  · rw [if_pos (show ptr + 8 > (wordOf sample .headerLen).toNat from Nat.not_le.mp room),
      if_neg room]

end Transport

section Network

/-- Two samples whose headers and payload offsets are the same. -/
structure SameLooks (first second : SFSample) : Prop extends SameHeader first second where
  payload : wordOf first .offsetToPayload = wordOf second .offsetToPayload

theorem SameLooks.symm {first second : SFSample} (same : SameLooks first second) :
    SameLooks second first :=
  ⟨⟨same.marks.symm, same.headerLen.symm⟩, same.payload.symm⟩

theorem SameLooks.headerBytes {first second : SFSample} (same : SameLooks first second) :
    headerBytes first = headerBytes second := congrArg UInt32.toNat same.headerLen

theorem SameLooks.inside {first second : SFSample} (same : SameLooks first second) :
    InsideHeader buffer first = InsideHeader buffer second := by
  rw [InsideHeader, InsideHeader, same.marks, same.headerBytes]

theorem SameLooks.payloadInside {first second : SFSample} (same : SameLooks first second) :
    PayloadInside first ↔ PayloadInside second := by
  rw [PayloadInside, PayloadInside, same.payload, same.headerBytes]

theorem SameLooks.transportFits {first second : SFSample} (same : SameLooks first second)
    (protocol : UInt32) (place : Nat) : TransportFits buffer first protocol place ↔
      TransportFits buffer second protocol place := by
  rw [TransportFits, TransportFits, tcpHeaderBytes, tcpHeaderBytes, same.headerByteOf,
    same.headerBytes, same.payloadInside]

theorem SameHeader.headerHalfOf {first second : SFSample} (same : SameHeader first second) :
    headerHalfOf buffer first = headerHalfOf buffer second := by
  funext offset
  rw [SflowTool.headerHalfOf, SflowTool.headerHalfOf, headerOctets, headerOctets, same.marks]

theorem SameLooks.ipV4Fits {first second : SFSample} (same : SameLooks first second)
    (place : Nat) : IPV4Fits buffer first place ↔ IPV4Fits buffer second place := by
  rw [IPV4Fits, IPV4Fits, same.headerBytes, same.headerHalfOf, same.payloadInside,
    same.transportFits, same.headerByteOf]

theorem SameLooks.extensionsFit {first second : SFSample} (same : SameLooks first second)
    {nextHeader : UInt32} {place : Nat} (fit : ExtensionsFit buffer first nextHeader place) :
    ExtensionsFit buffer second nextHeader place := by
  induction fit with
  | transport nextHeader place other fits =>
      exact .transport nextHeader place other ((same.transportFits _ _).mp fits)
  | ranOff nextHeader place skipped fits beyond payload =>
      rw [same.headerBytes] at fits beyond
      rw [same.headerByteOf] at beyond
      exact .ranOff nextHeader place skipped fits beyond (same.payloadInside.mp payload)
  | round nextHeader place skipped fits inside _ ih =>
      rw [same.headerBytes] at fits inside
      rw [same.headerByteOf] at inside ih
      exact .round nextHeader place skipped fits inside ih

theorem SameLooks.extensions_iff {first second : SFSample} (same : SameLooks first second)
    (nextHeader : UInt32) (place : Nat) : ExtensionsFit buffer first nextHeader place ↔
      ExtensionsFit buffer second nextHeader place :=
  ⟨same.extensionsFit, same.symm.extensionsFit⟩

theorem SameLooks.ipV6Fits {first second : SFSample} (same : SameLooks first second)
    (place : Nat) : IPV6Fits buffer first place ↔ IPV6Fits buffer second place := by
  rw [IPV6Fits, IPV6Fits, same.headerBytes, same.payloadInside, same.headerByteOf,
    same.extensions_iff]

theorem transport_behind {state : SFSample} (same : SameLooks state sample) (ptr : Nat) :
    Weakest buffer (InsideHeader buffer sample) (decodeIPLayer4 config ptr)
        (fun _ final => Framed final ∧ PayloadInside final) state ↔
      Framed state ∧ TransportFits buffer sample (wordOf state .dcdIpProtocol) ptr := by
  rw [← same.inside, transport_fits_iff, same.transportFits]

/-- The bytes of an IPv4 header by its length in quads. -/
theorem ipV4_length (place count : Nat) (some : 0 < count) :
    ((octetAt (headerOctets buffer sample place count) 0 &&& 0x0f) * 4).toNat =
      4 * ((headerByteOf buffer sample place).toNat % 16) := by
  rw [octetAt_headerOctets _ _ _ _ _ some, Nat.add_zero]
  have masked : (headerByteOf buffer sample place &&& 0x0f).toNat =
      (headerByteOf buffer sample place).toNat % 16 := by
    rw [UInt32.toNat_and]
    exact Nat.and_two_pow_sub_one_eq_mod _ 4
  rw [UInt32.toNat_mul, masked, show (4 : UInt32).toNat = 4 from rfl]
  omega

theorem ipV4_fits_iff (got : wordOf sample .gotIPV4 ≠ 0) :
    Weakest buffer (InsideHeader buffer sample) (decodeIPV4 config)
        (fun _ final => Framed final ∧ PayloadInside final) sample ↔
      Framed sample ∧ IPV4Fits buffer sample (wordOf sample .offsetToIPV4).toNat := by
  have behind (decoded : SFSample) (same : SameLooks decoded sample)
      (framed : Framed decoded ↔ Framed sample) (place : Nat)
      (protocol : wordOf decoded .dcdIpProtocol =
        octetAt (headerOctets buffer sample place 20) 9) :
      (place + 20 ≤ headerBytes sample ∧
        if halfAt (headerOctets buffer sample place 20) 6 &&& 0x1FFF > 0 then
          Framed decoded ∧ PayloadInside decoded
        else Weakest buffer (InsideHeader buffer sample) (decodeIPLayer4 config
            (place + ((octetAt (headerOctets buffer sample place 20) 0 &&& 0x0f) * 4).toNat))
          (fun _ final => Framed final ∧ PayloadInside final) decoded) ↔
        Framed sample ∧ IPV4Fits buffer sample place := by
    rw [transport_behind same, framed, same.payloadInside, protocol, IPV4Fits,
      octetAt_headerOctets _ _ _ _ _ (by decide), ipV4_length _ _ (by decide),
      halfAt_headerOctets _ _ _ _ _ (by decide)]
    split <;> exact and_left_comm
  unfold decodeIPV4
  simp only [weakest_bind, weakest_ite, weakest_getWord, weakest_pure,
    weakest_sfLog, weakest_setWord, weakest_setAddressVar, if_neg got]
  rw [weakest_octets (.refl sample) _ 20 (by decide)]
  refine behind _ ?_ ?_ _ ?_
  · exact ⟨⟨rfl, rfl⟩, rfl⟩
  · exact Iff.rfl
  · rfl

theorem extensions_fit_iff (fuel : Nat) (nextHeader : UInt32) (ptr : Nat) (sample : SFSample)
    (some : 1 ≤ fuel) (enough : headerBytes sample + 2 ≤ fuel + ptr)
    (post : Option (UInt32 × Nat) → SFSample → Prop)
    (ran : post none sample ↔ Framed sample ∧ PayloadInside sample)
    (arrived : ∀ protocol place, post (Option.some (protocol, place)) sample ↔
      Framed sample ∧ TransportFits buffer sample protocol place) :
    Weakest buffer (InsideHeader buffer sample)
        (skipIPV6Extensions config (headerBytes sample) fuel nextHeader ptr) post sample ↔
      Framed sample ∧ ExtensionsFit buffer sample nextHeader ptr := by
  induction fuel generalizing nextHeader ptr with
  | zero => omega
  | succ fuel ih =>
      by_cases skipped : SkippedHeader nextHeader
      · have moved := extensionSkip_octet _ (headerByteOf_lt buffer sample (ptr + 1))
        rw [skipIPV6Extensions_succ _ _ _ _ skipped]
        unfold afterExtension
        simp only [weakest_bind, weakest_sfLog, weakest_headerByte (.refl sample), weakest_ite,
          weakest_pure]
        constructor
        · rintro ⟨-, fits, rest⟩
          by_cases beyond : ptr + extensionSkip (headerByteOf buffer sample (ptr + 1)) >
              headerBytes sample
          · rw [if_pos beyond, ran] at rest
            exact ⟨rest.1, .ranOff nextHeader ptr skipped fits beyond rest.2⟩
          · rw [if_neg beyond, ih _ _ (by omega) (by omega)] at rest
            exact ⟨rest.1, .round nextHeader ptr skipped fits (Nat.not_lt.mp beyond) rest.2⟩
        · rintro ⟨framed, fits⟩
          cases fits with
          | transport _ _ other => exact absurd skipped other
          | ranOff _ _ _ fits beyond payload =>
              rw [if_pos beyond, ran]
              exact ⟨by omega, fits, framed, payload⟩
          | round _ _ _ fits inside rest =>
              rw [if_neg (Nat.not_lt.mpr inside), ih _ _ (by omega) (by omega)]
              exact ⟨by omega, fits, framed, rest⟩
      · unfold skipIPV6Extensions
        rw [if_neg (show ¬(nextHeader = 0 ∨ nextHeader = 43 ∨ nextHeader = 44 ∨ nextHeader = 51 ∨
          nextHeader = 60) from skipped), weakest_pure, arrived]
        constructor
        · rintro ⟨framed, fits⟩
          exact ⟨framed, .transport nextHeader ptr skipped fits⟩
        · rintro ⟨framed, fits⟩
          cases fits with
          | transport _ _ _ fits => exact ⟨framed, fits⟩
          | ranOff _ _ other => exact absurd other skipped
          | round _ _ other => exact absurd other skipped

theorem fields_fit_iff (ptr : Nat) (first : UInt32) (post : UInt32 → SFSample → Prop) :
    Weakest buffer (InsideHeader buffer sample) (readIPV6Fields config ptr first) post sample ↔
      ptr + 40 ≤ headerBytes sample ∧
        post (headerByteOf buffer sample (ptr + 6)) (ipV6Decoded buffer sample ptr first) := by
  unfold readIPV6Fields
  simp (disch := first | exact ⟨rfl, rfl⟩ | decide) only [weakest_bind, weakest_ite, weakest_pure,
    weakest_sfLog, weakest_setWord, weakest_setAddressVar, weakest_octets, weakest_headerHalf,
    weakest_headerByte, ite_self]
  constructor
  · rintro ⟨-, -, -, -, -, room, ended⟩
    exact ⟨room, ended⟩
  · rintro ⟨room, ended⟩
    exact ⟨by omega, by omega, by omega, by omega, by omega, room, ended⟩

theorem ipV6_fits_iff (got : wordOf sample .gotIPV6 ≠ 0) :
    Weakest buffer (InsideHeader buffer sample) (decodeIPV6 config)
        (fun _ final => Framed final ∧ PayloadInside final) sample ↔
      Framed sample ∧ IPV6Fits buffer sample (wordOf sample .offsetToIPV6).toNat := by
  have walk (decoded : SFSample) (same : SameLooks decoded sample)
      (framed : Framed decoded ↔ Framed sample) (nextHeader : UInt32) (ptr : Nat) :
      Weakest buffer (InsideHeader buffer sample) (skipIPV6Extensions config (headerBytes decoded)
          (headerBytes decoded + 2) nextHeader ptr) (fun called middle =>
            Weakest buffer (InsideHeader buffer sample) (decodeTransport config called)
              (fun _ final => Framed final ∧ PayloadInside final) middle) decoded ↔
        Framed sample ∧ ExtensionsFit buffer sample nextHeader ptr := by
    rw [← same.inside, extensions_fit_iff _ _ _ _ (by omega) (by omega), framed,
      same.extensions_iff]
    · exact Iff.rfl
    · intro protocol place
      unfold decodeTransport
      simp only [weakest_bind, weakest_setWord, weakest_sfLog]
      have stored : SameLooks (holding decoded .dcdIpProtocol protocol) decoded :=
        ⟨⟨rfl, rfl⟩, rfl⟩
      rw [transport_behind stored, wordOf_holding_self, framed_holding _ (by decide)]
  rw [decodeIPV6_calls, weakest_bind]
  unfold transportCall IPV6Fits
  simp only [weakest_bind, weakest_ite, weakest_getWord, weakest_pure, if_neg got, weakest_sfLog,
    weakest_headerByte (.refl sample), fields_fit_iff]
  generalize (wordOf sample .offsetToIPV6).toNat = place
  by_cases version : headerByteOf buffer sample place >>> 4 ≠ 6
  · rw [if_pos version, if_pos version]
    exact and_left_comm
  · rw [if_neg version, if_neg version]
    have decoded := walk (ipV6Decoded buffer sample place (headerByteOf buffer sample place))
      ⟨⟨rfl, rfl⟩, rfl⟩ Iff.rfl (headerByteOf buffer sample (place + 6)) (place + 40)
    refine (and_congr_right fun _ => and_congr_right fun _ => decoded).trans ?_
    constructor
    · rintro ⟨some, whole, framed, fits⟩
      exact ⟨framed, some, whole, fits⟩
    · rintro ⟨framed, some, whole, fits⟩
      exact ⟨some, whole, framed, fits⟩

end Network

section Frames

/-- An Ethernet frame that is tagged. -/
def Tagged (buffer : Buffer) (sample : SFSample) : Prop := headerHalfOf buffer sample 12 = 0x8100

instance : Decidable (Tagged buffer sample) := inferInstanceAs (Decidable (_ = _))

/-- The type or length of an Ethernet frame, behind its tag, and where it ends. -/
def frameType (buffer : Buffer) (sample : SFSample) : UInt32 × Nat :=
  if Tagged buffer sample then (headerHalfOf buffer sample 16, 18)
  else (headerHalfOf buffer sample 12, 14)

/-- An IPX frame by its checksum and its length. -/
def isIPX (buffer : Buffer) (sample : SFSample) (typeLen : UInt32) (place : Nat) : Bool :=
  decide ((typeLen = 0x0200 ∨ typeLen = 0x0201 ∨ typeLen = 0x0600) ∧
    headerHalfOf buffer sample place = 0xffff ∧ 30 ≤ headerHalfOf buffer sample (place + 2) ∧
      headerHalfOf buffer sample (place + 2) ≤ 576)

/-- The type an 802.2 header names, and where it ends. -/
def llcType (buffer : Buffer) (sample : SFSample) (place : Nat) : Option (UInt32 × Nat) :=
  let first := headerByteOf buffer sample place
  let second := headerByteOf buffer sample (place + 1)
  let third := headerByteOf buffer sample (place + 2)
  if first = 0xAA ∧ second = 0xAA ∧ third = 0x03 then
    if headerOctets buffer sample (place + 3) 3 ≠ [0, 0, 0] then none
    else some (headerHalfOf buffer sample (place + 6), place + 8)
  else if first = 0x06 ∧ second = 0x06 ∧ third &&& 0x01 ≠ 0 then some (0x0800, place + 3)
  else none

/-- The Ethernet type of a frame, and where what it carries begins. -/
def carriedType (buffer : Buffer) (sample : SFSample) : Option (UInt32 × Nat) :=
  let (typeLen, place) := frameType buffer sample
  if headerBytes sample < 34 ∨ isIPX buffer sample typeLen place then none
  else if typeLen ≤ 1500 then llcType buffer sample place
  else some (typeLen, place)

/-- A frame carries IPv4: the header's version and length say so, and twenty bytes of it are
there. -/
def CarriesIPV4 (buffer : Buffer) (sample : SFSample) (typeLen : UInt32) (place : Nat) : Prop :=
  typeLen = 0x0800 ∧ place + 20 ≤ headerBytes sample ∧
    headerByteOf buffer sample place >>> 4 = 4 ∧ 5 ≤ headerByteOf buffer sample place &&& 15

def CarriesIPV6 (buffer : Buffer) (sample : SFSample) (typeLen : UInt32) (place : Nat) : Prop :=
  typeLen = 0x86DD ∧ headerByteOf buffer sample place >>> 4 = 6

instance (typeLen : UInt32) (place : Nat) : Decidable (CarriesIPV4 buffer sample typeLen place) :=
  inferInstanceAs (Decidable (_ ∧ _ ∧ _ ∧ _))
instance (typeLen : UInt32) (place : Nat) : Decidable (CarriesIPV6 buffer sample typeLen place) :=
  inferInstanceAs (Decidable (_ ∧ _))

variable {low high : Nat}

/-- What the decode of a tag leaves. -/
def tagDecoded (buffer : Buffer) (sample : SFSample) : SFSample :=
  if Tagged buffer sample then
    holding sample .inVlan (headerHalfOf buffer sample 14 &&& 0x0fff) else sample

theorem tag_fits_iff (room : 14 ≤ headerBytes sample) (post : UInt32 × Nat → SFSample → Prop) :
    Weakest buffer (InsideHeader buffer sample) (decodeVLANTag config) post sample ↔
      (Tagged buffer sample → 18 ≤ headerBytes sample) ∧
        post (frameType buffer sample) (tagDecoded buffer sample) := by
  unfold decodeVLANTag frameType tagDecoded
  simp (disch := exact ⟨rfl, rfl⟩) only [weakest_bind, weakest_ite, weakest_pure, weakest_sfLog,
    weakest_setWord, weakest_headerHalf]
  by_cases tagged : Tagged buffer sample
  · rw [if_pos (show headerHalfOf buffer sample 12 = 0x8100 from tagged), if_pos tagged,
      if_pos tagged]
    constructor
    · rintro ⟨-, -, whole, ended⟩
      exact ⟨fun _ => whole, ended⟩
    · rintro ⟨whole, ended⟩
      have fits := whole tagged
      exact ⟨by omega, by omega, fits, ended⟩
  · rw [if_neg (show ¬headerHalfOf buffer sample 12 = 0x8100 from tagged), if_neg tagged,
      if_neg tagged]
    constructor
    · rintro ⟨-, ended⟩
      exact ⟨fun other => absurd other tagged, ended⟩
    · rintro ⟨-, ended⟩
      exact ⟨room, ended⟩

theorem ipx_fits_iff (typeLen : UInt32) (ptr : Nat) (room : ptr + 4 ≤ headerBytes sample)
    (post : Bool → SFSample → Prop) :
    Weakest buffer (InsideHeader buffer sample) (peekForIPX typeLen ptr) post sample ↔
      post (isIPX buffer sample typeLen ptr) sample := by
  unfold peekForIPX isIPX
  simp only [weakest_bind, weakest_ite, weakest_pure, weakest_headerHalf (.refl sample)]
  by_cases known : typeLen = 0x0200 ∨ typeLen = 0x0201 ∨ typeLen = 0x0600
  · rw [if_pos known]
    simp only [known, true_and]
    constructor
    · rintro ⟨-, -, ended⟩
      exact ended
    · intro ended
      exact ⟨by omega, by omega, ended⟩
  · rw [if_neg known]
    simp only [known, false_and, decide_false]

theorem llc_fits_iff (ptr : Nat) (room : ptr + 8 ≤ headerBytes sample)
    (post : Option (UInt32 × Nat) → SFSample → Prop) :
    Weakest buffer (InsideHeader buffer sample) (decode8022 config ptr) post sample ↔
      post (llcType buffer sample ptr) sample := by
  unfold decode8022 llcType
  have inside (offset count : Nat) (small : offset + count ≤ 8) :
      ptr + offset + count ≤ headerBytes sample := by omega
  have start : ptr + 1 ≤ headerBytes sample := by omega
  simp (disch := decide) only [weakest_bind, weakest_ite, weakest_pure, weakest_sfLog,
    weakest_headerHalf (.refl sample), weakest_headerByte (.refl sample),
    weakest_octets (.refl sample), inside, start, true_and]
  generalize headerByteOf buffer sample ptr = first
  generalize headerByteOf buffer sample (ptr + 1) = second
  generalize headerByteOf buffer sample (ptr + 2) = third
  by_cases snap : first = 0xAA
  · subst snap
    by_cases both : second = 0xAA
    · subst both
      by_cases control : third = 0x03
      · subst control
        simp only [true_or, and_self, if_true]
        split <;> rfl
      · simp [control]
    · simp [both]
  by_cases raw : first = 0x06
  · subst raw
    by_cases both : second = 0x06
    · subst both
      by_cases control : third &&& 0x01 ≠ 0
      · simp [control]
      · simp only [not_not] at control
        simp [control]
    · simp [both]
  · simp [snap, raw]

/-- What a frame's type leaves: where the header it announces begins. -/
theorem type_fits_iff (typeLen : UInt32) (ptr : Nat) (room : ptr < headerBytes sample)
    (post : Unit → SFSample → Prop) :
    Weakest buffer (InsideHeader buffer sample)
        (decodeEthernetType (wordOf sample .headerLen) typeLen ptr) post sample ↔
      if CarriesIPV4 buffer sample typeLen ptr then
        post () (holding (holding (holding sample .ethType typeLen) .gotIPV4 1) .offsetToIPV4
          (UInt32.ofNat ptr))
      else if CarriesIPV6 buffer sample typeLen ptr then
        post () (holding (holding (holding sample .ethType typeLen) .gotIPV6 1) .offsetToIPV6
          (UInt32.ofNat ptr))
      else post () (holding sample .ethType typeLen) := by
  have start : ptr + 1 ≤ headerBytes sample := room
  have typed : SameHeader (holding sample .ethType typeLen) sample := ⟨rfl, rfl⟩
  unfold decodeEthernetType
  simp only [weakest_bind, weakest_ite, weakest_pure, weakest_setWord, weakest_headerByte typed,
    start, true_and, typed.headerByteOf]
  have short : ptr ≤ (wordOf sample .headerLen).toNat ∧ (wordOf sample .headerLen).toNat - ptr < 20 ↔
      ¬ptr + 20 ≤ headerBytes sample := by
    have bytes : headerBytes sample = (wordOf sample .headerLen).toNat := rfl
    omega
  simp only [short]
  by_cases ipV4 : typeLen = 0x0800
  · subst ipV4
    by_cases whole : ptr + 20 ≤ headerBytes sample
    · by_cases version : headerByteOf buffer sample ptr >>> 4 = 4
      · by_cases quads : headerByteOf buffer sample ptr &&& 15 < 5
        · have none : ¬5 ≤ headerByteOf buffer sample ptr &&& 15 := UInt32.not_le.mpr quads
          simp [CarriesIPV4, CarriesIPV6, whole, version, quads, none]
        · have some : 5 ≤ headerByteOf buffer sample ptr &&& 15 := UInt32.not_lt.mp quads
          simp [CarriesIPV4, whole, version, quads, some]
      · simp [CarriesIPV4, CarriesIPV6, whole, version]
    · simp [CarriesIPV4, CarriesIPV6, whole]
  · by_cases ipV6 : typeLen = 0x86DD
    · subst ipV6
      by_cases version : headerByteOf buffer sample ptr >>> 4 = 6
      · simp [CarriesIPV4, CarriesIPV6, version]
      · simp [CarriesIPV4, CarriesIPV6, version]
    · simp [CarriesIPV4, CarriesIPV6, ipV4, ipV6]

end Frames

section Dissection

/-- What the IP headers marked as there need: the one that is decoded must fit, the other
lie in the header. -/
def NetworkFits (buffer : Buffer) (sample : SFSample) : Prop :=
  Framed sample ∧
    if wordOf sample .gotIPV4 ≠ 0 then IPV4Fits buffer sample (wordOf sample .offsetToIPV4).toNat
    else if wordOf sample .gotIPV6 ≠ 0 then
      IPV6Fits buffer sample (wordOf sample .offsetToIPV6).toNat
    else PayloadInside sample

/-- An IPv6 header marked by an earlier element lies in this element's header. -/
def EarlierIPV6Inside (sample : SFSample) : Prop :=
  wordOf sample .gotIPV6 ≠ 0 → (wordOf sample .offsetToIPV6).toNat ≤ headerBytes sample

theorem network_none {state : SFSample} (same : SameLooks state sample)
    (noIPV4 : wordOf state .gotIPV4 = 0) (noIPV6 : wordOf state .gotIPV6 = 0) :
    NetworkFits buffer state ↔ PayloadInside sample := by
  rw [NetworkFits, if_neg (not_not.mpr noIPV4), if_neg (not_not.mpr noIPV6), same.payloadInside]
  exact ⟨And.right, fun inside => ⟨⟨fun got => absurd noIPV4 got, fun got => absurd noIPV6 got⟩, inside⟩⟩

theorem network_ipV4 {state : SFSample} (same : SameLooks state sample) (place : Nat)
    (got : wordOf state .gotIPV4 ≠ 0) (offset : wordOf state .offsetToIPV4 = UInt32.ofNat place)
    (inside : place ≤ headerBytes sample) :
    NetworkFits buffer state ↔ EarlierIPV6Inside state ∧ IPV4Fits buffer sample place := by
  rw [NetworkFits, if_pos got, offset, place_word inside, same.ipV4Fits, Framed, offset,
    place_word inside, same.headerBytes, EarlierIPV6Inside, same.headerBytes]
  constructor
  · rintro ⟨⟨-, earlier⟩, fits⟩
    exact ⟨earlier, fits⟩
  · rintro ⟨earlier, fits⟩
    exact ⟨⟨fun _ => inside, earlier⟩, fits⟩

theorem network_ipV6 {state : SFSample} (same : SameLooks state sample) (place : Nat)
    (noIPV4 : wordOf state .gotIPV4 = 0) (got : wordOf state .gotIPV6 ≠ 0)
    (offset : wordOf state .offsetToIPV6 = UInt32.ofNat place)
    (inside : place ≤ headerBytes sample) :
    NetworkFits buffer state ↔ IPV6Fits buffer sample place := by
  rw [NetworkFits, if_neg (not_not.mpr noIPV4), if_pos got, offset, place_word inside,
    same.ipV6Fits, Framed, offset, place_word inside, same.headerBytes]
  exact ⟨And.right, fun fits => ⟨⟨fun none => absurd noIPV4 none, fun _ => inside⟩, fits⟩⟩

/-- An Ethernet frame is looked at from fourteen bytes on; the two bytes of a tag's inner type
are not covered by that, and the IP header it carries, if any, has to fit. -/
def EthernetFits (buffer : Buffer) (sample : SFSample) : Prop :=
  if 14 ≤ headerBytes sample then
    (Tagged buffer sample → 18 ≤ headerBytes sample) ∧
      match carriedType buffer sample with
      | none => PayloadInside sample
      | some (typeLen, place) =>
          if CarriesIPV4 buffer sample typeLen place then IPV4Fits buffer sample place
          else if CarriesIPV6 buffer sample typeLen place then IPV6Fits buffer sample place
          else PayloadInside sample
  else PayloadInside sample

theorem frameType_place : (frameType buffer sample).2 ≤ 18 := by
  unfold frameType
  split
  · exact Nat.le_refl 18
  · exact Nat.le_add_right 14 4

theorem llcType_place {start place : Nat} {typeLen : UInt32}
    (named : llcType buffer sample start = some (typeLen, place)) : place ≤ start + 8 := by
  unfold llcType at named
  simp only at named
  split at named
  · split at named
    · cases named
    · cases named
      exact Nat.le_refl _
  · split at named
    · cases named
      omega
    · cases named

theorem ethernet_type_behind {state : SFSample} (same : SameLooks state sample)
    (noIPV4 : wordOf state .gotIPV4 = 0) (noIPV6 : wordOf state .gotIPV6 = 0)
    (typeLen : UInt32) (place : Nat) (room : place < headerBytes sample) :
    Weakest buffer (InsideHeader buffer sample)
        (decodeEthernetType (wordOf state .headerLen) typeLen place)
        (fun _ final => NetworkFits buffer final) state ↔
      if CarriesIPV4 buffer sample typeLen place then IPV4Fits buffer sample place
      else if CarriesIPV6 buffer sample typeLen place then IPV6Fits buffer sample place
      else PayloadInside sample := by
  have ipV4 : CarriesIPV4 buffer state typeLen place ↔ CarriesIPV4 buffer sample typeLen place := by
    rw [CarriesIPV4, CarriesIPV4, same.headerBytes, same.headerByteOf]
  have ipV6 : CarriesIPV6 buffer state typeLen place ↔ CarriesIPV6 buffer sample typeLen place := by
    rw [CarriesIPV6, CarriesIPV6, same.headerByteOf]
  rw [← same.inside, type_fits_iff _ _ (same.headerBytes ▸ room)]
  simp only [ipV4, ipV6]
  have inside : place ≤ headerBytes sample := Nat.le_of_lt room
  split
  · have typed : SameLooks (holding (holding (holding state .ethType typeLen) .gotIPV4 1)
        .offsetToIPV4 (UInt32.ofNat place)) sample := ⟨⟨same.marks, same.headerLen⟩, same.payload⟩
    have marked : wordOf (holding (holding (holding state .ethType typeLen) .gotIPV4 1)
        .offsetToIPV4 (UInt32.ofNat place)) .gotIPV4 ≠ 0 := by
      show (1 : UInt32) ≠ 0
      decide
    refine (network_ipV4 typed place marked rfl inside).trans ?_
    exact ⟨And.right, fun fits => ⟨fun got => absurd noIPV6 got, fits⟩⟩
  split
  · have typed : SameLooks (holding (holding (holding state .ethType typeLen) .gotIPV6 1)
        .offsetToIPV6 (UInt32.ofNat place)) sample := ⟨⟨same.marks, same.headerLen⟩, same.payload⟩
    have marked : wordOf (holding (holding (holding state .ethType typeLen) .gotIPV6 1)
        .offsetToIPV6 (UInt32.ofNat place)) .gotIPV6 ≠ 0 := by
      show (1 : UInt32) ≠ 0
      decide
    exact network_ipV6 typed place noIPV4 marked rfl inside
  · exact network_none ⟨⟨same.marks, same.headerLen⟩, same.payload⟩ noIPV4 noIPV6

/-- The decode of a frame behind its tag. -/
def decodeFrame (config : SFConfig) (headerLen : UInt32) (frame : UInt32 × Nat) : Decode Unit := do
  if headerLen < 34 then
    return ()
  let ipx ← peekForIPX frame.1 frame.2
  if ipx then
    return ()
  if frame.1 ≤ 1500 then
    let found ← decode8022 config frame.2
    match found with
    | none => return ()
    | some (typeLen, ptr) => decodeEthernetType headerLen typeLen ptr
  else
    decodeEthernetType headerLen frame.1 frame.2

theorem decodeLinkLayer_frames : decodeLinkLayer config = (do
    setWord .gotIPV4 0
    setWord .gotIPV6 0
    let headerLen ← getWord .headerLen
    if headerLen < 14 then
      return ()
    let dst ← peek .header 0 6
    sfLog config "dstMAC %02x%02x%02x%02x%02x%02x\n" [.bytes dst]
    setText .ethDst dst
    let src ← peek .header 6 6
    sfLog config "srcMAC %02x%02x%02x%02x%02x%02x\n" [.bytes src]
    setText .ethSrc src
    let frame ← decodeVLANTag config
    decodeFrame config headerLen frame) := rfl

theorem SameHeader.headerOctets {first second : SFSample} (same : SameHeader first second) :
    headerOctets buffer first = headerOctets buffer second := by
  funext offset count
  rw [SflowTool.headerOctets, SflowTool.headerOctets, same.marks]

theorem frame_fits_iff {state : SFSample} (same : SameLooks state sample)
    (noIPV4 : wordOf state .gotIPV4 = 0) (noIPV6 : wordOf state .gotIPV6 = 0) :
    Weakest buffer (InsideHeader buffer sample)
        (decodeFrame config (wordOf state .headerLen) (frameType buffer sample))
        (fun _ final => NetworkFits buffer final) state ↔
      match carriedType buffer sample with
      | none => PayloadInside sample
      | some (typeLen, place) =>
          if CarriesIPV4 buffer sample typeLen place then IPV4Fits buffer sample place
          else if CarriesIPV6 buffer sample typeLen place then IPV6Fits buffer sample place
          else PayloadInside sample := by
  have front : (frameType buffer sample).2 ≤ 18 := frameType_place
  have alike : llcType buffer state = llcType buffer sample := by
    funext start
    unfold llcType
    rw [same.headerByteOf, same.headerHalfOf, same.headerOctets]
  unfold carriedType
  generalize frameType buffer sample = frame at front ⊢
  obtain ⟨typeLen, start⟩ := frame
  have ipx : isIPX buffer state typeLen start = isIPX buffer sample typeLen start := by
    unfold isIPX
    rw [same.headerHalfOf]
  unfold decodeFrame
  simp only [weakest_bind, weakest_ite, weakest_pure]
  by_cases short : headerBytes sample < 34
  · rw [if_pos (by rw [UInt32.lt_iff_toNat_lt, same.headerLen]; exact short), if_pos (.inl short)]
    exact network_none same noIPV4 noIPV6
  have long : 34 ≤ headerBytes state := by
    rw [same.headerBytes]
    exact Nat.not_lt.mp short
  rw [if_neg (by rw [UInt32.lt_iff_toNat_lt, same.headerLen]; exact short), ← same.inside,
    ipx_fits_iff _ _ (by simp only at front; omega), ipx]
  by_cases found : isIPX buffer sample typeLen start
  · rw [if_pos found, if_pos (.inr found)]
    exact network_none same noIPV4 noIPV6
  have neither : ¬(headerBytes sample < 34 ∨ isIPX buffer sample typeLen start = true) := by
    rintro (brief | known)
    · exact short brief
    · exact found known
  rw [if_neg found, if_neg neither]
  by_cases length : typeLen ≤ 1500
  · rw [if_pos length, if_pos length, llc_fits_iff _ (by simp only at front; omega), alike]
    cases named : llcType buffer sample start with
    | none => exact network_none same noIPV4 noIPV6
    | some carried =>
        have place := llcType_place named
        rw [same.inside]
        exact ethernet_type_behind same noIPV4 noIPV6 carried.1 carried.2
          (by rw [← same.headerBytes]; simp only at front; omega)
  · rw [if_neg length, if_neg length, same.inside]
    exact ethernet_type_behind same noIPV4 noIPV6 typeLen start
      (by rw [← same.headerBytes]; simp only at front; omega)

theorem link_fits_iff :
    Weakest buffer (InsideHeader buffer sample) (decodeLinkLayer config)
        (fun _ final => NetworkFits buffer final) sample ↔ EthernetFits buffer sample := by
  rw [decodeLinkLayer_frames]
  simp (disch := first | exact ⟨rfl, rfl⟩ | decide) only [weakest_bind, weakest_ite,
    weakest_getWord, weakest_setWord, weakest_setText, weakest_sfLog, weakest_pure, weakest_octets]
  unfold EthernetFits
  have cleared : SameLooks (holding (holding sample .gotIPV4 0) .gotIPV6 0) sample :=
    ⟨⟨rfl, rfl⟩, rfl⟩
  rw [cleared.headerLen]
  by_cases long : 14 ≤ headerBytes sample
  · have behind (state : SFSample) (same : SameLooks state sample)
        (noIPV4 : wordOf state .gotIPV4 = 0) (noIPV6 : wordOf state .gotIPV6 = 0) :
        Weakest buffer (InsideHeader buffer sample) (decodeVLANTag config) (fun frame middle =>
            Weakest buffer (InsideHeader buffer sample)
              (decodeFrame config (wordOf sample .headerLen) frame)
              (fun _ final => NetworkFits buffer final) middle) state ↔
          (Tagged buffer sample → 18 ≤ headerBytes sample) ∧
            match carriedType buffer sample with
            | none => PayloadInside sample
            | some (typeLen, place) =>
                if CarriesIPV4 buffer sample typeLen place then IPV4Fits buffer sample place
                else if CarriesIPV6 buffer sample typeLen place then IPV6Fits buffer sample place
                else PayloadInside sample := by
      have tagged : Tagged buffer state ↔ Tagged buffer sample := by
        rw [Tagged, Tagged, same.headerHalfOf]
      have frame : frameType buffer state = frameType buffer sample := by
        unfold frameType
        simp only [tagged, same.headerHalfOf]
      have decoded : SameLooks (tagDecoded buffer state) sample ∧
          wordOf (tagDecoded buffer state) .gotIPV4 = 0 ∧
          wordOf (tagDecoded buffer state) .gotIPV6 = 0 := by
        unfold tagDecoded
        split
        · exact ⟨⟨⟨same.marks, same.headerLen⟩, same.payload⟩, noIPV4, noIPV6⟩
        · exact ⟨same, noIPV4, noIPV6⟩
      obtain ⟨looks, left, right⟩ := decoded
      have rest := @frame_fits_iff config buffer sample (tagDecoded buffer state) looks left right
      rw [looks.headerLen] at rest
      rw [← rest, ← same.inside, tag_fits_iff (by rw [same.headerBytes]; exact long), tagged, frame,
        same.headerBytes]
    rw [if_neg (show ¬wordOf sample .headerLen < 14 from fun short => absurd
      (UInt32.lt_iff_toNat_lt.mp short) (Nat.not_lt.mpr long)), if_pos long,
      and_iff_right (by omega), and_iff_right (by omega)]
    refine behind _ ?_ ?_ ?_
    · exact ⟨⟨rfl, rfl⟩, rfl⟩
    · rfl
    · rfl
  · rw [if_pos (show wordOf sample .headerLen < 14 from UInt32.lt_iff_toNat_lt.mpr (Nat.not_le.mp long)),
      if_neg long]
    exact network_none cleared rfl rfl

/-- An 802.11 frame is looked at from 24 bytes on, the fourth address of a data frame between
access points is not covered by that. -/
def WifiFits (buffer : Buffer) (sample : SFSample) : Prop :=
  (24 ≤ headerBytes sample → isDataFrame (frameControl buffer sample) →
    toDSOf (frameControl buffer sample) = true → fromDSOf (frameControl buffer sample) = true →
      30 ≤ headerBytes sample) ∧ PayloadInside sample

theorem source_inside (toDS fromDS : Bool) (bytes : Nat) (long : 24 ≤ bytes) :
    (sourceField toDS fromDS).offset + 6 ≤ bytes ↔ (toDS = true → fromDS = true → 30 ≤ bytes) := by
  cases toDS <;> cases fromDS <;> simp [sourceField, FrameAddress.offset] <;> omega

theorem wifi_fits_iff :
    Weakest buffer (InsideHeader buffer sample) (decode80211MAC config)
        (fun _ final => NetworkFits buffer final) sample ↔ WifiFits buffer sample := by
  have cleared : SameLooks (holding (holding sample .gotIPV4 0) .gotIPV6 0) sample :=
    ⟨⟨rfl, rfl⟩, rfl⟩
  have none : NetworkFits buffer (holding (holding sample .gotIPV4 0) .gotIPV6 0) ↔
    PayloadInside sample := network_none cleared rfl rfl
  unfold decode80211MAC WifiFits
  simp (disch := first | exact ⟨rfl, rfl⟩ | decide) only [weakest_bind, weakest_ite,
    weakest_getWord, weakest_setWord, weakest_setText, weakest_sfLog, weakest_pure, weakest_octets,
    weakest_headerByte]
  rw [cleared.headerLen]
  by_cases long : 24 ≤ headerBytes sample
  · rw [if_neg (show ¬wordOf sample .headerLen < 24 from fun short => absurd
      (UInt32.lt_iff_toNat_lt.mp short) (Nat.not_lt.mpr long))]
    have copied (one two : Text) : NetworkFits buffer (holdingText (holdingText (holding (holding
        sample .gotIPV4 0) .gotIPV6 0) .ethSrc one) .ethDst two) ↔ PayloadInside sample :=
      network_none ⟨⟨rfl, rfl⟩, rfl⟩ rfl rfl
    simp only [copied, none, cleared.headerByteOf]
    rw [show headerByteOf buffer sample 1 <<< 8 + headerByteOf buffer sample 0 =
      frameControlWord buffer sample from rfl, ← frameControlWord_toNat]
    generalize frameControlWord buffer sample = control
    have source := sourceOffset_named control
    unfold sourceOffset at source
    have destination : (if (control >>> 8) &&& 1 ≠ 0 then 16 else 4) + 6 ≤ headerBytes sample := by
      split <;> omega
    rw [source, source_inside _ _ _ long, and_iff_right destination]
    simp only [controlBits]
    by_cases data : isDataFrame control.toNat
    · rw [if_pos data]
      constructor
      · rintro ⟨-, -, -, -, fits, -, -, inside⟩
        exact ⟨fun _ _ => fits, inside⟩
      · rintro ⟨fits, inside⟩
        exact ⟨by omega, by omega, by omega, by omega, fits long data, by omega, by omega, inside⟩
    · rw [if_neg data]
      constructor
      · rintro ⟨-, -, -, inside⟩
        exact ⟨fun _ other => absurd other data, inside⟩
      · rintro ⟨-, inside⟩
        exact ⟨by omega, by omega, by omega, inside⟩
  · rw [if_pos (show wordOf sample .headerLen < 24 from
      UInt32.lt_iff_toNat_lt.mpr (Nat.not_le.mp long)), none]
    exact (and_iff_right fun fits => absurd fits long).symm

/-- The decode of what a header carries, behind the flags that its dissection has set. -/
def decodeNetwork (config : SFConfig) : Decode Unit := do
  let gotIPV4 ← getWord .gotIPV4
  if gotIPV4 ≠ 0 then
    logIPSize config .offsetToIPV4
    decodeIPV4 config
  else
    let gotIPV6 ← getWord .gotIPV6
    when (gotIPV6 ≠ 0) do
      logIPSize config .offsetToIPV6
      decodeIPV6 config

theorem network_fits_iff :
    Weakest buffer (InsideHeader buffer sample) (decodeNetwork config)
        (fun _ final => Framed final ∧ PayloadInside final) sample ↔ NetworkFits buffer sample := by
  unfold decodeNetwork NetworkFits logIPSize Decoder.when
  simp only [weakest_bind, weakest_ite, weakest_getWord, weakest_sfLog]
  by_cases ipV4 : wordOf sample .gotIPV4 ≠ 0
  · rw [if_pos ipV4, if_pos ipV4]
    exact ipV4_fits_iff ipV4
  rw [if_neg ipV4, if_neg ipV4]
  by_cases ipV6 : wordOf sample .gotIPV6 ≠ 0
  · rw [if_pos ipV6, if_pos ipV6]
    exact ipV6_fits_iff ipV6
  · rw [if_neg ipV6, if_neg ipV6]
    exact Iff.rfl

/-- The dissection of a sampled header, once it has been skipped. -/
def decodeHeader (config : SFConfig) (headerProtocol : UInt32) : Decode Unit := do
  dissectHeader config headerProtocol
  decodeNetwork config

theorem readHeaderBytes_dissects (headerProtocol headerLen : UInt32) :
    readHeaderBytes config headerProtocol headerLen = (do
      setWord .gotHeader 1
      let octets ← skipBytes headerLen
      sfLog config "headerBytes %s\n" [.bytes (octets.take headerLen.toNat)]
      note (.headerProtocol headerProtocol)
      decodeHeader config headerProtocol) := by
  simp only [readHeaderBytes, decodeHeader, decodeNetwork, LawfulMonad.bind_assoc]

/-- What the header protocols need: an undissected header is decoded by the flags that an
earlier element has left, and for the IP protocols the other family's flag is left. -/
def HeaderFits (buffer : Buffer) (sample : SFSample) (headerProtocol : UInt32) : Prop :=
  if headerProtocol = 1 then EthernetFits buffer sample
  else if headerProtocol = 11 then EarlierIPV6Inside sample ∧ IPV4Fits buffer sample 0
  else if headerProtocol = 12 then
    if wordOf sample .gotIPV4 ≠ 0 then IPV4Fits buffer sample (wordOf sample .offsetToIPV4).toNat
    else IPV6Fits buffer sample 0
  else if headerProtocol = 15 then WifiFits buffer sample
  else headerProtocol ∈ undissectedProtocols → NetworkFits buffer sample

/-- The decoders look at bytes of the sampled header only and leave offsets inside it. -/
structure HeaderConfined (config : SFConfig) (buffer : Buffer) (sample : SFSample)
    (headerProtocol : UInt32) : Prop where
  reads : PeeksInside buffer (sample.marks .header) (sample.marks .header + headerBytes sample)
    (decodeHeader config headerProtocol) sample
  offsets : (run buffer (decodeHeader config headerProtocol) sample).outcome = .ok () →
    Framed (run buffer (decodeHeader config headerProtocol) sample).state ∧
      PayloadInside (run buffer (decodeHeader config headerProtocol) sample).state

theorem confined_iff_weakest (headerProtocol : UInt32) :
    HeaderConfined config buffer sample headerProtocol ↔
      Weakest buffer (InsideHeader buffer sample) (decodeHeader config headerProtocol)
        (fun _ final => Framed final ∧ PayloadInside final) sample := by
  rw [weakest_iff]
  constructor
  · rintro ⟨reads, offsets⟩
    refine ⟨reads, ?_⟩
    unfold Run.Returning
    split
    · rename_i value returned
      exact offsets returned
    · trivial
  · rintro ⟨reads, returning⟩
    refine ⟨reads, fun returned => ?_⟩
    unfold Run.Returning at returning
    rw [returned] at returning
    exact returning

/-- The flags and offsets that the dissection leaves decide about the rest. -/
theorem dissected_iff (headerProtocol : UInt32) :
    HeaderConfined config buffer sample headerProtocol ↔
      Weakest buffer (InsideHeader buffer sample) (dissectHeader config headerProtocol)
        (fun _ final => NetworkFits buffer final) sample := by
  have uses : Uses HeaderKeptOp (dissectHeader config headerProtocol) := inferInstance
  have marks := uses_keeps_mark HeaderKeptOp .header (fun allow => allow rfl) buffer _ uses sample
  have length := uses_keeps HeaderKeptOp (.word .headerLen) (fun _ allow => allow.1 rfl) buffer _
    uses sample
  rw [confined_iff_weakest, decodeHeader, weakest_bind]
  apply weakest_congr
  intro _
  generalize (run buffer (dissectHeader config headerProtocol) sample).state = final at marks length ⊢
  have bytes : headerBytes final = headerBytes sample := congrArg UInt32.toNat length
  have inside : InsideHeader buffer final = InsideHeader buffer sample := by
    rw [InsideHeader, InsideHeader, marks, bytes]
  rw [← inside]
  exact network_fits_iff

theorem ipV4_marked :
    NetworkFits buffer (holding (holding sample .gotIPV4 1) .offsetToIPV4 0) ↔
      EarlierIPV6Inside sample ∧ IPV4Fits buffer sample 0 := by
  have same : SameLooks (holding (holding sample .gotIPV4 1) .offsetToIPV4 0) sample :=
    ⟨⟨rfl, rfl⟩, rfl⟩
  have marked : wordOf (holding (holding sample .gotIPV4 1) .offsetToIPV4 0) .gotIPV4 ≠ 0 := by
    show (1 : UInt32) ≠ 0
    decide
  exact network_ipV4 same 0 marked rfl (Nat.zero_le _)

theorem ipV6_marked :
    NetworkFits buffer (holding (holding sample .gotIPV6 1) .offsetToIPV6 0) ↔
      if wordOf sample .gotIPV4 ≠ 0 then IPV4Fits buffer sample (wordOf sample .offsetToIPV4).toNat
      else IPV6Fits buffer sample 0 := by
  have same : SameLooks (holding (holding sample .gotIPV6 1) .offsetToIPV6 0) sample :=
    ⟨⟨rfl, rfl⟩, rfl⟩
  have marked : wordOf (holding (holding sample .gotIPV6 1) .offsetToIPV6 0) .gotIPV6 ≠ 0 := by
    show (1 : UInt32) ≠ 0
    decide
  by_cases ipV4 : wordOf sample .gotIPV4 = 0
  · rw [if_neg (not_not.mpr ipV4)]
    exact network_ipV6 same 0 ipV4 marked rfl (Nat.zero_le _)
  · rw [if_pos ipV4]
    have place : (wordOf sample .offsetToIPV4).toNat ≤ headerBytes sample ∨
        ¬(wordOf sample .offsetToIPV4).toNat ≤ headerBytes sample := Decidable.em _
    rcases place with inside | outside
    · refine (network_ipV4 same _ ipV4 (UInt32.ofNat_toNat).symm inside).trans ?_
      exact ⟨And.right, fun fits => ⟨fun _ => Nat.zero_le _, fits⟩⟩
    · constructor
      · rintro ⟨⟨framed, -⟩, -⟩
        exact absurd (framed ipV4) outside
      · rintro ⟨fits, -⟩
        omega

/-- The header dissection stays inside the sampled header exactly where the header is long
enough for the branch that is taken. -/
theorem header_confined_iff (config : SFConfig) (buffer : Buffer) (sample : SFSample)
    (headerProtocol : UInt32) :
    HeaderConfined config buffer sample headerProtocol ↔
      HeaderFits buffer sample headerProtocol := by
  rw [dissected_iff]
  unfold dissectHeader HeaderFits
  by_cases ethernet : headerProtocol = 1
  · rw [if_pos ethernet, if_pos ethernet]
    exact link_fits_iff
  rw [if_neg ethernet, if_neg ethernet]
  by_cases ipV4 : headerProtocol = 11
  · rw [if_pos ipV4, if_pos ipV4, weakest_bind, weakest_setWord, weakest_setWord]
    exact ipV4_marked
  rw [if_neg ipV4, if_neg ipV4]
  by_cases ipV6 : headerProtocol = 12
  · rw [if_pos ipV6, if_pos ipV6, weakest_bind, weakest_setWord, weakest_setWord]
    exact ipV6_marked
  rw [if_neg ipV6, if_neg ipV6]
  by_cases wifi : headerProtocol = 15
  · rw [if_pos wifi, if_pos wifi]
    exact wifi_fits_iff
  rw [if_neg wifi, if_neg wifi]
  by_cases known : headerProtocol ∈ undissectedProtocols
  · rw [if_pos known, weakest_sfLog]
    exact ⟨fun fits _ => fits, fun fits => fits known⟩
  · rw [if_neg known]
    constructor
    · exact fun _ member => absurd member known
    · exact fun _ => ⟨trivial, trivial, trivial⟩

/-- An IPv4 header and the first eight bytes of a TCP header. -/
def truncatedTCP : List UInt8 :=
  [0x45, 0, 0, 40, 0, 0, 0, 0, 64, 6, 0, 0, 10, 0, 0, 1, 10, 0, 0, 2, 0, 80, 0, 81, 0, 0, 0, 0]

theorem truncated_tcp_overlooked :
    ¬HeaderConfined (defaultConfig .full) (.ofBytes truncatedTCP) (capturedSample 28) 11 := by
  intro confined
  exact absurd confined.reads (by decide +kernel)

end Dissection

end SflowTool
