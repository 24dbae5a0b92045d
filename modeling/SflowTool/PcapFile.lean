import SflowTool.Stepping
import SflowTool.Sessions
import SflowTool.Exports
import SflowTool.Wire

/-! Datagrams read from a pcap file. Each record is read into one buffer and handed on behind
the headers that are found in it; what the search for them returns when it finds none is used
as an offset like any other. -/
namespace SflowTool
open Decoding Stepping

section Encapsulation

def nftEthHdrSiz : Nat := 14

/-- The Ethernet header and an IPv4 header. -/
def nftMinSiz : Nat := nftEthHdrSiz + 20

def typeLenAt (buf : Nat → UInt8) (ptr : Nat) : Nat := (buf ptr).toNat * 256 + (buf (ptr + 1)).toNat

/-- The loop over the VLAN tags, each of four bytes. -/
def skipVlanTags (buf : Nat → UInt8) (fin : Nat) : Nat → Nat → Nat → Option (Nat × Nat)
  | 0, _, _ => none
  | fuel + 1, typeLen, ptr =>
      if typeLen = 0x8100 ∨ typeLen = 0x9100 then
        if ptr + 4 ≥ fin then none
        else skipVlanTags buf fin fuel (typeLenAt buf (ptr + 2)) (ptr + 4)
      else some (typeLen, ptr)

def pcapIPX (buf : Nat → UInt8) (typeLen ptr : Nat) : Prop :=
  (typeLen = 0x0200 ∨ typeLen = 0x0201 ∨ typeLen = 0x0600) ∧
    (buf ptr = 0xff ∧ buf (ptr + 1) = 0xff) ∧
      30 ≤ typeLenAt buf (ptr + 2) ∧ typeLenAt buf (ptr + 2) ≤ 30 + 546

instance (buf : Nat → UInt8) (typeLen ptr : Nat) : Decidable (pcapIPX buf typeLen ptr) :=
  inferInstanceAs (Decidable (_ ∧ _))

/-- 802.3 and 802.2 headers: SNAP, or IP over 802.2. -/
def skip8023 (buf : Nat → UInt8) (typeLen ptr : Nat) : Option (Nat × Nat) :=
  if typeLen ≤ 1500 then
    if buf ptr = 0xAA ∧ buf (ptr + 1) = 0xAA ∧ buf (ptr + 2) = 0x03 then
      if buf (ptr + 3) ≠ 0 ∨ buf (ptr + 4) ≠ 0 ∨ buf (ptr + 5) ≠ 0 then none
      else some (typeLenAt buf (ptr + 6), ptr + 8)
    else if buf ptr = 0x06 ∧ buf (ptr + 1) = 0x06 ∧ buf (ptr + 2) &&& 0x01 ≠ 0 then
      some (0x0800, ptr + 3)
    else none
  else some (typeLen, ptr)

def skipIPV4 (buf : Nat → UInt8) (fin typeLen ptr : Nat) : Option Nat :=
  if typeLen = 0x0800 then
    if fin - ptr < 20 then none
    else if buf ptr >>> 4 ≠ 4 then none
    else if buf ptr &&& 15 < 5 then none
    else some (ptr + ((buf ptr &&& 15) <<< 2).toNat)
  else some ptr

def skipIPV6 (buf : Nat → UInt8) (typeLen ptr : Nat) : Option Nat :=
  if typeLen = 0x86DD then
    if buf ptr >>> 4 ≠ 6 then none else some (ptr + 40)
  else some ptr

/-- The type and the place behind the link header. -/
def skipLinkHeader (buf : Nat → UInt8) (fin typeLen ptr : Nat) : Option (Nat × Nat) :=
  if fin - ptr < nftMinSiz then none
  else if pcapIPX buf typeLen ptr then none
  else skip8023 buf typeLen ptr

/-- The place behind an IP header and a UDP header. -/
def skipIPHeader (buf : Nat → UInt8) (fin typeLen ptr : Nat) : Option Nat :=
  if ptr ≥ fin then none
  else do
    let ptr ← skipIPV4 buf fin typeLen ptr
    let ptr ← skipIPV6 buf typeLen ptr
    if ptr + 8 ≥ fin then none else some (ptr + 8)

/-- The offset of the datagram; the source returns -1 for `none`. -/
def pcapOffsetToSFlow (buf : Nat → UInt8) (len : Nat) : Option Nat :=
  if len < nftEthHdrSiz then none
  else do
    let tagged ← skipVlanTags buf len len (typeLenAt buf 12) 14
    let linked ← skipLinkHeader buf len tagged.1 tagged.2
    skipIPHeader buf len linked.1 linked.2

end Encapsulation

section Reading

/-- The bytes on the stack by their distance from the record buffer. -/
abbrev Memory := Int → UInt8

def Memory.filled (memory : Memory) (octets : List UInt8) : Memory := fun place =>
  if 0 ≤ place ∧ place < octets.length then octets.getD place.toNat 0 else memory place

/-- What reading one item from a file comes to. -/
inductive Fread where
  | read (octets rest : List UInt8)
  | short
  | overran

/-- Reading one item of a size into a buffer. An item of no bytes does not count as read. -/
def fread (capacity size : Nat) (file : List UInt8) : Fread :=
  if size = 0 then .short
  else if capacity < min size file.length then .overran
  else if file.length < size then .short
  else .read (file.take size) (file.drop size)

/-- On a little-endian host both turn a word around. -/
def myByteSwap32 (n : UInt32) : UInt32 := htonl n

structure PcapPkthdr where
  tsSec : UInt32
  tsUsec : UInt32
  caplen : UInt32
  len : UInt32

def pcapWord (pcapSwap : Bool) (octets : List UInt8) (offset : Nat) : UInt32 :=
  let value := leWord ((octets.drop offset).take 4)
  if pcapSwap then myByteSwap32 value else value

def pcapHalf (pcapSwap : Bool) (octets : List UInt8) (offset : Nat) : UInt32 :=
  let octets := (octets.drop offset).take 2
  UInt32.ofNat (beNat (if pcapSwap then octets else octets.reverse))

def pcapPkthdrSize : Nat := 16

def pcapPkthdr (pcapSwap : Bool) (octets : List UInt8) : PcapPkthdr where
  tsSec := pcapWord pcapSwap octets 0
  tsUsec := pcapWord pcapSwap octets 4
  caplen := pcapWord pcapSwap octets 8
  len := pcapWord pcapSwap octets 12

def pcapBufSize : Nat := 2048

/-- What the process finds in its surroundings while it reads a record and decodes it. -/
structure PcapSurroundings where
  memory : Memory
  strerror : Text
  time : UInt64
  leveldbError : Option Text
  stackOctets : List UInt8

/-- What is handed to `receiveSFlowDatagram`: where it begins in the memory around the
buffer, and how long it is. -/
structure PcapDatagram where
  memory : Memory
  rawSample : Int
  rawSampleLen : UInt32
  pcapTimestamp : UInt32

def PcapDatagram.octets (datagram : PcapDatagram) : List UInt8 :=
  (List.range datagram.rawSampleLen.toNat).map fun index : Nat =>
    datagram.memory (datagram.rawSample + (index : Int))

def pcapDatagram (buf : Memory) (hdr : PcapPkthdr) : PcapDatagram :=
  let skipBytes : Int :=
    match pcapOffsetToSFlow (fun index => buf index) hdr.caplen.toNat with
    | some offset => offset
    | none => -1
  ⟨buf, skipBytes, hdr.caplen - UInt32.ofInt skipBytes, hdr.tsSec⟩

/-- What a call comes to: it returns 0 at the end of the file, the process exits, the buffer
is overrun, or it returns 1. -/
inductive PcapRead where
  | ended
  | exited (fatal : Fatal)
  | overran
  | skipped (message : Line) (rest : List UInt8)
  | handed (datagram : PcapDatagram) (rest : List UInt8)

variable (config : SFConfig) (readPcapFileName : Text) (pcapSwap : Bool)

/-- The padding goes into the buffer the record is read into. -/
def readHdrPad (file : List UInt8) : Fread :=
  if config.tcpdumpHdrPad > 0 then fread pcapBufSize config.tcpdumpHdrPad.toNat file
  else .read [] file

def readPcapPacket (around : PcapSurroundings) (file : List UInt8) : PcapRead :=
  match fread pcapPkthdrSize pcapPkthdrSize file with
  | .read header file =>
      match readHdrPad config file with
      | .read padding file =>
          let hdr := pcapPkthdr pcapSwap header
          match fread pcapBufSize hdr.caplen.toNat file with
          | .read captured rest =>
              if hdr.caplen < hdr.len then
                .skipped ⟨"incomplete datagram (pcap snaplen too short)\n", []⟩ rest
              else
                .handed (pcapDatagram ((around.memory.filled padding).filled captured) hdr) rest
          | .short =>
              .exited ⟨⟨"unable to read pcap packet from %s : %s\n",
                [.text readPcapFileName, .text around.strerror]⟩, -34⟩
          | .overran => .overran
      | .short =>
          .exited ⟨⟨"unable to read pcap header pad (%d bytes)\n", [.word config.tcpdumpHdrPad]⟩, -33⟩
      | .overran => .overran
  | _ => .ended

end Reading

section Offsets

variable {buf other : Nat → UInt8} {fin : Nat}

theorem typeLenAt_congr (agree : ∀ index < fin, buf index = other index) {ptr : Nat}
    (inside : ptr + 1 < fin) : typeLenAt buf ptr = typeLenAt other ptr := by
  unfold typeLenAt
  rw [agree ptr (by omega), agree (ptr + 1) inside]

/-- A tag at the end of the captured bytes ends the search, whatever is read behind them. -/
theorem skipVlanTags_congr (agree : ∀ index < fin, buf index = other index)
    (fuel typeLen ptr : Nat) :
    skipVlanTags buf fin fuel typeLen ptr = skipVlanTags other fin fuel typeLen ptr := by
  induction fuel generalizing typeLen ptr with
  | zero => rfl
  | succ fuel ih =>
      unfold skipVlanTags
      by_cases more : ptr + 4 ≥ fin
      · rw [if_pos more, if_pos more]
      · rw [if_neg more, if_neg more, typeLenAt_congr agree (by omega), ih]

theorem pcapIPX_congr (agree : ∀ index < fin, buf index = other index) (typeLen : Nat) {ptr : Nat}
    (inside : ptr + 3 < fin) : pcapIPX buf typeLen ptr ↔ pcapIPX other typeLen ptr := by
  unfold pcapIPX
  rw [agree ptr (by omega), agree (ptr + 1) (by omega), typeLenAt_congr agree inside]

theorem skip8023_congr (agree : ∀ index < fin, buf index = other index) (typeLen : Nat) {ptr : Nat}
    (inside : ptr + 7 < fin) : skip8023 buf typeLen ptr = skip8023 other typeLen ptr := by
  unfold skip8023
  rw [agree ptr (by omega), agree (ptr + 1) (by omega), agree (ptr + 2) (by omega),
    agree (ptr + 3) (by omega), agree (ptr + 4) (by omega), agree (ptr + 5) (by omega),
    typeLenAt_congr agree inside]

theorem skipIPV4_congr (agree : ∀ index < fin, buf index = other index) (typeLen : Nat) {ptr : Nat}
    (inside : ptr < fin) : skipIPV4 buf fin typeLen ptr = skipIPV4 other fin typeLen ptr := by
  unfold skipIPV4
  rw [agree ptr inside]

theorem skipLinkHeader_congr (agree : ∀ index < fin, buf index = other index)
    (typeLen ptr : Nat) :
    skipLinkHeader buf fin typeLen ptr = skipLinkHeader other fin typeLen ptr := by
  unfold skipLinkHeader
  by_cases short : fin - ptr < nftMinSiz
  · rw [if_pos short, if_pos short]
  · have room : 34 ≤ fin - ptr := Nat.le_of_not_lt short
    rw [if_neg short, if_neg short, skip8023_congr agree typeLen (by omega)]
    exact if_congr (pcapIPX_congr agree typeLen (by omega)) rfl rfl

/-- Where an IPv6 header is looked for, no IPv4 header was skipped. -/
theorem skipIPHeader_congr (agree : ∀ index < fin, buf index = other index)
    (typeLen ptr : Nat) :
    skipIPHeader buf fin typeLen ptr = skipIPHeader other fin typeLen ptr := by
  unfold skipIPHeader
  by_cases behind : ptr ≥ fin
  · rw [if_pos behind, if_pos behind]
  · have inside : ptr < fin := Nat.lt_of_not_le behind
    rw [if_neg behind, if_neg behind, skipIPV4_congr agree typeLen inside]
    refine Option.bind_congr fun next skipped => ?_
    have ipv6 : skipIPV6 buf typeLen next = skipIPV6 other typeLen next := by
      unfold skipIPV6
      by_cases marked : typeLen = 0x86DD
      · subst marked
        cases skipped
        rw [agree ptr inside]
      · rw [if_neg marked, if_neg marked]
    rw [ipv6]

/-- The offset depends on the captured bytes only. -/
theorem pcapOffsetToSFlow_congr (agree : ∀ index < fin, buf index = other index) :
    pcapOffsetToSFlow buf fin = pcapOffsetToSFlow other fin := by
  unfold pcapOffsetToSFlow
  by_cases short : fin < nftEthHdrSiz
  · rw [if_pos short, if_pos short]
  · have ethernet : 14 ≤ fin := Nat.le_of_not_lt short
    rw [if_neg short, if_neg short, typeLenAt_congr agree (by omega), skipVlanTags_congr agree]
    refine Option.bind_congr fun tagged _ => ?_
    rw [skipLinkHeader_congr agree]
    exact Option.bind_congr fun linked _ => skipIPHeader_congr agree linked.1 linked.2

/-- An offset that is found lies in the captured bytes. -/
theorem pcapOffsetToSFlow_lt {offset : Nat} (found : pcapOffsetToSFlow buf fin = some offset) :
    offset < fin := by
  unfold pcapOffsetToSFlow at found
  by_cases short : fin < nftEthHdrSiz
  · rw [if_pos short] at found
    cases found
  · rw [if_neg short] at found
    obtain ⟨tagged, -, found⟩ := Option.bind_eq_some_iff.mp found
    obtain ⟨linked, -, found⟩ := Option.bind_eq_some_iff.mp found
    unfold skipIPHeader at found
    by_cases behind : linked.2 ≥ fin
    · rw [if_pos behind] at found
      cases found
    · rw [if_neg behind] at found
      obtain ⟨first, -, found⟩ := Option.bind_eq_some_iff.mp found
      obtain ⟨second, -, found⟩ := Option.bind_eq_some_iff.mp found
      by_cases last : second + 8 ≥ fin
      · rw [if_pos last] at found
        cases found
      · rw [if_neg last] at found
        cases found
        exact Nat.lt_of_not_le last

end Offsets

section Records

/-- A record as it lies in the file. -/
structure PcapRecord where
  header : List UInt8
  padding : List UInt8
  captured : List UInt8

namespace PcapRecord

def hdr (record : PcapRecord) (pcapSwap : Bool) : PcapPkthdr := pcapPkthdr pcapSwap record.header

/-- Where the datagram begins in the captured bytes. -/
def offset (record : PcapRecord) : Option Nat :=
  pcapOffsetToSFlow (fun index => record.captured.getD index 0) record.captured.length

/-- The file goes on with the whole record. -/
structure Begins (pad : UInt32) (pcapSwap : Bool) (file : List UInt8) (record : PcapRecord)
    (rest : List UInt8) : Prop where
  laid : file = record.header ++ (record.padding ++ (record.captured ++ rest))
  header : record.header.length = pcapPkthdrSize
  padding : record.padding.length = pad.toNat
  captured : record.captured.length = (record.hdr pcapSwap).caplen.toNat

/-- A record that is to be skipped. -/
def Unusable (record : PcapRecord) : Prop :=
  record.offset = none ∨ pcapBufSize < record.captured.length

/-- A record the code reads as it should: it fits the buffer and is not empty, and its
datagram is found, or it is skipped since it was cut when it was captured. -/
def Readable (pad : UInt32) (pcapSwap : Bool) (record : PcapRecord) : Prop :=
  pad.toNat ≤ pcapBufSize ∧ record.captured ≠ [] ∧ record.captured.length ≤ pcapBufSize ∧
    ((record.hdr pcapSwap).caplen < (record.hdr pcapSwap).len ∨ record.offset ≠ none)

end PcapRecord

/-- What is handed on is what follows the headers of one whole record, all in the buffer. -/
structure PcapDatagram.PartOf (datagram : PcapDatagram) (record : PcapRecord) : Prop where
  fits : record.captured.length ≤ pcapBufSize
  found : ∃ offset : Nat, record.offset = some offset ∧ datagram.rawSample = offset ∧
    offset + datagram.rawSampleLen.toNat = record.captured.length ∧
    datagram.octets = record.captured.drop offset

/-- A call hands on a part of the record it has read, or skips the record; it skips one that
is to be skipped. -/
structure PcapRead.Sound (pad : UInt32) (pcapSwap : Bool) (file : List UInt8) (read : PcapRead) :
    Prop where
  part : ∀ datagram rest, read = .handed datagram rest →
    ∃ record, record.Begins pad pcapSwap file rest ∧ datagram.PartOf record
  on : ∀ record rest, PcapRecord.Begins pad pcapSwap file record rest →
    (∃ message, read = .skipped message rest) ∨
      ¬record.Unusable ∧ ∃ datagram, read = .handed datagram rest

theorem fread_laid {capacity : Nat} {octets rest : List UInt8} (some : octets ≠ [])
    (fits : octets.length ≤ capacity) :
    fread capacity octets.length (octets ++ rest) = .read octets rest := by
  have positive := List.length_pos_of_ne_nil some
  have total : (octets ++ rest).length = octets.length + rest.length := List.length_append
  unfold fread
  rw [if_neg (by omega), if_neg (by omega), if_neg (by omega), List.take_left, List.drop_left]

theorem fread_overran {capacity : Nat} {octets rest : List UInt8}
    (large : capacity < octets.length) :
    fread capacity octets.length (octets ++ rest) = .overran := by
  have total : (octets ++ rest).length = octets.length + rest.length := List.length_append
  unfold fread
  rw [if_neg (by omega), if_pos (by omega)]

theorem fread_read {capacity size : Nat} {file octets rest : List UInt8}
    (read : fread capacity size file = .read octets rest) :
    file = octets ++ rest ∧ octets.length = size ∧ size ≤ capacity := by
  unfold fread at read
  split_ifs at read with empty overrun short
  cases read
  refine ⟨(List.take_append_drop size file).symm, List.length_take_of_le (by omega), by omega⟩

theorem readHdrPad_laid {config : SFConfig} {padding rest : List UInt8}
    (length : padding.length = config.tcpdumpHdrPad.toNat) : readHdrPad config (padding ++ rest) =
      if config.tcpdumpHdrPad.toNat ≤ pcapBufSize then .read padding rest else .overran := by
  unfold readHdrPad
  by_cases padded : config.tcpdumpHdrPad > 0
  · have positive : 0 < padding.length := by
      rw [length]
      exact padded
    rw [if_pos padded, ← length]
    by_cases fits : padding.length ≤ pcapBufSize
    · rw [if_pos fits, fread_laid (List.ne_nil_of_length_pos positive) fits]
    · rw [if_neg fits, fread_overran (Nat.lt_of_not_le fits)]
  · have none : config.tcpdumpHdrPad.toNat = 0 := Nat.eq_zero_of_not_pos padded
    have empty : padding = [] := List.length_eq_zero_iff.mp (length.trans none)
    rw [if_neg padded, none, if_pos (Nat.zero_le _), empty]
    rfl

theorem readHdrPad_read {config : SFConfig} {file padding rest : List UInt8}
    (read : readHdrPad config file = .read padding rest) :
    file = padding ++ rest ∧ padding.length = config.tcpdumpHdrPad.toNat := by
  unfold readHdrPad at read
  by_cases padded : config.tcpdumpHdrPad > 0
  · rw [if_pos padded] at read
    exact ⟨(fread_read read).1, (fread_read read).2.1⟩
  · rw [if_neg padded] at read
    cases read
    exact ⟨rfl, (Nat.eq_zero_of_not_pos padded).symm⟩

/-- What is captured is what the buffer begins with. -/
theorem filled_captured (memory : Memory) (octets : List UInt8) {index : Nat}
    (inside : index < octets.length) : memory.filled octets index = octets.getD index 0 := by
  have within : (0 : Int) ≤ index ∧ (index : Int) < octets.length := by omega
  unfold Memory.filled
  rw [if_pos within]
  rfl

variable {config : SFConfig} {readPcapFileName : Text} {pcapSwap : Bool}
  {around : PcapSurroundings} {file rest : List UInt8} {record : PcapRecord}

/-- What the buffer holds once a record is read into it. -/
def PcapRecord.buf (record : PcapRecord) (around : PcapSurroundings) : Memory :=
  (around.memory.filled record.padding).filled record.captured

/-- What a call does with the record the file goes on with. -/
theorem readPcapPacket_begins
    (begins : record.Begins config.tcpdumpHdrPad pcapSwap file rest) :
    readPcapPacket config readPcapFileName pcapSwap around file =
      if pcapBufSize < config.tcpdumpHdrPad.toNat then .overran
      else if record.captured = [] then
        .exited ⟨⟨"unable to read pcap packet from %s : %s\n",
          [.text readPcapFileName, .text around.strerror]⟩, -34⟩
      else if pcapBufSize < record.captured.length then .overran
      else if (record.hdr pcapSwap).caplen < (record.hdr pcapSwap).len then
        .skipped ⟨"incomplete datagram (pcap snaplen too short)\n", []⟩ rest
      else .handed (pcapDatagram (record.buf around) (record.hdr pcapSwap)) rest := by
  obtain ⟨rfl, header, padding, captured⟩ := begins
  have first : fread pcapPkthdrSize pcapPkthdrSize
      (record.header ++ (record.padding ++ (record.captured ++ rest))) =
        .read record.header (record.padding ++ (record.captured ++ rest)) := by
    conv_lhs =>
      arg 2
      rw [← header]
    exact fread_laid (List.ne_nil_of_length_eq_add_one header) (Nat.le_of_eq header)
  unfold readPcapPacket
  rw [first]
  simp only
  rw [readHdrPad_laid padding]
  by_cases wide : pcapBufSize < config.tcpdumpHdrPad.toNat
  · rw [if_pos wide, if_neg (Nat.not_le.mpr wide)]
  · rw [if_neg wide, if_pos (Nat.le_of_not_lt wide)]
    simp only
    have size : (pcapPkthdr pcapSwap record.header).caplen.toNat = record.captured.length :=
      captured.symm
    by_cases empty : record.captured = []
    · have none : fread pcapBufSize record.captured.length (record.captured ++ rest) = .short :=
        if_pos (List.length_eq_zero_iff.mpr empty)
      rw [size, none, if_pos empty]
    · rw [if_neg empty]
      by_cases large : pcapBufSize < record.captured.length
      · rw [if_pos large, size, fread_overran large]
      · rw [if_neg large, size, fread_laid empty (Nat.le_of_not_lt large)]
        rfl

/-- A datagram is handed on only from a whole record that fits. -/
theorem readPcapPacket_handed {datagram : PcapDatagram}
    (handed : readPcapPacket config readPcapFileName pcapSwap around file =
      .handed datagram rest) :
    ∃ record : PcapRecord, record.Begins config.tcpdumpHdrPad pcapSwap file rest := by
  unfold readPcapPacket at handed
  split at handed
  · rename_i header file' first
    split at handed
    · rename_i padding file'' second
      simp only at handed
      split at handed
      · rename_i captured last third
        split_ifs at handed with cut
        cases handed
        obtain ⟨rfl, header, -⟩ := fread_read first
        obtain ⟨rfl, padding⟩ := readHdrPad_read second
        obtain ⟨rfl, captured, -⟩ := fread_read third
        exact ⟨⟨_, _, _⟩, rfl, header, padding, captured⟩
      · cases handed
      · cases handed
    · cases handed
    · cases handed
  · cases handed

/-- The datagram of a record in which an offset is found is what is captured from there on. -/
theorem pcapDatagram_part (begins : record.Begins config.tcpdumpHdrPad pcapSwap file rest)
    (fits : record.captured.length ≤ pcapBufSize) {offset : Nat}
    (found : record.offset = some offset) :
    (pcapDatagram (record.buf around) (record.hdr pcapSwap)).PartOf record := by
  have inside := pcapOffsetToSFlow_lt found
  have same : pcapOffsetToSFlow (fun index => record.buf around index)
      (record.hdr pcapSwap).caplen.toNat = some offset := by
    rw [← begins.captured, ← found]
    exact pcapOffsetToSFlow_congr fun index within => filled_captured _ _ within
  have bound := (record.hdr pcapSwap).caplen.toNat_lt
  have captured := begins.captured
  have skipped : (UInt32.ofInt (offset : Int)).toNat = offset := by
    have small : ((offset : Int) % 2 ^ 32).toNat = offset := by omega
    unfold UInt32.ofInt
    rw [small]
    exact UInt32.toNat_ofNat_of_lt' (by rw [UInt32.size]; omega)
  have length : ((record.hdr pcapSwap).caplen - UInt32.ofInt (offset : Int)).toNat =
      record.captured.length - offset := by
    have less : UInt32.ofInt (offset : Int) ≤ (record.hdr pcapSwap).caplen := by
      rw [UInt32.le_iff_toNat_le, skipped]
      omega
    rw [UInt32.toNat_sub_of_le _ _ less, skipped, captured]
  have datagram : pcapDatagram (record.buf around) (record.hdr pcapSwap) =
      ⟨record.buf around, offset, (record.hdr pcapSwap).caplen - UInt32.ofInt (offset : Int),
        (record.hdr pcapSwap).tsSec⟩ := by
    unfold pcapDatagram
    rw [same]
  rw [datagram]
  refine ⟨fits, offset, found, rfl, ?_, ?_⟩
  · rw [length]
    omega
  · refine List.ext_getElem ?_ fun index first second => ?_
    · simp only [PcapDatagram.octets, List.length_map, List.length_range, List.length_drop, length]
    · have within : offset + index < record.captured.length := by
        rw [List.length_drop] at second
        omega
      simp only [PcapDatagram.octets, List.getElem_map, List.getElem_range, List.getElem_drop]
      rw [← Int.natCast_add]
      exact (filled_captured _ _ within).trans (List.getD_eq_getElem _ _ within)

/-- A call is sound just when the record the file goes on with, if it does, is one the code
reads as it should. -/
theorem readPcapPacket_sound_iff (file : List UInt8) :
    (readPcapPacket config readPcapFileName pcapSwap around file).Sound config.tcpdumpHdrPad
        pcapSwap file ↔
      ∀ record rest, PcapRecord.Begins config.tcpdumpHdrPad pcapSwap file record rest →
        record.Readable config.tcpdumpHdrPad pcapSwap := by
  constructor
  · intro sound record rest begins
    have on := sound.on record rest begins
    rw [readPcapPacket_begins begins] at on
    split_ifs at on with wide empty large cut
    · rcases on with ⟨_, none⟩ | ⟨_, _, none⟩ <;> cases none
    · rcases on with ⟨_, none⟩ | ⟨_, _, none⟩ <;> cases none
    · rcases on with ⟨_, none⟩ | ⟨_, _, none⟩ <;> cases none
    · exact ⟨Nat.le_of_not_lt wide, empty, Nat.le_of_not_lt large, .inl cut⟩
    · rcases on with ⟨_, none⟩ | ⟨usable, -⟩
      · cases none
      · exact ⟨Nat.le_of_not_lt wide, empty, Nat.le_of_not_lt large,
          .inr fun lost => usable (.inl lost)⟩
  · intro readable
    constructor
    · intro datagram rest handed
      obtain ⟨record, begins⟩ := readPcapPacket_handed handed
      obtain ⟨wide, empty, fits, found⟩ := readable record rest begins
      rw [readPcapPacket_begins begins, if_neg (Nat.not_lt.mpr wide), if_neg empty,
        if_neg (Nat.not_lt.mpr fits)] at handed
      split_ifs at handed with cut
      obtain ⟨offset, found⟩ := Option.ne_none_iff_exists'.mp (found.resolve_left cut)
      cases handed
      exact ⟨record, begins, pcapDatagram_part begins fits found⟩
    · intro record rest begins
      obtain ⟨wide, empty, fits, found⟩ := readable record rest begins
      rw [readPcapPacket_begins begins, if_neg (Nat.not_lt.mpr wide), if_neg empty,
        if_neg (Nat.not_lt.mpr fits)]
      by_cases cut : (record.hdr pcapSwap).caplen < (record.hdr pcapSwap).len
      · rw [if_pos cut]
        exact .inl ⟨_, rfl⟩
      · rw [if_neg cut]
        refine .inr ⟨?_, _, rfl⟩
        rintro (lost | large)
        · exact found.resolve_left cut lost
        · exact Nat.not_lt.mpr fits large

end Records

section Runs

def tcpdumpMagic : UInt32 := 0xa1b2c3d4

def pcapFileHeaderSize : Nat := 24

/-- The order of the bytes, what is reported, and where the records begin. -/
def readPcapHeader (readPcapFileName strerror : Text) (file : List UInt8) :
    Except Fatal (Bool × Line × List UInt8) :=
  match fread pcapFileHeaderSize pcapFileHeaderSize file with
  | .read hdr rest =>
      let magic := pcapWord false hdr 0
      let version (pcapSwap : Bool) : Line := ⟨"pcap version=%d.%d snaplen=%d linktype=%d \n",
        [.word (pcapHalf pcapSwap hdr 4), .word (pcapHalf pcapSwap hdr 6),
          .word (pcapWord pcapSwap hdr 16), .word (pcapWord pcapSwap hdr 20)]⟩
      if magic = tcpdumpMagic then .ok (false, version false, rest)
      else if magic = myByteSwap32 tcpdumpMagic then .ok (true, version true, rest)
      else .error ⟨⟨"%s not recognized as a tcpdump file\n(magic number = %08x instead of %08x)\n",
        [.text readPcapFileName, .word magic, .word tcpdumpMagic]⟩, -31⟩
  | _ => .error ⟨⟨"unable to read pcap header from %s : %s\n",
      [.text readPcapFileName, .text strerror]⟩, -30⟩

/-- The loop over the records: where the file is read next, whether it goes on, what the
process holds, and the calls so far, each with where the file was before it. -/
structure PcapRun where
  file : List UInt8
  going : Bool
  pcapSwap : Bool
  process : SFSample
  reads : List (List UInt8 × PcapRead)

/-- The received bytes and what lies behind them. -/
def PcapDatagram.buffer (datagram : PcapDatagram) : Buffer where
  bytes := (List.range (datagram.rawSampleLen.toNat + pcapBufSize)).map fun index : Nat =>
    datagram.memory (datagram.rawSample + (index : Int))
  length := datagram.rawSampleLen.toNat
  held := by rw [List.length_map, List.length_range]; exact Nat.le_add_right _ _

def PcapDatagram.arrival (datagram : PcapDatagram) (around : PcapSurroundings) : Arrival where
  buffer := datagram.buffer
  sourceIP := clearedAddress
  pcapTimestamp := datagram.pcapTimestamp
  time := around.time
  leveldbError := around.leveldbError
  stackOctets := around.stackOctets

def Exits : Received → Bool
  | .exited _ => true
  | _ => false

variable (config : SFConfig) (readPcapFileName : Text)

/-- A round of the loop in `main`. -/
def pcapStep (around : PcapSurroundings) (run : PcapRun) : PcapRun :=
  if run.going then
    let read := readPcapPacket config readPcapFileName run.pcapSwap around run.file
    let run := { run with reads := run.reads ++ [(run.file, read)] }
    match read with
    | .handed datagram rest =>
        let decoded := receiveArrival config (datagram.arrival around) run.process
        { run with file := rest, process := decoded.state, going := !Exits (received decoded.outcome) }
    | .skipped _ rest => { run with file := rest }
    | _ => { run with going := false }
  else run

/-- The loop before its first round; it is not entered where the process has exited. -/
def startedPcap (strerror : Text) (file : List UInt8) : PcapRun :=
  match readPcapHeader readPcapFileName strerror file with
  | .ok (pcapSwap, _, rest) => ⟨rest, true, pcapSwap, startedProcess, []⟩
  | .error _ => ⟨file, false, false, startedProcess, []⟩

/-- Every call so far was sound. -/
def PcapRun.Sound (run : PcapRun) : Prop :=
  ∀ call ∈ run.reads, call.2.Sound config.tcpdumpHdrPad run.pcapSwap call.1

/-- The record that is read next, if there is one, is one the code reads as it should. -/
def PcapRun.Readable (run : PcapRun) : Prop :=
  run.going = true → ∀ record rest,
    PcapRecord.Begins config.tcpdumpHdrPad run.pcapSwap run.file record rest →
      record.Readable config.tcpdumpHdrPad run.pcapSwap

theorem pcapStep_reads (around : PcapSurroundings) (run : PcapRun) (going : run.going = true) :
    (pcapStep config readPcapFileName around run).reads = run.reads ++ [(run.file,
        readPcapPacket config readPcapFileName run.pcapSwap around run.file)] ∧
      (pcapStep config readPcapFileName around run).pcapSwap = run.pcapSwap := by
  unfold pcapStep
  rw [if_pos going]
  simp only
  split
  · exact ⟨rfl, rfl⟩
  · exact ⟨rfl, rfl⟩
  · exact ⟨rfl, rfl⟩

theorem pcapStep_sound_iff (around : PcapSurroundings) (run : PcapRun) (sound : run.Sound config) :
    (pcapStep config readPcapFileName around run).Sound config ↔ run.Readable config := by
  by_cases going : run.going = true
  · obtain ⟨reads, order⟩ := pcapStep_reads config readPcapFileName around run going
    unfold PcapRun.Sound PcapRun.Readable
    rw [reads, order, ← readPcapPacket_sound_iff]
    constructor
    · exact fun all _ => all _ (List.mem_append_right _ (List.mem_singleton_self _))
    · rintro last call member
      rcases List.mem_append.mp member with before | now
      · exact sound call before
      · rw [List.mem_singleton.mp now]
        exact last going
  · have stays : pcapStep config readPcapFileName around run = run := if_neg going
    rw [stays]
    exact iff_of_true sound fun goes => absurd goes going

/-- The calls of a run are sound on the whole way just when each record that is read is one
the code reads as it should. -/
theorem pcap_reads_sound_iff (strerror : Text) (file : List UInt8)
    (surroundings : List PcapSurroundings) :
    Throughout (pcapStep config readPcapFileName) (PcapRun.Sound config) surroundings
        (startedPcap readPcapFileName strerror file) ↔
      Allowed (pcapStep config readPcapFileName) (fun _ => PcapRun.Readable config) surroundings
        (startedPcap readPcapFileName strerror file) := by
  refine throughout_iff_allowed _ _ ?_ surroundings _ ?_
  · exact fun around run sound => pcapStep_sound_iff config readPcapFileName around run sound
  · intro call none
    have unread : (startedPcap readPcapFileName strerror file).reads = [] := by
      unfold startedPcap
      split
      · rfl
      · rfl
    rw [unread] at none
    exact absurd none List.not_mem_nil

/-- A record of four bytes, too short for an Ethernet header. -/
def runtRecord : PcapRecord where
  header := [1, 0, 0, 0, 0, 0, 0, 0, 4, 0, 0, 0, 4, 0, 0, 0]
  padding := []
  captured := [0, 0, 0, 5]

/-- A little-endian pcap file that holds this record. -/
def runtFile : List UInt8 :=
  [0xd4, 0xc3, 0xb2, 0xa1, 2, 0, 4, 0, 0, 0, 0, 0, 0, 0, 0, 0, 0, 8, 0, 0, 1, 0, 0, 0] ++
    (runtRecord.header ++ runtRecord.captured)

def quietSurroundings : PcapSurroundings := ⟨fun _ => 0, [], 0, none, []⟩

theorem started_runt : startedPcap [] [] runtFile =
    ⟨runtRecord.header ++ runtRecord.captured, true, false, startedProcess, []⟩ := rfl

theorem runt_begins : runtRecord.Begins 0 false (runtRecord.header ++ runtRecord.captured) [] :=
  ⟨rfl, rfl, rfl, by decide⟩

/-- No headers are found in it, and what is handed on begins a byte before the buffer and is
a byte longer than the record. -/
theorem runt_handed_on : ¬Throughout (pcapStep (defaultConfig .full) [])
      (PcapRun.Sound (defaultConfig .full)) [quietSurroundings] (startedPcap [] [] runtFile) ∧
    ∃ datagram, readPcapPacket (defaultConfig .full) [] false quietSurroundings
        (runtRecord.header ++ runtRecord.captured) = .handed datagram [] ∧
      datagram.rawSample = -1 ∧ datagram.rawSampleLen = 5 := by
  constructor
  · rintro ⟨first, second⟩
    have readable := (pcapStep_sound_iff _ _ quietSurroundings _ first).mp second
    rw [started_runt] at readable
    have found := (readable rfl runtRecord [] runt_begins).2.2.2
    exact absurd found (by decide)
  · exact ⟨_, rfl, rfl, rfl⟩

end Runs

end SflowTool
