import SflowTool.PcapFile
import SflowTool.NetFlowExport

/-! A pcap file written by a host of the other byte order. Its file header and its record
headers are turned around field by field, what is captured is not, and every length is turned
back before it is used: the file is read as the one in native order. -/
namespace SflowTool
open Decoding

section Fields

/-- Fields of these sizes, each with its bytes turned around. -/
def turnFields : List Nat → List UInt8 → List UInt8
  | [], octets => octets
  | size :: sizes, octets => (octets.take size).reverse ++ turnFields sizes (octets.drop size)

theorem turnFields_length (sizes : List Nat) (octets : List UInt8) :
    (turnFields sizes octets).length = octets.length := by
  induction sizes generalizing octets with
  | nil => rfl
  | cons size sizes ih =>
      rw [turnFields, List.length_append, List.length_reverse, ih, ← List.length_append,
        List.take_append_drop]

/-- The first field of what is turned around, and the fields behind it. -/
theorem turnFields_first {size : Nat} {octets : List UInt8} (sizes : List Nat)
    (inside : size ≤ octets.length) :
    (turnFields (size :: sizes) octets).take size = (octets.take size).reverse ∧
      (turnFields (size :: sizes) octets).drop size = turnFields sizes (octets.drop size) := by
  have length : (octets.take size).reverse.length = size := by
    rw [List.length_reverse, List.length_take_of_le inside]
  rw [turnFields]
  exact ⟨List.take_left' length, List.drop_left' length⟩

/-- A turned word is the word swapped. -/
theorem leWord_swapped (octets : List UInt8) (word : octets.length = 4) :
    myByteSwap32 (leWord octets.reverse) = leWord octets :=
  htonl_leWord octets.reverse (List.length_reverse.trans word)

/-- The fields of a record header and of the file header. -/
def pkthdrFields : List Nat := [4, 4, 4, 4]
def fileHeaderFields : List Nat := [4, 2, 2, 4, 4, 4, 4]

/-- A field of four bytes that lies where a field of the other header does. -/
theorem pcapWord_turned {header turned : List UInt8} {offset : Nat}
    (room : offset + 4 ≤ header.length)
    (field : (turned.drop offset).take 4 = ((header.drop offset).take 4).reverse) :
    pcapWord true turned offset = pcapWord false header offset := by
  have word : ((header.drop offset).take 4).length = 4 := by
    rw [List.length_take, List.length_drop]
    omega
  unfold pcapWord
  rw [field]
  exact leWord_swapped _ word

theorem turnFields_field (before : List Nat) (size : Nat) (after : List Nat)
    (octets : List UInt8) (inside : before.sum + size ≤ octets.length) :
    ((turnFields (before ++ size :: after) octets).drop before.sum).take size =
      ((octets.drop before.sum).take size).reverse := by
  induction before generalizing octets with
  | nil => exact (turnFields_first after (by simpa using inside)).1
  | cons first before ih =>
      rw [List.sum_cons] at inside ⊢
      rw [List.cons_append, ← List.drop_drop, (turnFields_first _ (by omega)).2, ← List.drop_drop]
      apply ih
      rw [List.length_drop]
      omega

/-- A record header says the same in both orders. -/
theorem pcapPkthdr_turned (header : List UInt8) (whole : header.length = pcapPkthdrSize) :
    pcapPkthdr true (turnFields pkthdrFields header) = pcapPkthdr false header := by
  have field (before after : List Nat) (split : pkthdrFields = before ++ 4 :: after)
      (room : before.sum + 4 ≤ 16) : pcapWord true (turnFields pkthdrFields header) before.sum =
        pcapWord false header before.sum := by
    have inside : before.sum + 4 ≤ header.length := whole.symm ▸ room
    rw [split]
    exact pcapWord_turned inside (turnFields_field before 4 after header inside)
  unfold pcapPkthdr
  congr 1
  · exact field [] [4, 4, 4] rfl (by decide)
  · exact field [4] [4, 4] rfl (by decide)
  · exact field [4, 4] [4] rfl (by decide)
  · exact field [4, 4, 4] [] rfl (by decide)

end Fields

section Files

/-- The bytes behind a record header that belong to the record. -/
def recordSize (pad : Nat) (header : List UInt8) : Nat :=
  pad + (pcapPkthdr false header).caplen.toNat

/-- The records of a file in native order with their headers turned around, as many as it
has; what is left of one at the end of the file is turned around in its header, if that is
whole. -/
def turnRecords (pad : Nat) : Nat → List UInt8 → List UInt8
  | 0, file => file
  | records + 1, file =>
      if file.length < pcapPkthdrSize then file
      else
        let header := file.take pcapPkthdrSize
        let behind := file.drop pcapPkthdrSize
        turnFields pkthdrFields header ++ (behind.take (recordSize pad header) ++
          turnRecords pad records (behind.drop (recordSize pad header)))

/-- The same file as a host of the other order writes it. -/
def turnFile (pad : Nat) (file : List UInt8) : List UInt8 :=
  turnFields fileHeaderFields (file.take pcapFileHeaderSize) ++
    turnRecords pad file.length (file.drop pcapFileHeaderSize)

theorem turnRecords_length (pad records : Nat) (file : List UInt8) :
    (turnRecords pad records file).length = file.length := by
  induction records generalizing file with
  | zero => rfl
  | succ records ih =>
      unfold turnRecords
      split
      · rfl
      · simp only [List.length_append, turnFields_length, ih]
        rw [← List.length_append, List.take_append_drop, ← List.length_append,
          List.take_append_drop]

/-- Two files of one length that begin with the same bytes. -/
structure SameFront (front : Nat) (file other : List UInt8) : Prop where
  length : file.length = other.length
  take : file.take front = other.take front

/-- What is read from the same front is the same, or neither file has enough. -/
theorem fread_front {capacity size front : Nat} {file other : List UInt8}
    (same : SameFront front file other) (inside : size ≤ front) :
    (∃ octets, fread capacity size file = .read octets (file.drop size) ∧
        fread capacity size other = .read octets (other.drop size)) ∨
      fread capacity size file = fread capacity size other ∧
        ∀ octets rest, fread capacity size file ≠ .read octets rest := by
  obtain ⟨length, take⟩ := same
  have octets : file.take size = other.take size := by
    have shorter := congrArg (List.take size) take
    rwa [List.take_take, List.take_take, Nat.min_eq_left inside] at shorter
  unfold fread
  rw [← length, ← octets]
  split
  · exact .inr ⟨rfl, nofun⟩
  · split
    · exact .inr ⟨rfl, nofun⟩
    · split
      · exact .inr ⟨rfl, nofun⟩
      · exact .inl ⟨_, rfl, rfl⟩

theorem SameFront.drop {front size : Nat} {file other : List UInt8}
    (same : SameFront (size + front) file other) :
    SameFront front (file.drop size) (other.drop size) := by
  constructor
  · rw [List.length_drop, List.length_drop, same.length]
  · have behind := congrArg (List.drop size) same.take
    rwa [List.drop_take, List.drop_take, Nat.add_sub_cancel_left] at behind

end Files

section Reads

variable (config : SFConfig) (readPcapFileName : Text)

/-- What a call comes to, apart from the place in the file where it leaves off. -/
def PcapRead.seen : PcapRead → PcapRead
  | .skipped message _ => .skipped message []
  | .handed datagram _ => .handed datagram []
  | read => read

/-- Where the file goes on after a call. -/
def PcapRead.left : PcapRead → List UInt8
  | .skipped _ rest => rest
  | .handed _ rest => rest
  | _ => []

/-- The padding is read from the front of what is behind a header. -/
theorem readHdrPad_front {front : Nat} {file other : List UInt8}
    (same : SameFront (config.tcpdumpHdrPad.toNat + front) file other) :
    (∃ octets, readHdrPad config file = .read octets (file.drop config.tcpdumpHdrPad.toNat) ∧
        readHdrPad config other = .read octets (other.drop config.tcpdumpHdrPad.toNat)) ∨
      readHdrPad config file = readHdrPad config other ∧
        ∀ octets rest, readHdrPad config file ≠ .read octets rest := by
  unfold readHdrPad
  by_cases padded : config.tcpdumpHdrPad > 0
  · rw [if_pos padded, if_pos padded]
    exact fread_front same (Nat.le_add_right _ _)
  · have none : config.tcpdumpHdrPad.toNat = 0 := Nat.eq_zero_of_not_pos padded
    rw [if_neg padded, if_neg padded, none]
    exact .inl ⟨[], rfl, rfl⟩

theorem turnRecords_nil (pad records : Nat) : turnRecords pad records [] = [] :=
  List.length_eq_zero_iff.mp (turnRecords_length pad records [])

/-- A record that is there is followed by the rest of the file, whatever this is turned to. -/
theorem laid_front {size : Nat} {behind turned : List UInt8}
    (length : turned.length = (behind.drop size).length) :
    SameFront size behind (behind.take size ++ turned) ∧
      (size ≤ behind.length → (behind.take size ++ turned).drop size = turned) := by
  refine ⟨⟨?_, ?_⟩, fun inside => List.drop_left' (List.length_take_of_le inside)⟩
  · rw [List.length_append, length, ← List.length_append, List.take_append_drop]
  · by_cases inside : size ≤ behind.length
    · exact (List.take_left' (List.length_take_of_le inside)).symm
    · have none : turned = [] := by
        rw [List.length_drop] at length
        exact List.length_eq_zero_iff.mp (by omega)
      rw [none, List.append_nil, List.take_take, Nat.min_self]

/-- What a call does once the record header is read. -/
def readBehind (around : PcapSurroundings) (hdr : PcapPkthdr) (behind : List UInt8) : PcapRead :=
  match readHdrPad config behind with
  | .read padding file =>
      match fread pcapBufSize hdr.caplen.toNat file with
      | .read captured rest =>
          if hdr.caplen < hdr.len then
            .skipped ⟨"incomplete datagram (pcap snaplen too short)\n", []⟩ rest
          else
            .handed (pcapDatagram ((around.memory.filled padding).filled captured) hdr) rest
      | .short =>
          .exited ⟨⟨"unable to read pcap packet from %s : %s\n",
            [.text readPcapFileName, .text around.strerror]⟩, -34⟩
      | .overran => .overran
  | .short =>
      .exited ⟨⟨"unable to read pcap header pad (%d bytes)\n", [.word config.tcpdumpHdrPad]⟩, -33⟩
  | .overran => .overran

theorem readPcapPacket_behind (around : PcapSurroundings) (pcapSwap : Bool)
    {header behind : List UInt8} (whole : header.length = pcapPkthdrSize) :
    readPcapPacket config readPcapFileName pcapSwap around (header ++ behind) =
      readBehind config readPcapFileName around (pcapPkthdr pcapSwap header) behind := by
  have first : fread pcapPkthdrSize pcapPkthdrSize (header ++ behind) = .read header behind := by
    conv_lhs =>
      arg 2
      rw [← whole]
    exact fread_laid (List.ne_nil_of_length_eq_add_one whole) (Nat.le_of_eq whole)
  unfold readPcapPacket readBehind
  generalize fread pcapPkthdrSize pcapPkthdrSize (header ++ behind) = read at first ⊢
  subst first
  rfl

/-- Behind a header only the bytes of the record matter. -/
theorem readBehind_turned (around : PcapSurroundings) (hdr : PcapPkthdr)
    (behind turned : List UInt8) (length : turned.length =
      (behind.drop (config.tcpdumpHdrPad.toNat + hdr.caplen.toNat)).length) :
    let read := readBehind config readPcapFileName around hdr behind
    let other := readBehind config readPcapFileName around hdr
      (behind.take (config.tcpdumpHdrPad.toNat + hdr.caplen.toNat) ++ turned)
    other.seen = read.seen ∧ (other.left = [] ∧ read.left = [] ∨ other.left = turned ∧
      read.left = behind.drop (config.tcpdumpHdrPad.toNat + hdr.caplen.toNat)) := by
  obtain ⟨same, rest⟩ := laid_front length
  unfold readBehind
  rcases readHdrPad_front config same with ⟨padding, first, second⟩ | ⟨equal, unread⟩
  · rw [first, second]
    obtain ⟨padded, size⟩ := readHdrPad_read first
    simp only
    rcases @fread_front pcapBufSize _ _ _ _ same.drop (Nat.le_refl hdr.caplen.toNat) with
      ⟨captured, read, again⟩ | ⟨equal, unread⟩
    · obtain ⟨laid, held, -⟩ := fread_read read
      have enough : config.tcpdumpHdrPad.toNat + hdr.caplen.toNat ≤ behind.length := by
        have whole := congrArg List.length padded
        have part := congrArg List.length laid
        rw [List.length_append] at whole part
        omega
      have left := List.drop_drop.trans (rest enough)
      rw [read, again]
      simp only
      by_cases cut : hdr.caplen < hdr.len
      · rw [if_pos cut, if_pos cut]
        exact ⟨rfl, .inr ⟨left, List.drop_drop⟩⟩
      · rw [if_neg cut, if_neg cut]
        exact ⟨rfl, .inr ⟨left, List.drop_drop⟩⟩
    · rw [← equal]
      cases missed : fread pcapBufSize hdr.caplen.toNat (behind.drop config.tcpdumpHdrPad.toNat) with
      | read octets rest => exact absurd missed (unread octets rest)
      | short => exact ⟨rfl, .inl ⟨rfl, rfl⟩⟩
      | overran => exact ⟨rfl, .inl ⟨rfl, rfl⟩⟩
  · rw [← equal]
    cases missed : readHdrPad config behind with
    | read octets rest => exact absurd missed (unread octets rest)
    | short => exact ⟨rfl, .inl ⟨rfl, rfl⟩⟩
    | overran => exact ⟨rfl, .inl ⟨rfl, rfl⟩⟩

/-- A call on a file and on the file turned around sees the same, and leaves the one where the
other is left. -/
theorem readPcapPacket_turned (around : PcapSurroundings) (records : Nat) (file : List UInt8) :
    let read := readPcapPacket config readPcapFileName false around file
    let other := readPcapPacket config readPcapFileName true around
      (turnRecords config.tcpdumpHdrPad.toNat (records + 1) file)
    other.seen = read.seen ∧
      other.left = turnRecords config.tcpdumpHdrPad.toNat records read.left ∧
      read.left.length ≤ file.length - pcapPkthdrSize := by
  rw [turnRecords]
  by_cases short : file.length < pcapPkthdrSize
  · have none (pcapSwap : Bool) :
        readPcapPacket config readPcapFileName pcapSwap around file = .ended := by
      have missed : fread pcapPkthdrSize pcapPkthdrSize file = .short := by
        unfold fread
        rw [if_neg (by decide), if_neg (by omega), if_pos short]
      unfold readPcapPacket
      rw [missed]
    rw [if_pos short, none, none]
    exact ⟨rfl, (turnRecords_nil _ _).symm, Nat.zero_le _⟩
  · have whole : (file.take pcapPkthdrSize).length = pcapPkthdrSize :=
      List.length_take_of_le (Nat.le_of_not_lt short)
    have turned : (turnFields pkthdrFields (file.take pcapPkthdrSize)).length = pcapPkthdrSize :=
      (turnFields_length _ _).trans whole
    have native := @readPcapPacket_behind config readPcapFileName around false
      (file.take pcapPkthdrSize) (file.drop pcapPkthdrSize) whole
    rw [List.take_append_drop] at native
    rw [if_neg short, native, readPcapPacket_behind config readPcapFileName around true turned,
      pcapPkthdr_turned _ whole]
    obtain ⟨seen, left⟩ := readBehind_turned config readPcapFileName around
      (pcapPkthdr false (file.take pcapPkthdrSize)) (file.drop pcapPkthdrSize) _
      (turnRecords_length config.tcpdumpHdrPad.toNat records _)
    refine ⟨seen, ?_⟩
    rcases left with ⟨other, read⟩ | ⟨other, read⟩
    · rw [read, turnRecords_nil]
      exact ⟨other, Nat.zero_le _⟩
    · rw [read, List.length_drop, List.length_drop]
      exact ⟨other, Nat.sub_le _ _⟩

end Reads

section Runs

variable (config : SFConfig) (readPcapFileName strerror : Text)

/-- The loop over a number of rounds, each in its surroundings. -/
def pcapRounds (surroundings : List PcapSurroundings) (start : PcapRun) : PcapRun :=
  surroundings.foldl (fun run around => pcapStep config readPcapFileName around run) start

/-- What the calls of a run came to, in their order. -/
def PcapRun.seen (run : PcapRun) : List PcapRead := run.reads.map fun call => call.2.seen

/-- A run over a file and one over the file turned around, at the same place. -/
structure PcapRun.Turned (run other : PcapRun) : Prop where
  native : run.pcapSwap = false
  swapped : other.pcapSwap = true
  file : ∃ records, run.file.length ≤ records ∧
    other.file = turnRecords config.tcpdumpHdrPad.toNat records run.file
  going : other.going = run.going
  process : other.process = run.process
  seen : other.seen = run.seen

/-- Calls that came to the same go on the same way. -/
theorem seen_cases {read other : PcapRead} (same : other.seen = read.seen) :
    (∃ datagram left rest, read = .handed datagram left ∧ other = .handed datagram rest) ∨
      (∃ message left rest, read = .skipped message left ∧ other = .skipped message rest) ∨
        other = read ∧ (∀ datagram rest, read ≠ .handed datagram rest) ∧
          ∀ message rest, read ≠ .skipped message rest := by
  cases read with
  | handed datagram left =>
      cases other with
      | handed another rest =>
          obtain ⟨rfl, -⟩ := PcapRead.handed.inj same
          exact .inl ⟨_, _, _, rfl, rfl⟩
      | _ => exact PcapRead.noConfusion same
  | skipped message left =>
      cases other with
      | skipped another rest =>
          obtain ⟨rfl, -⟩ := PcapRead.skipped.inj same
          exact .inr (.inl ⟨_, _, _, rfl, rfl⟩)
      | _ => exact PcapRead.noConfusion same
  | _ =>
      cases other with
      | handed another rest => exact PcapRead.noConfusion same
      | skipped another rest => exact PcapRead.noConfusion same
      | _ => exact .inr (.inr ⟨same, nofun, nofun⟩)

/-- There is always one record more to be turned around than is needed for the rest. -/
theorem turnRecords_succ (pad records : Nat) (file : List UInt8) (room : file.length ≤ records) :
    ∃ fewer, file.length - pcapPkthdrSize ≤ fewer ∧
      turnRecords pad records file = turnRecords pad (fewer + 1) file := by
  cases records with
  | zero =>
      have none : file = [] := List.length_eq_zero_iff.mp (Nat.le_zero.mp room)
      subst none
      exact ⟨0, Nat.le_refl 0, (turnRecords_nil pad 1).symm⟩
  | succ records =>
      refine ⟨records, ?_, rfl⟩
      rw [pcapPkthdrSize]
      omega

theorem seen_concat (reads : List (List UInt8 × PcapRead)) (file : List UInt8) (read : PcapRead) :
    (reads ++ [(file, read)]).map (fun call => call.2.seen) =
      reads.map (fun call => call.2.seen) ++ [read.seen] := List.map_append

theorem pcapStep_turned (around : PcapSurroundings) {run other : PcapRun}
    (turned : run.Turned config other) :
    (pcapStep config readPcapFileName around run).Turned config
      (pcapStep config readPcapFileName around other) := by
  obtain ⟨file, going, pcapSwap, process, reads⟩ := run
  obtain ⟨_, _, _, _, others⟩ := other
  obtain ⟨⟨⟩, ⟨⟩, ⟨records, room, ⟨⟩⟩, ⟨⟩, ⟨⟩, seen⟩ := turned
  cases going with
  | false => exact ⟨rfl, rfl, ⟨records, room, rfl⟩, rfl, rfl, seen⟩
  | true =>
      obtain ⟨fewer, enough, more⟩ := turnRecords_succ config.tcpdumpHdrPad.toNat records file room
      obtain ⟨same, left, shorter⟩ :=
        readPcapPacket_turned config readPcapFileName around fewer file
      unfold pcapStep
      simp only [more, if_true]
      generalize readPcapPacket config readPcapFileName false around file = read at *
      generalize readPcapPacket config readPcapFileName true around
        (turnRecords config.tcpdumpHdrPad.toNat (fewer + 1) file) = other at *
      have onward : (others ++ [(turnRecords config.tcpdumpHdrPad.toNat (fewer + 1) file, other)]).map
          (fun call => call.2.seen) = (reads ++ [(file, read)]).map fun call => call.2.seen := by
        rw [seen_concat, seen_concat, same]
        exact congrArg (· ++ _) seen
      rcases seen_cases same with ⟨datagram, rest, behind, rfl, rfl⟩ |
        ⟨message, rest, behind, rfl, rfl⟩ | ⟨rfl, unhanded, unskipped⟩
      · exact ⟨rfl, rfl, ⟨fewer, Nat.le_trans shorter enough, left⟩, rfl, rfl, onward⟩
      · exact ⟨rfl, rfl, ⟨fewer, Nat.le_trans shorter enough, left⟩, rfl, rfl, onward⟩
      · have stays : ∃ records, file.length ≤ records ∧ turnRecords config.tcpdumpHdrPad.toNat
            (fewer + 1) file = turnRecords config.tcpdumpHdrPad.toNat records file :=
          ⟨records, room, more.symm⟩
        cases other with
        | handed datagram rest => exact absurd rfl (unhanded datagram rest)
        | skipped message rest => exact absurd rfl (unskipped message rest)
        | _ => exact ⟨rfl, rfl, stays, rfl, rfl, onward⟩

theorem pcapRounds_turned (surroundings : List PcapSurroundings) {run other : PcapRun}
    (turned : run.Turned config other) :
    (pcapRounds config readPcapFileName surroundings run).Turned config
      (pcapRounds config readPcapFileName surroundings other) := by
  induction surroundings generalizing run other with
  | nil => exact turned
  | cons around surroundings ih => exact ih (pcapStep_turned config readPcapFileName around turned)

/-- The words and halves of the file header. -/
theorem fileHeader_turned (hdr : List UInt8) (whole : hdr.length = pcapFileHeaderSize) :
    pcapWord false (turnFields fileHeaderFields hdr) 0 = myByteSwap32 (pcapWord false hdr 0) ∧
      pcapHalf true (turnFields fileHeaderFields hdr) 4 = pcapHalf false hdr 4 ∧
      pcapHalf true (turnFields fileHeaderFields hdr) 6 = pcapHalf false hdr 6 ∧
      pcapWord true (turnFields fileHeaderFields hdr) 16 = pcapWord false hdr 16 ∧
      pcapWord true (turnFields fileHeaderFields hdr) 20 = pcapWord false hdr 20 := by
  have field (before : List Nat) (size : Nat) (after : List Nat)
      (split : fileHeaderFields = before ++ size :: after) (room : before.sum + size ≤ 24) :
      ((turnFields fileHeaderFields hdr).drop before.sum).take size =
        ((hdr.drop before.sum).take size).reverse := by
    rw [split]
    exact turnFields_field before size after hdr (whole.symm ▸ room)
  have half (before after : List Nat) (split : fileHeaderFields = before ++ 2 :: after)
      (room : before.sum + 2 ≤ 24) : pcapHalf true (turnFields fileHeaderFields hdr) before.sum =
        pcapHalf false hdr before.sum := by
    unfold pcapHalf
    rw [field before 2 after split room]
    rfl
  have word (before after : List Nat) (split : fileHeaderFields = before ++ 4 :: after)
      (room : before.sum + 4 ≤ 24) : pcapWord true (turnFields fileHeaderFields hdr) before.sum =
        pcapWord false hdr before.sum :=
    pcapWord_turned (whole.symm ▸ room) (field before 4 after split room)
  refine ⟨?_, ?_, ?_, ?_, ?_⟩
  · have first : ((hdr.drop 0).take 4).reverse.length = 4 := by
      rw [List.length_reverse]
      exact List.length_take_of_le (whole.symm ▸ (by decide : 4 ≤ pcapFileHeaderSize))
    have magic := leWord_swapped _ first
    rw [List.reverse_reverse] at magic
    exact (congrArg leWord (field [] 4 [2, 2, 4, 4, 4, 4] rfl (by decide))).trans magic.symm
  · exact half [4] [2, 4, 4, 4, 4] rfl (by decide)
  · exact half [4, 2] [4, 4, 4, 4] rfl (by decide)
  · exact word [4, 2, 2, 4, 4] [4] rfl (by decide)
  · exact word [4, 2, 2, 4, 4, 4] [] rfl (by decide)

/-- The file header says the same in both orders, and the records begin behind it. -/
theorem readPcapHeader_turned {file rest : List UInt8} {version : Line}
    (native : readPcapHeader readPcapFileName strerror file = .ok (false, version, rest)) :
    readPcapHeader readPcapFileName strerror (turnFile config.tcpdumpHdrPad.toNat file) =
        .ok (true, version, turnRecords config.tcpdumpHdrPad.toNat file.length rest) ∧
      rest.length ≤ file.length := by
  unfold readPcapHeader at native
  split at native
  · rename_i hdr behind first
    obtain ⟨laid, whole, -⟩ := fread_read first
    simp only at native
    split_ifs at native with order
    · cases native
      have size : pcapFileHeaderSize ≤ file.length := by
        rw [laid, List.length_append, whole]
        exact Nat.le_add_right _ _
      have front : file.take pcapFileHeaderSize = hdr := by
        rw [laid, ← whole]
        exact List.take_left
      have back : file.drop pcapFileHeaderSize = rest := by
        rw [laid, ← whole]
        exact List.drop_left
      have again : (turnFields fileHeaderFields hdr).length = pcapFileHeaderSize :=
        (turnFields_length _ _).trans whole
      have second : fread pcapFileHeaderSize pcapFileHeaderSize
          (turnFile config.tcpdumpHdrPad.toNat file) = .read (turnFields fileHeaderFields hdr)
            (turnRecords config.tcpdumpHdrPad.toNat file.length rest) := by
        unfold turnFile
        rw [front, back]
        conv_lhs =>
          arg 2
          rw [← again]
        exact fread_laid (List.ne_nil_of_length_eq_add_one again) (Nat.le_of_eq again)
      refine ⟨?_, ?_⟩
      · obtain ⟨magic, major, minor, snaplen, linktype⟩ := fileHeader_turned hdr whole
        have foreign : ¬myByteSwap32 tcpdumpMagic = tcpdumpMagic := by decide
        unfold readPcapHeader
        rw [second]
        simp only [magic, order, major, minor, snaplen, linktype, if_neg foreign, if_true]
      · rw [← back, List.length_drop]
        exact Nat.sub_le _ _
    · cases native
  · cases native

/-- Read in the other byte order a file gives the same datagrams, and the same end. -/
theorem turned_file_read {file rest : List UInt8} {version : Line}
    (native : readPcapHeader readPcapFileName strerror file = .ok (false, version, rest))
    (surroundings : List PcapSurroundings) :
    let run := pcapRounds config readPcapFileName surroundings
      (startedPcap readPcapFileName strerror file)
    let other := pcapRounds config readPcapFileName surroundings
      (startedPcap readPcapFileName strerror (turnFile config.tcpdumpHdrPad.toNat file))
    other.seen = run.seen ∧ other.going = run.going ∧ other.process = run.process := by
  obtain ⟨turned, fits⟩ := readPcapHeader_turned config readPcapFileName strerror native
  have start : (startedPcap readPcapFileName strerror file).Turned config
      (startedPcap readPcapFileName strerror (turnFile config.tcpdumpHdrPad.toNat file)) := by
    unfold startedPcap
    rw [native, turned]
    exact ⟨rfl, rfl, ⟨_, fits, rfl⟩, rfl, rfl, rfl⟩
  have ends := pcapRounds_turned config readPcapFileName surroundings start
  exact ⟨ends.seen, ends.going, ends.process⟩

/-- The file with one record, in both orders. -/
theorem turned_runt_file_read :
    let run := pcapRounds (defaultConfig .full) [] [quietSurroundings] (startedPcap [] [] runtFile)
    let other := pcapRounds (defaultConfig .full) [] [quietSurroundings]
      (startedPcap [] [] (turnFile (defaultConfig .full).tcpdumpHdrPad.toNat runtFile))
    other.seen = run.seen ∧ other.going = run.going ∧ other.process = run.process :=
  turned_file_read (defaultConfig .full) [] [] rfl [quietSurroundings]

end Runs

end SflowTool
