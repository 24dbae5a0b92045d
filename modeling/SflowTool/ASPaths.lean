import SflowTool.CountedArrays
import SflowTool.SampleEncodings

/-! The AS path of a gateway record. A path is a list of segments; the decoder tells its
first and its last number by their indices in the first and the last segment, so that an
empty segment at either end hides them. -/
namespace SflowTool
open Decoding Decoding.Decoder

variable {config : SFConfig}

section Paths

/-- A segment of a path: an AS set or an AS sequence. -/
structure ASSegment where
  type : UInt32
  numbers : List UInt32

/-- The concatenated path. -/
def concatenated (segments : List ASSegment) : List UInt32 := segments.flatMap ASSegment.numbers

def ASSegment.octets (segment : ASSegment) : List UInt8 :=
  be32 segment.type ++ (be32 (UInt32.ofNat segment.numbers.length) ++
    segment.numbers.flatMap be32)

def pathOctets (segments : List ASSegment) : List UInt8 :=
  be32 (UInt32.ofNat segments.length) ++ segments.flatMap ASSegment.octets

/-- A path whose counts fit their words and whose numbers are none of them zero. -/
structure PathWellFormed (segments : List ASSegment) : Prop where
  counted : segments.length < 2 ^ 32
  each : ∀ segment ∈ segments, segment.numbers.length < 2 ^ 32
  nonzero : ∀ number ∈ concatenated segments, number ≠ 0

/-- The number that the decoder takes for the first of the path, and for its last. -/
def firstRead (segments : List ASSegment) : Option UInt32 :=
  segments.head?.bind fun segment => segment.numbers.head?

def lastRead (segments : List ASSegment) : Option UInt32 :=
  segments.getLast?.bind fun segment => segment.numbers.getLast?

/-- There are no numbers at all, or some in the first and some in the last segment. -/
def EndsPresent (segments : List ASSegment) : Prop :=
  concatenated segments = [] ∨
    (∃ number, firstRead segments = some number) ∧ ∃ number, lastRead segments = some number

theorem concatenated_head (segments : List ASSegment) (number : UInt32)
    (first : firstRead segments = some number) : (concatenated segments).head? = some number := by
  cases segments with
  | nil => cases first
  | cons segment rest =>
      have start : segment.numbers.head? = some number := first
      rw [concatenated, List.flatMap_cons, List.head?_append, start]
      rfl

theorem concatenated_last (segments : List ASSegment) (number : UInt32)
    (last : lastRead segments = some number) : (concatenated segments).getLast? = some number := by
  induction segments with
  | nil => cases last
  | cons segment rest ih =>
      rw [concatenated, List.flatMap_cons, List.getLast?_append]
      cases rest with
      | nil =>
          have only : segment.numbers.getLast? = some number := last
          rw [only]
          rfl
      | cons second further =>
          have behind : (concatenated (second :: further)).getLast? = some number :=
            ih (by simpa [lastRead] using last)
          rw [show List.flatMap ASSegment.numbers (second :: further) =
            concatenated (second :: further) from rfl, behind]
          rfl

end Paths

section Indices

/-- The next index below a bound, and the last one. -/
theorem next_index {index bound : UInt32} (below : index.toNat < bound.toNat) :
    (index + 1).toNat = index.toNat + 1 := by
  have small := bound.toNat_lt
  rw [UInt32.toNat_add, show (1 : UInt32).toNat = 1 from rfl]
  omega

theorem last_index {index bound : UInt32} (below : index.toNat < bound.toNat) :
    index = bound - 1 ↔ index.toNat + 1 = bound.toNat := by
  have one : (1 : UInt32).toNat = 1 := rfl
  rw [← UInt32.toNat_inj, UInt32.toNat_sub_of_le _ _ (UInt32.le_iff_toNat_le.mpr (by omega)), one]
  omega

end Indices

section Reading
variable {buffer : Buffer} {sample : SFSample}

theorem yields_word (word : UInt32) (rest : List UInt8)
    (holds : buffer.Holds sample.cursor (be32 word ++ rest)) :
    (run buffer getData32 sample).Yields word (sample.moved 4) ∧
      buffer.Holds (sample.moved 4).cursor rest := by
  have bytes : buffer.slice sample.cursor 4 = be32 word := holds.left.2
  have taken : (run buffer getData32 sample).Yields
      (UInt32.ofNat (beNat (buffer.slice sample.cursor 4))) (sample.moved 4) :=
    yields_bind buffer _ _ (yields_take buffer 4 sample holds.left.room) (yields_pure buffer _ _)
  rw [bytes, word_be32] at taken
  exact ⟨taken, holds.right⟩

/-- A stretch of a path has been read: how far it moved, and the numbers it stored, if any,
as the first and the last of the path. -/
structure PathRead (size : Nat) (first last : Option UInt32) (state final : SFSample) : Prop where
  cursor : final.cursor = state.cursor + size
  first : wordOf final .dstPeerAs = first.getD (wordOf state .dstPeerAs)
  last : wordOf final .dstAs = last.getD (wordOf state .dstAs)

theorem PathRead.trans {one two : Nat} {first second last lastly : Option UInt32}
    {state middle final : SFSample} (left : PathRead one first last state middle)
    (right : PathRead two second lastly middle final) :
    PathRead (one + two) (second.or first) (lastly.or last) state final where
  cursor := by rw [right.cursor, left.cursor, Nat.add_assoc]
  first := by
    rw [right.first, left.first]
    cases second <;> rfl
  last := by
    rw [right.last, left.last]
    cases lastly <;> rfl

theorem readASNumber_reads (segments seg segType segLen i number : UInt32) (rest : List UInt8)
    (holds : buffer.Holds sample.cursor (be32 number ++ rest)) :
    ∃ final, (run buffer (readASNumber config segments seg segType segLen i) sample).Yields () final ∧
      PathRead 4 (if i = 0 ∧ seg = 0 then some number else none)
        (if seg = segments - 1 ∧ i = segLen - 1 then some number else none) sample final ∧
      buffer.Holds final.cursor rest := by
  obtain ⟨read, behind⟩ := yields_word number rest holds
  have peer : ∃ middle, (run buffer (if i = 0 ∧ seg = 0 then setWord .dstPeerAs number
        else sfLog config "-" []) (sample.moved 4)).Yields () middle ∧
      PathRead 4 (if i = 0 ∧ seg = 0 then some number else none) none sample middle := by
    by_cases first : i = 0 ∧ seg = 0
    · rw [if_pos first, if_pos first]
      exact ⟨_, yields_setWord buffer .dstPeerAs number _, rfl, wordOf_holding_self _ _ _, rfl⟩
    · rw [if_neg first, if_neg first]
      exact ⟨_, yields_sfLog buffer _ _ _, rfl, rfl, rfl⟩
  obtain ⟨middle, stored, before⟩ := peer
  have last : ∃ final, (run buffer (when (seg = segments - 1 ∧ i = segLen - 1)
        (setWord .dstAs number)) middle).Yields () final ∧
      PathRead 0 none (if seg = segments - 1 ∧ i = segLen - 1 then some number else none)
        middle final := by
    by_cases ends : seg = segments - 1 ∧ i = segLen - 1
    · rw [when_pos ends, if_pos ends]
      exact ⟨_, yields_setWord buffer .dstAs number _, rfl, rfl, wordOf_holding_self _ _ _⟩
    · rw [when_neg ends, if_neg ends]
      exact ⟨_, yields_pure buffer () _, rfl, rfl, rfl⟩
  obtain ⟨final, ended, after⟩ := last
  have opened : (run buffer (when (i = 0 ∧ segType = 1) (sfLog config "(" [])) middle).Yields ()
      middle :=
    yields_when buffer _ _ _ (fun _ => yields_sfLog buffer _ _ _) fun _ => rfl
  have both := before.trans after
  rw [Option.none_or, Option.or_none] at both
  refine ⟨final, ?_, both, ?_⟩
  · refine yields_bind buffer _ _ read (yields_bind buffer _ _ stored ?_)
    exact yields_bind buffer _ _ opened (yields_logged buffer _ _ _ ended)
  · rw [both.cursor]
    exact behind

/-- The numbers of a segment from index `i` on: the first of all is the one at index 0 of
the first segment, the last one the one that ends the last segment. -/
theorem readASNumbers_reads (segments seg segType segLen : UInt32) (numbers : List UInt32)
    (i : UInt32) (counted : i.toNat + numbers.length = segLen.toNat) (rest : List UInt8)
    (holds : buffer.Holds sample.cursor (numbers.flatMap be32 ++ rest)) :
    ∃ final, (run buffer (readASNumbers config segments seg segType segLen numbers.length i)
        sample).Yields () final ∧
      PathRead (4 * numbers.length) (if i = 0 ∧ seg = 0 then numbers.head? else none)
        (if seg = segments - 1 then numbers.getLast? else none) sample final ∧
      buffer.Holds final.cursor rest := by
  induction numbers generalizing i sample with
  | nil =>
      refine ⟨sample, yields_pure buffer () sample, ⟨rfl, ?_, ?_⟩, holds⟩
      · split <;> rfl
      · split <;> rfl
  | cons number numbers ih =>
      rw [List.flatMap_cons, List.append_assoc] at holds
      rw [List.length_cons] at counted
      obtain ⟨middle, read, before, behind⟩ :=
        @readASNumber_reads config buffer sample segments seg segType segLen i number _ holds
      have below : i.toNat < segLen.toNat := by omega
      have next := next_index below
      obtain ⟨final, tail, after, further⟩ := ih (i + 1) (by omega) behind
      have later : ¬(i + 1 = 0 ∧ seg = 0) := by
        rintro ⟨zero, -⟩
        rw [zero] at next
        exact absurd next (by simp)
      have ends : i = segLen - 1 ↔ numbers = [] := by
        rw [last_index below, ← List.length_eq_zero_iff]
        omega
      refine ⟨final, ?_, ?_, further⟩
      · rw [List.length_cons, readASNumbers_succ]
        exact yields_bind buffer _ _ read (yields_bind buffer _ _
          (@yields_note collector buffer .iteration middle) tail)
      · have both := before.trans after
        rw [if_neg later, Option.none_or] at both
        have size : 4 + 4 * numbers.length = 4 * (number :: numbers).length := by
          rw [List.length_cons]
          omega
        rw [size] at both
        refine ⟨both.cursor, both.first, ?_⟩
        rw [both.last]
        by_cases lastSegment : seg = segments - 1
        · simp only [lastSegment, true_and, ↓reduceIte, ends]
          cases numbers with
          | nil => rfl
          | cons second others => simp
        · simp only [lastSegment, false_and, ↓reduceIte, Option.none_or]

theorem readASSegment_reads (segments seg : UInt32) (segment : ASSegment)
    (counted : segment.numbers.length < 2 ^ 32) (rest : List UInt8)
    (holds : buffer.Holds sample.cursor (segment.octets ++ rest)) :
    ∃ final, (run buffer (readASSegment config segments seg) sample).Yields () final ∧
      PathRead segment.octets.length (if seg = 0 then segment.numbers.head? else none)
        (if seg = segments - 1 then segment.numbers.getLast? else none) sample final ∧
      buffer.Holds final.cursor rest := by
  rw [ASSegment.octets, List.append_assoc, List.append_assoc] at holds
  obtain ⟨type, behindType⟩ := yields_word segment.type _ holds
  obtain ⟨length, behindLength⟩ := yields_word (UInt32.ofNat segment.numbers.length) _ behindType
  have size : (UInt32.ofNat segment.numbers.length).toNat = segment.numbers.length := by
    rw [UInt32.toNat_ofNat', Nat.mod_eq_of_lt counted]
  obtain ⟨final, numbers, read, behind⟩ := @readASNumbers_reads config buffer _ segments seg
    segment.type (UInt32.ofNat segment.numbers.length) segment.numbers 0
    (by rw [size]; exact Nat.zero_add _) rest behindLength
  refine ⟨final, ?_, ⟨?_, ?_, read.last⟩, behind⟩
  · refine yields_bind buffer _ _ type (yields_bind buffer _ _ length ?_)
    rw [size]
    exact yields_bind buffer _ _ numbers
      (yields_when buffer _ _ _ (fun _ => yields_sfLog buffer _ _ _) fun _ => rfl)
  · rw [read.cursor, ASSegment.octets, List.length_append, List.length_append, length_words,
      length_be32, length_be32]
    show sample.cursor + 4 + 4 + _ = _
    omega
  · have same : (if (0 : UInt32) = 0 ∧ seg = 0 then segment.numbers.head? else none) =
        if seg = 0 then segment.numbers.head? else none := by simp
    rw [read.first, same]
    rfl

theorem readASSegments_reads (segments : UInt32) (path : List ASSegment) (seg : UInt32)
    (counted : seg.toNat + path.length = segments.toNat)
    (each : ∀ segment ∈ path, segment.numbers.length < 2 ^ 32) (rest : List UInt8)
    (holds : buffer.Holds sample.cursor (path.flatMap ASSegment.octets ++ rest)) :
    ∃ final, (run buffer (readASSegments config segments path.length seg) sample).Yields () final ∧
      PathRead (path.flatMap ASSegment.octets).length (if seg = 0 then firstRead path else none)
        (lastRead path) sample final ∧
      buffer.Holds final.cursor rest := by
  induction path generalizing seg sample with
  | nil =>
      refine ⟨sample, yields_pure buffer () sample, ⟨rfl, ?_, rfl⟩, holds⟩
      split <;> rfl
  | cons segment path ih =>
      rw [List.flatMap_cons, List.append_assoc] at holds
      rw [List.length_cons] at counted
      have below : seg.toNat < segments.toNat := by omega
      have next := next_index below
      obtain ⟨middle, read, before, behind⟩ := @readASSegment_reads config buffer sample segments
        seg segment (each segment List.mem_cons_self) _ holds
      obtain ⟨final, tail, after, further⟩ := ih (seg + 1) (by omega)
        (fun segment member => each segment (List.mem_cons_of_mem _ member)) behind
      have later : ¬seg + 1 = 0 := by
        intro zero
        rw [zero] at next
        exact absurd next (by simp)
      have ends : seg = segments - 1 ↔ path = [] := by
        rw [last_index below, ← List.length_eq_zero_iff]
        omega
      refine ⟨final, ?_, ?_, further⟩
      · rw [List.length_cons, readASSegments_succ]
        exact yields_bind buffer _ _ read (yields_bind buffer _ _
          (@yields_note collector buffer .iteration middle) tail)
      · have both := before.trans after
        rw [if_neg later, Option.none_or, ← List.length_append, ← List.flatMap_cons] at both
        refine ⟨both.cursor, both.first, ?_⟩
        rw [both.last]
        simp only [ends]
        cases path with
        | nil => rfl
        | cons second others => simp [lastRead]

end Reading

section Records
variable {buffer : Buffer} {sample : SFSample}

/-- What a gateway record says before its path. The octets of the next hop are those its
type announces. -/
structure GatewayFront where
  nextHop : Address
  sized : nextHop.octets.length = if nextHop.type = 1 then 4 else 16
  myAs : UInt32
  srcAs : UInt32
  srcPeerAs : UInt32

def GatewayFront.octets (front : GatewayFront) (version : UInt32) : List UInt8 :=
  (if version ≥ 5 then be32 front.nextHop.type ++ front.nextHop.octets else []) ++
    (be32 front.myAs ++ (be32 front.srcAs ++ be32 front.srcPeerAs))

theorem yields_getAddress (var : AddressVar) (address : Address)
    (sized : address.octets.length = if address.type = 1 then 4 else 16) (rest : List UInt8)
    (holds : buffer.Holds sample.cursor (be32 address.type ++ (address.octets ++ rest))) :
    ∃ final, (run buffer (getAddress var) sample).Yields address.type final ∧
      buffer.Holds final.cursor rest := by
  obtain ⟨type, behind⟩ := yields_word address.type _ holds
  have room := behind.left.room
  have further := behind.right
  by_cases ipV4 : address.type = 1
  · rw [if_pos ipV4] at sized
    rw [sized] at room further
    refine ⟨holdingAddress ((sample.moved 4).moved 4) var
        ⟨address.type, buffer.slice (sample.moved 4).cursor 4⟩,
      yields_bind buffer _ _ type (yields_pos buffer ipV4 ?_), further⟩
    exact yields_bind buffer _ _ (yields_take buffer 4 _ room)
      (yields_bind buffer _ _ (yields_setAddressVar buffer var _ _) (yields_pure buffer _ _))
  · rw [if_neg ipV4] at sized
    rw [sized] at room further
    have known : (16 : UInt32).toNat ≤ buffer.length := Nat.le_trans (Nat.le_add_left _ _) room
    refine ⟨holdingAddress ((sample.moved 4).moved (quadBytes 16)) var
        ⟨address.type, buffer.slice (sample.moved 4).cursor (quadBytes 16)⟩,
      yields_bind buffer _ _ type (yields_neg buffer ipV4 ?_), further⟩
    exact yields_bind buffer _ _ (yields_skip buffer 16 _ known room)
      (yields_bind buffer _ _ (yields_setAddressVar buffer var _ _) (yields_pure buffer _ _))

/-- The next hop is there from version 5 on. -/
def readNextHop (config : SFConfig) (version : UInt32) : Decode Unit :=
  when (version ≥ 5) do
    let _ ← getAddress .bgpNextHop
    let bgpNextHop ← getAddressVar .bgpNextHop
    sfLog config "bgp_nexthop %s\n" [.address bgpNextHop]

theorem readNextHop_reads (version : UInt32) (nextHop : Address)
    (sized : nextHop.octets.length = if nextHop.type = 1 then 4 else 16) (rest : List UInt8)
    (holds : buffer.Holds sample.cursor
      ((if version ≥ 5 then be32 nextHop.type ++ nextHop.octets else []) ++ rest)) :
    ∃ final, (run buffer (readNextHop config version) sample).Yields () final ∧
      buffer.Holds final.cursor rest := by
  unfold readNextHop
  by_cases newer : version ≥ 5
  · rw [if_pos newer, List.append_assoc] at holds
    obtain ⟨final, read, behind⟩ := yields_getAddress .bgpNextHop nextHop sized rest holds
    rw [when_pos newer]
    refine ⟨final, yields_bind buffer _ _ read (yields_bind buffer _ _ ⟨rfl, rfl⟩ ?_), behind⟩
    exact yields_sfLog buffer _ _ _
  · rw [if_neg newer, List.nil_append] at holds
    rw [when_neg newer]
    exact ⟨sample, yields_pure buffer () sample, holds⟩

/-- The path of a record whose counts of numbers have been cleared. -/
def readPath (config : SFConfig) (segments : UInt32) : Decode Unit :=
  when (segments > 0) do
    sfLog config "dst_as_path " []
    readASSegments config segments segments.toNat 0
    sfLog config "\n" []

theorem readPath_reads (path : List ASSegment) (wellFormed : PathWellFormed path)
    (holds : buffer.Holds sample.cursor (path.flatMap ASSegment.octets)) :
    ∃ final, (run buffer (readPath config (UInt32.ofNat path.length)) sample).Yields () final ∧
      wordOf final .dstPeerAs = (firstRead path).getD (wordOf sample .dstPeerAs) ∧
      wordOf final .dstAs = (lastRead path).getD (wordOf sample .dstAs) := by
  have size : (UInt32.ofNat path.length).toNat = path.length := by
    rw [UInt32.toNat_ofNat', Nat.mod_eq_of_lt wellFormed.counted]
  rw [← List.append_nil (path.flatMap _)] at holds
  obtain ⟨final, walked, read, -⟩ := @readASSegments_reads config buffer sample
    (UInt32.ofNat path.length) path 0 (by rw [size]; exact Nat.zero_add _) wellFormed.each [] holds
  unfold readPath
  by_cases some : UInt32.ofNat path.length > 0
  · rw [when_pos some, size]
    refine ⟨final, yields_logged buffer _ _ _ ?_, read.first, read.last⟩
    exact yields_bind buffer _ _ walked (yields_sfLog buffer _ _ _)
  · rw [when_neg some]
    have none : ¬(0 : UInt32).toNat < (UInt32.ofNat path.length).toNat :=
      fun more => some (UInt32.lt_iff_toNat_lt.mpr more)
    rw [size, show (0 : UInt32).toNat = 0 from rfl] at none
    have empty : path = [] := List.length_eq_zero_iff.mp (Nat.le_zero.mp (Nat.not_lt.mp none))
    subst empty
    exact ⟨sample, yields_pure buffer () sample, rfl, rfl⟩

theorem readGatewayPath_reads (front : GatewayFront) (path : List ASSegment)
    (wellFormed : PathWellFormed path)
    (holds : buffer.Holds sample.cursor
      (front.octets (wordOf sample .datagramVersion) ++ pathOctets path)) :
    ∃ final, (run buffer (readGatewayPath config) sample).Yields () final ∧
      wordOf final .dstPeerAs = (firstRead path).getD 0 ∧
      wordOf final .dstAs = (lastRead path).getD 0 := by
  rw [GatewayFront.octets, List.append_assoc, List.append_assoc, List.append_assoc] at holds
  obtain ⟨opened, hop, behindHop⟩ := @readNextHop_reads config buffer sample
    (wordOf sample .datagramVersion) front.nextHop front.sized _ holds
  obtain ⟨myAs, behindMine⟩ := yields_word front.myAs _ behindHop
  obtain ⟨srcAs, behindSource⟩ :=
    @yields_word buffer (holding (opened.moved 4) .myAs front.myAs) front.srcAs _ behindMine
  obtain ⟨srcPeerAs, behindPeer⟩ := @yields_word buffer
    (holding ((holding (opened.moved 4) .myAs front.myAs).moved 4) .srcAs front.srcAs)
    front.srcPeerAs _ behindSource
  generalize (holding ((holding (opened.moved 4) .myAs front.myAs).moved 4) .srcAs
    front.srcAs).moved 4 = peered at srcPeerAs behindPeer
  obtain ⟨segments, behindSegments⟩ := @yields_word buffer (holding peered .srcPeerAs front.srcPeerAs)
    (UInt32.ofNat path.length) _ behindPeer
  obtain ⟨final, walked, first, last⟩ := @readPath_reads config buffer
    (holding (holding ((holding peered .srcPeerAs front.srcPeerAs).moved 4) .dstPeerAs 0) .dstAs 0)
    path wellFormed behindSegments
  refine ⟨final, ?_, first, last⟩
  refine yields_logged buffer _ _ _ (yields_bind buffer _ _ (yields_getWord buffer _ sample) ?_)
  refine yields_bind buffer _ _ hop ?_
  refine yields_bind buffer _ _ myAs (yields_bind buffer _ _ (yields_setWord buffer _ _ _) ?_)
  refine yields_bind buffer _ _ srcAs (yields_bind buffer _ _ (yields_setWord buffer _ _ _) ?_)
  refine yields_bind buffer _ _ srcPeerAs (yields_bind buffer _ _ (yields_setWord buffer _ _ _) ?_)
  refine yields_logged buffer _ _ _ (yields_logged buffer _ _ _ (yields_logged buffer _ _ _ ?_))
  refine yields_bind buffer _ _ segments (yields_bind buffer _ _ (yields_setWord buffer _ _ _) ?_)
  refine yields_bind buffer _ _ (yields_setWord buffer _ _ _) (yields_bind buffer _ _ walked ?_)
  refine yields_bind buffer _ _ (yields_getWord buffer _ final) (yields_logged buffer _ _ _ ?_)
  exact yields_bind buffer _ _ (yields_getWord buffer _ final) (yields_sfLog buffer _ _ _)

/-- Operations that leave the destination of the path alone. -/
def DestinationKeptOp : Op collector → Prop
  | .set var _ => var ≠ .word .dstPeerAs ∧ var ≠ .word .dstAs
  | _ => True

instance : Permits DestinationKeptOp where
  take _ _ := trivial
  skip _ := trivial
  errout _ := trivial
  note _ _ _ _ _ := trivial
  abort _ _ := trivial
instance : PermitsNames DestinationKeptOp where
  lookup _ _ := trivial
instance : PermitsFilter DestinationKeptOp where
  lookup _ := trivial
instance : PermitsLog config DestinationKeptOp where
  log _ _ := trivial
instance : PermitsMark DestinationKeptOp .communities where
  mark _ := trivial
  peek _ _ := trivial
instance (value : UInt32) : Uses DestinationKeptOp (setWord .communitiesLen value) :=
  uses_single _ ⟨nofun, nofun⟩
instance (value : UInt32) : Uses DestinationKeptOp (setWord .localpref value) :=
  uses_single _ ⟨nofun, nofun⟩

/-! Counted once for each way it is handed on, as before. -/
set_option synthInstance.maxSize 1000000000000

instance : Uses DestinationKeptOp (readCommunities config) := by
  unfold readCommunities
  infer_instance

/-- What a gateway record stores of its path, whatever follows the path. -/
theorem readExtendedGateway_reads (front : GatewayFront) (path : List ASSegment)
    (wellFormed : PathWellFormed path)
    (holds : buffer.Holds sample.cursor
      (front.octets (wordOf sample .datagramVersion) ++ pathOctets path)) :
    wordOf (run buffer (readExtendedGateway config) sample).state .dstPeerAs =
        (firstRead path).getD 0 ∧
      wordOf (run buffer (readExtendedGateway config) sample).state .dstAs =
        (lastRead path).getD 0 := by
  obtain ⟨middle, read, first, last⟩ :=
    @readGatewayPath_reads config buffer sample front path wellFormed holds
  rw [readExtendedGateway_split, state_behind buffer _ read]
  have uses : Uses DestinationKeptOp (CountedArray.communities.read config) :=
    inferInstanceAs (Uses DestinationKeptOp (readCommunities config))
  constructor
  · exact (uses_keeps DestinationKeptOp (.word .dstPeerAs) (fun _ allow => allow.1 rfl) buffer _
      uses middle).trans first
  · exact (uses_keeps DestinationKeptOp (.word .dstAs) (fun _ allow => allow.2 rfl) buffer _
      uses middle).trans last

/-- A word among words that the datagram holds. -/
theorem word_among (numbers : List UInt32) (index : Nat) (bound : index < numbers.length)
    (start : Nat) (holds : buffer.Holds start (numbers.flatMap be32)) :
    UInt32.ofNat (beNat (buffer.slice (start + 4 * index) 4)) = numbers[index] := by
  have split : numbers.flatMap be32 = (numbers.take index).flatMap be32 ++
      (be32 numbers[index] ++ (numbers.drop (index + 1)).flatMap be32) := by
    rw [← List.flatMap_cons, ← List.flatMap_append, List.getElem_cons_drop, List.take_append_drop]
  rw [split] at holds
  have word := holds.right.left.2
  rw [length_words, List.length_take, Nat.min_eq_left (Nat.le_of_lt bound), length_be32] at word
  rw [word, word_be32]

/-- The ends of a flat path are found where they lie. -/
theorem readPathEnds_reads (numbers : List UInt32) (some : numbers ≠ [])
    (counted : numbers.length < 2 ^ 32)
    (holds : buffer.Holds sample.cursor (numbers.flatMap be32)) :
    ∃ final, (run buffer (readPathEnds (UInt32.ofNat numbers.length)) sample).Yields () final ∧
      wordOf final .dstPeerAs = numbers.head some ∧
      wordOf final .dstAs = numbers.getLast some := by
  have size : (UInt32.ofNat numbers.length).toNat = numbers.length := by
    rw [UInt32.toNat_ofNat', Nat.mod_eq_of_lt counted]
  have room := holds.room
  rw [length_words] at room
  have bytes := quadBytes_words (UInt32.ofNat numbers.length)
  rw [size] at bytes
  have known : (UInt32.ofNat numbers.length * 4).toNat ≤ buffer.length := by
    rw [UInt32.toNat_mul, size, show (4 : UInt32).toNat = 4 from rfl]
    omega
  have positive : 0 < numbers.length := List.length_pos_iff.mpr some
  have first := word_among numbers 0 positive sample.cursor holds
  have last := word_among numbers (numbers.length - 1) (by omega) sample.cursor holds
  rw [← List.head_eq_getElem some] at first
  rw [← List.getLast_eq_getElem some] at last
  have inside : (sample.marked Mark.asPath).cursor +
      quadBytes (UInt32.ofNat numbers.length * 4) ≤ buffer.length := by
    rw [State.marked_cursor, bytes]
    omega
  have skipped := @yields_skip collector buffer _ (sample.marked Mark.asPath) known inside
  have place : ((sample.marked Mark.asPath).moved
      (quadBytes (UInt32.ofNat numbers.length * 4))).marks .asPath = sample.cursor :=
    State.marked_marks sample .asPath
  generalize (sample.marked Mark.asPath).moved
    (quadBytes (UInt32.ofNat numbers.length * 4)) = opened at skipped place
  have head : (run buffer (@Decoder.peek collector .asPath 0 4) opened).Yields
      (buffer.slice (sample.cursor + 4 * 0) 4) opened := by
    rw [← place]
    exact @yields_peek collector buffer .asPath 0 4 opened
  generalize stored : holding opened .dstPeerAs (numbers.head some) = middle
  have tail : (run buffer (@Decoder.peek collector .asPath
      (4 * ((UInt32.ofNat numbers.length).toNat - 1)) 4) middle).Yields
      (buffer.slice (sample.cursor + 4 * (numbers.length - 1)) 4) middle := by
    rw [size, ← place, ← stored]
    exact @yields_peek collector buffer .asPath _ 4 (holding opened .dstPeerAs _)
  refine ⟨holding middle .dstAs (numbers.getLast some), ?_, ?_, wordOf_holding_self _ _ _⟩
  · refine yields_bind buffer _ _ (@yields_mark collector buffer .asPath sample) ?_
    refine yields_bind buffer _ _ skipped (yields_bind buffer _ _ head ?_)
    rw [first]
    refine yields_bind buffer _ _ (yields_setWord buffer _ _ _) ?_
    rw [stored]
    refine yields_bind buffer _ _ tail ?_
    rw [last]
    exact yields_setWord buffer _ _ _
  · rw [wordOf_holding_other _ (by decide), ← stored]
    exact wordOf_holding_self _ _ _

/-- What a version 2 record logs behind its path's ends. -/
def showASPathV2 (config : SFConfig) (myAs srcAs srcPeerAs pathLen : UInt32) : Decode Unit := do
  sfLog config "my_as %u\n" [.word myAs]
  sfLog config "src_as %u\n" [.word srcAs]
  sfLog config "src_peer_as %u\n" [.word srcPeerAs]
  let dstAs ← getWord .dstAs
  sfLog config "dst_as %u\n" [.word dstAs]
  let dstPeerAs ← getWord .dstPeerAs
  sfLog config "dst_peer_as %u\n" [.word dstPeerAs]
  sfLog config "dst_as_path_len %u\n" [.word pathLen]
  when (pathLen > 0) do
    let path ← peek .asPath 0 (4 * pathLen.toNat)
    logWords config ⟨"dst_as_path ", []⟩ "%u" (fun number => [.word number]) (wordsOf path)

instance (name : Mark) (offset count : Nat) :
    Uses Reporting (@Decoder.peek collector name offset count) := uses_single _ trivial

instance (myAs srcAs srcPeerAs pathLen : UInt32) :
    Uses Reporting (showASPathV2 config myAs srcAs srcPeerAs pathLen) := by
  unfold showASPathV2
  infer_instance

theorem readASPathV2_ends (myAs srcAs srcPeerAs : UInt32) :
    readASPathV2 config myAs srcAs srcPeerAs = (do
      let pathLen ← getData32
      setWord .dstAsPathLen pathLen
      when (pathLen > 0) (readPathEnds pathLen)
      showASPathV2 config myAs srcAs srcPeerAs pathLen) := rfl

/-- A gateway record of version 2 up to its path. -/
def flatOctets (front : GatewayFront) (numbers : List UInt32) : List UInt8 :=
  be32 front.myAs ++ (be32 front.srcAs ++ (be32 front.srcPeerAs ++
    (be32 (UInt32.ofNat numbers.length) ++ numbers.flatMap be32)))

theorem readASPathV2_reads (front : GatewayFront) (numbers : List UInt32)
    (counted : numbers.length < 2 ^ 32) (peer : wordOf sample .dstPeerAs = 0)
    (destination : wordOf sample .dstAs = 0)
    (holds : buffer.Holds sample.cursor
      (be32 (UInt32.ofNat numbers.length) ++ numbers.flatMap be32)) :
    wordOf (run buffer (readASPathV2 config front.myAs front.srcAs front.srcPeerAs) sample).state
        .dstPeerAs = numbers.head?.getD 0 ∧
      wordOf (run buffer (readASPathV2 config front.myAs front.srcAs front.srcPeerAs) sample).state
        .dstAs = numbers.getLast?.getD 0 := by
  obtain ⟨pathLen, behind⟩ := yields_word (UInt32.ofNat numbers.length) _ holds
  have size : (UInt32.ofNat numbers.length).toNat = numbers.length := by
    rw [UInt32.toNat_ofNat', Nat.mod_eq_of_lt counted]
  generalize stored : holding (sample.moved 4) .dstAsPathLen (UInt32.ofNat numbers.length) = opened
  have kept (var : WordVar) (differ : var ≠ .dstAsPathLen) : wordOf opened var = wordOf sample var := by
    rw [← stored]
    exact wordOf_holding_other _ differ _
  have place : opened.cursor = (sample.moved 4).cursor := by
    rw [← stored]
    rfl
  rw [← place] at behind
  have ends : ∃ final, (run buffer (when (UInt32.ofNat numbers.length > 0)
        (readPathEnds (UInt32.ofNat numbers.length))) opened).Yields () final ∧
      wordOf final .dstPeerAs = numbers.head?.getD 0 ∧
      wordOf final .dstAs = numbers.getLast?.getD 0 := by
    by_cases none : numbers = []
    · subst none
      rw [when_neg (by decide)]
      refine ⟨opened, yields_pure buffer () opened, ?_, ?_⟩
      · exact (kept .dstPeerAs (by decide)).trans peer
      · exact (kept .dstAs (by decide)).trans destination
    · have some : UInt32.ofNat numbers.length > 0 := by
        apply UInt32.lt_iff_toNat_lt.mpr
        rw [size]
        exact List.length_pos_iff.mpr none
      obtain ⟨final, read, first, last⟩ :=
        @readPathEnds_reads buffer opened numbers none counted behind
      rw [when_pos some, List.head?_eq_some_head none, List.getLast?_eq_some_getLast none]
      exact ⟨final, read, first, last⟩
  obtain ⟨final, read, first, last⟩ := ends
  have shown : Uses Reporting (showASPathV2 config front.myAs front.srcAs front.srcPeerAs
    (UInt32.ofNat numbers.length)) := inferInstance
  have same := (reporting_returns buffer _ shown final).2
  have assigned : (run buffer (setWord .dstAsPathLen (UInt32.ofNat numbers.length))
      (sample.moved 4)).Yields () opened := by
    rw [← stored]
    exact yields_setWord buffer _ _ _
  rw [readASPathV2_ends, state_behind buffer _ pathLen, state_behind buffer _ assigned,
    state_behind buffer _ read]
  exact ⟨(congrFun same (.word .dstPeerAs)).trans first, (congrFun same (.word .dstAs)).trans last⟩

theorem readExtendedGatewayV2_reads (front : GatewayFront) (numbers : List UInt32)
    (counted : numbers.length < 2 ^ 32)
    (holds : buffer.Holds sample.cursor (flatOctets front numbers)) :
    wordOf (run buffer (readExtendedGatewayV2 config) sample).state .dstPeerAs =
        numbers.head?.getD 0 ∧
      wordOf (run buffer (readExtendedGatewayV2 config) sample).state .dstAs =
        numbers.getLast?.getD 0 := by
  obtain ⟨myAs, behindMine⟩ := yields_word front.myAs _ holds
  obtain ⟨srcAs, behindSource⟩ :=
    @yields_word buffer (holding (sample.moved 4) .myAs front.myAs) front.srcAs _ behindMine
  obtain ⟨srcPeerAs, behindPeer⟩ := @yields_word buffer
    (holding ((holding (sample.moved 4) .myAs front.myAs).moved 4) .srcAs front.srcAs)
    front.srcPeerAs _ behindSource
  generalize (holding ((holding (sample.moved 4) .myAs front.myAs).moved 4) .srcAs
    front.srcAs).moved 4 = peered at srcPeerAs behindPeer
  have fields : (run buffer (readGatewayFieldsV2 config) sample).Yields
      (front.myAs, front.srcAs, front.srcPeerAs)
      (holding (holding (holding peered .srcPeerAs front.srcPeerAs) .dstPeerAs 0) .dstAs 0) := by
    refine yields_logged buffer _ _ _ (yields_bind buffer _ _ myAs ?_)
    refine yields_bind buffer _ _ (yields_setWord buffer _ _ _) (yields_bind buffer _ _ srcAs ?_)
    refine yields_bind buffer _ _ (yields_setWord buffer _ _ _) (yields_bind buffer _ _ srcPeerAs ?_)
    refine yields_bind buffer _ _ (yields_setWord buffer _ _ _) ?_
    refine yields_bind buffer _ _ (yields_setWord buffer _ _ _) ?_
    exact yields_bind buffer _ _ (yields_setWord buffer _ _ _) (yields_pure buffer _ _)
  rw [readExtendedGatewayV2_split, state_behind buffer _ fields]
  exact readASPathV2_reads front numbers counted rfl rfl behindPeer

end Records

section Ends

/-- What a gateway record should leave of its path: the first and the last number of the
concatenated path, zero exactly where there are none, and for a path of one segment the
same as a version 2 record leaves of the flat path. -/
structure PathTold (config : SFConfig) (buffer : Buffer) (sample : SFSample) (front : GatewayFront)
    (segments : List ASSegment) : Prop where
  peer : wordOf (run buffer (readExtendedGateway config) sample).state .dstPeerAs =
    (concatenated segments).head?.getD 0
  destination : wordOf (run buffer (readExtendedGateway config) sample).state .dstAs =
    (concatenated segments).getLast?.getD 0
  peerEmpty : wordOf (run buffer (readExtendedGateway config) sample).state .dstPeerAs = 0 ↔
    concatenated segments = []
  destinationEmpty : wordOf (run buffer (readExtendedGateway config) sample).state .dstAs = 0 ↔
    concatenated segments = []
  flat : ∀ segment, segments = [segment] → ∀ flatBuffer flatSample,
    flatBuffer.Holds flatSample.cursor (flatOctets front segment.numbers) →
    wordOf (run buffer (readExtendedGateway config) sample).state .dstPeerAs =
        wordOf (run flatBuffer (readExtendedGatewayV2 config) flatSample).state .dstPeerAs ∧
      wordOf (run buffer (readExtendedGateway config) sample).state .dstAs =
        wordOf (run flatBuffer (readExtendedGatewayV2 config) flatSample).state .dstAs

/-- Among numbers that are not zero, a missing one is told by the zero in its place. -/
theorem absent_iff_zero (numbers : List UInt32) (nonzero : ∀ number ∈ numbers, number ≠ 0) :
    (numbers.head?.getD 0 = 0 ↔ numbers = []) ∧ (numbers.getLast?.getD 0 = 0 ↔ numbers = []) := by
  by_cases none : numbers = []
  · subst none
    exact ⟨⟨fun _ => rfl, fun _ => rfl⟩, ⟨fun _ => rfl, fun _ => rfl⟩⟩
  · rw [List.head?_eq_some_head none, List.getLast?_eq_some_getLast none]
    refine ⟨⟨?_, fun empty => absurd empty none⟩, ⟨?_, fun empty => absurd empty none⟩⟩
    · intro zero
      exact absurd zero (nonzero _ (List.head_mem none))
    · intro zero
      exact absurd zero (nonzero _ (List.getLast_mem none))

/-- A number that is read is the one that the concatenated path has there, or there is
none at all. -/
theorem ends_read (segments : List ASSegment) (present : EndsPresent segments) :
    firstRead segments = (concatenated segments).head? ∧
      lastRead segments = (concatenated segments).getLast? := by
  rcases present with empty | ⟨⟨first, begins⟩, last, ends⟩
  · have none (read : Option UInt32) (among : ∀ number, read = some number →
        number ∈ concatenated segments) : read = none := by
      cases read with
      | none => rfl
      | some number =>
          have member := among number rfl
          rw [empty] at member
          exact absurd member List.not_mem_nil
    rw [none (firstRead segments) fun number first =>
        List.mem_of_head? (concatenated_head segments number first),
      none (lastRead segments) fun number last =>
        List.mem_of_getLast? (concatenated_last segments number last), empty]
    exact ⟨rfl, rfl⟩
  · rw [begins, ends, concatenated_head segments first begins,
      concatenated_last segments last ends]
    exact ⟨rfl, rfl⟩

/-- The ends of a path are told exactly where its first and its last segment have numbers,
or none of them has. -/
theorem path_told_iff (config : SFConfig) (buffer : Buffer) (sample : SFSample)
    (front : GatewayFront) (segments : List ASSegment) (wellFormed : PathWellFormed segments)
    (holds : buffer.Holds sample.cursor
      (front.octets (wordOf sample .datagramVersion) ++ pathOctets segments)) :
    PathTold config buffer sample front segments ↔ EndsPresent segments := by
  obtain ⟨first, last⟩ := @readExtendedGateway_reads config buffer sample front segments wellFormed
    holds
  obtain ⟨headZero, lastZero⟩ := absent_iff_zero (concatenated segments) wellFormed.nonzero
  constructor
  · intro told
    by_cases empty : concatenated segments = []
    · exact .inl empty
    · refine .inr ⟨?_, ?_⟩
      · cases begins : firstRead segments with
        | some number => exact ⟨number, rfl⟩
        | none =>
            rw [begins] at first
            exact absurd (told.peerEmpty.mp first) empty
      · cases ends : lastRead segments with
        | some number => exact ⟨number, rfl⟩
        | none =>
            rw [ends] at last
            exact absurd (told.destinationEmpty.mp last) empty
  · intro present
    obtain ⟨begins, ends⟩ := ends_read segments present
    rw [begins] at first
    rw [ends] at last
    refine ⟨first, last, first ▸ headZero, last ▸ lastZero, ?_⟩
    intro segment only flatBuffer flatSample flatHolds
    subst only
    have counted := wellFormed.each segment List.mem_cons_self
    obtain ⟨flatFirst, flatLast⟩ := @readExtendedGatewayV2_reads config flatBuffer flatSample front
      segment.numbers counted flatHolds
    have single : concatenated [segment] = segment.numbers := List.append_nil _
    rw [first, last, flatFirst, flatLast, single]
    exact ⟨rfl, rfl⟩

def sampleGateway : GatewayFront where
  nextHop := .ipV4 [10, 0, 0, 1]
  sized := rfl
  myAs := 65000
  srcAs := 65001
  srcPeerAs := 65002

/-- A gateway record with a path, no communities and a local preference. -/
def gatewayRecord (segments : List ASSegment) : Buffer :=
  .ofBytes (sampleGateway.octets 5 ++ pathOctets segments ++ be32 0 ++ be32 100)

def gatewaySample : SFSample := holding firstSample .datagramVersion 5

/-- An empty sequence before the only number, which is then not told as the first. -/
def paddedPath : List ASSegment := [⟨2, []⟩, ⟨2, [65010]⟩]

theorem paddedPath_wellFormed : PathWellFormed paddedPath :=
  ⟨by decide, by decide +kernel, by simp [concatenated, paddedPath]⟩

theorem empty_segment_hides_peer :
    PathWellFormed paddedPath ∧
    (gatewayRecord paddedPath).Holds gatewaySample.cursor
      (sampleGateway.octets (wordOf gatewaySample .datagramVersion) ++ pathOctets paddedPath) ∧
    ¬PathTold (defaultConfig .full) (gatewayRecord paddedPath) gatewaySample sampleGateway
      paddedPath := by
  have lost : wordOf (run (gatewayRecord paddedPath) (readExtendedGateway (defaultConfig .full))
      gatewaySample).state .dstPeerAs = 0 := by decide +kernel
  refine ⟨paddedPath_wellFormed, ⟨by decide +kernel, by decide +kernel⟩, ?_⟩
  intro told
  exact absurd (told.peerEmpty.mp lost) (by decide)

/-- A sequence and a set behind it. -/
def settledPath : List ASSegment := [⟨2, [65010, 65011]⟩, ⟨1, [65012]⟩]

theorem settled_path_told :
    PathTold (defaultConfig .full) (gatewayRecord settledPath) gatewaySample sampleGateway
      settledPath ↔ EndsPresent settledPath :=
  path_told_iff (defaultConfig .full) (gatewayRecord settledPath) gatewaySample sampleGateway
    settledPath ⟨by decide, by decide +kernel, by simp [concatenated, settledPath]⟩
    ⟨by decide +kernel, by decide +kernel⟩

end Ends

end SflowTool
