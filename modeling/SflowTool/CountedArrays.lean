import SflowTool.Following
import SflowTool.FlowFraming
import SflowTool.ExportSpecs
import SflowTool.HeaderSpecs

/-! The counted arrays of the extended records. The bytes of an array are counted in 32-bit
arithmetic when it is skipped and without a bound when its words are read, so that from
2^30 words on the two part company. -/
namespace SflowTool
open Decoding Decoding.Decoder

variable {config : SFConfig}

section Steps
variable {buffer : Buffer} {low high : Nat} {sample : SFSample}

/-- What a log line shows. -/
def logged (config : SFConfig) (fmt : String) (args : List Arg) : List Event :=
  if config.outputFormat = .full then [.log ⟨fmt, args⟩] else []

theorem sfLog_follows (fmt : String) (args : List Arg) :
    Follows buffer (PeekInside buffer low high) (sfLog config fmt args) sample
      fun _ final events => final = sample ∧ events = logged config fmt args := by
  unfold sfLog logged
  refine follows_when ?_ ?_
  · intro full
    rw [if_pos full]
    exact follows_single _ trivial ⟨rfl, rfl⟩
  · intro other
    rw [if_neg other]
    exact ⟨rfl, rfl⟩

theorem getWord_follows (var : WordVar) :
    Follows buffer (PeekInside buffer low high) (getWord var) sample
      fun value final events => value = wordOf sample var ∧ final = sample ∧ events = [] :=
  follows_single _ trivial ⟨rfl, rfl, rfl⟩

theorem setWord_follows (var : WordVar) (value : UInt32) :
    Follows buffer (PeekInside buffer low high) (setWord var value) sample
      fun _ final events => final = holding sample var value ∧ events = [] :=
  follows_single _ trivial ⟨rfl, rfl⟩

theorem mark_follows (name : Mark) :
    Follows buffer (PeekInside buffer low high) (@Decoder.mark collector name) sample
      fun _ final events => final = sample.marked name ∧ events = [] :=
  follows_single _ trivial ⟨rfl, rfl⟩

theorem peek_follows (name : Mark) (offset count : Nat)
    (inside : ∀ index < count, low ≤ sample.marks name + offset + index ∧
      sample.marks name + offset + index < high) :
    Follows buffer (PeekInside buffer low high) (@Decoder.peek collector name offset count) sample
      fun octets final events =>
        octets = buffer.slice (sample.marks name + offset) count ∧ final = sample ∧ events = [] :=
  follows_single _ inside ⟨rfl, rfl, rfl⟩

theorem getData32_follows :
    Follows buffer (PeekInside buffer low high) getData32 sample fun value final events =>
      value = wordFrom buffer sample.cursor ∧ final = sample.moved 4 ∧ events = [] := by
  refine follows_bind _ _ _ (follows_single (.take 4) trivial ?_)
  simp only [perform]
  split
  · exact follows_pure _ ⟨rfl, rfl, rfl⟩
  · trivial

theorem skipBytes_follows (count : UInt32) :
    Follows buffer (PeekInside buffer low high) (skipBytes count) sample fun _ final events =>
      final = sample.moved (quadBytes count) ∧ events = [] := by
  refine follows_single (.skip count) trivial ?_
  simp only [perform]
  split
  · exact ⟨rfl, rfl⟩
  · trivial

end Steps

section Words

/-- What a list of words shows: a title, dashes between the words and a newline. -/
def wordLines (config : SFConfig) (title : Line) (fmt : String) (args : UInt32 → List Arg) :
    List UInt32 → List Event
  | [] => []
  | first :: rest =>
      logged config title.fmt title.args ++ logged config fmt (args first) ++
        (rest.flatMap fun word => logged config "-" [] ++ logged config fmt (args word)) ++
        logged config "\n" []

variable {buffer : Buffer} {low high : Nat} {sample : SFSample}

theorem logRest_follows (fmt : String) (args : UInt32 → List Arg) (words : List UInt32) :
    Follows buffer (PeekInside buffer low high) (words.forM fun word => do
        sfLog config "-" []
        sfLog config fmt (args word)) sample fun _ final events =>
      final = sample ∧
        events = words.flatMap fun word => logged config "-" [] ++ logged config fmt (args word) := by
  induction words with
  | nil => exact follows_pure () ⟨rfl, rfl⟩
  | cons word rest ih =>
      refine follows_bind _ _ _ (follows_bind _ _ _ ((sfLog_follows _ _).mono ?_))
      rintro _ _ _ ⟨rfl, rfl⟩
      refine (sfLog_follows _ _).mono ?_
      rintro _ _ _ ⟨rfl, rfl⟩
      refine ih.mono ?_
      rintro _ _ _ ⟨rfl, rfl⟩
      exact ⟨rfl, rfl⟩

theorem logWords_follows (title : Line) (fmt : String) (args : UInt32 → List Arg)
    (words : List UInt32) :
    Follows buffer (PeekInside buffer low high) (logWords config title fmt args words) sample
      fun _ final events => final = sample ∧ events = wordLines config title fmt args words := by
  cases words with
  | nil => exact follows_pure () ⟨rfl, rfl⟩
  | cons first rest =>
      refine follows_bind _ _ _ ((sfLog_follows _ _).mono ?_)
      rintro _ _ _ ⟨rfl, rfl⟩
      refine follows_bind _ _ _ ((sfLog_follows _ _).mono ?_)
      rintro _ _ _ ⟨rfl, rfl⟩
      refine follows_bind _ _ _ ((logRest_follows fmt args rest).mono ?_)
      rintro _ _ _ ⟨rfl, rfl⟩
      refine (sfLog_follows _ _).mono ?_
      rintro _ _ _ ⟨rfl, rfl⟩
      refine ⟨rfl, ?_⟩
      simp only [wordLines, List.append_assoc]

theorem length_wordsOf (octets : List UInt8) : (wordsOf octets).length = octets.length / 4 := by
  fun_induction wordsOf octets with
  | case1 a b c d rest ih =>
      simp only [List.length_cons, ih]
      omega
  | case2 octets short =>
      have fewer : octets.length < 4 := by
        by_contra more
        rcases octets with _ | ⟨a, _ | ⟨b, _ | ⟨c, _ | ⟨d, rest⟩⟩⟩⟩
        · exact more (by simp)
        · exact more (by simp)
        · exact more (by simp)
        · exact more (by simp)
        · exact short a b c d rest rfl
      rw [List.length_nil]
      omega

/-- The bytes of an array of so many words, as the skip counts them. -/
theorem quadBytes_words (count : UInt32) :
    quadBytes (count * 4) = 4 * (count.toNat % 2 ^ 30) := by
  have bytes : (count * 4).toNat = 4 * (count.toNat % 2 ^ 30) := by
    simp only [UInt32.toNat_mul, UInt32.reduceToNat]
    omega
  rw [quadBytes_toNat _ (by rw [bytes]; omega), bytes]
  omega

end Words

section Arrays

/-- The counted arrays, with what their record has read before the count. -/
inductive CountedArray where
  | asPath (myAs srcAs srcPeerAs : UInt32)
  | communities
  | labelStack (fieldName : String)
  | vlanTunnel

/-- The AS path of a version 2 gateway record, from its count on. -/
def readASPathV2 (config : SFConfig) (myAs srcAs srcPeerAs : UInt32) : Decode Unit := do
  let pathLen ← getData32
  setWord .dstAsPathLen pathLen
  when (pathLen > 0) do
    mark .asPath
    let _ ← skipBytes (pathLen * 4)
    let first ← peek .asPath 0 4
    setWord .dstPeerAs (UInt32.ofNat (beNat first))
    let last ← peek .asPath (4 * (pathLen.toNat - 1)) 4
    setWord .dstAs (UInt32.ofNat (beNat last))
  sfLog config "my_as %u\n" [.word myAs]
  sfLog config "src_as %u\n" [.word srcAs]
  sfLog config "src_peer_as %u\n" [.word srcPeerAs]
  let dstAs ← getWord .dstAs
  sfLog config "dst_as %u\n" [.word dstAs]
  let dstPeerAs ← getWord .dstPeerAs
  sfLog config "dst_peer_as %u\n" [.word dstPeerAs]
  sfLog config "dst_as_path_len %u\n" [.word pathLen]
  when (pathLen > 0) do
    let path ← peek .asPath 0 (4 * pathLen.toNat)
    logWords config ⟨"dst_as_path ", []⟩ "%u" (fun number => [.word number]) (wordsOf path)

/-- The end of a gateway record, from the count of its communities on. -/
def readCommunities (config : SFConfig) : Decode Unit := do
  let communitiesLen ← getData32
  setWord .communitiesLen communitiesLen
  when (communitiesLen > 0) (mark .communities)
  let _ ← skipBytes (communitiesLen * 4)
  when (communitiesLen > 0) do
    let communities ← peek .communities 0 (4 * communitiesLen.toNat)
    logWords config ⟨"BGP_communities ", []⟩ "%u" (fun community => [.word community])
      (wordsOf communities)
  let localpref ← getData32
  setWord .localpref localpref
  sfLog config "BGP_localpref %u\n" [.word localpref]

def CountedArray.read (config : SFConfig) : CountedArray → Decode Unit
  | .asPath myAs srcAs srcPeerAs => readASPathV2 config myAs srcAs srcPeerAs
  | .communities => readCommunities config
  | .labelStack fieldName => mplsLabelStack config fieldName
  | .vlanTunnel => readExtendedVlanTunnel config

/-- The gateway record of version 2 up to its path. -/
def readGatewayFieldsV2 (config : SFConfig) : Decode (UInt32 × UInt32 × UInt32) := do
  sfLog config "extendedType GATEWAY\n" []
  let myAs ← getData32
  setWord .myAs myAs
  let srcAs ← getData32
  setWord .srcAs srcAs
  let srcPeerAs ← getData32
  setWord .srcPeerAs srcPeerAs
  setWord .dstPeerAs 0
  setWord .dstAs 0
  return (myAs, srcAs, srcPeerAs)

/-- The gateway record up to its communities. -/
def readGatewayPath (config : SFConfig) : Decode Unit := do
  sfLog config "extendedType GATEWAY\n" []
  let version ← getWord .datagramVersion
  when (version ≥ 5) do
    let _ ← getAddress .bgpNextHop
    let bgpNextHop ← getAddressVar .bgpNextHop
    sfLog config "bgp_nexthop %s\n" [.address bgpNextHop]
  let myAs ← getData32
  setWord .myAs myAs
  let srcAs ← getData32
  setWord .srcAs srcAs
  let srcPeerAs ← getData32
  setWord .srcPeerAs srcPeerAs
  sfLog config "my_as %u\n" [.word myAs]
  sfLog config "src_as %u\n" [.word srcAs]
  sfLog config "src_peer_as %u\n" [.word srcPeerAs]
  let segments ← getData32
  setWord .dstPeerAs 0
  setWord .dstAs 0
  when (segments > 0) do
    sfLog config "dst_as_path " []
    readASSegments config segments segments.toNat 0
    sfLog config "\n" []
  let dstAs ← getWord .dstAs
  sfLog config "dst_as %u\n" [.word dstAs]
  let dstPeerAs ← getWord .dstPeerAs
  sfLog config "dst_peer_as %u\n" [.word dstPeerAs]

theorem readExtendedGatewayV2_split : readExtendedGatewayV2 config =
    (readGatewayFieldsV2 config >>= fun fields =>
      (CountedArray.asPath fields.1 fields.2.1 fields.2.2).read config) := by
  simp only [readExtendedGatewayV2, readGatewayFieldsV2, CountedArray.read, readASPathV2,
    LawfulMonad.bind_assoc, pure_bind]

theorem readExtendedGateway_split : readExtendedGateway config =
    (readGatewayPath config >>= fun _ => CountedArray.communities.read config) := by
  simp only [readExtendedGateway, readGatewayPath, CountedArray.read, readCommunities,
    LawfulMonad.bind_assoc]

theorem readExtendedMpls_split : readExtendedMpls config = (do
    sfLog config "extendedType MPLS\n" []
    let _ ← getAddress .mplsNextHop
    let mplsNextHop ← getAddressVar .mplsNextHop
    sfLog config "mpls_nexthop %s\n" [.address mplsNextHop]
    (CountedArray.labelStack "mpls_input_stack").read config
    (CountedArray.labelStack "mpls_output_stack").read config) := rfl

/-- What the record reads behind its array. -/
def CountedArray.trailer : CountedArray → Nat
  | .communities => 4
  | _ => 0

/-- What the record shows of its words. -/
def CountedArray.report (config : SFConfig) : CountedArray → List UInt32 → List Event
  | .asPath _ _ _ => wordLines config ⟨"dst_as_path ", []⟩ "%u" fun number => [.word number]
  | .communities => wordLines config ⟨"BGP_communities ", []⟩ "%u" fun community => [.word community]
  | .labelStack fieldName => wordLines config ⟨"%s ", [.name fieldName]⟩ "%u.%u.%u.%u" fun lab =>
      [.word (lab >>> 12), .word ((lab >>> 9) &&& 7), .word ((lab >>> 8) &&& 1), .word (lab &&& 255)]
  | .vlanTunnel => wordLines config ⟨"vlan_tunnel ", []⟩ "0x%04x.%u.%u.%u" fun lab =>
      [.word (lab >>> 16), .word ((lab >>> 13) &&& 7), .word ((lab >>> 12) &&& 1),
        .word (lab &&& 4095)]

/-- What it shows before and behind them, by the state it ends in. -/
def CountedArray.before (config : SFConfig) (count : UInt32) (final : SFSample) :
    CountedArray → List Event
  | .asPath myAs srcAs srcPeerAs =>
      logged config "my_as %u\n" [.word myAs] ++ logged config "src_as %u\n" [.word srcAs] ++
        logged config "src_peer_as %u\n" [.word srcPeerAs] ++
        logged config "dst_as %u\n" [.word (wordOf final .dstAs)] ++
        logged config "dst_peer_as %u\n" [.word (wordOf final .dstPeerAs)] ++
        logged config "dst_as_path_len %u\n" [.word count]
  | _ => []

def CountedArray.behind (config : SFConfig) (final : SFSample) : CountedArray → List Event
  | .communities => logged config "BGP_localpref %u\n" [.word (wordOf final .localpref)]
  | _ => []

variable {buffer : Buffer} {sample : SFSample}

/-- The window of the array, counted without a bound. -/
abbrev ArrayWindow (buffer : Buffer) (start : Nat) (count : UInt32) : SFSample → Op collector → Prop :=
  PeekInside buffer start (start + 4 * count.toNat)

/-- The words of an array are shown, if it has any. -/
theorem logArray_follows (name : Mark) (count : UInt32) (start : Nat) (title : Line) (fmt : String)
    (args : UInt32 → List Arg) (marked : count > 0 → sample.marks name = start) :
    Follows buffer (ArrayWindow buffer start count) (when (count > 0) do
        let octets ← peek name 0 (4 * count.toNat)
        logWords config title fmt args (wordsOf octets)) sample fun _ final events =>
      final = sample ∧
        events = wordLines config title fmt args (wordsOf (buffer.slice start (4 * count.toNat))) := by
  refine follows_when ?_ ?_
  · intro some
    have place := marked some
    refine follows_bind _ _ _ ((peek_follows name 0 (4 * count.toNat) ?_).mono ?_)
    · intro index inside
      rw [place]
      omega
    · rintro _ _ _ ⟨rfl, rfl, rfl⟩
      refine (logWords_follows title fmt args _).mono ?_
      rintro _ _ _ ⟨rfl, rfl⟩
      rw [Nat.add_zero, place]
      exact ⟨rfl, rfl⟩
  · intro none
    have zero : count = 0 := by
      by_contra differs
      exact none (UInt32.pos_iff_ne_zero.mpr differs)
    subst zero
    exact ⟨rfl, rfl⟩

/-- The mark before the words of an array that has any. -/
theorem markArray_follows (name : Mark) (count : UInt32) (start : Nat) :
    Follows buffer (ArrayWindow buffer start count) (when (count > 0) (@Decoder.mark collector name))
      sample fun _ final events => final.cursor = sample.cursor ∧ final.store = sample.store ∧
        (count > 0 → final.marks name = sample.cursor) ∧ events = [] := by
  refine follows_when ?_ ?_
  · intro some
    refine (mark_follows name).mono ?_
    rintro _ _ _ ⟨rfl, rfl⟩
    exact ⟨rfl, rfl, fun _ => State.marked_marks sample name, rfl⟩
  · intro none
    exact ⟨rfl, rfl, fun some => absurd some none, rfl⟩

theorem readStack_follows (title : Line) (fmt : String) (args : UInt32 → List Arg) :
    Follows buffer (ArrayWindow buffer (sample.cursor + 4) (wordFrom buffer sample.cursor))
      (readStack config title fmt args) sample fun _ final events =>
      final.cursor = sample.cursor + 4 + 4 * ((wordFrom buffer sample.cursor).toNat % 2 ^ 30) ∧
        events = wordLines config title fmt args (wordsOf
          (buffer.slice (sample.cursor + 4) (4 * (wordFrom buffer sample.cursor).toNat))) := by
  unfold readStack
  refine follows_bind _ _ _ (getData32_follows.mono ?_)
  rintro depth _ _ ⟨rfl, rfl, rfl⟩
  refine follows_bind _ _ _ ((markArray_follows .ptr _ _).mono ?_)
  rintro _ marked _ ⟨place, -, start, rfl⟩
  refine follows_bind _ _ _ ((skipBytes_follows _).mono ?_)
  rintro _ _ _ ⟨rfl, rfl⟩
  have words := @logArray_follows config buffer
    (marked.moved (quadBytes (wordFrom buffer sample.cursor * 4))) .ptr _ (sample.cursor + 4) title
    fmt args start
  refine words.mono ?_
  rintro _ _ _ ⟨rfl, rfl⟩
  refine ⟨?_, rfl⟩
  rw [State.moved_cursor, place, quadBytes_words]
  rfl

theorem readCommunities_follows :
    Follows buffer (ArrayWindow buffer (sample.cursor + 4) (wordFrom buffer sample.cursor))
      (readCommunities config) sample fun _ final events =>
      final.cursor = sample.cursor + 4 + 4 * ((wordFrom buffer sample.cursor).toNat % 2 ^ 30) + 4 ∧
        events = CountedArray.communities.report config (wordsOf
          (buffer.slice (sample.cursor + 4) (4 * (wordFrom buffer sample.cursor).toNat))) ++
          CountedArray.communities.behind config final := by
  unfold readCommunities
  refine follows_bind _ _ _ (getData32_follows.mono ?_)
  rintro communitiesLen _ _ ⟨rfl, rfl, rfl⟩
  refine follows_bind _ _ _ ((setWord_follows _ _).mono ?_)
  rintro _ _ _ ⟨rfl, rfl⟩
  refine follows_bind _ _ _ ((markArray_follows .communities _ _).mono ?_)
  rintro _ marked _ ⟨place, -, start, rfl⟩
  refine follows_bind _ _ _ ((skipBytes_follows _).mono ?_)
  rintro _ _ _ ⟨rfl, rfl⟩
  have words := @logArray_follows config buffer
    (marked.moved (quadBytes (wordFrom buffer sample.cursor * 4))) .communities _
    (sample.cursor + 4) ⟨"BGP_communities ", []⟩ "%u" (fun community => [.word community]) start
  refine follows_bind _ _ _ (words.mono ?_)
  rintro _ _ _ ⟨rfl, rfl⟩
  refine follows_bind _ _ _ (getData32_follows.mono ?_)
  rintro localpref _ _ ⟨rfl, rfl, rfl⟩
  refine follows_bind _ _ _ ((setWord_follows _ _).mono ?_)
  rintro _ _ _ ⟨rfl, rfl⟩
  refine (sfLog_follows _ _).mono ?_
  rintro _ _ _ ⟨rfl, rfl⟩
  refine ⟨?_, ?_⟩
  · show marked.cursor + _ + 4 = _
    rw [place, quadBytes_words]
    rfl
  · simp only [CountedArray.report, CountedArray.behind, wordOf_holding_self, List.nil_append]

/-- The path of a version 2 record, where it has one: its first and its last number are
looked up by the unbounded count. -/
def readPathEnds (pathLen : UInt32) : Decode Unit := do
  mark .asPath
  let _ ← skipBytes (pathLen * 4)
  let first ← peek .asPath 0 4
  setWord .dstPeerAs (UInt32.ofNat (beNat first))
  let last ← peek .asPath (4 * (pathLen.toNat - 1)) 4
  setWord .dstAs (UInt32.ofNat (beNat last))

theorem readPathEnds_follows (pathLen : UInt32) (some : pathLen > 0) :
    Follows buffer (ArrayWindow buffer sample.cursor pathLen) (readPathEnds pathLen) sample
      fun _ final events => final.cursor = sample.cursor + 4 * (pathLen.toNat % 2 ^ 30) ∧
        final.marks .asPath = sample.cursor ∧ events = [] := by
  have counted : 0 < pathLen.toNat := UInt32.lt_iff_toNat_lt.mp some
  have place : (sample.marked Mark.asPath).marks .asPath = sample.cursor :=
    State.marked_marks sample .asPath
  refine follows_bind _ _ _ ((mark_follows .asPath).mono ?_)
  rintro _ _ _ ⟨rfl, rfl⟩
  refine follows_bind _ _ _ ((skipBytes_follows _).mono ?_)
  rintro _ _ _ ⟨rfl, rfl⟩
  refine follows_bind _ _ _ ((peek_follows .asPath 0 4 ?_).mono ?_)
  · intro index small
    rw [State.moved_marks, place]
    omega
  rintro first _ _ ⟨-, rfl, rfl⟩
  refine follows_bind _ _ _ ((setWord_follows _ _).mono ?_)
  rintro _ _ _ ⟨rfl, rfl⟩
  refine follows_bind _ _ _ ((peek_follows .asPath _ 4 ?_).mono ?_)
  · intro index small
    rw [holding_marks, State.moved_marks, place]
    omega
  rintro last _ _ ⟨-, rfl, rfl⟩
  refine (setWord_follows _ _).mono ?_
  rintro _ _ _ ⟨rfl, rfl⟩
  refine ⟨?_, place, rfl⟩
  show sample.cursor + _ = _
  rw [quadBytes_words]

theorem readASPathV2_follows (myAs srcAs srcPeerAs : UInt32) :
    Follows buffer (ArrayWindow buffer (sample.cursor + 4) (wordFrom buffer sample.cursor))
      (readASPathV2 config myAs srcAs srcPeerAs) sample fun _ final events =>
      final.cursor = sample.cursor + 4 + 4 * ((wordFrom buffer sample.cursor).toNat % 2 ^ 30) ∧
        events = (CountedArray.asPath myAs srcAs srcPeerAs).before config
            (wordFrom buffer sample.cursor) final ++
          (CountedArray.asPath myAs srcAs srcPeerAs).report config (wordsOf
            (buffer.slice (sample.cursor + 4) (4 * (wordFrom buffer sample.cursor).toNat))) := by
  have ends (opened : SFSample) (start : opened.cursor = sample.cursor + 4) :
      Follows buffer (ArrayWindow buffer (sample.cursor + 4) (wordFrom buffer sample.cursor))
        (when (wordFrom buffer sample.cursor > 0) (readPathEnds (wordFrom buffer sample.cursor)))
        opened fun _ final events =>
          final.cursor = sample.cursor + 4 + 4 * ((wordFrom buffer sample.cursor).toNat % 2 ^ 30) ∧
          (wordFrom buffer sample.cursor > 0 → final.marks .asPath = sample.cursor + 4) ∧
          events = [] := by
    refine follows_when ?_ ?_
    · intro some
      have followed := @readPathEnds_follows buffer opened _ some
      rw [start] at followed
      refine followed.mono ?_
      rintro _ final _ ⟨moved, place, silent⟩
      exact ⟨moved, fun _ => place, silent⟩
    · intro none
      have zero : wordFrom buffer sample.cursor = 0 := by
        by_contra differs
        exact none (UInt32.pos_iff_ne_zero.mpr differs)
      refine ⟨?_, fun some => absurd some none, rfl⟩
      rw [start, zero]
      rfl
  unfold readASPathV2
  refine follows_bind _ _ _ (getData32_follows.mono ?_)
  rintro pathLen _ _ ⟨rfl, rfl, rfl⟩
  refine follows_bind _ _ _ ((setWord_follows _ _).mono ?_)
  rintro _ _ _ ⟨rfl, rfl⟩
  refine follows_bind _ _ _ ((ends _ rfl).mono ?_)
  rintro _ final _ ⟨moved, place, rfl⟩
  refine follows_bind _ _ _ ((sfLog_follows _ _).mono ?_)
  rintro _ _ _ ⟨rfl, rfl⟩
  refine follows_bind _ _ _ ((sfLog_follows _ _).mono ?_)
  rintro _ _ _ ⟨rfl, rfl⟩
  refine follows_bind _ _ _ ((sfLog_follows _ _).mono ?_)
  rintro _ _ _ ⟨rfl, rfl⟩
  refine follows_bind _ _ _ ((getWord_follows _).mono ?_)
  rintro _ _ _ ⟨rfl, rfl, rfl⟩
  refine follows_bind _ _ _ ((sfLog_follows _ _).mono ?_)
  rintro _ _ _ ⟨rfl, rfl⟩
  refine follows_bind _ _ _ ((getWord_follows _).mono ?_)
  rintro _ _ _ ⟨rfl, rfl, rfl⟩
  refine follows_bind _ _ _ ((sfLog_follows _ _).mono ?_)
  rintro _ _ _ ⟨rfl, rfl⟩
  refine follows_bind _ _ _ ((sfLog_follows _ _).mono ?_)
  rintro _ final _ ⟨rfl, rfl⟩
  have words := @logArray_follows config buffer final .asPath _ (sample.cursor + 4)
    ⟨"dst_as_path ", []⟩ "%u" (fun number => [.word number]) place
  refine words.mono ?_
  rintro _ _ _ ⟨rfl, rfl⟩
  refine ⟨moved, ?_⟩
  simp only [CountedArray.before, CountedArray.report, List.nil_append, List.append_assoc]

end Arrays

section Exactness

/-- The count of the array that starts at the cursor. -/
def arrayCount (buffer : Buffer) (sample : SFSample) : UInt32 := wordFrom buffer sample.cursor

/-- What a counted array does, whatever its count: the skip goes by the count in 32 bits,
the looks and the report by the count itself. -/
theorem array_follows (array : CountedArray) (buffer : Buffer) (sample : SFSample) :
    Follows buffer (ArrayWindow buffer (sample.cursor + 4) (arrayCount buffer sample))
      (array.read config) sample fun _ final events =>
      final.cursor = sample.cursor + 4 + 4 * ((arrayCount buffer sample).toNat % 2 ^ 30) +
          array.trailer ∧
        events = array.before config (arrayCount buffer sample) final ++ array.report config
          (wordsOf (buffer.slice (sample.cursor + 4) (4 * (arrayCount buffer sample).toNat))) ++
          array.behind config final := by
  cases array with
  | asPath myAs srcAs srcPeerAs =>
      refine (readASPathV2_follows myAs srcAs srcPeerAs).mono ?_
      rintro _ final _ ⟨moved, rfl⟩
      exact ⟨moved, (List.append_nil _).symm⟩
  | communities => exact readCommunities_follows
  | labelStack fieldName =>
      refine (readStack_follows _ _ _).mono ?_
      rintro _ final _ ⟨moved, rfl⟩
      exact ⟨moved, (List.append_nil _).symm⟩
  | vlanTunnel =>
      refine (readStack_follows _ _ _).mono ?_
      rintro _ final _ ⟨moved, rfl⟩
      exact ⟨moved, (List.append_nil _).symm⟩

/-- Where the skip over an array has moved the cursor. -/
def CountedArray.skippedTo (config : SFConfig) (buffer : Buffer) (sample : SFSample)
    (array : CountedArray) : Nat :=
  (run buffer (array.read config) sample).state.cursor - array.trailer

theorem skippedTo_wraps (config : SFConfig) (buffer : Buffer) (sample : SFSample)
    (array : CountedArray) (done : (run buffer (array.read config) sample).outcome = .ok ()) :
    array.skippedTo config buffer sample =
      sample.cursor + 4 + 4 * ((arrayCount buffer sample).toNat % 2 ^ 30) := by
  obtain ⟨moved, -⟩ := (@array_follows config array buffer sample).concluding.of_ok done
  rw [CountedArray.skippedTo, moved]
  omega

/-- The words between the start of an array and the end of the skip. -/
def CountedArray.skippedWords (config : SFConfig) (buffer : Buffer) (sample : SFSample)
    (array : CountedArray) : List UInt32 :=
  wordsOf (buffer.slice (sample.cursor + 4)
    (array.skippedTo config buffer sample - (sample.cursor + 4)))

/-- The record skips four bytes for each word that it counts, looks at none but these, and
reports the words that were skipped, as many as it counts. -/
structure CountedArray.Exact (config : SFConfig) (buffer : Buffer) (sample : SFSample)
    (array : CountedArray) : Prop where
  skipped : array.skippedTo config buffer sample =
    sample.cursor + 4 + 4 * (arrayCount buffer sample).toNat
  inside : PeeksInside buffer (sample.cursor + 4) (array.skippedTo config buffer sample)
    (array.read config) sample
  counted : (array.skippedWords config buffer sample).length = (arrayCount buffer sample).toNat
  reported : eventsOf (run buffer (array.read config) sample) =
    array.before config (arrayCount buffer sample) (run buffer (array.read config) sample).state ++
      array.report config (array.skippedWords config buffer sample) ++
      array.behind config (run buffer (array.read config) sample).state

/-- A counted array that does not abort is taken exactly for the counts whose bytes can be
counted in 32 bits. -/
theorem counted_array_exact_iff (config : SFConfig) (buffer : Buffer) (sample : SFSample)
    (array : CountedArray) (done : (run buffer (array.read config) sample).outcome = .ok ()) :
    array.Exact config buffer sample ↔ arrayCount buffer sample < 2 ^ 30 := by
  obtain ⟨along, concluding⟩ := @array_follows config array buffer sample
  obtain ⟨-, events⟩ := concluding.of_ok done
  have skipped := skippedTo_wraps config buffer sample array done
  rw [UInt32.lt_iff_toNat_lt, show (2 ^ 30 : UInt32).toNat = 2 ^ 30 from rfl]
  constructor
  · intro exact
    have whole := exact.skipped
    rw [skipped] at whole
    omega
  · intro small
    have whole : array.skippedTo config buffer sample =
        sample.cursor + 4 + 4 * (arrayCount buffer sample).toNat := by
      rw [skipped, Nat.mod_eq_of_lt small]
    have words : array.skippedWords config buffer sample = wordsOf
        (buffer.slice (sample.cursor + 4) (4 * (arrayCount buffer sample).toNat)) := by
      rw [CountedArray.skippedWords, whole, Nat.add_sub_cancel_left]
    refine ⟨whole, ?_, ?_, ?_⟩
    · rw [whole]
      exact along
    · rw [words, length_wordsOf, Buffer.length_slice]
      omega
    · rw [words]
      exact events

instance (fmt : String) (args : List Arg) : Uses Reporting (sfLog config fmt args) := by
  unfold sfLog
  exact uses_when_of _ _ fun _ => uses_single _ trivial

/-- The words of an array only show. -/
instance logWords_reporting (title : Line) (fmt : String) (args : UInt32 → List Arg)
    (words : List UInt32) : Uses Reporting (logWords config title fmt args words) := by
  unfold logWords
  cases words with
  | nil => exact uses_pure ()
  | cons first rest => infer_instance

/-- A stack that can be skipped is read to its end. -/
theorem readStack_returns (title : Line) (fmt : String) (args : UInt32 → List Arg)
    (buffer : Buffer) (sample : SFSample) (counted : sample.cursor + 4 ≤ buffer.length)
    (known : (arrayCount buffer sample * 4).toNat ≤ buffer.length)
    (room : sample.cursor + 4 + quadBytes (arrayCount buffer sample * 4) ≤ buffer.length) :
    (run buffer (readStack config title fmt args) sample).outcome = .ok () := by
  have shown (count : UInt32) : Uses Reporting (when (count > 0) do
      let stack ← @Decoder.peek collector .ptr 0 (4 * count.toNat)
      logWords config title fmt args (wordsOf stack)) := by
    refine uses_when_of _ _ fun _ => Uses.bind (uses_single _ trivial) ?_
    intro stack
    exact logWords_reporting title fmt args _
  have depth : (run buffer getData32 sample).Yields (arrayCount buffer sample) (sample.moved 4) :=
    yields_bind buffer _ _ (yields_take buffer 4 sample counted) (yields_pure buffer _ _)
  have skip (opened : SFSample) (start : opened.cursor = sample.cursor + 4) :
      ∃ octets final, (run buffer (skipBytes (arrayCount buffer sample * 4)) opened).Yields
        octets final := by
    refine ⟨_, _, @yields_skip collector buffer _ opened known ?_⟩
    rw [start]
    exact room
  have rest (opened : SFSample) (start : opened.cursor = sample.cursor + 4) :
      (run buffer (do
        let _ ← skipBytes (arrayCount buffer sample * 4)
        when (arrayCount buffer sample > 0) do
          let stack ← @Decoder.peek collector .ptr 0 (4 * (arrayCount buffer sample).toNat)
          logWords config title fmt args (wordsOf stack)) opened).outcome = .ok () := by
    obtain ⟨octets, final, skipped⟩ := skip opened start
    obtain ⟨⟨value, returned⟩, -⟩ := reporting_returns buffer _ (shown (arrayCount buffer sample)) final
    exact (yields_bind buffer _ _ skipped ⟨returned, rfl⟩).outcome
  unfold readStack
  by_cases some : arrayCount buffer sample > 0
  · have marked : (run buffer (when (arrayCount buffer sample > 0) (@Decoder.mark collector .ptr))
        (sample.moved 4)).Yields () ((sample.moved 4).marked .ptr) := by
      rw [when_pos some]
      exact @yields_mark collector buffer .ptr _
    exact (yields_bind buffer _ _ depth
      (yields_bind buffer _ _ marked ⟨rest _ rfl, rfl⟩)).outcome
  · have unmarked : (run buffer (when (arrayCount buffer sample > 0)
        (@Decoder.mark collector .ptr)) (sample.moved 4)).Yields () (sample.moved 4) := by
      rw [when_neg some]
      exact yields_pure buffer () _
    exact (yields_bind buffer _ _ depth
      (yields_bind buffer _ _ unmarked ⟨rest _ rfl, rfl⟩)).outcome

/-- A tunnel stack of 2^30 words of which the datagram holds none. -/
def endlessTunnel : Buffer := datagramOf [0x40000000]

theorem endless_tunnel_skips_nothing :
    (run endlessTunnel (CountedArray.vlanTunnel.read (defaultConfig .full)) firstSample).outcome =
        .ok () ∧
      ¬CountedArray.vlanTunnel.Exact (defaultConfig .full) endlessTunnel firstSample := by
  have count : arrayCount endlessTunnel firstSample = 0x40000000 := by decide +kernel
  have done : (run endlessTunnel (CountedArray.vlanTunnel.read (defaultConfig .full))
      firstSample).outcome = .ok () := by
    refine readStack_returns _ _ _ endlessTunnel firstSample (by decide) ?_ ?_
    · rw [count]
      decide +kernel
    · rw [count]
      decide +kernel
  refine ⟨done, ?_⟩
  intro exact
  have skipped := exact.skipped
  rw [skippedTo_wraps (defaultConfig .full) endlessTunnel firstSample .vlanTunnel done, count,
    show (0x40000000 : UInt32).toNat = 2 ^ 30 from rfl] at skipped
  omega

/-- A tunnel stack of one word. -/
theorem one_tunnel_exact :
    CountedArray.vlanTunnel.Exact (defaultConfig .full) (datagramOf [1, 0x81000005]) firstSample ↔
      arrayCount (datagramOf [1, 0x81000005]) firstSample < 2 ^ 30 :=
  counted_array_exact_iff (defaultConfig .full) (datagramOf [1, 0x81000005]) firstSample
    .vlanTunnel ((received_returned _).mp (by decide +kernel))

end Exactness

end SflowTool
