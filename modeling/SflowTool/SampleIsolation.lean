import SflowTool.AgentIsolation
import SflowTool.DatagramExtent
import SflowTool.RecordHistories

/-! The flow samples of one datagram. What is decoded is cleared for a datagram and not for a
sample: a flow sample that reads a field it has not set finds what the samples before it have left
there, and a look behind its end shows it what follows. Where it does neither, it is exported as
in a datagram of its own. -/
namespace SflowTool
open Decoding Decoding.Decoder

section Deciding
variable {α β : Type}

/-- The run returns where there is room, and what holds where it does. -/
structure Decides (performed : Run collector α) (room : Prop) (holds : α → SFSample → Prop) : Prop where
  returns : room → ∃ value, performed.outcome = .ok value
  holds : performed.Returning holds

variable {buffer : Buffer} {sample middle : SFSample} {room : Prop}

theorem decides_bind {program : Decode α} {next : α → Decode β} {enough : Prop}
    {between : α → SFSample → Prop} {holds : β → SFSample → Prop}
    (first : Decides (run buffer program sample) enough between) (suffice : room → enough)
    (rest : ∀ value middle, between value middle →
      Decides (run buffer (next value) middle) room holds) :
    Decides (run buffer (program >>= next) sample) room holds := by
  rw [run_seq]
  obtain ⟨returns, reached⟩ := first
  generalize run buffer program sample = performed at returns reached ⊢
  obtain ⟨outcome, middle, trace, notes⟩ := performed
  cases outcome with
  | error reason =>
      refine ⟨fun large => ?_, trivial⟩
      obtain ⟨value, returned⟩ := returns (suffice large)
      cases returned
  | ok value =>
      obtain ⟨later, held⟩ := rest value middle reached
      exact ⟨later, held⟩

/-- A step that needs no room. -/
theorem decides_behind {program : Decode α} {next : α → Decode β} {value : α}
    {holds : β → SFSample → Prop} (yields : (run buffer program sample).Yields value middle)
    (rest : Decides (run buffer (next value) middle) room holds) :
    Decides (run buffer (program >>= next) sample) room holds := by
  rw [run_seq]
  obtain ⟨returned, reached⟩ := yields
  generalize run buffer program sample = performed at returned reached ⊢
  obtain ⟨outcome, after, trace, notes⟩ := performed
  cases returned
  cases reached
  exact ⟨rest.returns, rest.holds⟩

theorem decides_pure {value : α} {holds : α → SFSample → Prop} (held : holds value sample) :
    Decides (run buffer (Pure.pure value) sample) room holds := ⟨fun _ => ⟨value, rfl⟩, held⟩

theorem decides_word (buffer : Buffer) (sample : SFSample) :
    Decides (run buffer getData32 sample) (sample.cursor + 4 ≤ buffer.length) fun value final =>
      value = wordFrom buffer sample.cursor ∧ final = State.moved sample 4 ∧
        sample.cursor + 4 ≤ buffer.length := by
  by_cases room : sample.cursor + 4 ≤ buffer.length
  · rw [run_getData32 room]
    exact ⟨fun _ => ⟨_, rfl⟩, rfl, rfl, room⟩
  · rw [run_getData32_stops room]
    exact ⟨fun large => absurd large room, trivial⟩

theorem decides_octets (buffer : Buffer) (count : Nat) (sample : SFSample) :
    Decides (run buffer (take count) sample) (sample.cursor + count ≤ buffer.length)
      fun octets final => octets = buffer.slice sample.cursor count ∧
        final = State.moved sample count := by
  have single : run buffer (take count) sample = perform buffer (.take count) sample :=
    run_single buffer (.take count) sample
  rw [single]
  simp only [perform]
  split
  · exact ⟨fun _ => ⟨_, rfl⟩, rfl, rfl⟩
  · next small => exact ⟨fun large => absurd large small, trivial⟩

theorem decides_skipped (buffer : Buffer) (count : UInt32) (plain : count.toNat ≤ quadBytes count)
    (sample : SFSample) :
    Decides (run buffer (skip count) sample) (sample.cursor + quadBytes count ≤ buffer.length)
      fun octets final => octets = buffer.slice sample.cursor (quadBytes count) ∧
        final = State.moved sample (quadBytes count) := by
  have single : run buffer (skip count) sample = perform buffer (.skip count) sample :=
    run_single buffer (.skip count) sample
  rw [single]
  simp only [perform]
  split
  · exact ⟨fun _ => ⟨_, rfl⟩, rfl, rfl⟩
  · next small => exact ⟨fun large => absurd ⟨by omega, large⟩ small, trivial⟩

end Deciding

section Header
variable {buffer : Buffer} {config : SFConfig}

/-- The bytes an address takes with its type. -/
def addressSize (buffer : Buffer) (place : Nat) : Nat :=
  4 + if wordFrom buffer place = 1 then 4 else 16

theorem yields_getAddressVar (buffer : Buffer) (var : AddressVar) (sample : SFSample) :
    (run buffer (getAddressVar var) sample).Yields (addressOf sample var) sample := ⟨rfl, rfl⟩

theorem yields_survey (buffer : Buffer) (sample : SFSample) :
    (run buffer (@Decoder.survey collector) sample).Yields (buffer.received, sample.cursor) sample :=
  ⟨rfl, rfl⟩

theorem decides_address (buffer : Buffer) (var : AddressVar) (sample : SFSample) :
    Decides (run buffer (getAddress var) sample)
      (sample.cursor + addressSize buffer sample.cursor ≤ buffer.length) fun _ final =>
        final = holdingAddress (State.moved sample (addressSize buffer sample.cursor)) var
          (addressAt buffer sample.cursor) := by
  have moved (count : Nat) : State.moved (State.moved sample 4) count =
      State.moved sample (4 + count) := by
    simp only [State.moved, Nat.add_assoc]
  unfold getAddress addressSize addressAt
  refine decides_bind (decides_word buffer sample) (fun large => by omega) ?_
  rintro _ _ ⟨rfl, rfl, -⟩
  by_cases v4 : wordFrom buffer sample.cursor = 1
  · simp only [if_pos v4]
    refine decides_bind (decides_octets buffer 4 _) (fun large => ?_) ?_
    · rwa [← Nat.add_assoc] at large
    rintro _ _ ⟨rfl, rfl⟩
    rw [moved]
    exact decides_behind (yields_setAddressVar buffer var _ _) (decides_pure rfl)
  · simp only [if_neg v4]
    refine decides_bind (decides_skipped buffer 16 (by decide) _) (fun large => ?_) ?_
    · rwa [← Nat.add_assoc] at large
    rintro _ _ ⟨rfl, rfl⟩
    rw [show quadBytes 16 = 16 from rfl, moved]
    exact decides_behind (yields_setAddressVar buffer var _ _) (decides_pure rfl)

/-- The sample behind the header of a version 5 datagram. -/
def openedSample (buffer : Buffer) (sample : SFSample) : SFSample :=
  let agentStart := sample.cursor + 4
  let agentSize := addressSize buffer agentStart
  let version := holding (State.moved sample 4) .datagramVersion (wordFrom buffer sample.cursor)
  let agent := holdingAddress (State.moved version agentSize) .agentAddr (addressAt buffer agentStart)
  let agentSubId := holding (State.moved agent 4) .agentSubId
    (wordFrom buffer (agentStart + agentSize))
  let sequenceNo := holding (State.moved agentSubId 4) .sequenceNo
    (wordFrom buffer (agentStart + agentSize + 4))
  let sysUpTime := holding (State.moved sequenceNo 4) .sysUpTime
    (wordFrom buffer (agentStart + agentSize + 8))
  State.moved sysUpTime 4

/-- A version 5 header is read wherever it fits. -/
theorem decides_header (buffer : Buffer) (sample : SFSample)
    (version : wordFrom buffer sample.cursor = 5) :
    Decides (run buffer (readDatagramHeader config) sample)
      ((openedSample buffer sample).cursor ≤ buffer.length) fun samplesInPacket final =>
        samplesInPacket = wordFrom buffer ((openedSample buffer sample).cursor - 4) ∧
          final = openedSample buffer sample ∧
          (openedSample buffer sample).cursor ≤ buffer.length := by
  have size : (openedSample buffer sample).cursor =
      sample.cursor + 4 + addressSize buffer (sample.cursor + 4) + 4 + 4 + 4 + 4 := rfl
  have supported : ¬(wordFrom buffer sample.cursor ≠ 2 ∧ wordFrom buffer sample.cursor ≠ 4 ∧
      wordFrom buffer sample.cursor ≠ 5) := fun others => others.2.2 version
  have recent : wordFrom buffer sample.cursor ≥ 5 := by
    rw [version]
    exact UInt32.le_refl 5
  unfold readDatagramHeader
  refine decides_behind (yields_getAddressVar buffer _ _) ?_
  refine decides_behind (yields_sfLog buffer _ _ _) ?_
  refine decides_behind (yields_survey buffer _) ?_
  refine decides_behind (yields_sfLog buffer _ _ _) ?_
  refine decides_behind (yields_sfLog buffer _ _ _) ?_
  refine decides_behind (yields_getWord buffer _ _) ?_
  refine decides_behind (yields_when buffer _ _ _ (fun _ => yields_sfLog buffer _ _ _) fun _ => rfl) ?_
  refine decides_bind (decides_word buffer sample) (fun large => by omega) ?_
  rintro _ _ ⟨rfl, rfl, -⟩
  refine decides_behind (yields_setWord buffer _ _ _) ?_
  refine decides_behind (yields_sfLog buffer _ _ _) ?_
  rw [when_neg supported]
  refine decides_behind (yields_pure buffer () _) ?_
  refine decides_bind (decides_address buffer .agentAddr _) (fun large => ?_) ?_
  · show sample.cursor + 4 + addressSize buffer (sample.cursor + 4) ≤ _
    omega
  rintro _ _ rfl
  rw [when_pos recent]
  simp only [LawfulMonad.bind_assoc]
  refine decides_bind (decides_word buffer _) (fun large => ?_) ?_
  · show sample.cursor + 4 + addressSize buffer (sample.cursor + 4) + 4 ≤ _
    omega
  rintro _ _ ⟨rfl, rfl, -⟩
  refine decides_behind (yields_setWord buffer _ _ _) ?_
  refine decides_behind (yields_sfLog buffer _ _ _) ?_
  refine decides_bind (decides_word buffer _) (fun large => ?_) ?_
  · show sample.cursor + 4 + addressSize buffer (sample.cursor + 4) + 4 + 4 ≤ _
    omega
  rintro _ _ ⟨rfl, rfl, -⟩
  refine decides_behind (yields_setWord buffer _ _ _) ?_
  refine decides_bind (decides_word buffer _) (fun large => ?_) ?_
  · show sample.cursor + 4 + addressSize buffer (sample.cursor + 4) + 4 + 4 + 4 ≤ _
    omega
  rintro _ _ ⟨rfl, rfl, -⟩
  refine decides_behind (yields_setWord buffer _ _ _) ?_
  refine decides_bind (decides_word buffer _) id ?_
  rintro _ _ ⟨rfl, rfl, room⟩
  refine decides_behind (yields_getAddressVar buffer _ _) ?_
  refine decides_behind (yields_sfLog buffer _ _ _) ?_
  refine decides_behind (yields_sfLog buffer _ _ _) ?_
  refine decides_behind (yields_sfLog buffer _ _ _) ?_
  refine decides_behind (yields_sfLog buffer _ _ _) ?_
  exact decides_pure ⟨rfl, rfl, room⟩

end Header

section Framing
variable {config : SFConfig}

/-! Counted once for each way it is handed on, as before. -/
set_option synthInstance.maxSize 1000000000000

/-- Operations but the moves that nothing checks. -/
def Unjumping (op : Op collector) : Prop := ∀ count, op ≠ .jump count

theorem unjumping_of_flow {α : Type} (program : Decode α) [uses : Uses (FlowOp config) program] :
    Uses Unjumping program :=
  uses.mono fun _ allow count same => flow_unjumped count (same ▸ allow)

theorem unjumping_of_reporting {α : Type} (program : Decode α) [uses : Uses Reporting program] :
    Uses Unjumping program :=
  uses.mono fun _ allow _ same => by
    subst same
    exact allow

instance (tag length : UInt32) : Uses Unjumping (readFlowElementBody config tag length) :=
  @unjumping_of_flow config _ _ inferInstance
instance : Uses Unjumping getData32 := @unjumping_of_flow (defaultConfig .line) _ _ inferInstance
instance (description : String) (origin : Mark) (len : UInt32) :
    Uses Unjumping (lengthCheck description origin len) :=
  @unjumping_of_flow (defaultConfig .line) _ _ inferInstance
instance (fmt : String) (args : List Arg) : Uses Unjumping (sfLog config fmt args) :=
  @unjumping_of_flow config _ _ inferInstance
instance (expanded : Bool) : Uses Unjumping (readFlowSampleFields config expanded) :=
  @unjumping_of_flow config _ _ inferInstance
instance : Uses Unjumping (emitFlowSample config) := unjumping_of_reporting _
instance (name : Mark) : Uses Unjumping (@Decoder.mark collector name) := uses_single _ nofun
instance (mark : Note) : Uses Unjumping (@Decoder.note collector mark) := uses_single _ nofun

instance (remaining : Nat) : Uses Unjumping (readFlowElements config remaining) := by
  have element : Uses Unjumping (readFlowElement config) := by
    unfold readFlowElement
    infer_instance
  induction remaining with
  | zero => exact .pure ()
  | succ remaining ih =>
      unfold readFlowElements
      infer_instance

theorem flowSample_unjumping (expanded : Bool) : Uses Unjumping (readFlowSample config expanded) := by
  unfold readFlowSample
  infer_instance

/-- What a sample takes by its length: its type and its length stand before what that counts. -/
def sampleSize (buffer : Buffer) (place : Nat) : Nat := 8 + roundUp (wordFrom buffer (place + 4))

/-- A flow sample starts here, a compact or an expanded one. -/
def FlowAt (buffer : Buffer) (place : Nat) : Prop :=
  wordFrom buffer place = 1 ∨ wordFrom buffer place = 3

instance (buffer : Buffer) (place : Nat) : Decidable (FlowAt buffer place) := by
  unfold FlowAt
  infer_instance

theorem flowBody_ends {buffer : Buffer} {start middle : SFSample}
    (small : buffer.length < 2 ^ 32 - 3) (expanded : Bool) (here : middle.cursor = start.cursor + 4)
    (inside : middle.cursor ≤ buffer.length) :
    (run buffer (readFlowSample config expanded) middle).Returning fun _ final =>
      final.cursor = start.cursor + sampleSize buffer start.cursor ∧
        final.cursor ≤ buffer.length := by
  have framed := @readFlowSample_finishing config buffer small expanded middle
  have within := uses_within Unjumping (fun count allow => allow count rfl) buffer _
    (@flowSample_unjumping config expanded) middle inside
  unfold Run.Finishing at framed
  unfold Run.Returning at within ⊢
  generalize run buffer (readFlowSample config expanded) middle = performed at framed within ⊢
  obtain ⟨outcome, final, trace, notes⟩ := performed
  cases outcome with
  | error reason => trivial
  | ok value =>
      refine ⟨framed.1.trans ?_, within⟩
      rw [here]
      unfold sampleSize
      omega

/-- A flow sample of version 5 that is accepted ends where its length says, inside the datagram. -/
theorem flowSample_ends {buffer : Buffer} {start : SFSample} (small : buffer.length < 2 ^ 32 - 3)
    (version : wordOf start .datagramVersion = 5) (flow : FlowAt buffer start.cursor) :
    (run buffer (readSample config) start).Returning fun _ final =>
      final.cursor = start.cursor + sampleSize buffer start.cursor ∧
        final.cursor ≤ buffer.length := by
  unfold readSample
  rw [run_seq]
  refine Run.Returning.bind (decides_word buffer start).holds ?_
  rintro _ _ ⟨rfl, rfl, inside⟩
  refine returning_behind buffer _ (yields_setWord buffer _ _ _) ?_
  refine returning_behind buffer _ (yields_sfLog buffer _ _ _) ?_
  refine returning_behind buffer _ (yields_sfLog buffer _ _ _) ?_
  refine returning_behind buffer _ (yields_getWord buffer _ _) ?_
  have kept : wordOf (holding (State.moved start 4) .sampleType (wordFrom buffer start.cursor))
      .datagramVersion = 5 :=
    (wordOf_holding_other _ (show WordVar.datagramVersion ≠ .sampleType by decide) _).trans version
  have body : (run buffer (readSampleV5 config (wordFrom buffer start.cursor))
      (holding (State.moved start 4) .sampleType (wordFrom buffer start.cursor))).Returning
      fun _ final => final.cursor = start.cursor + sampleSize buffer start.cursor ∧
        final.cursor ≤ buffer.length := by
    unfold readSampleV5
    rcases flow with compact | expanded
    · rw [if_pos compact]
      exact flowBody_ends small false rfl inside
    · rw [if_neg (by rw [expanded]; decide), if_neg (by rw [expanded]; decide), if_pos expanded]
      exact flowBody_ends small true rfl inside
  rw [kept, if_pos (show (5 : UInt32) ≥ 5 by decide), run_seq]
  -- behind the sample only a line is logged
  refine body.bind fun _ final ended => ?_
  unfold sfLog Decoder.when
  split
  · exact ended
  · exact ended

end Framing

section Samples
variable {config : SFConfig} {buffer : Buffer}

/-- What a flow sample is exported as: a FLOW line, a record of a tcpdump file or a NetFlow
packet. -/
def Event.ofFlow : Event → Bool
  | .flowLine _ | .pcapPacket _ | .netFlow _ | .netFlowSpoofed _ _ => true
  | _ => false

/-- The flow exports of a decode, without the counters they are stamped with. -/
def flowExports {α : Type} (performed : Run collector α) : List Event :=
  (performed.trace.map Stamped.event).filter Event.ofFlow

theorem eventsOf_after {α β : Type} (later : Run collector β) (earlier : Run collector α) :
    eventsOf (later.after earlier) = eventsOf earlier ++ eventsOf later := by
  simp only [eventsOf, Run.after, List.map_append]

/-- The states in which the samples of a datagram are begun, from the first of them on. -/
def sampleStarts (config : SFConfig) (buffer : Buffer) : Nat → SFSample → List SFSample
  | 0, _ => []
  | remaining + 1, start =>
      start :: sampleStarts config buffer remaining (run buffer (readSample config) start).state

theorem readSamples_next (samplesInPacket samp : UInt32) (remaining : Nat) :
    readSamples config samplesInPacket (remaining + 1) samp = (do
      checkMoreData samp samplesInPacket
      readSample config
      note .iteration
      readSamples config samplesInPacket remaining (samp + 1)) := rfl

theorem readSamples_behind {samp samplesInPacket : UInt32} {start : SFSample} (remaining : Nat)
    (checked : run buffer (checkMoreData samp samplesInPacket) start = .reply () start) :
    run buffer (readSamples config samplesInPacket (remaining + 1) samp) start =
      run buffer (do
        readSample config
        note .iteration
        readSamples config samplesInPacket remaining (samp + 1)) start := by
  rw [readSamples_next, run_seq, checked, Run.reply_bind]

/-- A sample and those that follow it. -/
theorem readSamples_events (samplesInPacket samp : UInt32) (remaining : Nat) (start : SFSample)
    (more : start.cursor < buffer.length)
    (done : (run buffer (readSample config) start).outcome = .ok ()) :
    (run buffer (readSamples config samplesInPacket (remaining + 1) samp) start).outcome =
        (run buffer (readSamples config samplesInPacket remaining (samp + 1))
          (run buffer (readSample config) start).state).outcome ∧
      eventsOf (run buffer (readSamples config samplesInPacket (remaining + 1) samp) start) =
        eventsOf (run buffer (readSample config) start) ++
          eventsOf (run buffer (readSamples config samplesInPacket remaining (samp + 1))
            (run buffer (readSample config) start).state) := by
  rcases run_checkMoreData_cases buffer samp samplesInPacket start with ⟨-, checked⟩ | ⟨ended, -⟩
  · rw [readSamples_behind remaining checked, run_seq]
    generalize run buffer (readSample config) start = first at done ⊢
    obtain ⟨outcome, middle, trace, notes⟩ := first
    cases done
    refine ⟨rfl, ?_⟩
    simp only [Run.bind, eventsOf_after]
    rfl
  · omega

theorem readSamples_step (samplesInPacket samp : UInt32) (remaining : Nat) (start : SFSample)
    (more : start.cursor < buffer.length)
    (done : (run buffer (readSample config) start).outcome = .ok ()) :
    (run buffer (readSamples config samplesInPacket (remaining + 1) samp) start).outcome =
        (run buffer (readSamples config samplesInPacket remaining (samp + 1))
          (run buffer (readSample config) start).state).outcome ∧
      flowExports (run buffer (readSamples config samplesInPacket (remaining + 1) samp) start) =
        flowExports (run buffer (readSample config) start) ++
          flowExports (run buffer (readSamples config samplesInPacket remaining (samp + 1))
            (run buffer (readSample config) start).state) := by
  obtain ⟨outcome, events⟩ := readSamples_events samplesInPacket samp remaining start more done
  exact ⟨outcome, (congrArg (List.filter Event.ofFlow) events).trans (List.filter_append _ _)⟩

/-- The first of the samples is there and is decoded where all are. -/
theorem readSamples_entered (samplesInPacket samp : UInt32) (remaining : Nat) (start : SFSample)
    (accepted : (run buffer (readSamples config samplesInPacket (remaining + 1) samp)
      start).outcome = .ok ()) :
    start.cursor < buffer.length ∧ (run buffer (readSample config) start).outcome = .ok () := by
  rcases run_checkMoreData_cases buffer samp samplesInPacket start with ⟨more, checked⟩ | ⟨-, ended⟩
  · refine ⟨more, ?_⟩
    rw [readSamples_behind remaining checked, run_seq] at accepted
    generalize run buffer (readSample config) start = first at accepted ⊢
    obtain ⟨outcome, middle, trace, notes⟩ := first
    cases outcome with
    | error reason => cases accepted
    | ok value => rfl
  · rw [readSamples_next, run_seq] at accepted
    simp [Run.bind, ended] at accepted

/-- Where all samples are decoded, each is, and each is exported by itself. -/
theorem readSamples_accepted (samplesInPacket samp : UInt32) (remaining : Nat) (start : SFSample)
    (accepted : (run buffer (readSamples config samplesInPacket remaining samp) start).outcome =
      .ok ()) :
    flowExports (run buffer (readSamples config samplesInPacket remaining samp) start) =
        ((sampleStarts config buffer remaining start).flatMap fun begun =>
          flowExports (run buffer (readSample config) begun)) ∧
      ∀ begun ∈ sampleStarts config buffer remaining start,
        (run buffer (readSample config) begun).outcome = .ok () := by
  induction remaining generalizing start samp with
  | zero => exact ⟨rfl, List.forall_mem_nil _⟩
  | succ remaining ih =>
      obtain ⟨more, done⟩ := readSamples_entered samplesInPacket samp remaining start accepted
      obtain ⟨outcome, exports⟩ := readSamples_step samplesInPacket samp remaining start more done
      obtain ⟨later, each⟩ := ih (samp + 1) _ (outcome.symm.trans accepted)
      refine ⟨exports.trans (congrArg _ later), ?_⟩
      exact List.forall_mem_cons.mpr ⟨done, each⟩

end Samples

section Alone
variable {config : SFConfig} {buffer alone : Buffer} {sample start : SFSample} {place : Nat}

/-- Where the samples of a version 5 datagram start. -/
def headerSize (buffer : Buffer) : Nat := 4 + addressSize buffer 4 + 16

/-- A datagram with the header of another one and a single one of its samples. -/
structure OnlySample (buffer alone : Buffer) (place : Nat) : Prop where
  header : buffer.SameWindow alone 0 0 (headerSize buffer - 4)
  counted : wordFrom alone (headerSize buffer - 4) = 1
  sampled : buffer.SameWindow alone place (headerSize buffer) (sampleSize buffer place)
  sized : alone.length = headerSize buffer + sampleSize buffer place

theorem sameWindow_word {first second : Buffer} {width : Nat}
    (same : first.SameWindow second 0 0 width) (place : Nat) (inside : place + 4 ≤ width) :
    wordFrom second place = wordFrom first place := by
  unfold wordFrom
  rw [Buffer.slice_congr first second place place 4 fun index small => by
    simpa using same (place + index) (by omega)]

/-- The header leaves the same behind where it says the same. -/
theorem openedSample_alone (only : OnlySample buffer alone place) (start : sample.cursor = 0) :
    openedSample alone sample = openedSample buffer sample := by
  have size : headerSize buffer = 4 + addressSize buffer 4 + 16 := rfl
  have low : 4 + 4 ≤ addressSize buffer 4 + 4 := by
    unfold addressSize
    omega
  have word (place : Nat) (inside : place + 4 ≤ headerSize buffer - 4) :
      wordFrom alone place = wordFrom buffer place := sameWindow_word only.header place inside
  have typed := word 4 (by omega)
  have sized : addressSize alone 4 = addressSize buffer 4 := by
    unfold addressSize
    rw [typed]
  have address : addressAt alone 4 = addressAt buffer 4 := by
    unfold addressAt
    rw [typed]
    congr 1
    refine (Buffer.slice_congr buffer alone _ _ _ fun index small => ?_).symm
    have inside := only.header (4 + 4 + index) (by unfold addressSize at size; omega)
    simpa using inside
  simp only [openedSample, start, Nat.zero_add, sized, address]
  rw [word 0 (by omega), word _ (by omega), word _ (by omega), word _ (by omega)]

/-- A cell that an earlier sample has changed: a variable that does not hold what the header left
in it, and any pointer, for none is set there. -/
def LeftBehind (opened start : SFSample) : Cell collector → Prop
  | .inl var => start.store var ≠ opened.store var
  | .inr _ => True

/-- A sample that reads nothing that is left behind before it has set it, and looks at no byte
outside its own. -/
structure Apart (config : SFConfig) (buffer : Buffer) (opened start : SFSample) : Prop where
  fresh : WritesFirst buffer (LeftBehind opened start) (readSample config) start
  inside : PeeksInside buffer start.cursor (start.cursor + sampleSize buffer start.cursor)
    (readSample config) start

theorem fresh_logged {α : Type} {stale : Cell collector → Prop} {fmt : String} {args : List Arg}
    (next : Unit → Decode α)
    (fresh : WritesFirst buffer stale (sfLog config fmt args >>= next) start) :
    WritesFirst buffer stale (next ()) start := by
  unfold sfLog Decoder.when at fresh
  split at fresh
  · exact fresh.2
  · exact fresh

/-- A sample reads the version of its datagram before it sets anything but its type. -/
theorem fresh_version {stale : Cell collector → Prop} (room : start.cursor + 4 ≤ buffer.length)
    (fresh : WritesFirst buffer stale (readSample config) start) :
    ¬stale (.inl (.word .datagramVersion)) := by
  have typed := fresh.2
  simp only [perform, if_pos room] at typed
  have logged := fresh_logged _ (fresh_logged _ typed.2)
  exact fun old => logged.1 ⟨nofun, old⟩

/-- A flow sample apart from the others does in a datagram of its own what it does among them. -/
theorem readSample_alone (opened : SFSample) (small : buffer.length < 2 ^ 32 - 3)
    (flow : FlowAt buffer start.cursor) (version : wordOf opened .datagramVersion = 5)
    (done : (run buffer (readSample config) start).outcome = .ok ())
    (apart : Apart config buffer opened start)
    (only : OnlySample buffer alone start.cursor) (here : opened.cursor = headerSize buffer) :
    (run alone (readSample config) opened).outcome = .ok () ∧
      flowExports (run alone (readSample config) opened) =
        flowExports (run buffer (readSample config) start) := by
  -- the version is read before anything is set
  have same : start.store (.word .datagramVersion) = opened.store (.word .datagramVersion) := by
    have room : start.cursor + 4 ≤ buffer.length := by
      by_contra short
      unfold readSample at done
      rw [run_seq, run_getData32_stops short] at done
      cases done
    exact not_not.mp (fresh_version room apart.fresh)
  have ends := (@flowSample_ends config _ _ small (same.trans version) flow).of_ok done
  have related : Displaced (LeftBehind opened start) start.cursor (headerSize buffer)
      start opened := by
    -- all pointers count as left behind, and of the variables those that differ
    refine ⟨⟨0, rfl, here⟩, fun var fresh => ?_, fun name fresh => absurd trivial fresh⟩
    exact (not_not.mp fresh).symm
  have mirrored := run_mirrors buffer alone start.cursor (headerSize buffer)
    (sampleSize buffer start.cursor) only.sampled small (ends.1 ▸ ends.2) only.sized.ge
    (readSample config) _ start opened related apart.fresh apart.inside () done ends.1.le
  refine ⟨mirrored.outcome.trans done, ?_⟩
  unfold flowExports
  rw [mirrored.events]

/-! Counted once for each way it is handed on, as before. -/
set_option synthInstance.maxSize 1000000000000

/-- A header exports nothing. -/
theorem header_unexported (buffer : Buffer) (sample : SFSample) :
    flowExports (run buffer (readDatagramHeader config) sample) = [] := by
  have surveyed : Uses (QuietOp config) (@Decoder.survey collector) :=
    uses_single _ PermitsReport.survey
  have quiet : Uses (QuietOp config) (readDatagramHeader config) := by
    unfold readDatagramHeader
    infer_instance
  have unshown : Uses (@Unshown collector Event.ofFlow) (readDatagramHeader config) := by
    refine quiet.mono fun op allow => ?_
    cases op with
    | emit event =>
        have silent : event.silent = true := allow.2
        cases event <;> first | rfl | cases silent
    | _ => trivial
  have silent := unshown_silent buffer _ unshown sample
  refine List.filter_eq_nil_iff.mpr fun event member shown => silent ?_
  obtain ⟨sent, emitted, rfl⟩ := List.mem_map.mp member
  exact ⟨sent, emitted, shown⟩

/-- The events of a datagram are those of its header and of its samples. -/
theorem datagram_events (samplesInPacket : UInt32) (opened : SFSample)
    (header : (run buffer (readDatagramHeader config) sample).Yields samplesInPacket opened) :
    (run buffer (readSFlowDatagram config) sample).outcome =
        (run buffer (readSamples config samplesInPacket samplesInPacket.toNat 0) opened).outcome ∧
      eventsOf (run buffer (readSFlowDatagram config) sample) =
        eventsOf (run buffer (readDatagramHeader config) sample) ++
          eventsOf (run buffer (readSamples config samplesInPacket samplesInPacket.toNat 0)
            opened) := by
  unfold readSFlowDatagram
  rw [run_seq]
  obtain ⟨returned, reached⟩ := header
  generalize run buffer (readDatagramHeader config) sample = first at returned reached ⊢
  obtain ⟨outcome, middle, trace, notes⟩ := first
  cases returned
  cases reached
  exact ⟨rfl, eventsOf_after _ _⟩

/-- The flow exports of a datagram are those of its samples. -/
theorem datagram_exports (samplesInPacket : UInt32) (opened : SFSample)
    (header : (run buffer (readDatagramHeader config) sample).Yields samplesInPacket opened) :
    (run buffer (readSFlowDatagram config) sample).outcome =
        (run buffer (readSamples config samplesInPacket samplesInPacket.toNat 0) opened).outcome ∧
      flowExports (run buffer (readSFlowDatagram config) sample) =
        flowExports (run buffer (readSamples config samplesInPacket samplesInPacket.toNat 0)
          opened) := by
  have silent : (eventsOf (run buffer (readDatagramHeader config) sample)).filter Event.ofFlow = [] :=
    header_unexported buffer sample
  obtain ⟨outcome, events⟩ := datagram_events samplesInPacket opened header
  refine ⟨outcome, (congrArg (List.filter Event.ofFlow) events).trans ?_⟩
  rw [List.filter_append, silent, List.nil_append]
  rfl

end Alone

section Datagrams
variable {config : SFConfig} {buffer : Buffer} {sample : SFSample}

theorem openedSample_cursor (buffer : Buffer) (start : sample.cursor = 0) :
    (openedSample buffer sample).cursor = headerSize buffer := by
  have size : (openedSample buffer sample).cursor =
      sample.cursor + 4 + addressSize buffer (sample.cursor + 4) + 4 + 4 + 4 + 4 := rfl
  rw [size, start]
  rfl

theorem header_accepted (start : sample.cursor = 0) (version : wordFrom buffer 0 = 5)
    (accepted : (run buffer (readSFlowDatagram config) sample).outcome = .ok ()) :
    (run buffer (readDatagramHeader config) sample).Yields
      (wordFrom buffer (headerSize buffer - 4)) (openedSample buffer sample) := by
  have header := (@decides_header config buffer sample (by rw [start, version])).holds
  rw [openedSample_cursor buffer start] at header
  unfold readSFlowDatagram at accepted
  rw [run_seq] at accepted
  generalize run buffer (readDatagramHeader config) sample = first at header accepted ⊢
  obtain ⟨outcome, middle, trace, notes⟩ := first
  cases outcome with
  | error reason => cases accepted
  | ok value => exact ⟨congrArg Except.ok header.1, header.2.1⟩

theorem openedSample_version (buffer : Buffer) (sample : SFSample) :
    wordOf (openedSample buffer sample) .datagramVersion = wordFrom buffer sample.cursor := rfl

/-- The header of a datagram with one of the samples of another is the same, but for its count. -/
theorem header_alone {alone : Buffer} {place : Nat} (only : OnlySample buffer alone place)
    (start : sample.cursor = 0) (version : wordFrom buffer 0 = 5) :
    (run alone (readDatagramHeader config) sample).Yields 1 (openedSample buffer sample) := by
  have same := openedSample_alone only start
  have here := openedSample_cursor buffer start
  have first : wordFrom alone sample.cursor = 5 := by
    rw [start, sameWindow_word only.header 0 (by unfold headerSize; omega), version]
  obtain ⟨returns, holds⟩ := @decides_header config alone sample first
  rw [same, here] at returns holds
  obtain ⟨value, returned⟩ := returns (by rw [only.sized]; omega)
  obtain ⟨counted, reached, -⟩ := holds.of_ok returned
  exact ⟨returned.trans (congrArg Except.ok (counted.trans only.counted)), reached⟩

end Datagrams

/-- The states in which the samples of a version 5 datagram are begun. -/
def datagramStarts (config : SFConfig) (buffer : Buffer) (sample : SFSample) : List SFSample :=
  sampleStarts config buffer (wordFrom buffer (headerSize buffer - 4)).toNat
    (openedSample buffer sample)

section Instances

/-- What may be left behind, as far as it can be told by comparing. -/
def Suspect (opened start : SFSample) : Cell collector → Prop
  | .inl (.word var) => wordOf start var ≠ wordOf opened var
  | .inl (.address var) => addressOf start var ≠ addressOf opened var
  | _ => True

instance (opened start : SFSample) : (cell : Cell collector) → Decidable (Suspect opened start cell)
  | .inl (.word var) => inferInstanceAs (Decidable (wordOf start var ≠ wordOf opened var))
  | .inl (.address var) => inferInstanceAs (Decidable (addressOf start var ≠ addressOf opened var))
  | .inl (.dword _) | .inl (.text _) | .inl .clfHttpLog | .inl (.common _) | .inl (.counters _)
  | .inr _ => .isTrue trivial

theorem apart_of_suspect {config : SFConfig} {buffer : Buffer} {opened start : SFSample}
    (fresh : WritesFirst buffer (Suspect opened start) (readSample config) start)
    (inside : PeeksInside buffer start.cursor (start.cursor + sampleSize buffer start.cursor)
      (readSample config) start) : Apart config buffer opened start := by
  refine ⟨fresh.mono ?_, inside⟩
  rintro (var | name) left
  · cases var <;> first | exact left | trivial
  · trivial

/-- Two flow samples, each of one Ethernet record, and the second of them alone. -/
def ethernetSampleOf (octets : UInt32) : List UInt32 :=
  [1, 64, 7, 1, 100, 5, 6, 3, 4, 1, 2, 24, 64, octets, 0x05060000, octets, 0x0b0c0000, 0x0800]

def ethernetPair : Buffer :=
  datagramOf (datagramHeaderV5 2 ++ ethernetSampleOf 0x01020304 ++ ethernetSampleOf 0x0a0b0c0d)

def ethernetAlone : Buffer := datagramOf (datagramHeaderV5 1 ++ ethernetSampleOf 0x0a0b0c0d)

/-- The state in which the second sample of such a datagram is begun. -/
def secondStart (buffer : Buffer) (pair : 1 < (datagramStarts (defaultConfig .line) buffer
    firstSample).length) : SFSample :=
  (datagramStarts (defaultConfig .line) buffer firstSample).get ⟨1, pair⟩

theorem ethernet_pair_starts :
    1 < (datagramStarts (defaultConfig .line) ethernetPair firstSample).length := by
  decide +kernel

theorem ethernet_alone : OnlySample ethernetPair ethernetAlone 100 where
  header := by
    unfold Buffer.SameWindow
    decide +kernel
  counted := by decide +kernel
  sampled := by
    unfold Buffer.SameWindow
    decide +kernel
  sized := by decide +kernel

end Instances

end SflowTool
