import SflowTool.RejectedCounters
import SflowTool.SampleEncodings
import SflowTool.IndicatorLayouts
import SflowTool.StoredCounters

/-! The generic interface counters in both encodings. A version 4 sample is read into the columns
of the CNTR line. In version 5 the record's tag goes to the flexible decoder, which leaves the
cursor behind other than the record's eighty-eight bytes, and the sample is refused for it before
its line is written. -/
namespace SflowTool
open Decoding Decoding.Decoder

variable {config : SFConfig} {buffer : Buffer} {sample : SFSample}

section Encodings

/-- A number of 64 bits by its two words. -/
def dwordWords (value : UInt64) : List UInt32 := [(value >>> 32).toUInt32, value.toUInt32]

/-- The generic interface record: the columns of a line behind its agent, twenty-two words. -/
def interfaceWords (line : CountersLine) : List UInt32 :=
  [line.ifIndex, line.ifType] ++ dwordWords line.ifSpeed ++ [line.ifDirection, line.ifStatus] ++
    dwordWords line.ifInOctets ++ [line.ifInUcastPkts, line.ifInMulticastPkts,
    line.ifInBroadcastPkts, line.ifInDiscards, line.ifInErrors, line.ifInUnknownProtos] ++
    dwordWords line.ifOutOctets ++ [line.ifOutUcastPkts, line.ifOutMulticastPkts,
    line.ifOutBroadcastPkts, line.ifOutDiscards, line.ifOutErrors, line.ifPromiscuousMode]

/-- What identifies a counters sample. -/
structure InterfaceHead where
  sequence : UInt32
  dsClass : UInt32
  dsIndex : UInt32
  interval : UInt32

/-- A version 4 sample with the generic block. -/
def interfaceSampleV4 (head : InterfaceHead) (line : CountersLine) : List UInt32 :=
  [head.sequence] ++ sourceWords false head.dsClass head.dsIndex ++ [head.interval, 1] ++
    interfaceWords line

/-- A version 5 sample with the generic record, from its length on. -/
def interfaceSampleV5 (expanded : Bool) (head : InterfaceHead) (line : CountersLine) : List UInt32 :=
  [if expanded then 112 else 108, head.sequence] ++
    sourceWords expanded head.dsClass head.dsIndex ++ [1, tagCountersGeneric, 88] ++
    interfaceWords line

theorem length_interfaceWords (line : CountersLine) : 4 * (interfaceWords line).length = 88 := rfl

end Encodings

section Displaced

instance (write : Event) : Stays (leveldbSimpleWriteData config write) := by
  unfold leveldbSimpleWriteData
  cases config.leveldbError with
  | some err => exact stays_emit _
  | none => exact stays_emit _

instance (key : Line) (database : Database) : Stays (leveldbSimpleReadData config key database) := by
  unfold leveldbSimpleReadData
  cases config.leveldbError with
  | some err => exact stays_bind (fprintfErr "Open fail.\n" []) _
  | none => exact stays_bind (Decoder.emit _) _

instance (objId : Line) (oid : UInt32) (uuid : Text) : Stays (writeObjectId config objId oid uuid) := by
  unfold writeObjectId
  infer_instance

/-- The flexible decoder leaves the cursor behind its own header, or behind what its length leaves
for that. -/
def flexibleEnds (state : SFSample) : List Nat :=
  [state.cursor + 45, state.cursor + 45 + quadBytes (wordOf state .currentContextLength - 45)]

theorem flexible_ends (state : SFSample) :
    (run buffer (readCountersA10_4_1_n_generic config) state).Returning fun _ final =>
      final.cursor ∈ flexibleEnds state := by
  unfold readCountersA10_4_1_n_generic
  refine returning_behind buffer _ (@yields_mark collector buffer .ptr state) ?_
  refine returning_behind buffer _ (@yields_jump collector buffer _ _) ?_
  refine returning_behind buffer _ (@yields_peekText collector buffer _ _ _) ?_
  refine returning_behind buffer _ (@yields_emit collector buffer _ _) ?_
  refine returning_behind buffer _ (@yields_peek collector buffer _ _ _ _) ?_
  iterate 2 refine returning_behind buffer _ (@yields_emit collector buffer _ _) ?_
  refine returning_behind buffer _ (@yields_peek collector buffer _ _ _ _) ?_
  refine returning_behind buffer _ (@yields_emit collector buffer _ _) ?_
  refine returning_behind buffer _ (yields_getWord buffer _ _) ?_
  refine returning_behind buffer _ (yields_setWord buffer _ _ _) ?_
  refine returning_behind buffer _ (@yields_emit collector buffer _ _) ?_
  split
  · exact List.mem_cons_self
  · refine returning_behind buffer _ yields_printHeader ?_
    refine returning_behind buffer _ (yields_readFlexKv _ _) ?_
    refine (((moves_skip _).bind (fun _ => moves_of_stays _)).moves buffer _).mono ?_
    intro _ final moved
    exact List.mem_cons_of_mem _ (List.mem_singleton.mpr (moved.trans rfl))

theorem returning_with {α : Type} {performed : Run collector α} {holds : α → SFSample → Prop}
    {known : SFSample → Prop} (returning : performed.Returning holds) (state : known performed.state) :
    performed.Returning fun value final => holds value final ∧ known final := by
  obtain ⟨outcome, final, trace, notes⟩ := performed
  cases outcome with
  | error reason => trivial
  | ok value => exact ⟨returning, state⟩

theorem genericBody_eq (length : UInt32) :
    readCounterElementBody config tagCountersGeneric length = (do
      printf "\nhit SFLCOUNTERS_GENERIC_41n:\n" []
      readCountersA10_4_1_n_generic config) := rfl

/-- A record of a class leaves the mark of the sample alone. -/
theorem body_sampleStart (tag length : UInt32) (state : SFSample) :
    (run buffer (readCounterElementBody config tag length) state).state.marks .sampleStart =
      state.marks .sampleStart :=
  uses_keeps_mark (DecentOp config) .sampleStart (fun allowed => by cases allowed) buffer _
    inferInstance state

/-- A word that is on the wire is the one that is read. -/
theorem returning_word {α : Type} {word : UInt32} {words : List UInt32} {next : UInt32 → Decode α}
    {post : α → SFSample → Prop} {state : SFSample}
    (holds : buffer.Holds state.cursor ((word :: words).flatMap be32))
    (later : buffer.Holds (State.moved state 4).cursor (words.flatMap be32) →
      (run buffer (next word) (State.moved state 4)).Returning post) :
    (run buffer (getData32 >>= next) state).Returning post := by
  obtain ⟨read, behind⟩ := run_word buffer word words next state holds
  rw [read]
  exact later behind

/-- Behind the generic record the cursor is on the record's forty-fifth octet or one behind it. -/
theorem genericElement_ends (words : List UInt32) (state : SFSample)
    (holds : buffer.Holds state.cursor ((tagCountersGeneric :: 88 :: words).flatMap be32)) :
    (run buffer (readCounterElement config) state).Returning fun _ final =>
      (final.cursor = state.cursor + 53 ∨ final.cursor = state.cursor + 97) ∧
        final.marks .sampleStart = state.marks .sampleStart := by
  unfold readCounterElement
  refine returning_word holds fun holds => ?_
  refine returning_behind buffer _ (yields_sfLog buffer _ _ _) ?_
  refine returning_word holds fun _ => ?_
  refine returning_behind buffer _ (yields_setWord buffer .currentContextLength 88 _) ?_
  refine returning_behind buffer _ (@yields_mark collector buffer .start _) ?_
  refine returning_behind buffer _ (@yields_note collector buffer _ _) ?_
  iterate 3 refine returning_behind buffer _ (@yields_emit collector buffer _ _) ?_
  -- the body starts behind the two words, and its context is what the record announces
  generalize entered : State.marked (holding (State.moved (State.moved state 4) 4)
    .currentContextLength 88) .start = opened
  have cursor : opened.cursor = state.cursor + 8 := by
    rw [← entered]
    rfl
  have context : wordOf opened .currentContextLength = 88 := by
    rw [← entered]
    rfl
  have started : opened.marks .sampleStart = state.marks .sampleStart := by
    rw [← entered]
    rfl
  have ends : (run buffer (readCounterElementBody config tagCountersGeneric 88) opened).Returning
      fun _ final => final.cursor ∈ flexibleEnds opened :=
    returning_behind buffer _ (@yields_emit collector buffer _ _) (flexible_ends opened)
  rw [run_seq]
  refine (@returning_with _ _ _ (fun final => final.marks .sampleStart = opened.marks .sampleStart) ends
    (body_sampleStart tagCountersGeneric 88 opened)).bind ?_
  rintro _ final ⟨place, kept⟩
  refine ⟨?_, kept.trans started⟩
  rw [flexibleEnds, context, cursor] at place
  rcases List.mem_cons.mp place with short | long
  · exact .inl short
  · exact .inr (List.mem_singleton.mp long)

/-- Neither place passes the check of the sample's length. -/
theorem lengths_differ (expanded : Bool) (moved : Nat)
    (ends : moved = (if expanded then 24 else 20) + 45 ∨ moved = (if expanded then 24 else 20) + 89) :
    adjustLen (UInt32.ofNat moved) ≠ adjustLen (if expanded then 112 else 108) := by
  cases expanded <;> rcases ends with rfl | rfl <;> decide

/-- What is read of a sample before its elements: its length and their number. -/
structure Opened (buffer : Buffer) (sample : SFSample) (expanded : Bool) (line : CountersLine)
    (found : UInt32 × UInt32) (opened : SFSample) : Prop where
  found : found = (if expanded then 112 else 108, 1)
  start : opened.marks .sampleStart = sample.cursor + 4
  cursor : opened.cursor = sample.cursor + (if expanded then 20 else 16)
  holds : buffer.Holds opened.cursor
    ((tagCountersGeneric :: 88 :: interfaceWords line).flatMap be32)

theorem open_interfaceSample (expanded : Bool) (head : InterfaceHead) (line : CountersLine)
    (holds : buffer.Holds sample.cursor ((interfaceSampleV5 expanded head line).flatMap be32)) :
    (run buffer (openCountersSample config expanded) sample).Returning
      (Opened buffer sample expanded line) := by
  unfold openCountersSample readSourceId logSourceId setSamplerId
  cases expanded with
  | false =>
    simp only [Bool.false_eq_true, if_false, LawfulMonad.bind_assoc]
    refine returning_behind buffer _ (yields_sfLog buffer _ _ _) ?_
    refine returning_word holds fun holds => ?_
    refine returning_behind buffer _ (@yields_mark collector buffer .sampleStart _) ?_
    refine returning_word holds fun holds => ?_
    refine returning_behind buffer _ (yields_setWord buffer .samplesGenerated _ _) ?_
    refine returning_behind buffer _ (yields_sfLog buffer _ _ _) ?_
    refine returning_word holds fun holds => ?_
    refine returning_behind buffer _ (yields_setWord buffer .dsClass _ _) ?_
    refine returning_behind buffer _ (yields_setWord buffer .dsIndex _ _) ?_
    refine returning_behind buffer _ (yields_getWord buffer .dsClass _) ?_
    refine returning_behind buffer _ (yields_getWord buffer .dsIndex _) ?_
    refine returning_behind buffer _ (yields_sfLog buffer _ _ _) ?_
    refine returning_word holds fun holds => ?_
    exact ⟨rfl, rfl, rfl, holds⟩
  | true =>
    simp only [if_true, LawfulMonad.bind_assoc]
    refine returning_behind buffer _ (yields_sfLog buffer _ _ _) ?_
    refine returning_word holds fun holds => ?_
    refine returning_behind buffer _ (@yields_mark collector buffer .sampleStart _) ?_
    refine returning_word holds fun holds => ?_
    refine returning_behind buffer _ (yields_setWord buffer .samplesGenerated _ _) ?_
    refine returning_behind buffer _ (yields_sfLog buffer _ _ _) ?_
    refine returning_word holds fun holds => ?_
    refine returning_behind buffer _ (yields_setWord buffer .dsClass _ _) ?_
    refine returning_word holds fun holds => ?_
    refine returning_behind buffer _ (yields_setWord buffer .dsIndex _ _) ?_
    refine returning_behind buffer _ (yields_getWord buffer .dsClass _) ?_
    refine returning_behind buffer _ (yields_getWord buffer .dsIndex _) ?_
    refine returning_behind buffer _ (yields_sfLog buffer _ _ _) ?_
    refine returning_word holds fun holds => ?_
    exact ⟨rfl, rfl, rfl, holds⟩

/-- A version 5 sample up to the check of its length. -/
def checkCountersSample (config : SFConfig) (expanded : Bool) : Decode Unit := do
  let opened ← openCountersSample config expanded
  readCounterElements config opened.2.toNat
  lengthCheck "length_check_2_counters_sample" .sampleStart opened.1

theorem readCountersSample_checked (expanded : Bool) : readCountersSample config expanded =
    (checkCountersSample config expanded >>= fun _ => do
      note .countersSampleEnd
      when (config.outputFormat = .line) writeCountersLine) := by
  rw [readCountersSample_split]
  simp only [checkCountersSample, closeCountersSample, LawfulMonad.bind_assoc]

/-- A sample with the generic record does not pass the check. -/
theorem interfaceSample_refused (expanded : Bool) (head : InterfaceHead) (line : CountersLine)
    (holds : buffer.Holds sample.cursor ((interfaceSampleV5 expanded head line).flatMap be32)) :
    (run buffer (checkCountersSample config expanded) sample).Returning fun _ _ => False := by
  unfold checkCountersSample
  rw [run_seq]
  refine (open_interfaceSample expanded head line holds).bind ?_
  rintro _ opened ⟨rfl, start, cursor, holds⟩
  rw [run_seq]
  have element : (run buffer (readCounterElements config 1) opened).Returning fun _ final =>
      (final.cursor = opened.cursor + 53 ∨ final.cursor = opened.cursor + 97) ∧
        final.marks .sampleStart = opened.marks .sampleStart := by
    show (run buffer (readCounterElement config >>= fun _ => _) opened).Returning _
    rw [run_seq]
    refine (genericElement_ends _ opened holds).bind ?_
    intro _ final ends
    exact ends
  refine element.bind ?_
  rintro _ final ⟨place, kept⟩
  have moved : final.cursor - final.marks .sampleStart = (if expanded then 24 else 20) + 45 ∨
      final.cursor - final.marks .sampleStart = (if expanded then 24 else 20) + 89 := by
    rw [kept, start]
    cases expanded <;> simp only [if_true, Bool.false_eq_true, if_false] at cursor ⊢ <;> omega
  exact (lengthCheck_finishing buffer _ _ _ final).mono fun _ _ _ passed =>
    lengths_differ expanded _ moved passed.2.2

end Displaced

section Unlined

/-- The CNTR line. -/
def Event.isCntr : Event → Bool
  | .countersLine _ => true
  | _ => false

/-- Operations that write no CNTR line. -/
abbrev UnlinedOp : Op collector → Prop := @Unshown collector Event.isCntr

instance : Permits UnlinedOp where
  take _ _ := trivial
  skip _ := trivial
  errout _ := rfl
  note _ _ _ _ _ := trivial
  abort _ _ := trivial
instance : PermitsNames UnlinedOp where
  lookup _ _ := trivial
instance : PermitsFilter UnlinedOp where
  lookup _ := trivial
instance : PermitsState UnlinedOp where
  get _ := trivial
  set _ _ := trivial
  mark _ _ := trivial
  peek _ _ _ := trivial
  since _ := trivial
instance : PermitsLog config UnlinedOp where
  log _ _ := rfl
instance : PermitsOctets UnlinedOp where
  take _ := trivial
instance : PermitsIteration UnlinedOp where
  note := trivial
instance : PermitsPrint UnlinedOp where
  print _ := rfl
instance : PermitsMetrics UnlinedOp where
  opentsdb _ := rfl
instance : PermitsJump UnlinedOp where
  jump _ := trivial
instance : PermitsFlexible UnlinedOp where
  peekText _ _ := trivial
  write _ _ _ := rfl
  writeObject _ _ _ _ := rfl
  read _ _ := rfl
instance (name : Mark) : Uses UnlinedOp (@Decoder.mark collector name) := uses_single _ trivial
instance (mark : Note) : Uses UnlinedOp (@Decoder.note collector mark) := uses_single _ trivial

/-! Counted once for each way it is handed on, as before. -/
set_option synthInstance.maxSize 1000000000000

instance (remaining : Nat) : Uses UnlinedOp (readCounterElements config remaining) := by
  have printed (tag : UInt32) : Uses UnlinedOp (printEnterprise tag) := by
    unfold printEnterprise
    infer_instance
  induction remaining with
  | zero => exact .pure ()
  | succ remaining ih =>
      unfold readCounterElements readCounterElement
      infer_instance

instance (expanded : Bool) : Uses UnlinedOp (checkCountersSample config expanded) := by
  unfold checkCountersSample openCountersSample
  infer_instance

/-- The CNTR lines among what was sent. -/
def cntrLines (events : List Event) : List CountersLine :=
  events.filterMap fun
    | .countersLine line => some line
    | _ => none

/-- The whole of a run that stops in its first part is that part. -/
theorem stopped_first {α β : Type} {first : Decode α} {next : α → Decode β} {state : SFSample}
    (stops : (run buffer first state).Returning fun _ _ => False) :
    (∃ reason, (run buffer (first >>= next) state).outcome = .error reason) ∧
      (run buffer (first >>= next) state).trace = (run buffer first state).trace := by
  rw [run_seq]
  generalize run buffer first state = performed at stops ⊢
  obtain ⟨outcome, final, trace, notes⟩ := performed
  cases outcome with
  | error reason => exact ⟨⟨reason, rfl⟩, rfl⟩
  | ok value => exact stops.elim

/-- The sample is given up before its line. -/
theorem interfaceSample_unlined (expanded : Bool) (head : InterfaceHead) (line : CountersLine)
    (holds : buffer.Holds sample.cursor ((interfaceSampleV5 expanded head line).flatMap be32)) :
    (∃ reason, (run buffer (readCountersSample config expanded) sample).outcome = .error reason) ∧
      cntrLines (eventsOf (run buffer (readCountersSample config expanded) sample)) = [] := by
  rw [readCountersSample_checked]
  obtain ⟨stopped, shown⟩ := stopped_first (interfaceSample_refused expanded head line holds)
  refine ⟨stopped, ?_⟩
  have unlined := uses_events (inferInstance : Uses UnlinedOp (checkCountersSample config expanded))
    buffer sample
  unfold cntrLines eventsOf
  rw [shown, List.filterMap_map]
  apply List.filterMap_eq_nil_iff.mpr
  intro sent member
  have plain : sent.event.isCntr = false := unlined sent member
  cases event : sent.event with
  | countersLine row =>
      rw [event] at plain
      cases plain
  | _ => simp only [Function.comp_apply, event]

end Unlined

section Printed

theorem sfLog_line (line : config.outputFormat = .line) (fmt : String) (args : List Arg) :
    sfLog config fmt args = Pure.pure () := by
  unfold sfLog Decoder.when
  rw [line]
  rfl

/-- A word that is on the wire goes into its field, and the line shows nothing of it. -/
theorem stored_word (line : config.outputFormat = .line) {var : WordVar} {fieldName : String}
    {word : UInt32} {words : List UInt32} {next : Unit → Decode Unit} {state : SFSample}
    {events : List Event} (holds : buffer.Holds state.cursor ((word :: words).flatMap be32))
    (later : buffer.Holds (holding (State.moved state 4) var word).cursor (words.flatMap be32) →
      (run buffer (next ()) (holding (State.moved state 4) var word)).Displays events) :
    (run buffer (storeNext32 config var fieldName >>= next) state).Displays events := by
  have stores : storeNext32 config var fieldName >>= next =
      (getData32 >>= fun word => setWord var word >>= next) := by
    unfold storeNext32 sfLogNext32
    simp only [sfLog_line line, LawfulMonad.bind_assoc, LawfulMonad.pure_bind]
  obtain ⟨read, behind⟩ := run_word_into buffer word words var next state holds
  rw [stores, read]
  exact later behind

theorem dword_words (value : UInt64) :
    ((value >>> 32).toUInt32.toUInt64 <<< 32) + value.toUInt32.toUInt64 = value := by
  apply UInt64.toNat_inj.mp
  have bound := value.toNat_lt
  simp only [UInt64.toNat_add, UInt64.toNat_shiftLeft, UInt32.toNat_toUInt64, UInt64.toNat_toUInt32,
    UInt64.toNat_shiftRight, Nat.shiftRight_eq_div_pow, Nat.shiftLeft_eq, UInt64.reduceToNat,
    Nat.reduceMod]
  omega

/-- As for a word, with the number put together of two. -/
theorem stored_dword (line : config.outputFormat = .line) {var : DwordVar} {fieldName : String}
    {value : UInt64} {words : List UInt32} {next : Unit → Decode Unit} {state : SFSample}
    {events : List Event}
    (holds : buffer.Holds state.cursor ((dwordWords value ++ words).flatMap be32))
    (later : buffer.Holds (holdingDword (State.moved state 8) var value).cursor
        (words.flatMap be32) →
      (run buffer (next ()) (holdingDword (State.moved state 8) var value)).Displays events) :
    (run buffer (storeNext64 config var fieldName >>= next) state).Displays events := by
  have stores : storeNext64 config var fieldName >>= next = (getData32 >>= fun high =>
      getData32 >>= fun low => setDword var ((high.toUInt64 <<< 32) + low.toUInt64) >>= next) := by
    unfold storeNext64 sfLogNext64 getData64
    simp only [sfLog_line line, LawfulMonad.bind_assoc, LawfulMonad.pure_bind]
  obtain ⟨upper, holds⟩ := run_word buffer _ _ (fun high => getData32 >>= fun low =>
    setDword var ((high.toUInt64 <<< 32) + low.toUInt64) >>= next) state holds
  obtain ⟨lower, behind⟩ := run_word buffer _ _ (fun low => setDword var
    (((value >>> 32).toUInt32.toUInt64 <<< 32) + low.toUInt64) >>= next) _ holds
  rw [stores, upper, lower, dword_words]
  exact later behind

/-- The columns of a line as a sample holds them. -/
def countersLineOf (sample : SFSample) : CountersLine where
  agentAddr := addressOf sample .agentAddr
  ifIndex := wordOf sample .ifIndex
  ifType := wordOf sample .ifType
  ifSpeed := sample.store (.dword .ifSpeed)
  ifDirection := wordOf sample .ifDirection
  ifStatus := wordOf sample .ifStatus
  ifInOctets := sample.store (.dword .ifInOctets)
  ifInUcastPkts := wordOf sample .ifInUcastPkts
  ifInMulticastPkts := wordOf sample .ifInMulticastPkts
  ifInBroadcastPkts := wordOf sample .ifInBroadcastPkts
  ifInDiscards := wordOf sample .ifInDiscards
  ifInErrors := wordOf sample .ifInErrors
  ifInUnknownProtos := wordOf sample .ifInUnknownProtos
  ifOutOctets := sample.store (.dword .ifOutOctets)
  ifOutUcastPkts := wordOf sample .ifOutUcastPkts
  ifOutMulticastPkts := wordOf sample .ifOutMulticastPkts
  ifOutBroadcastPkts := wordOf sample .ifOutBroadcastPkts
  ifOutDiscards := wordOf sample .ifOutDiscards
  ifOutErrors := wordOf sample .ifOutErrors
  ifPromiscuousMode := wordOf sample .ifPromiscuousMode

theorem writeCountersLine_displays (state : SFSample) (line : CountersLine)
    (columns : countersLineOf state = line) :
    (run buffer writeCountersLine state).Displays [.countersLine line] := by
  subst columns
  exact ⟨(), state, ⟨rfl, rfl⟩, rfl⟩

/-- The generic block of a version 4 sample goes into the columns of the line. -/
theorem readCountersGeneric_displays (line : config.outputFormat = .line) (row : CountersLine)
    (agent : addressOf sample .agentAddr = row.agentAddr)
    (holds : buffer.Holds sample.cursor ((interfaceWords row).flatMap be32)) :
    (run buffer (readCountersGeneric config >>= fun _ => writeCountersLine) sample).Displays
      [.countersLine row] := by
  unfold readCountersGeneric
  simp only [LawfulMonad.bind_assoc]
  refine stored_word line holds fun holds => ?_
  refine stored_word line holds fun holds => ?_
  refine stored_dword line holds fun holds => ?_
  refine stored_word line holds fun holds => ?_
  refine stored_word line holds fun holds => ?_
  refine stored_dword line holds fun holds => ?_
  iterate 6 refine stored_word line (by assumption) fun _ => ?_
  refine stored_dword line (by assumption) fun _ => ?_
  iterate 6 refine stored_word line (by assumption) fun _ => ?_
  refine writeCountersLine_displays _ row ?_
  rw [show row = { row with agentAddr := addressOf sample .agentAddr } by rw [agent]]
  rfl

theorem displays_word {word : UInt32} {words : List UInt32} {next : UInt32 → Decode Unit}
    {events : List Event} {state : SFSample}
    (holds : buffer.Holds state.cursor ((word :: words).flatMap be32))
    (later : buffer.Holds (State.moved state 4).cursor (words.flatMap be32) →
      (run buffer (next word) (State.moved state 4)).Displays events) :
    (run buffer (getData32 >>= next) state).Displays events := by
  obtain ⟨read, behind⟩ := run_word buffer word words next state holds
  rw [read]
  exact later behind

theorem emits_setWord (var : WordVar) (value : UInt32) :
    (run buffer (setWord var value) sample).Emits () (holding sample var value) [] :=
  ⟨⟨rfl, rfl⟩, rfl⟩

theorem emits_logSourceId (line : config.outputFormat = .line) (fmt : String) (args : List Arg) :
    (run buffer (logSourceId config fmt args) sample).Emits () sample [] := by
  unfold logSourceId
  simp only [sfLog_line line]
  exact ⟨⟨rfl, rfl⟩, rfl⟩

/-- A version 4 sample with the generic block prints its line. -/
theorem interfaceSample_displays (line : config.outputFormat = .line) (head : InterfaceHead)
    (row : CountersLine) (agent : addressOf sample .agentAddr = row.agentAddr)
    (holds : buffer.Holds sample.cursor ((interfaceSampleV4 head row).flatMap be32)) :
    (run buffer (readCountersSampleV2v4 config) sample).Displays [.countersLine row] := by
  have decodes : readCountersSampleV2v4 config = (do
      let samplesGenerated ← getData32
      setWord .samplesGenerated samplesGenerated
      let samplerId ← getData32
      setSamplerId samplerId
      logSourceId config "sourceId %u:%u\n" []
      let statsSamplingInterval ← getData32
      setWord .statsSamplingInterval statsSamplingInterval
      let counterBlockVersion ← getData32
      setWord .counterBlockVersion counterBlockVersion
      readCounterBlockV2v4 config counterBlockVersion
      writeCountersLine) := by
    unfold readCountersSampleV2v4 Decoder.when
    rw [if_pos line]
    simp only [sfLog_line line, LawfulMonad.pure_bind]
  rw [decodes]
  refine displays_word holds fun holds => ?_
  refine displays_behind buffer _ _ (emits_setWord .samplesGenerated _) ?_
  refine displays_word holds fun holds => ?_
  refine displays_behind buffer _ _ ⟨⟨rfl, rfl⟩, rfl⟩ ?_
  refine displays_behind buffer _ _ (emits_logSourceId line _ _) ?_
  refine displays_word holds fun holds => ?_
  refine displays_behind buffer _ _ (emits_setWord .statsSamplingInterval _) ?_
  refine displays_word holds fun holds => ?_
  refine displays_behind buffer _ _ (emits_setWord .counterBlockVersion _) ?_
  exact readCountersGeneric_displays line row agent holds

end Printed

section Claim

/-- The two samples, on the wire of an agent each, with the same values. -/
structure InterfaceSamples where
  config : SFConfig
  lineMode : config.outputFormat = .line
  head : InterfaceHead
  line : CountersLine
  expanded : Bool
  bufferV5 : Buffer
  sampleV5 : SFSample
  holdsV5 : bufferV5.Holds sampleV5.cursor ((interfaceSampleV5 expanded head line).flatMap be32)
  agentV5 : addressOf sampleV5 .agentAddr = line.agentAddr
  bufferV4 : Buffer
  sampleV4 : SFSample
  holdsV4 : bufferV4.Holds sampleV4.cursor ((interfaceSampleV4 head line).flatMap be32)
  agentV4 : addressOf sampleV4 .agentAddr = line.agentAddr

namespace InterfaceSamples

def decodedV5 (samples : InterfaceSamples) : Run collector Unit :=
  run samples.bufferV5 (readCountersSample samples.config samples.expanded) samples.sampleV5

def decodedV4 (samples : InterfaceSamples) : Run collector Unit :=
  run samples.bufferV4 (readCountersSampleV2v4 samples.config) samples.sampleV4

/-- Version 5 yields the line that version 4 does. -/
def SameLine (samples : InterfaceSamples) : Prop :=
  cntrLines (eventsOf samples.decodedV5) = cntrLines (eventsOf samples.decodedV4)

/-- The line prints the decoded values. -/
def PrintsValues (samples : InterfaceSamples) : Prop :=
  cntrLines (eventsOf samples.decodedV5) = [samples.line]

/-- The decode goes on behind the version 5 sample. -/
def GoesOn (samples : InterfaceSamples) : Prop := samples.decodedV5.outcome = .ok ()

theorem prints_v4 (samples : InterfaceSamples) :
    cntrLines (eventsOf samples.decodedV4) = [samples.line] := by
  obtain ⟨value, final, returned, shown⟩ := interfaceSample_displays samples.lineMode samples.head
    samples.line samples.agentV4 samples.holdsV4
  unfold eventsOf decodedV4
  rw [shown]
  rfl

theorem unlined_v5 (samples : InterfaceSamples) :
    (∃ reason, samples.decodedV5.outcome = .error reason) ∧
      cntrLines (eventsOf samples.decodedV5) = [] :=
  interfaceSample_unlined samples.expanded samples.head samples.line samples.holdsV5

end InterfaceSamples

/-- For no values of the counters is the line of version 5 that of version 4, or one of the values,
and for none is anything decoded behind the sample. -/
theorem interface_lines_differ (samples : InterfaceSamples) :
    ¬samples.SameLine ∧ ¬samples.PrintsValues ∧ ¬samples.GoesOn := by
  obtain ⟨⟨reason, stopped⟩, unlined⟩ := samples.unlined_v5
  refine ⟨?_, ?_, ?_⟩
  · intro same
    exact List.cons_ne_nil _ _ (samples.prints_v4.symm.trans (same.symm.trans unlined))
  · intro printed
    exact List.cons_ne_nil _ _ (printed.symm.trans unlined)
  · intro goesOn
    cases stopped.symm.trans goesOn

theorem holds_datagramOf (words : List UInt32) :
    (datagramOf words).Holds 0 (words.flatMap be32) := by
  refine holds_of_drop _ 0 _ [] ?_ ?_
  · rw [Nat.zero_add]
    exact Nat.le_refl _
  · rw [List.drop_zero, List.append_nil]
    rfl

/-- A gigabit port of the agent whose address is all zeros. -/
def gigabitPort : CountersLine where
  agentAddr := clearedAddress
  ifIndex := 7
  ifType := 6
  ifSpeed := 1000000000
  ifDirection := 1
  ifStatus := 3
  ifInOctets := 81985529216486895
  ifInUcastPkts := 1000
  ifInMulticastPkts := 20
  ifInBroadcastPkts := 10
  ifInDiscards := 0
  ifInErrors := 0
  ifInUnknownProtos := 0
  ifOutOctets := 4294967296
  ifOutUcastPkts := 900
  ifOutMulticastPkts := 0
  ifOutBroadcastPkts := 5
  ifOutDiscards := 0
  ifOutErrors := 0
  ifPromiscuousMode := 0

def portHead : InterfaceHead := ⟨1, 0, 7, 30⟩

def portSamples : InterfaceSamples where
  config := defaultConfig .line
  lineMode := rfl
  head := portHead
  line := gigabitPort
  expanded := false
  bufferV5 := datagramOf (interfaceSampleV5 false portHead gigabitPort)
  sampleV5 := firstSample
  holdsV5 := holds_datagramOf _
  agentV5 := rfl
  bufferV4 := datagramOf (interfaceSampleV4 portHead gigabitPort)
  sampleV4 := firstSample
  holdsV4 := holds_datagramOf _
  agentV4 := rfl

/-- The port's line is lost in version 5. -/
theorem port_line_lost : ¬∀ samples : InterfaceSamples,
    samples.SameLine ∧ samples.PrintsValues ∧ samples.GoesOn := by
  intro agree
  obtain ⟨-, printed, -⟩ := agree portSamples
  exact List.cons_ne_nil _ _ (printed.symm.trans portSamples.unlined_v5.2)

end Claim

end SflowTool
