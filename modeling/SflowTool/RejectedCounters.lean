import SflowTool.SampleUses
import SflowTool.FlowFraming
import SflowTool.Commitment

/-! What a rejected counters sample leaves behind. The records that export do so as they
are decoded, each one only once it is complete, while the sample is judged after its last
element: what was exported for the elements before the one that fails is not taken back. -/
namespace SflowTool
open Decoding Decoding.Decoder

/-- What goes to the time-series server or into a database. -/
def Event.exported : Event → Bool
  | .opentsdb _ | .leveldbWrite _ _ _ | .leveldbWriteObject _ _ _ _ => true
  | _ => false

/-- Operations that export nothing. -/
abbrev UnexportedOp : Op collector → Prop := @Unshown collector Event.exported

instance : Permits UnexportedOp where
  take _ _ := trivial
  skip _ := trivial
  errout _ := rfl
  note _ _ _ _ _ := trivial
  abort _ _ := trivial
instance : PermitsNames UnexportedOp where
  lookup _ _ := trivial
instance : PermitsFilter UnexportedOp where
  lookup _ := trivial
instance : PermitsState UnexportedOp where
  get _ := trivial
  set _ _ := trivial
  mark _ _ := trivial
  peek _ _ _ := trivial
  since _ := trivial

variable {config : SFConfig}

instance : PermitsLog config UnexportedOp where
  log _ _ := rfl
instance : PermitsOctets UnexportedOp where
  take _ := trivial
instance : PermitsIteration UnexportedOp where
  note := trivial
instance : PermitsReport UnexportedOp where
  survey := trivial
  report _ _ _ _ := rfl
instance : PermitsPrint UnexportedOp where
  print _ := rfl
instance : PermitsJump UnexportedOp where
  jump _ := trivial
instance : PermitsRecords config UnexportedOp where
  record event record other := by
    cases format : config.outputFormat with
    | full => exact absurd format other
    | _ => cases event <;> first | rfl | (rw [format] at record; cases record)

/-- Operations that only report, and export nothing. -/
abbrev TrailingOp : Op collector → Prop := @Trailing collector Event.exported

/-! Counted once for each way it is handed on, as before. -/
set_option synthInstance.maxSize 1000000000000

instance (fmt : String) (args : List Arg) : Uses TrailingOp (sfLog config fmt args) :=
  uses_when_of _ _ fun _ => uses_single _ ⟨trivial, rfl⟩
instance (member : DdosMember) : Uses TrailingOp (getCounters member) :=
  uses_single _ ⟨trivial, trivial⟩
instance (val : UInt64) (fieldName : String) : Uses TrailingOp (sfLogU64 config val fieldName) := by
  unfold sfLogU64; infer_instance
instance (member : DdosMember) (labels : List (String × String)) :
    Uses TrailingOp (logCountersU64 config member labels) := by
  unfold logCountersU64; infer_instance

/-- A program that exports once it is complete, and not before. -/
abbrev CommitsExport {α : Type} (program : Decode α) : Prop :=
  @Commits collector α Event.exported program

theorem commits_metrics (lines : List Metric) :
    CommitsExport (@Decoder.emit collector (.opentsdb lines)) :=
  commits_emit _ rfl

section Metrics

instance (member : DdosMember) (fields : List String)
    (labels : List (String × String)) (rows : List (String × List String)) :
    CommitsExport (readExportedU64 config member fields labels rows) := by
  refine commits_after _ _ inferInstance fun tags => ?_
  refine commits_after _ _ inferInstance fun _ => ?_
  refine commits_after _ _ inferInstance fun counters => ?_
  exact commits_before _ _ (commits_metrics _) fun _ => inferInstance

instance : CommitsExport (readCountersDdosHttpCounter config) := by
  unfold readCountersDdosHttpCounter; infer_instance
instance : CommitsExport (readCountersDdosDnsCounter config) := by
  unfold readCountersDdosDnsCounter; infer_instance
instance : CommitsExport (readCountersDdosSslL4Counter config) := by
  unfold readCountersDdosSslL4Counter; infer_instance
instance : CommitsExport (readCountersDdosL4TcpCounter config) := by
  unfold readCountersDdosL4TcpCounter; infer_instance

instance : CommitsExport (readCountersDdosFpgaAnomalyCounter config) := by
  refine commits_after _ _ inferInstance fun tags => ?_
  refine commits_after _ _ inferInstance fun _ => ?_
  refine commits_after _ _ inferInstance fun counters => ?_
  refine commits_after _ _ inferInstance fun _ => ?_
  exact commits_before _ _ (commits_metrics _) fun _ => inferInstance

instance : CommitsExport (readCountersDdosBriefStatsCounter config) := by
  refine commits_after _ _ inferInstance fun tags => ?_
  refine commits_after _ _ inferInstance fun _ => ?_
  refine commits_after _ _ inferInstance fun counters => ?_
  refine commits_after _ _ inferInstance fun dropped => ?_
  refine commits_after _ _ inferInstance fun _ => ?_
  exact commits_before _ _ (commits_metrics _) fun _ => inferInstance

instance : CommitsExport (readCountersDdosHttpT2Counter config) := by
  refine commits_after _ _ inferInstance fun _ => ?_
  refine commits_after _ _ inferInstance fun counters => ?_
  refine commits_after _ _ inferInstance fun tags => ?_
  iterate 5 refine commits_after _ _ inferInstance fun _ => ?_
  exact commits_metrics _

instance : CommitsExport (readCountersDdosSslL4T2Counter config) := by
  refine commits_after _ _ inferInstance fun _ => ?_
  refine commits_after _ _ inferInstance fun counters => ?_
  refine commits_after _ _ inferInstance fun tags => ?_
  refine commits_after _ _ inferInstance fun _ => ?_
  exact commits_metrics _

instance : CommitsExport (readCountersDdosDnsCounterT2 config) := by
  refine commits_after _ _ inferInstance fun _ => ?_
  refine commits_after _ _ inferInstance fun counters => ?_
  refine commits_after _ _ inferInstance fun tags => ?_
  iterate 2 refine commits_after _ _ inferInstance fun _ => ?_
  refine commits_after _ _ inferInstance fun dropped => ?_
  exact commits_metrics _

instance : CommitsExport (readCountersDdosIcmpCounterT2 config) := by
  refine commits_after _ _ inferInstance fun _ => ?_
  refine commits_after _ _ inferInstance fun counters => ?_
  refine commits_after _ _ inferInstance fun tags => ?_
  refine commits_after _ _ inferInstance fun _ => ?_
  exact commits_before _ _ (commits_metrics _) fun _ => inferInstance

instance : CommitsExport (readCountersDdosL4IpCounterT2 config) := by
  refine commits_after _ _ inferInstance fun _ => ?_
  refine commits_after _ _ inferInstance fun counters => ?_
  refine commits_after _ _ inferInstance fun tags => ?_
  iterate 6 refine commits_after _ _ inferInstance fun _ => ?_
  exact commits_before _ _ (commits_metrics _) fun _ => inferInstance

instance : CommitsExport (readCountersDdosL4ExtIpCounterT2 config) := by
  refine commits_after _ _ inferInstance fun _ => ?_
  refine commits_after _ _ inferInstance fun counters => ?_
  refine commits_after _ _ inferInstance fun tags => ?_
  exact commits_before _ _ (commits_metrics _) fun _ => inferInstance

instance (description : String) (decoder : Decode Unit) [commits : CommitsExport decoder] :
    CommitsExport (described description decoder) :=
  commits_after _ _ inferInstance fun _ => commits

instance (member : DdosMember) (description : String) (readPort readStats : Decode Unit)
    [port : Uses UnexportedOp readPort] [stats : CommitsExport readStats] :
    CommitsExport (readPortEntry config member description readPort readStats) := by
  refine commits_after _ _ inferInstance fun _ => ?_
  refine commits_after _ _ inferInstance fun _ => ?_
  refine commits_after _ _ inferInstance fun _ => ?_
  exact commits_after _ _ inferInstance fun _ => stats

instance (member : DdosMember) (description : String) (readStats : Decode Unit)
    [stats : CommitsExport readStats] :
    CommitsExport (readPlainEntry config member description readStats) := by
  refine commits_after _ _ inferInstance fun _ => ?_
  refine commits_after _ _ inferInstance fun _ => ?_
  exact commits_after _ _ inferInstance fun _ => stats

end Metrics

/-- A silent program in front leaves the commitment to what follows, wherever it is run. -/
theorem commits_silent {α β : Type} (buffer : Buffer) (program : Decode α) (next : α → Decode β)
    (state : SFSample) (sends : Prop) (silent : Uses UnexportedOp program)
    (later : ∀ value middle, (run buffer (next value) middle).Commits Event.exported sends) :
    (run buffer (program >>= next) state).Commits Event.exported sends := by
  rw [Decoder.bind_eq, run_bind]
  exact .after (unshown_silent buffer program silent state) fun value _ => later value _

/-- Likewise where the cursor stays. -/
theorem commits_stays {α β : Type} (buffer : Buffer) (program : Decode α) (next : α → Decode β)
    (state : SFSample) (sends : Prop) (silent : Uses UnexportedOp program) (stays : Stays program)
    (later : ∀ value middle, middle.cursor = state.cursor →
      (run buffer (next value) middle).Commits Event.exported sends) :
    (run buffer (program >>= next) state).Commits Event.exported sends := by
  rw [Decoder.bind_eq, run_bind]
  refine .after (unshown_silent buffer program silent state) fun value returned => ?_
  exact later value _ ((stays.stays buffer state).of_ok returned)

section Flexible

/-- A flexible record at `start` goes to the databases: they open, and its text is as
long as a UUID. -/
def StoresFlexible (config : SFConfig) (buffer : Buffer) (start : Nat) : Prop :=
  (buffer.text start).length = 36 ∧ config.leveldbError = none

instance : Uses UnexportedOp (peekText .ptr 0 : Decode Text) := uses_single _ trivial
instance : Uses UnexportedOp (peekText .header 0 : Decode Text) := uses_single _ trivial
instance : Uses UnexportedOp printHeader := by
  unfold printHeader; infer_instance
instance (remaining index : Nat) : Uses UnexportedOp (readFlexKv remaining index) := by
  induction remaining generalizing index with
  | zero => exact .pure []
  | succ remaining ih =>
      unfold readFlexKv
      infer_instance

/-- The databases are written last, after the last check of the record. -/
theorem readCountersA10_commits (buffer : Buffer) (state : SFSample) :
    (run buffer (readCountersA10_4_1_n_generic config) state).Commits Event.exported
      (StoresFlexible config buffer state.cursor) := by
  have opened (next : Text → Decode Unit) : run buffer (do
        @Decoder.mark collector .ptr
        @Decoder.jump collector customInfoSize
        let uuid ← peekText .ptr 0
        next uuid) state =
      run buffer (next (buffer.text (state.cursor + 0)))
        ((state.marked .ptr).moved customInfoSize) := by
    rw [← State.marked_marks state Mark.ptr]
    rfl
  unfold readCountersA10_4_1_n_generic
  rw [opened]
  generalize text : buffer.text (state.cursor + 0) = uuid
  iterate 6 refine commits_silent buffer _ _ _ _ inferInstance fun _ _ => ?_
  refine commits_silent buffer _ _ _ _ inferInstance fun contextLength _ => ?_
  iterate 2 refine commits_silent buffer _ _ _ _ inferInstance fun _ _ => ?_
  by_cases uuidLength : uuid.length = 36
  · rw [if_neg (not_not_intro uuidLength)]
    refine commits_silent buffer _ _ _ _ inferInstance fun _ _ => ?_
    refine commits_silent buffer _ _ _ _ inferInstance fun data _ => ?_
    refine commits_silent buffer _ _ _ _ inferInstance fun _ middle => ?_
    cases opens : config.leveldbError with
    | some err =>
        have closed : ¬StoresFlexible config buffer state.cursor := fun stores => by
          have same := opens.symm.trans stores.2
          cases same
        have failed (write : Event) : Uses UnexportedOp (leveldbSimpleWriteData config write) := by
          unfold leveldbSimpleWriteData
          rw [opens]
          infer_instance
        have unread (key : Line) (database : Database) :
            Uses UnexportedOp (leveldbSimpleReadData config key database) := by
          unfold leveldbSimpleReadData
          rw [opens]
          infer_instance
        have object (objId : Line) (oid : UInt32) (uuid : Text) :
            Uses UnexportedOp (writeObjectId config objId oid uuid) := by
          unfold writeObjectId
          infer_instance
        rw [show StoresFlexible config buffer state.cursor = False from eq_false closed]
        exact .of_silent (unshown_silent buffer _ inferInstance middle)
    | none =>
        have stores : StoresFlexible config buffer state.cursor := by
          refine ⟨?_, opens⟩
          rw [← text] at uuidLength
          exact uuidLength
        rw [show StoresFlexible config buffer state.cursor = True from eq_true stores]
        have written (write : Event) : leveldbSimpleWriteData config write =
            @Decoder.emit collector write := by
          unfold leveldbSimpleWriteData
          rw [opens]
        rw [written, Decoder.bind_eq, run_bind]
        refine .at_once ⟨_, List.mem_singleton_self _, rfl⟩ (fun _ last => ?_) () rfl
        exact (reporting_returns buffer _ inferInstance last).1
  · have short : ¬StoresFlexible config buffer state.cursor := fun stores => by
      apply uuidLength
      rw [← text]
      exact stores.1
    rw [if_pos uuidLength, show StoresFlexible config buffer state.cursor = False from eq_false short]
    exact .of_silent (unshown_silent buffer _ inferInstance _)

end Flexible

section Elements

/-- The records that send metrics. -/
def metricFormats : List UInt32 := [3, 4, 5, 6, 7, 9, 10, 11, 12, 16, 21, 30]
def metricTags : List UInt32 := metricFormats.map enterpriseA10

/-- The records that go to the flexible record decoder. -/
def flexibleTags : List UInt32 := [tagCountersGeneric, 1001, tagCountersGenericA10]

/-- What a decoder of the table does to the outside. -/
inductive Exporter (config : SFConfig) (tag : UInt32) (decoder : Decode Unit) : Prop where
  | metrics (listed : tag ∈ metricTags) (commits : CommitsExport decoder)
  | flexible (listed : tag ∈ flexibleTags) (unlisted : tag ∉ metricTags)
      (commits : ∀ (buffer : Buffer) (state : SFSample),
        (run buffer decoder state).Commits Event.exported
          (StoresFlexible config buffer state.cursor))
  | silent (unlisted : tag ∉ metricTags) (rigid : tag ∉ flexibleTags)
      (uses : Uses UnexportedOp decoder)

theorem flexible_printed (fmt : String) (buffer : Buffer) (state : SFSample) :
    (run buffer (do
      printf fmt []
      readCountersA10_4_1_n_generic config) state).Commits Event.exported
        (StoresFlexible config buffer state.cursor) :=
  commits_stays buffer _ _ state _ inferInstance inferInstance fun _ middle same => by
    rw [← same]
    exact readCountersA10_commits buffer middle

theorem plainCounterDecoders_silent (length : UInt32) (entry : UInt32 × Decode Unit)
    (member : entry ∈ plainCounterDecoders config length) : Exporter config entry.1 entry.2 := by
  revert entry
  simp only [plainCounterDecoders, List.forall_mem_cons, List.not_mem_nil, false_implies,
    implies_true, and_true]
  and_intros <;> exact .silent (by decide) (by decide) inferInstance

theorem flexCounterDecoders_store (entry : UInt32 × Decode Unit)
    (member : entry ∈ flexCounterDecoders config) : Exporter config entry.1 entry.2 := by
  revert entry
  simp only [flexCounterDecoders, List.forall_mem_cons, List.not_mem_nil, false_implies,
    implies_true, and_true]
  refine ⟨?_, ?_, ?_⟩
  · exact .flexible (by decide) (by decide) (flexible_printed _)
  · exact .flexible (by decide) (by decide) readCountersA10_commits
  · exact .flexible (by decide) (by decide) (flexible_printed _)

theorem ddosCounterDecoders_export (entry : UInt32 × Decode Unit)
    (member : entry ∈ ddosCounterDecoders config) : Exporter config entry.1 entry.2 := by
  revert entry
  simp only [ddosCounterDecoders, List.forall_mem_cons, List.not_mem_nil, false_implies,
    implies_true, and_true]
  and_intros
  all_goals first
    | exact .metrics (by decide) inferInstance
    | exact .silent (by decide) (by decide) inferInstance

/-- An element that exports once it is decoded: one with metrics, or a flexible record
that goes to the databases. -/
def ExportsElement (config : SFConfig) (buffer : Buffer) (tag : UInt32) (start : Nat) : Prop :=
  tag ∈ metricTags ∨ tag ∈ flexibleTags ∧ StoresFlexible config buffer start

instance (config : SFConfig) (buffer : Buffer) (tag : UInt32) (start : Nat) :
    Decidable (ExportsElement config buffer tag start) :=
  inferInstanceAs (Decidable (_ ∨ _ ∧ _ ∧ _))

theorem Exporter.commits {tag : UInt32} {decoder : Decode Unit}
    (exporter : Exporter config tag decoder) (buffer : Buffer) (state : SFSample) :
    (run buffer decoder state).Commits Event.exported
      (ExportsElement config buffer tag state.cursor) := by
  cases exporter with
  | metrics listed commits =>
      have exports : ExportsElement config buffer tag state.cursor := .inl listed
      rw [eq_true exports]
      exact commits.commits buffer state
  | flexible listed unlisted commits =>
      have exports : ExportsElement config buffer tag state.cursor =
          StoresFlexible config buffer state.cursor := by
        simp [ExportsElement, listed, unlisted]
      rw [exports]
      exact commits buffer state
  | silent unlisted rigid uses =>
      have silent : ¬ExportsElement config buffer tag state.cursor := by
        simp [ExportsElement, unlisted, rigid]
      rw [eq_false silent]
      exact .of_silent (unshown_silent buffer decoder uses state)

theorem lookup_none {κ α : Type} [BEq κ] [LawfulBEq κ] {table : List (κ × α)} {key : κ}
    (absent : table.lookup key = none) (entry : κ × α) (member : entry ∈ table) : entry.1 ≠ key := by
  intro same
  have differs := List.lookup_eq_none_iff.mp absent entry member
  rw [same] at differs
  simp at differs

/-- The tables hold every exporting record, so that a record outside them exports nothing. -/
theorem exporting_listed (length tag : UInt32)
    (listed : tag ∈ metricTags ∨ tag ∈ flexibleTags) :
    ∃ entry ∈ counterDecoders config length, entry.1 = tag := by
  have metrics : metricFormats ⊆ [1, 2, 3, 4, 9, 5, 6, 7, 16, 8, 60, 64, 65, 66, 67, 68, 10, 11,
      12, 13, 14, 15, 21, 22, 23, 24, 25, 26, 27, 28, 29, 30, 31] := by decide
  have known : tag ∈ (flexCounterDecoders config ++ ddosCounterDecoders config).map Prod.fst := by
    rw [List.map_append, List.mem_append]
    rcases listed with metric | flexible
    · obtain ⟨format, member, rfl⟩ := List.mem_map.mp metric
      exact .inr (@List.mem_map_of_mem _ _ _ _ enterpriseA10 (metrics member))
    · exact .inl flexible
  obtain ⟨entry, member, same⟩ := List.mem_map.mp known
  refine ⟨entry, ?_, same⟩
  rw [counterDecoders, List.append_assoc]
  exact List.mem_append_right _ member

theorem readCounterElementBody_commits (tag length : UInt32) (buffer : Buffer)
    (state : SFSample) : (run buffer (readCounterElementBody config tag length) state).Commits
      Event.exported (ExportsElement config buffer tag state.cursor) := by
  unfold readCounterElementBody
  split
  · next decoder found =>
      have member := lookup_mem found
      simp only [counterDecoders, List.mem_append] at member
      have exporter : Exporter config tag decoder := by
        rcases member with (plain | flexible) | ddos
        · exact plainCounterDecoders_silent length (tag, decoder) plain
        · exact flexCounterDecoders_store (tag, decoder) flexible
        · exact ddosCounterDecoders_export (tag, decoder) ddos
      exact exporter.commits buffer state
  · next absent =>
      have silent : ¬ExportsElement config buffer tag state.cursor := by
        intro exports
        obtain ⟨entry, member, same⟩ :=
          @exporting_listed config length tag (exports.imp id And.left)
        exact lookup_none absent entry member same
      rw [eq_false silent]
      exact .of_silent (unshown_silent buffer _ inferInstance state)

end Elements

section Samples

/-- The element at the cursor is one that exports. -/
def Exporting (config : SFConfig) (buffer : Buffer) (state : SFSample) : Prop :=
  ExportsElement config buffer (wordFrom buffer state.cursor) (state.cursor + 8)

instance (config : SFConfig) (buffer : Buffer) (state : SFSample) :
    Decidable (Exporting config buffer state) :=
  inferInstanceAs (Decidable (ExportsElement _ _ _ _))

instance (name : Mark) : Uses UnexportedOp (@Decoder.mark collector name) := uses_single _ trivial
instance (mark : Note) : Uses UnexportedOp (@Decoder.note collector mark) := uses_single _ trivial
instance (mark : Note) : Uses TrailingOp (@Decoder.note collector mark) :=
  uses_single _ ⟨trivial, trivial⟩

instance (tag : UInt32) : Stays (printEnterprise tag) := by
  unfold printEnterprise; infer_instance

theorem readCounterElement_commits (buffer : Buffer) (state : SFSample) :
    (run buffer (readCounterElement config) state).Commits Event.exported
      (Exporting config buffer state) := by
  have word := getData32_finishing buffer
  unfold readCounterElement
  rw [Decoder.bind_eq, run_bind]
  refine .after (unshown_silent buffer _ inferInstance state) fun tag got => ?_
  obtain ⟨rfl, after, -, -⟩ := (word state).of_ok got
  rw [after]
  refine commits_stays buffer _ _ _ _ inferInstance inferInstance fun _ one logged => ?_
  rw [Decoder.bind_eq, run_bind]
  refine .after (unshown_silent buffer _ inferInstance one) fun length got => ?_
  obtain ⟨-, opened, -, -⟩ := (word one).of_ok got
  rw [opened]
  refine commits_stays buffer _ _ _ _ inferInstance inferInstance fun _ two stored => ?_
  refine commits_stays buffer _ _ _ _ inferInstance inferInstance fun _ three marked => ?_
  refine commits_stays buffer _ _ _ _ inferInstance inferInstance fun _ four noted => ?_
  refine commits_stays buffer _ _ _ _ inferInstance inferInstance fun _ five printed => ?_
  refine commits_stays buffer _ _ _ _ inferInstance inferInstance fun _ six again => ?_
  refine commits_stays buffer _ _ _ _ inferInstance inferInstance fun _ seven last => ?_
  rw [Decoder.bind_eq, run_bind]
  have start : state.cursor + 8 = seven.cursor := by
    rw [last, again, printed, noted, marked, stored, State.moved_cursor, logged,
      State.moved_cursor]
  unfold Exporting
  rw [start]
  refine (readCounterElementBody_commits _ length buffer seven).before fun _ final => ?_
  exact ⟨⟨(), rfl⟩, unshown_silent buffer _ inferInstance final⟩

/-- The states at the starts of the elements that are decoded to their end. -/
def decodedElements (config : SFConfig) (buffer : Buffer) : Nat → SFSample → List SFSample
  | 0, _ => []
  | remaining + 1, state =>
      match (run buffer (readCounterElement config) state).outcome with
      | .ok _ =>
          state :: decodedElements config buffer remaining
            (run buffer (readCounterElement config) state).state
      | .error _ => []

/-- The elements have exported just when one that is decoded to its end does, whether or
not a later one stops the decode. -/
theorem readCounterElements_shows (buffer : Buffer) (remaining : Nat) (state : SFSample) :
    (run buffer (readCounterElements config remaining) state).Shows Event.exported ↔
      ∃ element ∈ decodedElements config buffer remaining state,
        Exporting config buffer element := by
  induction remaining generalizing state with
  | zero =>
      constructor
      · rintro ⟨sent, member, _⟩
        cases member
      · rintro ⟨element, member, _⟩
        cases member
  | succ remaining ih =>
      have element := @readCounterElement_commits config buffer state
      unfold readCounterElements decodedElements
      rw [Decoder.bind_eq, run_bind]
      unfold Run.Commits at element
      cases returned : (run buffer (readCounterElement config) state).outcome with
      | error reason =>
          rw [returned] at element
          rw [shows_bind_error _ _ reason returned]
          constructor
          · intro shown
            exact absurd shown element
          · rintro ⟨element, member, _⟩
            cases member
      | ok value =>
          rw [returned] at element
          have exports : (run buffer (readCounterElement config) state).Shows Event.exported ↔
              Exporting config buffer state := element
          rw [shows_bind _ _ value returned, exports]
          have rest := ih (run buffer (readCounterElement config) state).state
          simp only [List.mem_cons, exists_eq_or_imp]
          exact or_congr_right rest

/-- A version 5 counters sample up to its elements: its length and the number of them. -/
def openCountersSample (config : SFConfig) (expanded : Bool) : Decode (UInt32 × UInt32) := do
  sfLog config "%-35s COUNTERSSAMPLE\n" [.name "sampleType:"]
  let sampleLength ← getData32
  mark .sampleStart
  let samplesGenerated ← getData32
  setWord .samplesGenerated samplesGenerated
  sfLog config "%-35s %u\n" [.name "sampleSequenceNo", .word samplesGenerated]
  readSourceId expanded
  logSourceId config "%-35s %u:%u\n" [.name "sourceId"]
  let numElements ← getData32
  return (sampleLength, numElements)

/-- What follows the elements. -/
def closeCountersSample (config : SFConfig) (sampleLength : UInt32) : Decode Unit := do
  lengthCheck "length_check_2_counters_sample" .sampleStart sampleLength
  note .countersSampleEnd
  when (config.outputFormat = .line) writeCountersLine

theorem readCountersSample_split (expanded : Bool) : readCountersSample config expanded =
    (openCountersSample config expanded >>= fun opened =>
      readCounterElements config opened.2.toNat >>= fun _ =>
      closeCountersSample config opened.1) := by
  simp only [readCountersSample, openCountersSample, closeCountersSample, LawfulMonad.bind_assoc,
    pure_bind]

/-- The elements of a sample that are decoded to their end, by the states at their starts. -/
def completedElements (config : SFConfig) (buffer : Buffer) (expanded : Bool)
    (sample : SFSample) : List SFSample :=
  match (run buffer (openCountersSample config expanded) sample).outcome with
  | .ok opened => decodedElements config buffer opened.2.toNat
      (run buffer (openCountersSample config expanded) sample).state
  | .error _ => []

theorem readCountersSample_shows (buffer : Buffer) (expanded : Bool) (sample : SFSample) :
    (run buffer (readCountersSample config expanded) sample).Shows Event.exported ↔
      ∃ element ∈ completedElements config buffer expanded sample,
        Exporting config buffer element := by
  have opening : Uses UnexportedOp (openCountersSample config expanded) := by
    unfold openCountersSample
    infer_instance
  have closing (sampleLength : UInt32) :
      Uses UnexportedOp (closeCountersSample config sampleLength) := by
    unfold closeCountersSample
    infer_instance
  have elements (opened : UInt32 × UInt32) (state : SFSample) :
      (run buffer (readCounterElements config opened.2.toNat >>= fun _ =>
        closeCountersSample config opened.1) state).Shows Event.exported ↔
      ∃ element ∈ decodedElements config buffer opened.2.toNat state,
        Exporting config buffer element := by
    rw [Decoder.bind_eq, run_bind,
      shows_ahead fun _ final => unshown_silent buffer _ (closing opened.1) final]
    exact readCounterElements_shows buffer opened.2.toNat state
  rw [readCountersSample_split, Decoder.bind_eq, run_bind,
    shows_behind (unshown_silent buffer _ opening sample)]
  simp only [elements]
  unfold completedElements
  cases (run buffer (openCountersSample config expanded) sample).outcome with
  | error reason =>
      constructor
      · rintro ⟨opened, same, _⟩
        cases same
      · rintro ⟨element, member, _⟩
        cases member
  | ok opened =>
      constructor
      · rintro ⟨other, same, exported⟩
        cases same
        exact exported
      · intro exported
        exact ⟨opened, rfl, exported⟩

/-- A counters sample that is not accepted. -/
def RejectedCounters (decoded : Run collector Unit) : Prop :=
  ∃ reason, decoded.outcome = .error reason

/-- A rejected sample has exported nothing just when none of the elements before the
place where it was rejected is one that exports. -/
theorem rejected_counters_silent_iff (config : SFConfig) (buffer : Buffer) (expanded : Bool)
    (sample : SFSample) :
    (RejectedCounters (run buffer (readCountersSample config expanded) sample) →
      ¬(run buffer (readCountersSample config expanded) sample).Shows Event.exported) ↔
    (RejectedCounters (run buffer (readCountersSample config expanded) sample) →
      ∀ element ∈ completedElements config buffer expanded sample,
        ¬Exporting config buffer element) := by
  rw [readCountersSample_shows]
  simp only [not_exists, not_and]

/-- A version 5 counters sample with one brief record of a single counter, which
announces four bytes too many. -/
def overlongCounters : Buffer :=
  datagramOf [32, 1, 1, 1, enterpriseA10 30, 8, 0, 7]

theorem overlong_counters_export :
    ¬∀ (config : SFConfig) (buffer : Buffer) (expanded : Bool) (sample : SFSample),
      RejectedCounters (run buffer (readCountersSample config expanded) sample) →
      ¬(run buffer (readCountersSample config expanded) sample).Shows Event.exported := by
  intro silent
  have rejected : (run overlongCounters (readCountersSample (defaultConfig .line) false)
      firstSample).outcome = .error .lengthError := by decide +kernel
  have exported : ((run overlongCounters (readCountersSample (defaultConfig .line) false)
      firstSample).trace.any fun sent => sent.event.exported) = true := by decide +kernel
  exact silent _ _ _ _ ⟨_, rejected⟩ (List.any_eq_true.mp exported)

end Samples

end SflowTool
