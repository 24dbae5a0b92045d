import SflowTool.RepeatedReports
import SflowTool.RecordStrings

/-! The framing of a version 5 counters sample. Its elements are not checked one by one against
their declared lengths, so that each starts where the decoder of the one before it stopped: that
is where the sender put it just where the length each element declares is the one its decoder
takes. -/
namespace SflowTool
open Decoding Decoding.Decoder

section Sizes

/-- What the decoder of a record takes: always as many bytes, the parts of a record with strings,
one of two numbers by the announced length, the adaptors that are counted, the arrays of an entry,
what is left of the announced length behind a header, or the flexible record. -/
inductive RecordSize where
  | bytes (size : Nat)
  | strings (parts : List Part)
  | longer (limit : UInt32) (size more : Nat)
  | adaptors
  | entry
  | copied (header : UInt32)
  | flexible

/-- Where a part of a record ends. -/
def partEnd (buffer : Buffer) (place : Nat) : Part → Nat
  | .octets size => place + size
  | .string => place + 4 + quadBytes (wordFrom buffer place)

/-- Where so many adaptors end. -/
def adaptorsEnd (buffer : Buffer) : Nat → Nat → Nat
  | 0, place => place
  | remaining + 1, place =>
      adaptorsEnd buffer remaining (place + 8 + 8 * (wordFrom buffer (place + 4)).toNat)

/-- Where an array ends that is counted at a place, of elements of 80 bytes. -/
def arrayEnd (buffer : Buffer) (place : Nat) : Nat := place + 4 + 80 * (wordFrom buffer place).toNat

/-- Where a record ends for its decoder. -/
def RecordSize.ends (buffer : Buffer) (length : UInt32) (body : Nat) : RecordSize → Nat
  | .bytes size => body + size
  | .strings parts => parts.foldl (partEnd buffer) body
  | .longer limit size more => body + if length > limit then more else size
  | .adaptors => adaptorsEnd buffer (wordFrom buffer body).toNat (body + 4)
  | .entry => arrayEnd buffer (arrayEnd buffer (body + 48))
  | .copied header => body + header.toNat + (length - header).toNat % 65536
  | .flexible =>
      if (buffer.text body).length ≠ 36 then body + 45 else body + 45 + quadBytes (length - 45)

/-- The records by their tags, but for those that are copied. -/
def plainSizes : List (UInt32 × RecordSize) :=
  [(2, .bytes 52), (3, .bytes 72), (4, .bytes 80), (5, .bytes 28), (6, .bytes 80), (7, .bytes 56),
   (1002, .bytes 12), (2000, .strings [.string, .octets 16, .octets 4, .octets 4, .string]), (2001, .adaptors),
   (2002, .bytes 8), (2003, .bytes 68), (2004, .bytes 72), (2005, .bytes 52), (2006, .bytes 40),
   (2100, .bytes 28), (2101, .bytes 12), (2102, .bytes 16), (2103, .bytes 52), (2104, .bytes 40),
   (tagCountersHostGpuNvml, .bytes 48), (2200, .bytes 144), (2204, .bytes 140), (2201, .bytes 60),
   (2105, .strings [.string, .string, .string]), (2106, .longer 100 100 108),
   (2202, .strings [.string, .octets 44]), (2203, .bytes 40), (2206, .bytes 20), (2205, .bytes 92),
   (enterpriseA10 80, .bytes 572), (enterpriseA10 81, .bytes 268), (enterpriseA10 82, .bytes 108),
   (enterpriseA10 83, .bytes 88), (enterpriseA10 84, .bytes 108), (tagCountersGeneric, .flexible),
   (1001, .flexible), (tagCountersGenericA10, .flexible), (enterpriseA10 2, .entry),
   (enterpriseA10 8, .bytes 128), (enterpriseA10 60, .bytes 68), (enterpriseA10 67, .bytes 160),
   (enterpriseA10 68, .bytes 68)]

def recordSizes : List (UInt32 × RecordSize) :=
  plainSizes ++ copiedRecords.map fun record => (record.tag, .copied record.prelude.size)

end Sizes

section Ends
variable {config : SFConfig} {buffer : Buffer} {length : UInt32}

/-- A decoder that returns ends where its record does. -/
def Ends (buffer : Buffer) (length : UInt32) (decoder : Decode Unit) (size : RecordSize) : Prop :=
  ∀ sample : SFSample, wordOf sample .currentContextLength = length →
    (run buffer decoder sample).Returning fun _ final =>
      final.cursor = size.ends buffer length sample.cursor

/-! Counted once for each way it is handed on, as before. -/
set_option synthInstance.maxSize 1000000000000

instance (field : Field) : Moves (logField config field) field.width := by
  cases field <;> (unfold logField; infer_instance)

instance (fields : List Field) : Moves (logFields config fields) (widthOf fields) := by
  induction fields with
  | nil => exact moves_of_stays (Pure.pure ())
  | cons field rest ih =>
      exact moves_bind (logField config field) _ field.width (widthOf rest)

theorem ends_moves {decoder : Decode Unit} {count : Nat} (moves : Moves decoder count) :
    Ends buffer length decoder (.bytes count) := fun sample _ => moves.moves buffer sample

theorem ends_logged {decoder : Decode Unit} {fields : List Field} {size : Nat}
    (same : decoder = logFields config fields) (width : widthOf fields = size) :
    Ends buffer length decoder (.bytes size) := by
  subst same width
  exact ends_moves inferInstance

/-- A program that returns ends behind these parts. -/
def Covers {α : Type} (buffer : Buffer) (program : Decode α) (parts : List Part) : Prop :=
  ∀ sample : SFSample, (run buffer program sample).Returning fun _ final =>
    final.cursor = parts.foldl (partEnd buffer) sample.cursor

variable {α β : Type}

theorem covers_moves {program : Decode α} {size : Nat} (moves : Moves program size) :
    Covers buffer program [.octets size] := moves.moves buffer

theorem covers_bind {program : Decode α} {next : α → Decode β} {parts rest : List Part}
    (first : Covers buffer program parts) (second : ∀ value, Covers buffer (next value) rest) :
    Covers buffer (program >>= next) (parts ++ rest) := by
  intro sample
  rw [run_seq]
  refine (first sample).bind fun value middle place => ?_
  refine (second value middle).mono fun _ final place' => ?_
  rw [place', place, List.foldl_append]

theorem covers_still (program : Decode α) {next : α → Decode β} {parts : List Part}
    [stays : Stays program] (rest : ∀ value, Covers buffer (next value) parts) :
    Covers buffer (program >>= next) parts := by
  intro sample
  rw [run_seq]
  refine (stays.stays buffer sample).bind fun value middle place => ?_
  exact (rest value middle).mono fun _ final place' => place'.trans (place ▸ rfl)

theorem covers_string (fmt : String) (bufLen : UInt32) :
    Covers buffer (logNextString config fmt bufLen) [.string] := by
  intro sample
  unfold Run.Returning
  split
  · next value returned =>
      have spells : Spells (logNextString config fmt bufLen) [.string] := inferInstance
      cases found : behindParts buffer [.string] sample.cursor with
      | none =>
          obtain ⟨reason, stopped⟩ := spells.stops buffer sample found
          cases returned.symm.trans stopped
      | some place =>
          refine (spells.reaches buffer sample place found).2.trans ?_
          rw [behindParts_single, Part.behind] at found
          split at found
          · exact (Option.some.inj found).symm
          · cases found
  · trivial

theorem ends_covers {decoder : Decode Unit} {parts : List Part}
    (covers : Covers buffer decoder parts) : Ends buffer length decoder (.strings parts) :=
  fun sample _ => covers sample

theorem covers_last {program : Decode α} {parts : List Part} (covers : Covers buffer program parts) :
    Covers buffer (program >>= fun _ => Pure.pure ()) parts := by
  intro sample
  rw [run_seq]
  exact (covers sample).bind fun _ middle place => place

theorem hostHid_covers : Covers buffer (readCountersHostHid config)
    [.string, .octets 16, .octets 4, .octets 4, .string] := by
  have uuid : Moves (skipBytes 16) 16 := moves_skip 16
  unfold readCountersHostHid
  refine covers_bind (covers_string _ _) fun _ => ?_
  refine covers_still _ fun _ => covers_still _ fun _ => covers_still _ fun octets => ?_
  have logged : Stays (logHex config octets) := stays_forM _ _
  refine covers_still _ fun _ => covers_still _ fun _ => ?_
  refine covers_bind (covers_moves uuid) fun _ => ?_
  refine covers_bind (covers_moves inferInstance) fun _ => ?_
  refine covers_bind (covers_moves inferInstance) fun _ => ?_
  exact covers_last (covers_string _ _)

theorem jvm_covers :
    Covers buffer (readCountersJVM config) [.string, .string, .string] := by
  unfold readCountersJVM
  refine covers_bind (covers_string _ _) fun _ => ?_
  refine covers_bind (covers_string _ _) fun _ => ?_
  exact covers_last (covers_string _ _)

theorem app_covers : Covers buffer (readCountersAPP config) [.string, .octets 44] := by
  unfold readCountersAPP
  exact covers_bind (covers_string _ _) fun _ => covers_moves inferInstance

theorem ends_jmx : Ends buffer length (readCountersJMX config length) (.longer 100 100 108) := by
  intro sample _
  unfold readCountersJMX
  rw [run_seq]
  refine (Moves.moves buffer sample).bind fun _ middle place => ?_
  by_cases more : length > 100
  · rw [when_pos more]
    refine (Moves.moves buffer middle).mono fun _ final place' => ?_
    show final.cursor = sample.cursor + if length > 100 then 108 else 100
    rw [if_pos more, place', place]
    rfl
  · rw [when_neg more]
    show middle.cursor = sample.cursor + if length > 100 then 108 else 100
    rw [if_neg more]
    exact place

theorem readAdaptorMACs_moves (i : UInt32) (remaining : Nat) (j : UInt32) :
    Moves (readAdaptorMACs config i remaining j) (8 * remaining) := by
  induction remaining generalizing j with
  | zero => exact moves_of_stays (Pure.pure ())
  | succ remaining ih =>
      have rest := ih (j + 1)
      have skipped : Moves (skipBytes 8) 8 := moves_skip 8
      have whole : 8 * (remaining + 1) = 0 + (0 + (0 + (8 + (0 + 8 * remaining)))) := by omega
      rw [whole]
      unfold readAdaptorMACs
      infer_instance

theorem word_returning (sample : SFSample) :
    (run buffer getData32 sample).Returning fun value final =>
      value = wordFrom buffer sample.cursor ∧ final = State.moved sample 4 := by
  by_cases room : sample.cursor + 4 ≤ buffer.length
  · rw [run_wordFrom room]
    exact ⟨rfl, rfl⟩
  · rw [run_getData32_stops room]
    trivial

theorem readAdaptors_ends (remaining : Nat) (i : UInt32) (sample : SFSample) :
    (run buffer (readAdaptors config remaining i) sample).Returning fun _ final =>
      final.cursor = adaptorsEnd buffer remaining sample.cursor := by
  induction remaining generalizing i sample with
  | zero => rfl
  | succ remaining ih =>
      unfold readAdaptors
      rw [run_seq]
      refine (word_returning sample).bind ?_
      rintro ifindex _ ⟨rfl, rfl⟩
      refine returning_behind buffer _ (yields_sfLog buffer _ _ _) ?_
      rw [run_seq]
      refine (word_returning _).bind ?_
      rintro numMacs _ ⟨rfl, rfl⟩
      refine returning_behind buffer _ (yields_sfLog buffer _ _ _) ?_
      rw [run_seq]
      refine ((readAdaptorMACs_moves i _ 0).moves buffer _).bind fun _ middle place => ?_
      refine returning_behind buffer _ (@yields_note collector buffer _ _) ?_
      refine (ih (i + 1) middle).mono fun _ final place' => ?_
      rw [place', place]
      rfl

theorem ends_adaptors : Ends buffer length (readCountersAdaptors config) .adaptors := by
  intro sample _
  unfold readCountersAdaptors
  rw [run_seq]
  refine (word_returning sample).bind ?_
  rintro numAdaptors _ ⟨rfl, rfl⟩
  exact readAdaptors_ends _ _ _

theorem array_ends (readElement : Nat → Decode Unit) [∀ index, Consumes (readElement index) 80]
    (remaining : Nat) (sample : SFSample) :
    (run buffer (readEntryArray readElement remaining 0) sample).Returning fun _ final =>
      final.cursor = sample.cursor + 80 * remaining := by
  have consumes := consumes_array readElement 80 remaining 0
  exact (consumes_returning (readEntryArray readElement remaining 0) (80 * remaining)).mono
    fun _ _ place => place.2

theorem ends_entry : Ends buffer length (readCountersDdosIpCounter config) .entry := by
  intro sample _
  unfold readCountersDdosIpCounter
  rw [run_seq]
  refine (consumes_returning (readCountersDdosIpCounterHeader config) 48).bind ?_
  rintro _ counted ⟨-, place⟩
  refine count_returning _ _ _ _ fun _ protocols place' _ => ?_
  rw [run_seq]
  refine (array_ends _ _ protocols).bind fun _ last place'' => ?_
  refine count_returning _ _ _ _ fun _ apps atApps _ => ?_
  refine (array_ends _ _ apps).mono fun _ final ended => ?_
  show final.cursor = arrayEnd buffer (arrayEnd buffer (sample.cursor + 48))
  unfold arrayEnd
  rw [ended, atApps, place'', place', place]

theorem ends_consumes {decoder : Decode Unit} {size : Nat} (consumes : Consumes decoder size) :
    Ends buffer length decoder (.bytes size) := fun sample _ =>
  (consumes_returning decoder size).mono fun _ _ place => place.2

theorem ends_flexible : Ends buffer length (readCountersA10_4_1_n_generic config) .flexible := by
  intro state context
  unfold readCountersA10_4_1_n_generic
  refine returning_behind buffer _ (@yields_mark collector buffer .ptr state) ?_
  refine returning_behind buffer _ (@yields_jump collector buffer _ _) ?_
  refine returning_behind buffer _ (@yields_peekText collector buffer _ _ _) ?_
  refine returning_behind buffer _ (@yields_emit collector buffer _ _) ?_
  refine returning_behind buffer _ (@yields_peek collector buffer _ _ _ _) ?_
  iterate 2 refine returning_behind buffer _ (@yields_emit collector buffer _ _) ?_
  refine returning_behind buffer _ (@yields_peek collector buffer _ _ _ _) ?_
  refine returning_behind buffer _ (@yields_emit collector buffer _ _) ?_
  refine returning_behind buffer _ (yields_getWord buffer _ _) ?_
  refine returning_behind buffer _ (yields_setWord buffer _ _ _) ?_
  refine returning_behind buffer _ (@yields_emit collector buffer _ _) ?_
  have here : (State.moved (State.marked state .ptr) customInfoSize).marks .ptr + 0 = state.cursor :=
    @State.marked_marks collector state .ptr
  have known : wordOf (State.moved (State.marked state .ptr) customInfoSize)
    .currentContextLength = length := context
  rw [here, known]
  by_cases short : (buffer.text state.cursor).length ≠ 36
  · -- the early return
    rw [if_pos short]
    exact (if_pos short).symm
  · rw [if_neg short]
    refine returning_behind buffer _ yields_printHeader ?_
    refine returning_behind buffer _ (yields_readFlexKv _ _) ?_
    refine (((moves_skip _).bind (fun _ => moves_of_stays _)).moves buffer _).mono ?_
    intro _ final moved
    exact (moved.trans rfl).trans (if_neg short).symm

end Ends

section Copied
variable {config : SFConfig} {buffer : Buffer} {length : UInt32} {sample : SFSample}

/-- Behind the copy of a record the cursor is where its announced length ends. -/
theorem behindRecord_ends {width : Nat} {fields : List String} (member : DdosMember)
    (whole : parseLengthOf sample % width = 0) :
    (behindRecord buffer width member fields (width * fields.length) sample).cursor =
      sample.cursor + parseLengthOf sample := by
  have words : width * (parseLengthOf sample / width) = parseLengthOf sample := by
    have divided := Nat.div_add_mod (parseLengthOf sample) width
    omega
  have carried : width * (carriedFields width fields sample).length =
      min (parseLengthOf sample) (width * fields.length) := by
    rw [carriedFields, List.length_take, ← Nat.mul_min_mul_left, words]
  rw [behindRecord_cursor, carried]
  omega

variable {α β : Type}

/-- A decoder that returns has taken what was left of the announced length. -/
class TakesRest (program : Decode α) : Prop where
  takes : ∀ (buffer : Buffer) (sample : SFSample), (run buffer program sample).Returning
    fun _ final => final.cursor = sample.cursor + parseLengthOf sample

theorem populateStruct_takes {width : Nat} {next : Decode UInt64} (reads : ReadsWord width next)
    (mismatch invalid : Line) (member : DdosMember) (fields : List String) :
    TakesRest (populateStruct config width next mismatch invalid member fields
      (width * fields.length)) where
  takes buffer sample := by
    by_cases copyable : Copyable buffer width fields sample
    · rw [run_populateStruct reads copyable]
      exact behindRecord_ends member copyable.2.1
    · obtain ⟨reason, final, stopped⟩ := populateStruct_stops config mismatch invalid member
        (width * fields.length) reads copyable
      rw [stopped]
      trivial

/-! Counted once for each way it is handed on, as before. -/
set_option synthInstance.maxSize 1000000000000

instance (member : DdosMember) (fields : List String) :
    TakesRest (populateSflowStructU64 config member fields) :=
  populateStruct_takes reads_getData64 _ _ member fields
instance (member : DdosMember) (fields : List String) :
    TakesRest (populateSflowStructU32 config member fields) :=
  populateStruct_takes reads_getData32 _ _ member fields

instance (program : Decode α) (next : α → Decode β) [first : TakesRest program]
    [rest : ∀ value, Stays (next value)] : TakesRest (program >>= next) where
  takes buffer sample := by
    rw [run_seq]
    refine (first.takes buffer sample).bind fun value middle place => ?_
    exact ((rest value).stays buffer middle).mono fun _ _ stayed => stayed.trans place

instance (next : Line → Decode β) [rest : ∀ tags, TakesRest (next tags)] :
    TakesRest (agentTags >>= next) where
  takes buffer sample :=
    returning_behind buffer next (emits_agentTags).yields ((rest _).takes buffer sample)

instance (member : DdosMember) (labels : List (String × String)) :
    Stays (logCountersU64 config member labels) := by
  unfold logCountersU64
  infer_instance
instance (member : DdosMember) (labels : List (String × String)) :
    Stays (logCountersU32 config member labels) := by
  unfold logCountersU32
  infer_instance
instance (var : DwordVar) (counters : String → UInt64) (fields : List String) :
    Stays (setSum var counters fields) := by
  unfold setSum
  infer_instance
instance (member : DdosMember) (columns columns6 : String) (args : List Arg) :
    Stays (entryTags member columns columns6 args) := by
  unfold entryTags
  infer_instance
instance : Stays agentTags := by
  unfold agentTags
  infer_instance
instance (member : DdosMember) (labels : List (String × String)) :
    TakesRest (readLabelledU64 config member labels) := by
  unfold readLabelledU64
  infer_instance
instance (member : DdosMember) (fields : List String) (labels : List (String × String))
    (rows : List (String × List String)) :
    TakesRest (readExportedU64 config member fields labels rows) := by
  unfold readExportedU64
  infer_instance

instance : TakesRest (readCountersDdosCounter config) := by
  unfold readCountersDdosCounter
  infer_instance
instance : TakesRest (readCountersDdosHttpCounter config) := by
  unfold readCountersDdosHttpCounter
  infer_instance
instance : TakesRest (readCountersDdosDnsCounter config) := by
  unfold readCountersDdosDnsCounter
  infer_instance
instance : TakesRest (readCountersDdosFpgaAnomalyCounter config) := by
  unfold readCountersDdosFpgaAnomalyCounter
  infer_instance
instance : TakesRest (readCountersDdosPollingPackets config) := by
  unfold readCountersDdosPollingPackets
  infer_instance
instance : TakesRest (readCountersDdosSslL4Counter config) := by
  unfold readCountersDdosSslL4Counter
  infer_instance
instance : TakesRest (readCountersDdosL4TcpCounter config) := by
  unfold readCountersDdosL4TcpCounter
  infer_instance
instance : TakesRest (readCountersDdosL4UdpCounter config) := by
  unfold readCountersDdosL4UdpCounter
  infer_instance
instance : TakesRest (readCountersDdosL4OtherCounter config) := by
  unfold readCountersDdosL4OtherCounter
  infer_instance
instance : TakesRest (readCountersDdosL4IcmpCounter config) := by
  unfold readCountersDdosL4IcmpCounter
  infer_instance
instance : TakesRest (readCountersDdosL4SwitchCounter config) := by
  unfold readCountersDdosL4SwitchCounter
  infer_instance
instance : TakesRest (readCountersDdosL4SessionCounter config) := by
  unfold readCountersDdosL4SessionCounter
  infer_instance
instance : TakesRest (readCountersDdosL4SyncCounter config) := by
  unfold readCountersDdosL4SyncCounter
  infer_instance
instance : TakesRest (readCountersDdosL4TunnelCounter config) := by
  unfold readCountersDdosL4TunnelCounter
  infer_instance
instance : TakesRest (readCountersDdosEntryTableCounter config) := by
  unfold readCountersDdosEntryTableCounter
  infer_instance
instance : TakesRest (readCountersDdosLongStatsCounter config) := by
  unfold readCountersDdosLongStatsCounter
  infer_instance
instance : TakesRest (readCountersDdosBriefStatsCounter config) := by
  unfold readCountersDdosBriefStatsCounter
  infer_instance
instance : TakesRest (readCountersDdosHttpT2Counter config) := by
  unfold readCountersDdosHttpT2Counter
  infer_instance
instance : TakesRest (readCountersDdosSslL4T2Counter config) := by
  unfold readCountersDdosSslL4T2Counter
  infer_instance
instance : TakesRest (readCountersDdosDnsCounterT2 config) := by
  unfold readCountersDdosDnsCounterT2
  infer_instance
instance : TakesRest (readCountersDdosIcmpCounterT2 config) := by
  unfold readCountersDdosIcmpCounterT2
  infer_instance
instance : TakesRest (readCountersDdosL4IpCounterT2 config) := by
  unfold readCountersDdosL4IpCounterT2
  infer_instance
instance : TakesRest (readCountersDdosL4ExtIpCounterT2 config) := by
  unfold readCountersDdosL4ExtIpCounterT2
  infer_instance
instance : TakesRest (readCountersDdosUdpT2Counter config) := by
  unfold readCountersDdosUdpT2Counter
  infer_instance
instance : TakesRest (readCountersDdosTcpT2Counter config) := by
  unfold readCountersDdosTcpT2Counter
  infer_instance
instance : TakesRest (readCountersDdosOtherT2Counter config) := by
  unfold readCountersDdosOtherT2Counter
  infer_instance
instance : TakesRest (readCountersDdosPollingL4Protocol config) := by
  unfold readCountersDdosPollingL4Protocol
  infer_instance
instance : TakesRest (readCountersDdosPollingTcpBasic config) := by
  unfold readCountersDdosPollingTcpBasic
  infer_instance

theorem prelude_returning (member : DdosMember) (description : String) (prelude : Prelude) :
    (run buffer (prelude.program config member description) sample).Returning fun _ middle =>
      prelude.Read config buffer member sample middle := by
  unfold Run.Returning
  split
  · next returned =>
      obtain ⟨header, leaves⟩ := prelude_returned description prelude returned
      obtain ⟨final, yields, read⟩ := @prelude_reads config buffer sample member description prelude
        header leaves
      rw [← yields.state] at read
      exact read
  · trivial

/-- A copied record ends where what its length leaves behind its header does. -/
theorem ends_copied {record : CopiedRecord} (tells : record.Tells)
    [takes : TakesRest (record.read config)] :
    Ends buffer length (readCounterElementBody config record.tag length)
      (.copied record.prelude.size) := by
  intro sample context
  rw [tells.dispatched, run_seq]
  refine (prelude_returning _ _ _).bind fun _ middle read => ?_
  refine (takes.takes buffer middle).mono fun _ final place => ?_
  rw [place, parseLengthOf, read.cursor, read.context, context]
  rfl

theorem copied_takes : ∀ record ∈ copiedRecords, TakesRest (record.read config) := by
  unfold copiedRecords globalRecords globalAnnouncements entryRecords entryAnnouncements
  simp only [List.zipWith_cons_cons, List.zipWith_nil_left, List.cons_append, List.nil_append,
    List.forall_mem_cons, List.not_mem_nil, false_imp_iff, implies_true, and_true]
  dsimp only [StructRecord.announcedBy, StructRecord.announced, labelledRecord, exportedRecord,
    briefRecord, pollingL4Record, pollingTcpBasicRecord, narrowRecord, httpT2Record, sslL4T2Record,
    dnsT2Record, icmpT2Record, l4T2Record, l4ExtT2Record]
  and_intros
  all_goals infer_instance

end Copied

section Bodies
variable {config : SFConfig} {buffer : Buffer} {length : UInt32}

/-! Counted once for each way it is handed on, as before. -/
set_option synthInstance.maxSize 1000000000000

theorem ends_described (description : String) {decoder : Decode Unit} {size : RecordSize}
    (ends : Ends buffer length decoder size) :
    Ends buffer length (described description decoder) size := fun sample context =>
  returning_behind buffer _ (yields_description description) (ends _ context)

theorem ends_printed (fmt : String) (args : List Arg) {decoder : Decode Unit} {size : RecordSize}
    (ends : Ends buffer length decoder size) :
    Ends buffer length (printf fmt args >>= fun _ => decoder) size := fun sample context =>
  returning_behind buffer _ (@yields_emit collector buffer _ _) (ends sample context)

instance (member : DdosMember) (field : String) (value : UInt64) :
    Stays (setCounter member field value) := by
  unfold setCounter
  infer_instance

theorem storeField_moves (member : DdosMember) (field : String × Field) :
    Moves (storeField config member field) field.2.width := by
  obtain ⟨name, field⟩ := field
  cases field with
  | next16 title => exact (inferInstance : Moves (sfLogNext16 config title >>= fun value =>
      setCounter member name value.toUInt64) 2)
  | next32 title => exact (inferInstance : Moves (sfLogNext32 config title >>= fun value =>
      setCounter member name value.toUInt64) 4)
  | next64 title => exact (inferInstance : Moves (sfLogNext64 config title >>= fun value =>
      setCounter member name value) 8)
  | percentage title => exact (inferInstance : Moves (logField config (.percentage title)) 4)
  | nextFloat title => exact (inferInstance : Moves (logField config (.nextFloat title)) 4)

instance storeFields_moves (member : DdosMember) (fields : List (String × Field)) :
    Moves (storeFields config member fields) (widthOf (fields.map Prod.snd)) := by
  induction fields with
  | nil => exact moves_of_stays (Pure.pure ())
  | cons field rest ih =>
      exact @moves_bind collector _ _ (storeField config member field)
        (fun _ => storeFields config member rest) _ _ (storeField_moves member field) fun _ => ih

theorem ends_stored {decoder : Decode Unit} {member : DdosMember} {fields : List (String × Field)}
    {size : Nat} (same : decoder = storeFields config member fields)
    (width : widthOf (fields.map Prod.snd) = size) : Ends buffer length decoder (.bytes size) := by
  subst same width
  exact ends_moves (storeFields_moves member fields)

theorem vlan_moves : Moves (readCountersVlan config) 28 := by
  unfold readCountersVlan
  exact Moves.congr inferInstance rfl

theorem lacp_moves : Moves (readCountersLACP config) 56 := by
  unfold readCountersLACP
  exact Moves.congr inferInstance rfl

theorem port_consumes : Consumes (readCountersDdosPortIpCounter config) 128 := by
  unfold readCountersDdosPortIpCounter
  infer_instance

instance (table : NameTable) (names : List String) (index : UInt32) :
    Stays (lookupName table names index) := by
  unfold lookupName
  infer_instance

theorem entryMap_moves : Moves (readCountersDdosPollingEntryMap config) 68 := by
  have named (guard : Prop) [Decidable guard] (index : UInt32) : Stays (if guard then
      lookupName .ddosProto ddosProtoStr index else Pure.pure (Arg.name "None")) := inferInstance
  unfold readCountersDdosPollingEntryMap
  exact Moves.congr inferInstance rfl

theorem tcpStateful_moves : Moves (readCountersDdosPollingTcpStateful config) 160 := by
  unfold readCountersDdosPollingTcpStateful
  exact Moves.congr inferInstance rfl

theorem plain_ends : ∀ row ∈ plainSizes,
    Ends buffer length (readCounterElementBody config row.1 length) row.2 := by
  unfold plainSizes
  simp only [List.forall_mem_cons, List.not_mem_nil, false_imp_iff, implies_true, and_true]
  refine ⟨?_, ?_, ?_, ?_, ?_, ?_, ?_, ?_, ?_, ?_, ?_, ?_, ?_, ?_, ?_, ?_, ?_, ?_, ?_, ?_, ?_, ?_, ?_,
    ?_, ?_, ?_, ?_, ?_, ?_, ?_, ?_, ?_, ?_, ?_, ?_, ?_, ?_, ?_, ?_, ?_, ?_, ?_⟩
  · exact ends_logged rfl rfl
  · exact ends_logged rfl rfl
  · exact ends_logged rfl rfl
  · exact ends_moves vlan_moves
  · exact ends_logged rfl rfl
  · exact ends_moves lacp_moves
  · exact ends_logged rfl rfl
  · exact ends_covers hostHid_covers
  · exact ends_adaptors
  · exact ends_logged rfl rfl
  · exact ends_logged rfl rfl
  · exact ends_logged rfl rfl
  · exact ends_logged rfl rfl
  · exact ends_logged rfl rfl
  · exact ends_logged rfl rfl
  · exact ends_logged rfl rfl
  · exact ends_logged rfl rfl
  · exact ends_logged rfl rfl
  · exact ends_logged rfl rfl
  · exact ends_logged rfl rfl
  · exact ends_logged rfl rfl
  · exact ends_logged rfl rfl
  · exact ends_logged rfl rfl
  · exact ends_covers jvm_covers
  · exact ends_jmx
  · exact ends_covers app_covers
  · exact ends_logged rfl rfl
  · exact ends_logged rfl rfl
  · exact ends_logged rfl rfl
  · exact ends_stored rfl (by decide +kernel)
  · exact ends_stored rfl (by decide +kernel)
  · exact ends_stored rfl (by decide +kernel)
  · exact ends_stored rfl (by decide +kernel)
  · exact ends_stored rfl (by decide +kernel)
  · exact ends_printed _ _ ends_flexible
  · exact ends_flexible
  · exact ends_printed _ _ ends_flexible
  · exact ends_described _ ends_entry
  · exact ends_described _ (ends_consumes port_consumes)
  · exact ends_described _ (ends_moves entryMap_moves)
  · exact ends_described _ (ends_moves tcpStateful_moves)
  · exact ends_described _ (ends_stored rfl rfl)

/-- Where an element ends for its decoder; of a record that has none the announced bytes are
skipped. -/
def Element.end (buffer : Buffer) (element : Element) : Nat :=
  match recordSizes.lookup element.tag with
  | some size => size.ends buffer element.length element.body
  | none => element.body + quadBytes element.length

/-- The tags that the decoders are found by. -/
def decodedTags : List UInt32 :=
  [2, 3, 4, 5, 6, 7, 1002, 2000, 2001, 2002, 2003, 2004, 2005, 2006, 2100, 2101, 2102, 2103, 2104,
   tagCountersHostGpuNvml, 2200, 2204, 2201, 2105, 2106, 2202, 2203, 2206, 2205] ++
  [80, 81, 82, 83, 84].map enterpriseA10 ++ [tagCountersGeneric, 1001, tagCountersGenericA10] ++
  [1, 2, 3, 4, 9, 5, 6, 7, 16, 8, 60, 64, 65, 66, 67, 68, 10, 11, 12, 13, 14, 15, 21, 22, 23, 24,
    25, 26, 27, 28, 29, 30, 31].map enterpriseA10

theorem counterDecoders_tags : (counterDecoders config length).map Prod.fst = decodedTags := rfl

theorem decodedTags_sized : (decodedTags.all (recordSizes.map Prod.fst).contains) = true := by
  decide +kernel

theorem undecoded_lookup {tag : UInt32} (unsized : recordSizes.lookup tag = none) :
    (counterDecoders config length).lookup tag = none := by
  refine List.lookup_eq_none_iff.mpr fun entry member => ?_
  have decoded : entry.1 ∈ decodedTags := by
    rw [← @counterDecoders_tags config length]
    exact List.mem_map_of_mem member
  have sized := List.contains_iff_mem.mp (List.all_eq_true.mp decodedTags_sized _ decoded)
  obtain ⟨row, known, same⟩ := List.mem_map.mp sized
  rw [← same]
  exact List.lookup_eq_none_iff.mp unsized row known

theorem body_ends (tag length : UInt32) (sample : SFSample)
    (context : wordOf sample .currentContextLength = length) :
    (run buffer (readCounterElementBody config tag length) sample).Returning fun _ final =>
      final.cursor = Element.end buffer ⟨tag, length, sample.cursor⟩ := by
  unfold Element.end
  cases found : recordSizes.lookup tag with
  | some size =>
      rcases List.mem_append.mp (lookup_mem found) with plain | copied
      · exact plain_ends (tag, size) plain sample context
      · obtain ⟨record, known, same⟩ := List.mem_map.mp copied
        cases same
        have takes := @copied_takes config record known
        exact ends_copied (copiedRecords_tell record known) sample context
  | none =>
      unfold readCounterElementBody
      rw [undecoded_lookup found]
      unfold skipTLVRecord
      refine returning_behind buffer _ (yields_sfLog buffer _ _ _) ?_
      exact ((moves_skip length).bind fun _ => moves_of_stays _).moves buffer sample

end Bodies

section Elements

/-- The notes that frame a counters sample's elements. -/
def Note.ofCounterFraming : Note → Bool
  | .counterElement _ _ | .counterElementEnd => true
  | _ => false

def counterNotes (notes : List (Note × Nat)) : List (Note × Nat) :=
  notes.filter fun met => met.1.ofCounterFraming

theorem counterNotes_append (first second : List (Note × Nat)) :
    counterNotes (first ++ second) = counterNotes first ++ counterNotes second :=
  List.filter_append ..

/-- How the decode of a counters sample records an element that ends somewhere. -/
def Element.notesTo (element : Element) (ended : Nat) : List (Note × Nat) :=
  [(.counterElement element.tag element.length, element.body), (.counterElementEnd, ended)]

/-- What is recorded of so many elements, each where the one before it ended for its decoder. -/
def decodedNotes (buffer : Buffer) : Nat → Nat → List (Note × Nat)
  | 0, _ => []
  | remaining + 1, start =>
      let element := elementAt buffer start
      element.notesTo (element.end buffer) ++ decodedNotes buffer remaining (element.end buffer)

/-- The elements are those of the reference splitter just where each of these ends for its decoder
where its declared length says. -/
theorem decodedNotes_iff (buffer : Buffer) (remaining start : Nat) :
    decodedNotes buffer remaining start =
        (splitElements buffer remaining start).flatMap (fun element => element.notesTo element.next) ↔
      ∀ element ∈ splitElements buffer remaining start, element.end buffer = element.next := by
  induction remaining generalizing start with
  | zero => exact ⟨fun _ => nofun, fun _ => rfl⟩
  | succ remaining ih =>
      simp only [splitElements, List.forall_mem_cons, decodedNotes, List.flatMap_cons]
      rw [← ih]
      constructor
      · intro same
        obtain ⟨first, rest⟩ := List.append_inj same rfl
        have ended : (elementAt buffer start).end buffer = (elementAt buffer start).next := by
          unfold Element.notesTo at first
          simpa using first
        rw [ended] at rest
        exact ⟨ended, rest⟩
      · rintro ⟨ended, rest⟩
        rw [ended, rest]

variable {config : SFConfig} {buffer : Buffer}

theorem decent_counterless {α : Type} (program : Decode α) [uses : Uses (DecentOp config) program]
    (sample : SFSample) : counterNotes (run buffer program sample).notes = [] := by
  have unframed := (uses.always (@decent_unframed config)).all buffer sample
  refine List.filter_eq_nil_iff.mpr fun met member => ?_
  have plain : met.1.framing = false := unframed met.1 (List.mem_map_of_mem member)
  have other : met.1.ofCounterFraming = false := by
    cases noted : met.1 <;> first | rfl | (rw [noted] at plain; cases plain)
  rw [other]
  exact Bool.false_ne_true

theorem decent_finishing (config : SFConfig) {α : Type} {program : Decode α} [uses : Uses (DecentOp config) program]
    {sample : SFSample} {holds : α → SFSample → Prop}
    (returning : (run buffer program sample).Returning holds) :
    (run buffer program sample).Finishing fun value final notes =>
      holds value final ∧ counterNotes notes = [] := by
  have none := @decent_counterless config buffer _ program uses sample
  unfold Run.Returning at returning
  unfold Run.Finishing
  split
  · next value done =>
      rw [done] at returning
      exact ⟨returning, none⟩
  · trivial

theorem finishing_behind {α β : Type} {program : Decode α} {next : α → Decode β} {value : α}
    {sample middle : SFSample} {holds : β → SFSample → List (Note × Nat) → Prop}
    (yields : (run buffer program sample).Yields value middle)
    (unnoted : (run buffer program sample).notes = [])
    (rest : (run buffer (next value) middle).Finishing holds) :
    (run buffer (program >>= next) sample).Finishing holds := by
  refine finishing_bind buffer program next sample holds ?_
  obtain ⟨outcome, state⟩ := yields
  unfold Run.Finishing
  rw [outcome, unnoted, state]
  exact rest

theorem readCounterElement_finishing (sample : SFSample) :
    (run buffer (readCounterElement config) sample).Finishing fun _ final notes =>
      final.cursor = (elementAt buffer sample.cursor).end buffer ∧
        counterNotes notes = (elementAt buffer sample.cursor).notesTo final.cursor := by
  have printed (tag : UInt32) (sample : SFSample) :
      (run buffer (printEnterprise tag) sample).Yields () sample := ⟨rfl, rfl⟩
  unfold readCounterElement
  refine finishing_bind buffer _ _ _ _ ((getData32_finishing buffer sample).mono ?_)
  rintro tag _ _ ⟨rfl, rfl, -, rfl⟩
  refine finishing_bind buffer _ _ _ _ ((sfLog_finishing buffer _ _ _).mono ?_)
  rintro _ _ _ ⟨rfl, rfl⟩
  refine finishing_bind buffer _ _ _ _ ((getData32_finishing buffer _).mono ?_)
  rintro length _ _ ⟨rfl, rfl, -, rfl⟩
  refine finishing_behind (yields_setWord buffer .currentContextLength _ _) rfl ?_
  refine finishing_bind buffer _ _ _ _ ((mark_finishing buffer .start _).mono ?_)
  rintro _ _ _ ⟨rfl, rfl⟩
  refine finishing_bind buffer _ _ _ _ ((note_finishing buffer (.counterElement _ _) _).mono ?_)
  rintro _ entered _ ⟨rfl, rfl⟩
  refine finishing_behind (printed _ _) rfl (finishing_behind (printed _ _) rfl ?_)
  refine finishing_behind (@yields_emit collector buffer _ _) rfl ?_
  refine finishing_bind buffer _ _ _ _ ((decent_finishing config (body_ends _ _ _ ?_)).mono ?_)
  · exact wordOf_holding_self (((sample.moved 4).moved 4)) .currentContextLength _
  rintro _ behind _ ⟨place, unframed⟩
  refine (note_finishing buffer .counterElementEnd _).mono ?_
  rintro _ behind _ ⟨rfl, rfl⟩
  refine ⟨place, ?_⟩
  simp only [counterNotes_append, unframed]
  rfl

theorem readCounterElements_finishing (remaining : Nat) (sample : SFSample) :
    (run buffer (readCounterElements config remaining) sample).Finishing fun _ _ notes =>
      counterNotes notes = decodedNotes buffer remaining sample.cursor := by
  induction remaining generalizing sample with
  | zero => rfl
  | succ remaining ih =>
      unfold readCounterElements
      refine finishing_bind buffer _ _ _ _ ((readCounterElement_finishing sample).mono ?_)
      rintro _ middle before ⟨ended, framed⟩
      refine finishing_bind buffer _ _ _ _ ((note_finishing buffer .iteration middle).mono ?_)
      rintro _ middle _ ⟨rfl, rfl⟩
      refine (ih middle).mono ?_
      intro _ _ after rest
      rw [counterNotes_append, counterNotes_append, framed, rest, ended]
      rfl

/-- Where the elements of a counters sample start: behind its length, its sequence number, its
source and the number of its elements. -/
def counterElementsStart (expanded : Bool) (start : Nat) : Nat :=
  start + 8 + (if expanded then 8 else 4) + 4

/-- The elements of the sample, by the reference splitter. -/
def counterElements (buffer : Buffer) (expanded : Bool) (start : Nat) : List Element :=
  splitElements buffer (wordFrom buffer (start + 8 + (if expanded then 8 else 4))).toNat
    (counterElementsStart expanded start)

theorem readCountersSample_finishing (expanded : Bool) (sample : SFSample) :
    (run buffer (readCountersSample config expanded) sample).Finishing fun _ _ notes =>
      counterNotes notes = decodedNotes buffer
        (wordFrom buffer (sample.cursor + 8 + (if expanded then 8 else 4))).toNat
        (counterElementsStart expanded sample.cursor) := by
  unfold readCountersSample
  refine finishing_bind buffer _ _ _ _ ((sfLog_finishing buffer _ _ sample).mono ?_)
  rintro _ sample _ ⟨rfl, rfl⟩
  refine finishing_bind buffer _ _ _ _ ((getData32_finishing buffer _).mono ?_)
  rintro sampleLength _ _ ⟨rfl, rfl, -, rfl⟩
  refine finishing_bind buffer _ _ _ _ ((mark_finishing buffer .sampleStart _).mono ?_)
  rintro _ opened _ ⟨rfl, rfl⟩
  refine finishing_bind buffer _ _ _ _ ((getData32_finishing buffer _).mono ?_)
  rintro samplesGenerated _ _ ⟨rfl, rfl, -, rfl⟩
  refine finishing_behind (yields_setWord buffer .samplesGenerated _ _) rfl ?_
  refine finishing_bind buffer _ _ _ _ ((sfLog_finishing buffer _ _ _).mono ?_)
  rintro _ _ _ ⟨rfl, rfl⟩
  refine finishing_bind buffer _ _ _ _
    ((decent_finishing config ((readSourceId_moves expanded).moves buffer _)).mono ?_)
  rintro _ fields _ ⟨moved, unframed⟩
  refine finishing_bind buffer _ _ _ _
    ((decent_finishing config ((inferInstance : Stays (logSourceId config _ _)).stays buffer _)).mono ?_)
  rintro _ logged _ ⟨stayed, unframed'⟩
  refine finishing_bind buffer _ _ _ _ ((getData32_finishing buffer _).mono ?_)
  rintro numElements _ _ ⟨rfl, rfl, -, rfl⟩
  refine finishing_bind buffer _ _ _ _ ((readCounterElements_finishing _ _).mono ?_)
  intro _ elements _ framed
  refine finishing_bind buffer _ _ _ _ ((lengthCheck_finishing buffer _ _ _ _).mono ?_)
  rintro _ _ _ ⟨rfl, rfl, -⟩
  refine finishing_bind buffer _ _ _ _ ((note_finishing buffer .countersSampleEnd _).mono ?_)
  rintro _ elements _ ⟨rfl, rfl⟩
  have closing := @decent_counterless config buffer _
    (Decoder.when (config.outputFormat = .line) writeCountersLine) inferInstance elements
  have counted : logged.cursor = sample.cursor + 8 + (if expanded then 8 else 4) := by
    rw [stayed, moved]
    rfl
  have first : (logged.moved 4).cursor = counterElementsStart expanded sample.cursor := by
    rw [State.moved_cursor, counted]
    rfl
  rw [first, counted] at framed
  unfold Run.Finishing
  split
  · simp only [counterNotes_append, unframed, unframed', framed, closing]
    exact List.append_nil _
  · trivial

/-- A counters sample is decoded by its elements: each is read where the sender put it, under its
own tag and length, and left where its declared length says. -/
def DecodedBySplit (config : SFConfig) (buffer : Buffer) (expanded : Bool) (sample : SFSample) : Prop :=
  counterNotes (run buffer (readCountersSample config expanded) sample).notes =
    (counterElements buffer expanded sample.cursor).flatMap fun element => element.notesTo element.next

/-- Of an accepted sample the elements are those of the reference splitter just when each of them
declares, in whole quads, what its decoder takes. -/
theorem counters_framed_iff (config : SFConfig) (buffer : Buffer) (expanded : Bool) (sample : SFSample)
    (accepted : (run buffer (readCountersSample config expanded) sample).outcome = .ok ()) :
    DecodedBySplit config buffer expanded sample ↔
      ∀ element ∈ counterElements buffer expanded sample.cursor, element.end buffer = element.next := by
  have decoded := @readCountersSample_finishing config buffer expanded sample
  unfold Run.Finishing at decoded
  rw [accepted] at decoded
  unfold DecodedBySplit counterElements
  rw [decoded]
  exact decodedNotes_iff buffer _ _

/-- Two host parents, of which the first declares this length. -/
def hostParents (declared : UInt32) : Buffer :=
  datagramOf [44, 1, 1, 2, 2002, declared, 7777, 16, 2002, 8, 1, 2]

theorem whole_parents_framed :
    DecodedBySplit (defaultConfig .full) (hostParents 8) false firstSample := by
  refine (counters_framed_iff (defaultConfig .full) (hostParents 8) false firstSample
    (by decide +kernel)).mpr ?_
  decide +kernel

/-- Where the first parent declares no bytes the sender has put an element of another tag behind
it, which is read as the parent; what that element contains is decoded as the second one. -/
theorem bare_parent_misframes :
    ¬∀ (config : SFConfig) (buffer : Buffer) (expanded : Bool) (sample : SFSample),
      (run buffer (readCountersSample config expanded) sample).outcome = .ok () →
      DecodedBySplit config buffer expanded sample := by
  intro framed
  have decoded := framed (defaultConfig .full) (hostParents 0) false firstSample (by decide +kernel)
  have misframed : counterNotes (run (hostParents 0) (readCountersSample (defaultConfig .full) false)
      firstSample).notes ≠ (counterElements (hostParents 0) false firstSample.cursor).flatMap
        fun element => element.notesTo element.next := by decide +kernel
  exact misframed decoded

end Elements

end SflowTool
