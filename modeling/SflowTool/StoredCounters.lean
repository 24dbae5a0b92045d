import SflowTool.KeyedStore
import SflowTool.Printing
import SflowTool.Following
import SflowTool.ExportSpecs
import SflowTool.HeaderSpecs
import SflowTool.RejectedCounters
import SflowTool.Wire

/-! The flexible counter records in the two databases. The counters of a record go under a
key made of its object and the second it is decoded in, so that of several records of one
object in one second the last one stays. -/
namespace SflowTool
open Decoding Decoding.Decoder KeyedStore Printing

section Keys

/-- What is written for the conversions of the database keys. -/
def formatted : List Char → List Arg → Text
  | '%' :: 'd' :: rest, .word value :: args => signedDecimal value ++ formatted rest args
  | '%' :: 's' :: rest, .text value :: args => value ++ formatted rest args
  | '%' :: 'l' :: 'u' :: rest, .dword value :: args =>
      decimal value.toNat ++ formatted rest args
  | char :: rest, args => UInt8.ofNat char.toNat :: formatted rest args
  | [], _ => []

def Line.text (line : Line) : Text := formatted line.fmt.toList line.args

/-- The key of a record in `raw_db` and that of its object in `obj_db`. -/
def recordKey (oid : UInt32) (uuid : Text) (time : UInt64) : Text :=
  (Line.mk ".time.%d.%s.%lu" [.word oid, .text uuid, .dword time]).text

def objectKey (oid : UInt32) (uuid : Text) : Text :=
  (Line.mk ".obj.%d.%s" [.word oid, .text uuid]).text

theorem recordKey_text (oid : UInt32) (uuid : Text) (time : UInt64) : recordKey oid uuid time =
    octets ".time.".toList ++ (signedDecimal oid ++ 46 :: (uuid ++ 46 :: decimal time.toNat)) := by
  simp [recordKey, Line.text, formatted, octets]

theorem objectKey_text (oid : UInt32) (uuid : Text) : objectKey oid uuid =
    octets ".obj.".toList ++ (signedDecimal oid ++ 46 :: uuid) := by
  simp [objectKey, Line.text, formatted, octets]

/-- A UUID has the one length a record is accepted with. -/
def uuidLength : Nat := 36

theorem recordKey_inj {oid other : UInt32} {uuid another : Text} {time later : UInt64}
    (length : uuid.length = uuidLength) (same : another.length = uuidLength) :
    recordKey oid uuid time = recordKey other another later ↔
      oid = other ∧ uuid = another ∧ time = later := by
  constructor
  · intro equal
    rw [recordKey_text, recordKey_text] at equal
    obtain ⟨oids, rest⟩ := separated_inj (signedDecimal_undotted _) (signedDecimal_undotted _)
      (List.append_cancel_left equal)
    obtain ⟨uuids, times⟩ := List.append_inj rest (length.trans same.symm)
    exact ⟨signedDecimal_inj oids, uuids,
      UInt64.toNat_inj.mp (decimal_inj (List.cons.inj times).2)⟩
  · rintro ⟨rfl, rfl, rfl⟩
    rfl

theorem objectKey_inj {oid other : UInt32} {uuid another : Text}
    (equal : objectKey oid uuid = objectKey other another) : oid = other ∧ uuid = another := by
  rw [objectKey_text, objectKey_text] at equal
  obtain ⟨oids, uuids⟩ := separated_inj (signedDecimal_undotted _) (signedDecimal_undotted _)
    (List.append_cancel_left equal)
  exact ⟨signedDecimal_inj oids, uuids⟩

end Keys

section Puts

/-- What stands under a key: the counters an object text is made of, or an object's name. -/
inductive Stored where
  | counters (pairs : List (UInt32 × UInt64))
  | object (oid : UInt32) (uuid : Text)
deriving DecidableEq

/-- The two databases as one map. -/
abbrev Databases := Store (Database × Text) Stored

def Event.put : Event → Option ((Database × Text) × Stored)
  | .leveldbWrite key value database => some ((database, key.text), .counters value)
  | .leveldbWriteObject key oid uuid database => some ((database, key.text), .object oid uuid)
  | _ => none

def putsOf (events : List Event) : List ((Database × Text) × Stored) := events.filterMap Event.put

theorem putsOf_append (first second : List Event) :
    putsOf (first ++ second) = putsOf first ++ putsOf second :=
  List.filterMap_append ..

end Puts

section Records

variable {buffer : Buffer} {sample : SFSample}

/-- The pairs behind a header, from number `index` on. -/
def flexPairs (buffer : Buffer) (start : Nat) : Nat → Nat → List (UInt32 × UInt64)
  | 0, _ => []
  | remaining + 1, index =>
      let kv := buffer.slice (start + (customInfoSize + flexKvSize * index)) flexKvSize
      (wordAt kv 0, ntohll (kv.drop 4)) :: flexPairs buffer start remaining (index + 1)

variable {α : Type}

theorem yields_readFlexKv (remaining index : Nat) :
    (run buffer (readFlexKv remaining index) sample).Yields
      (flexPairs buffer (sample.marks .ptr) remaining index) sample := by
  induction remaining generalizing index with
  | zero => exact yields_pure buffer _ sample
  | succ remaining ih =>
      refine yields_bind buffer _ _ (@yields_peek collector buffer _ _ _ sample) ?_
      refine yields_bind buffer _ _ (@yields_emit collector buffer _ sample) ?_
      refine yields_bind buffer _ _ (ih (index + 1)) ?_
      exact yields_pure buffer _ sample

theorem yields_printHeader : (run buffer printHeader sample).Yields () sample := by
  refine yields_bind buffer _ _ (yields_getWord buffer .gotHeader sample) ?_
  by_cases unseen : wordOf sample .gotHeader = 0
  · refine yields_pos buffer unseen ?_
    exact @yields_emit collector buffer _ sample
  · refine yields_neg buffer unseen ?_
    refine yields_bind buffer (@Decoder.peekText collector .header 0) _ ⟨rfl, rfl⟩ ?_
    exact @yields_emit collector buffer _ sample

/-- Where the run returns, it has put these entries. -/
def Puts (buffer : Buffer) (program : Decode α) (sample : SFSample)
    (puts : List ((Database × Text) × Stored)) : Prop :=
  (run buffer program sample).Concluding fun _ _ events => putsOf events = puts

theorem unexported_put {event : Event} (unexported : ¬event.exported = true) :
    event.put = none := by
  cases event with
  | leveldbWrite key value database => exact absurd rfl unexported
  | leveldbWriteObject key oid uuid database => exact absurd rfl unexported
  | _ => rfl

theorem unexported_putless (buffer : Buffer) (program : Decode α)
    (silent : Uses UnexportedOp program) (sample : SFSample) :
    putsOf (eventsOf (run buffer program sample)) = [] := by
  refine List.filterMap_eq_nil_iff.mpr fun event member => ?_
  obtain ⟨sent, emitted, rfl⟩ := List.mem_map.mp member
  exact unexported_put fun exported =>
    unshown_silent buffer program silent sample ⟨sent, emitted, exported⟩

/-- A program that exports nothing leaves the puts to what follows it. -/
theorem puts_after {program : Decode α} {β : Type} {next : α → Decode β}
    {puts : List ((Database × Text) × Stored)} [silent : Uses UnexportedOp program]
    (later : ∀ value, (run buffer program sample).outcome = .ok value →
      Puts buffer (next value) (run buffer program sample).state puts) :
    Puts buffer (program >>= next) sample puts := by
  have putless := unexported_putless buffer program silent sample
  unfold Puts at later ⊢
  rw [run_seq]
  generalize run buffer program sample = first at later putless ⊢
  obtain ⟨outcome, middle, trace, notes⟩ := first
  cases outcome with
  | error reason => trivial
  | ok value =>
      have concluding := later value rfl
      show ((run buffer (next value) middle).after _).Concluding _
      generalize run buffer (next value) middle = second at concluding ⊢
      obtain ⟨outcome, final, more, further⟩ := second
      cases outcome with
      | error reason => trivial
      | ok result =>
          show putsOf ((trace ++ more).map Stamped.event) = puts
          rw [List.map_append, putsOf_append]
          exact (congrArg (· ++ _) putless).trans concluding

theorem puts_behind {program : Decode α} {β : Type} {next : α → Decode β} {value : α}
    {middle : SFSample} {puts : List ((Database × Text) × Stored)}
    [silent : Uses UnexportedOp program]
    (yielded : (run buffer program sample).Yields value middle)
    (later : Puts buffer (next value) middle puts) : Puts buffer (program >>= next) sample puts := by
  refine puts_after fun result returned => ?_
  rw [yielded.outcome] at returned
  cases returned
  rw [yielded.state]
  exact later

variable {config : SFConfig}

/-- What a record at the cursor puts into the databases. -/
def genericPuts (config : SFConfig) (buffer : Buffer) (sample : SFSample) :
    List ((Database × Text) × Stored) :=
  let oid := wordAt (buffer.slice (sample.cursor + 37) 4) 0
  let uuid := buffer.text sample.cursor
  let count := (wordOf sample .currentContextLength - 45) / 12
  [((.rawDb, recordKey oid uuid config.time),
      .counters (flexPairs buffer sample.cursor count.toNat 0)),
    ((.objDb, objectKey oid uuid), .object oid uuid)]

theorem genericRecord_puts (opens : config.leveldbError = none)
    (accepted : (buffer.text sample.cursor).length = uuidLength) :
    Puts buffer (readCountersA10_4_1_n_generic config) sample
      (genericPuts config buffer sample) := by
  unfold readCountersA10_4_1_n_generic
  refine puts_behind (@yields_mark collector buffer .ptr sample) ?_
  refine puts_behind (@yields_jump collector buffer _ _) ?_
  refine puts_behind (@yields_peekText collector buffer _ _ _) ?_
  refine puts_behind (@yields_emit collector buffer _ _) ?_
  refine puts_behind (@yields_peek collector buffer _ _ _ _) ?_
  iterate 2 refine puts_behind (@yields_emit collector buffer _ _) ?_
  refine puts_behind (@yields_peek collector buffer _ _ _ _) ?_
  refine puts_behind (@yields_emit collector buffer _ _) ?_
  refine puts_behind (yields_getWord buffer _ _) ?_
  refine puts_behind (yields_setWord buffer _ _ _) ?_
  refine puts_behind (@yields_emit collector buffer _ _) ?_
  have long : ¬(buffer.text sample.cursor).length ≠ 36 := not_not_intro accepted
  refine (if_neg long).symm ▸ ?_
  refine puts_behind yields_printHeader ?_
  refine puts_behind (yields_readFlexKv _ _) ?_
  refine puts_after fun skipped _ => ?_
  generalize (run buffer (skipBytes _) _).state = last
  simp only [leveldbSimpleWriteData, writeObjectId, leveldbSimpleReadData, opens]
  rfl

end Records

section Runs

/-- A record that is accepted: the databases open, its text is as long as a UUID, and it is
decoded to its end. Each record is decoded at its own time. -/
structure GenericRecord where
  config : SFConfig
  buffer : Buffer
  sample : SFSample
  opens : config.leveldbError = none
  known : (buffer.text sample.cursor).length = uuidLength
  returned : (run buffer (readCountersA10_4_1_n_generic config) sample).outcome = .ok ()

namespace GenericRecord

def decoded (record : GenericRecord) : Run collector Unit :=
  run record.buffer (readCountersA10_4_1_n_generic record.config) record.sample

def time (record : GenericRecord) : UInt64 := record.config.time

def oid (record : GenericRecord) : UInt32 :=
  wordAt (record.buffer.slice (record.sample.cursor + 37) 4) 0

def uuid (record : GenericRecord) : Text := record.buffer.text record.sample.cursor

def counters (record : GenericRecord) : List (UInt32 × UInt64) :=
  flexPairs record.buffer record.sample.cursor
    ((wordOf record.sample .currentContextLength - 45) / 12).toNat 0

def key (record : GenericRecord) : Text := recordKey record.oid record.uuid record.time

/-- Two records of one object in one second. -/
def SameSecond (first second : GenericRecord) : Prop :=
  first.oid = second.oid ∧ first.uuid = second.uuid ∧ first.time = second.time

theorem key_iff (first second : GenericRecord) :
    first.key = second.key ↔ first.SameSecond second :=
  recordKey_inj first.known second.known

def puts (record : GenericRecord) : List ((Database × Text) × Stored) :=
  [((.rawDb, record.key), .counters record.counters),
    ((.objDb, objectKey record.oid record.uuid), .object record.oid record.uuid)]

theorem decoded_puts (record : GenericRecord) :
    putsOf (eventsOf record.decoded) = record.puts :=
  (genericRecord_puts record.opens record.known).of_ok record.returned

end GenericRecord

/-- The databases after a run over records, taken as maps whose operations succeed. -/
def databasesAfter : List GenericRecord → Databases → Databases
  | [], start => start
  | record :: rest, start => databasesAfter rest (putAll start (putsOf (eventsOf record.decoded)))

theorem databasesAfter_puts (records : List GenericRecord) (start : Databases) :
    databasesAfter records start = putAll start (records.flatMap GenericRecord.puts) := by
  induction records generalizing start with
  | nil => rfl
  | cons record rest ih =>
      rw [databasesAfter, ih, record.decoded_puts, List.flatMap_cons, putAll_append]

/-- Every object with a record in `raw_db` has its entry in `obj_db`. -/
def Paired (databases : Databases) : Prop :=
  ∀ oid uuid time, uuid.length = uuidLength →
    databases (.rawDb, recordKey oid uuid time) ≠ none →
      databases (.objDb, objectKey oid uuid) = some (.object oid uuid)

theorem mem_puts {records : List GenericRecord} {entry : (Database × Text) × Stored}
    (member : entry ∈ records.flatMap GenericRecord.puts) : ∃ record ∈ records,
      entry = ((.rawDb, record.key), .counters record.counters) ∨
        entry = ((.objDb, objectKey record.oid record.uuid), .object record.oid record.uuid) := by
  obtain ⟨record, among, put⟩ := List.mem_flatMap.mp member
  exact ⟨record, among, List.mem_pair.mp put⟩

theorem databases_apart {key other : Text} : (Database.rawDb, key) ≠ (Database.objDb, other) :=
  fun same => Database.noConfusion (congrArg Prod.fst same)

theorem databasesAfter_paired (records : List GenericRecord) (start : Databases)
    (paired : Paired start) : Paired (databasesAfter records start) := by
  intro oid uuid time length found
  rw [databasesAfter_puts] at found ⊢
  refine putAll_agreed _ _ _ _ ?_ ?_
  · intro entry member same
    obtain ⟨record, -, rfl | rfl⟩ := mem_puts member
    · exact absurd same databases_apart
    · obtain ⟨oids, uuids⟩ := objectKey_inj (congrArg Prod.snd same)
      exact congrArg₂ Stored.object oids uuids
  · rcases putAll_found _ _ _ found with before | ⟨entry, member, same⟩
    · exact .inl (paired oid uuid time length before)
    · obtain ⟨record, among, rfl | rfl⟩ := mem_puts member
      · obtain ⟨oids, uuids, -⟩ := (recordKey_inj record.known length).mp (congrArg Prod.snd same)
        refine .inr ⟨_, List.mem_flatMap.mpr ⟨record, among, List.mem_pair.mpr (.inr rfl)⟩, ?_⟩
        exact congrArg (Prod.mk Database.objDb) (congrArg₂ objectKey oids uuids)
      · exact absurd same.symm databases_apart

/-- The counters of a record stay unless a later record has the same object and second. -/
theorem databasesAfter_kept (before after : List GenericRecord) (record : GenericRecord)
    (start : Databases) (last : ∀ later ∈ after, ¬record.SameSecond later) :
    databasesAfter (before ++ record :: after) start (.rawDb, record.key) =
      some (.counters record.counters) := by
  rw [databasesAfter_puts, List.flatMap_append, List.flatMap_cons]
  refine putAll_last start _ _ _ _ ?_
  intro entry member same
  rcases List.mem_cons.mp member with rfl | member
  · exact absurd same.symm databases_apart
  · obtain ⟨later, among, rfl | rfl⟩ := mem_puts member
    · exact last later among ((record.key_iff later).mp (congrArg Prod.snd same).symm)
    · exact absurd same.symm databases_apart

/-- Two records share a key exactly when they are of one object in one second; a record that
no later one shares its key with is stored, and every object with a record has its entry. -/
theorem generic_records_kept (start : Databases) (paired : Paired start)
    (records : List GenericRecord) :
    (∀ first ∈ records, ∀ second ∈ records, first.key = second.key ↔ first.SameSecond second) ∧
      (∀ before record after, records = before ++ record :: after →
        (∀ later ∈ after, ¬record.SameSecond later) →
          databasesAfter records start (.rawDb, record.key) = some (.counters record.counters)) ∧
      Paired (databasesAfter records start) := by
  refine ⟨fun first _ second _ => first.key_iff second, ?_, databasesAfter_paired records start paired⟩
  rintro before record after rfl last
  exact databasesAfter_kept before after record start last

/-- A record with one counter, the first datum of what is received. -/
def polledBuffer (value : UInt64) : Buffer :=
  .ofBytes (List.replicate 36 0x61 ++ [0] ++ be32 7 ++ be32 0 ++ be32 1 ++ be64 value)

def polledSample : SFSample := holding firstSample .currentContextLength 57

def firstPolled : GenericRecord where
  config := defaultConfig .full
  buffer := polledBuffer 5
  sample := polledSample
  opens := rfl
  known := by decide +kernel
  returned := (received_returned _).mp (by decide +kernel)

def secondPolled : GenericRecord where
  config := defaultConfig .full
  buffer := polledBuffer 6
  sample := polledSample
  opens := rfl
  known := by decide +kernel
  returned := (received_returned _).mp (by decide +kernel)

theorem polled_records_kept :
    (∀ first ∈ [firstPolled, secondPolled], ∀ second ∈ [firstPolled, secondPolled],
      first.key = second.key ↔ first.SameSecond second) ∧
      (∀ before record after, [firstPolled, secondPolled] = before ++ record :: after →
        (∀ later ∈ after, ¬record.SameSecond later) →
          databasesAfter [firstPolled, secondPolled] (fun _ => none) (.rawDb, record.key) =
            some (.counters record.counters)) ∧
      Paired (databasesAfter [firstPolled, secondPolled] fun _ => none) :=
  generic_records_kept (fun _ => none) (fun _ _ _ _ found => absurd rfl found)
    [firstPolled, secondPolled]

/-- Two polls of one object in one second: the counters of the first are gone. -/
theorem same_second_overwritten : firstPolled.time ≤ secondPolled.time ∧
    firstPolled.counters = [(1, 5)] ∧ secondPolled.counters = [(1, 6)] ∧
    firstPolled.key = secondPolled.key ∧
    databasesAfter [firstPolled, secondPolled] (fun _ => none) (.rawDb, firstPolled.key) =
      some (.counters [(1, 6)]) := by
  have shared : firstPolled.key = secondPolled.key :=
    (firstPolled.key_iff secondPolled).mpr ⟨by decide +kernel, by decide +kernel, rfl⟩
  have second : secondPolled.counters = [(1, 6)] := by decide +kernel
  refine ⟨Nat.le_refl _, by decide +kernel, second, shared, ?_⟩
  rw [shared, ← second]
  exact databasesAfter_kept [firstPolled] [] secondPolled _ fun _ none => absurd none List.not_mem_nil

end Runs

end SflowTool
