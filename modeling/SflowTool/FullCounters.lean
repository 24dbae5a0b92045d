import SflowTool.EntryDrops
import SflowTool.Following
import SflowTool.Printing

/-! The counters of the struct records as they are printed. They are kept in 64 bits and
printed by a conversion that takes 32, each under the label its decoder gives it. -/
namespace SflowTool
open Decoding Decoding.Decoder Printing

section Columns

/-- The label and the number a counter's line consists of; all calls give the two columns the
same widths. `%u` takes an unsigned int. -/
def Line.columns (line : Line) : Option (String × Text) :=
  match line.args with
  | [.name fieldName, .dword value] =>
      if line.fmt = "%-35s %-20u\n" then some (fieldName, decimal value.toUInt32.toNat)
      else if line.fmt = "%-35s %-20llu\n" then some (fieldName, decimal value.toNat)
      else none
  | _ => none

/-- The line `sf_log_next64` prints of a word. -/
def next64Line (fieldName : String) (val64 : UInt64) : Line :=
  ⟨"%-35s %-20llu\n", [.name fieldName, .dword val64]⟩

theorem next64Line_columns (fieldName : String) (val64 : UInt64) :
    (next64Line fieldName val64).columns = some (fieldName, decimal val64.toNat) := rfl

theorem counterLine_columns (counters : String → UInt64) (label : String × String) :
    (counterLine counters label).columns =
      some (label.2, decimal (counters label.1).toUInt32.toNat) := rfl

/-- A number is printed as it is if it fits the conversion. -/
theorem truncated_iff (value : UInt64) :
    decimal value.toUInt32.toNat = decimal value.toNat ↔ value.toNat < 2 ^ 32 := by
  have cut := UInt64.toNat_toUInt32 value
  constructor
  · intro same
    have equal := decimal_inj same
    omega
  · intro fits
    rw [cut, Nat.mod_eq_of_lt fits]

end Columns

section Labels

/-- A label no other field of the record is printed under. -/
def OwnLabel (labels : List (String × String)) (field label : String) : Prop :=
  (field, label) ∈ labels ∧ ∀ other, (other, label) ∈ labels → other = field

/-- Words of the structs that are no counters. -/
def unusedFields : List String :=
  ["UNUSED1", "UNUSED2", "UNUSED3", "UNUSED4", "UNUSED5", "UNUSED6"]

/-- A counter the record carries, by the length it announces: its place, its field and its
value. -/
structure CarriesCounter (record : StructRecord) (buffer : Buffer) (sample : SFSample) (k : Nat)
    (field : String) (value : UInt64) : Prop where
  place : record.fields[k]? = some field
  announced : k < contextLengthOf sample / 8
  counter : field ∉ unusedFields
  word : value = bigEndian buffer (sample.cursor + 8 * k) 8

/-- Each counter is printed under a label of its own, as `sf_log_next64` would print it. -/
def PrintedInFull (record : StructRecord) (buffer : Buffer) (sample : SFSample)
    (events : List Event) : Prop :=
  ∀ k field value, CarriesCounter record buffer sample k field value →
    ∃ label, OwnLabel record.labels field label ∧ ∃ line, .log line ∈ events ∧
      line.columns = (next64Line label value).columns

/-- The word is copied; it is not where the length of the record, cut to 16 bits, leaves it
out. -/
def Entered (sample : SFSample) (k : Nat) : Prop := k < parseLengthOf sample / 8

instance (sample : SFSample) (k : Nat) : Decidable (Entered sample k) :=
  inferInstanceAs (Decidable (_ < _))

/-- A counter fits 32 bits and has a label of its own; one that is not copied prints like the
word that stays in its place. -/
structure Printable (record : StructRecord) (sample : SFSample) (k : Nat) (field : String)
    (value : UInt64) : Prop where
  label : ∃ label, OwnLabel record.labels field label
  fits : Entered sample k → value.toNat < 2 ^ 32
  stays : ¬Entered sample k → (countersOf sample record.member field).toNat % 2 ^ 32 = value.toNat

set_option maxRecDepth 8000 in
theorem structRecords_fresh :
    ∀ record ∈ structRecords, allFresh (record.fields.map spelling) [] = true := by
  decide +kernel

/-- No struct has two fields of one name. -/
theorem structRecords_distinct (record : StructRecord) (known : record ∈ structRecords) :
    record.fields.Nodup :=
  distinct_of_fresh _ (structRecords_fresh record known)

end Labels

section FullFormat

variable {config : SFConfig} {buffer : Buffer} {sample : SFSample} {record : StructRecord}

/-- What is logged of a record longer than its struct is no counter's line. -/
theorem mismatch_columns (fields : List String) (line : Line)
    (logged : .log line ∈ mismatchEvents config fields sample) : line.columns = none := by
  unfold mismatchEvents logEvents at logged
  split at logged
  · split at logged
    · cases List.mem_singleton.mp logged
      rfl
    · cases logged
  · cases logged

theorem logged_iff (full : config.outputFormat = .full) (record : StructRecord) (line : Line) :
    .log line ∈ record.report config sample ↔
      ∃ label ∈ record.labels, line = counterLine (countersOf sample record.member) label := by
  have shown (label : String × String) :
      logEvents config (counterLine (countersOf sample record.member) label) =
        [.log (counterLine (countersOf sample record.member) label)] := if_pos full
  have lines : .log line ∈ record.lines config sample ↔
      ∃ label ∈ record.labels, line = counterLine (countersOf sample record.member) label := by
    simp [StructRecord.lines, counterLines, shown]
  have unsent : .log line ∉ (record.sends config sample).map Event.opentsdb := by
    intro sent
    obtain ⟨_, _, differs⟩ := List.mem_map.mp sent
    cases differs
  unfold StructRecord.report
  split
  · rw [List.mem_append, lines, or_iff_left unsent]
  · rw [List.mem_append, lines, or_iff_right unsent]

/-- What the struct holds of a counter behind the copy. -/
theorem entered_value (known : record ∈ structRecords) {k : Nat} {field : String} {value : UInt64}
    (carries : CarriesCounter record buffer sample k field value) (entered : Entered sample k) :
    countersOf (behindU64 buffer record.member record.fields sample) record.member field = value := by
  obtain ⟨bound, here⟩ := List.getElem?_eq_some_iff.mp carries.place
  have distinct : (carriedFields 8 record.fields sample).Nodup :=
    (structRecords_distinct record known).sublist (List.take_sublist _ _)
  have taken : k < (carriedFields 8 record.fields sample).length := by
    rw [carriedFields, List.length_take]
    exact Nat.lt_min.mpr ⟨entered, bound⟩
  have place : (carriedFields 8 record.fields sample)[k] = field :=
    List.getElem_take.trans here
  rw [behindU64, countersOf_behindRecord, ← place, carries.word]
  exact copied_word _ distinct _ _ k taken

theorem kept_value (known : record ∈ structRecords) {k : Nat} {field : String} {value : UInt64}
    (carries : CarriesCounter record buffer sample k field value) (kept : ¬Entered sample k) :
    countersOf (behindU64 buffer record.member record.fields sample) record.member field =
      countersOf sample record.member field := by
  obtain ⟨bound, here⟩ := List.getElem?_eq_some_iff.mp carries.place
  have absent : field ∉ carriedFields 8 record.fields sample := by
    intro early
    obtain ⟨other, taken, same⟩ := List.getElem_of_mem early
    have before : other < parseLengthOf sample / 8 ∧ other < record.fields.length := by
      rw [carriedFields, List.length_take] at taken
      omega
    have twice : record.fields[other] = record.fields[k] := by
      rw [here, ← same]
      exact List.getElem_take.symm
    have equal := (List.Nodup.getElem_inj_iff (structRecords_distinct record known)).mp twice
    exact kept (equal ▸ before.1)
  rw [behindU64, countersOf_behindRecord]
  exact copied_other _ _ _ field absent

/-- The text of the counter's line is that of the whole value. -/
theorem printed_iff (known : record ∈ structRecords) {k : Nat} {field : String} {value : UInt64}
    (carries : CarriesCounter record buffer sample k field value) :
    decimal (countersOf (behindU64 buffer record.member record.fields sample) record.member
        field).toUInt32.toNat = decimal value.toNat ↔
      (Entered sample k → value.toNat < 2 ^ 32) ∧
      (¬Entered sample k →
        (countersOf sample record.member field).toNat % 2 ^ 32 = value.toNat) := by
  by_cases entered : Entered sample k
  · rw [entered_value known carries entered, truncated_iff]
    exact ⟨fun fits => ⟨fun _ => fits, absurd entered⟩, fun printable => printable.1 entered⟩
  · rw [kept_value known carries entered, ← UInt64.toNat_toUInt32]
    constructor
    · intro same
      exact ⟨fun copied => absurd copied entered, fun _ => decimal_inj same⟩
    · intro printable
      rw [printable.2 entered]

/-- The counters of a record that is copied are printed in full exactly if each of them can
be. -/
theorem reported_in_full_iff (known : record ∈ structRecords) (full : config.outputFormat = .full) :
    PrintedInFull record buffer sample (mismatchEvents config record.fields sample ++
        record.report config (behindU64 buffer record.member record.fields sample)) ↔
      ∀ k field value, CarriesCounter record buffer sample k field value →
        Printable record sample k field value := by
  constructor
  · intro printed k field value carries
    obtain ⟨label, own, line, logged, columns⟩ := printed k field value carries
    rw [next64Line_columns] at columns
    rcases List.mem_append.mp logged with early | reported
    · rw [mismatch_columns _ line early] at columns
      cases columns
    · obtain ⟨⟨other, given⟩, labelled, rfl⟩ := (logged_iff full record line).mp reported
      obtain ⟨rfl, text⟩ := Prod.mk.inj (Option.some.inj columns)
      -- the label belongs to one field only, so the line is that of the counter
      cases own.2 other labelled
      obtain ⟨fits, stays⟩ := (printed_iff known carries).mp text
      exact ⟨⟨given, own⟩, fits, stays⟩
  · intro printable k field value carries
    obtain ⟨⟨label, own⟩, fits, stays⟩ := printable k field value carries
    refine ⟨label, own, _, List.mem_append_right _
      ((logged_iff full record _).mpr ⟨(field, label), own.1, rfl⟩), ?_⟩
    rw [counterLine_columns, next64Line_columns, (printed_iff known carries).mpr ⟨fits, stays⟩]

theorem copied_in_full_iff (known : record ∈ structRecords) (full : config.outputFormat = .full)
    (copyable : Copyable buffer 8 record.fields sample) :
    (run buffer (record.read config) sample).Concluding (fun _ _ events =>
        PrintedInFull record buffer sample events) ↔
      ∀ k field value, CarriesCounter record buffer sample k field value →
        Printable record sample k field value := by
  obtain ⟨_, _, ⟨ended, _⟩, shown⟩ :=
    (structRecords_report record known).copied config buffer sample copyable
  rw [← reported_in_full_iff known full]
  unfold Run.Concluding
  rw [ended]
  simp only [shown]

/-- The counters of a record are printed in full exactly if each of them fits the conversion
and has a label of its own. -/
theorem counters_printed_in_full_iff (config : SFConfig) (buffer : Buffer) (sample : SFSample)
    (record : StructRecord) (known : record ∈ structRecords)
    (full : config.outputFormat = .full) :
    (run buffer (record.read config) sample).Concluding (fun _ _ events =>
        PrintedInFull record buffer sample events) ↔
      (Copyable buffer 8 record.fields sample →
        ∀ k field value, CarriesCounter record buffer sample k field value →
          Printable record sample k field value) := by
  by_cases copyable : Copyable buffer 8 record.fields sample
  · rw [copied_in_full_iff known full copyable]
    exact ⟨fun printable _ => printable, fun printable => printable copyable⟩
  · obtain ⟨⟨reason, stopped⟩, -⟩ :=
      (structRecords_report record known).stopped config buffer sample copyable
    unfold Run.Concluding
    rw [stopped]
    exact iff_of_true trivial fun goes => absurd goes copyable

/-- The filters of an entry's UDP traffic. -/
def udpT2Record : StructRecord :=
  labelledRecord readCountersDdosUdpT2Counter .udpPerip
    (sflowDdosIpCounterUdpT2Data.map Prod.fst) sflowDdosIpCounterUdpT2Data

theorem udpT2_known : udpT2Record ∈ structRecords := by
  apply List.mem_cons_of_mem
  apply List.mem_append_right
  simp [entryRecords, udpT2Record]

/-- The record with its first counter only. -/
def firstFilter (value : List UInt32) : Buffer × SFSample :=
  (datagramOf value, holding firstSample .currentContextLength 8)

theorem small_counter_in_full :
    (run (firstFilter [0, 1]).1 (udpT2Record.read (defaultConfig .full))
        (firstFilter [0, 1]).2).Concluding (fun _ _ events =>
          PrintedInFull udpT2Record (firstFilter [0, 1]).1
            (firstFilter [0, 1]).2 events) := by
  refine (counters_printed_in_full_iff (defaultConfig .full) _ _ udpT2Record udpT2_known rfl).mpr ?_
  rintro - k field value ⟨place, announced, -, rfl⟩
  have first : k = 0 := by
    have length : contextLengthOf (firstFilter [0, 1]).2 = 8 := rfl
    omega
  subst first
  cases Option.some.inj place
  refine ⟨⟨"Filter1 Match:", by decide, ?_⟩, fun _ => by decide +kernel, fun out => ?_⟩
  · intro other labelled
    simpa [udpT2Record, labelledRecord, sflowDdosIpCounterUdpT2Data] using labelled
  · exact absurd (by decide) out

/-- A filter that matched 2^32 times is printed as 0. -/
theorem large_counter_cut :
    ¬∀ (config : SFConfig) (buffer : Buffer) (sample : SFSample) (record : StructRecord),
      record ∈ structRecords → config.outputFormat = .full →
      (run buffer (record.read config) sample).Concluding fun _ _ events =>
        PrintedInFull record buffer sample events := by
  intro prints
  have copyable : Copyable (firstFilter [1, 0]).1 8 udpT2Record.fields
      (firstFilter [1, 0]).2 := ⟨by decide, by decide, fun _ => by decide⟩
  have printable := (copied_in_full_iff udpT2_known rfl copyable).mp
    (prints (defaultConfig .full) _ _ udpT2Record udpT2_known rfl) 0 "filter1_match" _
    ⟨rfl, by decide, by decide, rfl⟩
  exact absurd (printable.fits (by decide)) (by decide +kernel)

end FullFormat

end SflowTool
