import SflowTool.DdosEntry
import SflowTool.ExportSpecs
import SflowTool.HeaderSpecs

/-! The counter records that are copied into a struct of words. What a copy leaves in the
struct and where it leaves the cursor, for structs of every size; a record is taken up as it
was announced unless its length has no room in 16 bits or ends behind the datagram. -/
namespace SflowTool
open Decoding Decoding.Decoder

section Words

variable {buffer : Buffer} {sample : SFSample}

/-- The big-endian number in some bytes of the datagram. -/
def bigEndian (buffer : Buffer) (start width : Nat) : UInt64 :=
  UInt64.ofNat (beNat (buffer.slice start width))

theorem beNat_append (first second : List UInt8) :
    beNat (first ++ second) = beNat first * 256 ^ second.length + beNat second := by
  induction second using List.reverseRecOn with
  | nil => simp [beNat]
  | append_singleton second octet ih =>
      rw [← List.append_assoc, List.length_append, List.length_singleton]
      simp only [beNat, List.foldl_append, List.foldl_cons, List.foldl_nil] at ih ⊢
      rw [ih, Nat.pow_succ]
      ring

theorem beNat_lt (octets : List UInt8) : beNat octets < 256 ^ octets.length := by
  induction octets using List.reverseRecOn with
  | nil => decide
  | append_singleton octets octet ih =>
      have octet_lt := octet.toNat_lt
      have last : beNat [octet] = octet.toNat := by simp [beNat]
      rw [beNat_append, List.length_append, last, List.length_singleton, pow_one, Nat.pow_succ]
      omega

/-- Two words are the halves of one of twice the width. -/
theorem bigEndian_halves (buffer : Buffer) (start : Nat) :
    ((UInt32.ofNat (beNat (buffer.slice start 4))).toUInt64 <<< 32) +
      (UInt32.ofNat (beNat (buffer.slice (start + 4) 4))).toUInt64 = bigEndian buffer start 8 := by
  have high := beNat_lt (buffer.slice start 4)
  have low := beNat_lt (buffer.slice (start + 4) 4)
  rw [Buffer.length_slice] at high low
  apply UInt64.toNat_inj.mp
  rw [bigEndian, show (8 : Nat) = 4 + 4 from rfl, Buffer.slice_append, beNat_append,
    Buffer.length_slice]
  simp only [UInt64.toNat_add, UInt64.toNat_shiftLeft, UInt32.toNat_toUInt64,
    UInt32.toNat_ofNat', UInt64.toNat_ofNat', UInt64.reduceToNat, Nat.reduceMod,
    Nat.shiftLeft_eq]
  omega

/-- A number of up to four bytes, as it is read into 32 bits. -/
theorem bigEndian_small (start width : Nat) (narrow : width ≤ 4) :
    (UInt32.ofNat (beNat (buffer.slice start width))).toUInt64 = bigEndian buffer start width := by
  have bound := beNat_lt (buffer.slice start width)
  rw [Buffer.length_slice] at bound
  have small : 256 ^ width ≤ 256 ^ 4 := Nat.pow_le_pow_right (by decide) narrow
  apply UInt64.toNat_inj.mp
  rw [bigEndian, UInt32.toNat_toUInt64, UInt32.toNat_ofNat', UInt64.toNat_ofNat']
  omega

/-- A read of one word: it takes the bytes of the word, and stops where they are not all
there. -/
structure ReadsWord (width : Nat) (next : Decode UInt64) : Prop where
  takes : ∀ (buffer : Buffer) (sample : SFSample), sample.cursor + width ≤ buffer.length →
    run buffer next sample = .reply (bigEndian buffer sample.cursor width) (sample.moved width)
  stops : ∀ (buffer : Buffer) (sample : SFSample), ¬sample.cursor + width ≤ buffer.length →
    ∃ final, run buffer next sample = .halt .eos final

theorem run_getData32 (room : sample.cursor + 4 ≤ buffer.length) :
    run buffer getData32 sample =
      .reply (UInt32.ofNat (beNat (buffer.slice sample.cursor 4))) (sample.moved 4) := by
  unfold getData32 getData32Nobswap
  rw [run_seq, run_take buffer 4 sample room]
  rfl

theorem run_getData32_stops (short : ¬sample.cursor + 4 ≤ buffer.length) :
    run buffer getData32 sample = .halt .eos (sample.moved 4) := by
  unfold getData32 getData32Nobswap
  rw [run_seq]
  have stopped : run buffer (@Decoder.take collector 4) sample = .halt .eos (sample.moved 4) :=
    (run_single buffer (.take 4) sample).trans (if_neg short)
  rw [stopped]
  rfl

theorem reads_getData64 : ReadsWord 8 getData64 where
  takes buffer sample room := by
    unfold getData64
    rw [run_seq, run_getData32 (by omega), Run.reply_bind, run_seq,
      run_getData32 (show (State.moved sample 4).cursor + 4 ≤ buffer.length by
        rw [State.moved_cursor]; omega), Run.reply_bind, ← bigEndian_halves]
    rfl
  stops buffer sample short := by
    unfold getData64
    rw [run_seq]
    by_cases first : sample.cursor + 4 ≤ buffer.length
    · have second : ¬(State.moved sample 4).cursor + 4 ≤ buffer.length := by
        rw [State.moved_cursor]
        omega
      rw [run_getData32 first, Run.reply_bind, run_seq, run_getData32_stops second]
      exact ⟨_, rfl⟩
    · rw [run_getData32_stops first]
      exact ⟨_, rfl⟩

theorem reads_getData32 : ReadsWord 4 (do let data ← getData32; return data.toUInt64) where
  takes buffer sample room := by
    rw [run_seq, run_getData32 room, Run.reply_bind, bigEndian_small _ _ (by decide)]
    rfl
  stops buffer sample short := by
    rw [run_seq, run_getData32_stops short]
    exact ⟨_, rfl⟩

end Words

section Names

/-- The letters of a name as one number. -/
def spelling (name : String) : Nat := beNat name.toByteArray.data.toList

/-- No number of a list is zero, stands in it twice or has been seen before. -/
def allFresh : List Nat → List Nat → Bool
  | [], _ => true
  | 0 :: _, _ => false
  | (n + 1) :: rest, seen => !seen.any (Nat.beq n) && allFresh rest (n :: seen)

theorem allFresh_sound (numbers seen : List Nat) (fresh : allFresh numbers seen = true) :
    numbers.Nodup ∧ ∀ n ∈ seen, n + 1 ∉ numbers := by
  induction numbers generalizing seen with
  | nil => exact ⟨List.nodup_nil, fun _ _ => List.not_mem_nil⟩
  | cons number rest ih =>
      cases number with
      | zero => exact absurd fresh Bool.false_ne_true
      | succ n =>
          obtain ⟨unseen, fresh⟩ := (Bool.and_eq_true _ _).mp fresh
          have differs : ∀ m ∈ seen, ¬n = m := by simpa using unseen
          obtain ⟨distinct, others⟩ := ih (n :: seen) fresh
          constructor
          · exact List.nodup_cons.mpr ⟨others n List.mem_cons_self, distinct⟩
          · intro m known
            rw [List.mem_cons, not_or]
            refine ⟨fun same => ?_, others m (List.mem_cons_of_mem _ known)⟩
            exact differs m known (Nat.succ_inj.mp same).symm

/-- Long lists of names are told apart by their numbers. -/
theorem distinct_of_fresh (names : List String)
    (fresh : allFresh (names.map spelling) [] = true) : names.Nodup :=
  List.Nodup.of_map spelling (allFresh_sound _ [] fresh).1

end Names

section Copies

variable {buffer : Buffer} {sample : SFSample} {width : Nat} {next : Decode UInt64}

def countersOf (sample : SFSample) (member : DdosMember) : String → UInt64 :=
  sample.store (.counters member)

/-- The struct once some of its fields have been written, in their order. -/
def copied (buffer : Buffer) (width : Nat) :
    List String → Nat → (String → UInt64) → String → UInt64
  | [], _, counters => counters
  | field :: rest, start, counters =>
      copied buffer width rest (start + width)
        (Function.update counters field (bigEndian buffer start width))

theorem copied_other (fields : List String) (start : Nat) (counters : String → UInt64)
    (field : String) (absent : field ∉ fields) :
    copied buffer width fields start counters field = counters field := by
  induction fields generalizing start counters with
  | nil => rfl
  | cons first rest ih =>
      obtain ⟨differs, absent⟩ := not_or.mp (mt List.mem_cons.mpr absent)
      rw [copied, ih _ _ absent, Function.update_of_ne differs]

/-- The words lie in the struct as they lie in the record. -/
theorem copied_word (fields : List String) (distinct : fields.Nodup) (start : Nat)
    (counters : String → UInt64) (k : Nat) (bound : k < fields.length) :
    copied buffer width fields start counters fields[k] =
      bigEndian buffer (start + width * k) width := by
  induction fields generalizing start counters k with
  | nil => exact absurd bound (Nat.not_lt_zero k)
  | cons first rest ih =>
      obtain ⟨absent, distinct⟩ := List.nodup_cons.mp distinct
      cases k with
      | zero =>
          rw [copied, List.getElem_cons_zero, copied_other rest _ _ first absent,
            Function.update_self, Nat.mul_zero, Nat.add_zero]
      | succ k =>
          rw [copied, List.getElem_cons_succ, ih distinct _ _ k (Nat.lt_of_succ_lt_succ bound),
            Nat.mul_succ, Nat.add_assoc, Nat.add_comm width]

/-- A sample with a struct of it set. -/
def holdingCounters (sample : SFSample) (member : DdosMember) (counters : String → UInt64) :
    SFSample :=
  @State.assigned collector sample (.counters member) counters

@[simp] theorem holdingCounters_cursor (sample : SFSample) (member : DdosMember)
    (counters : String → UInt64) : (holdingCounters sample member counters).cursor =
      sample.cursor := rfl

@[simp] theorem countersOf_holding (sample : SFSample) (member : DdosMember)
    (counters : String → UInt64) :
    countersOf (holdingCounters sample member counters) member = counters :=
  @State.assigned_store collector sample (.counters member) counters

@[simp] theorem countersOf_moved (sample : SFSample) (count : Nat) (member : DdosMember) :
    countersOf (State.moved sample count) member = countersOf sample member := rfl

theorem holdingCounters_self (sample : SFSample) (member : DdosMember) :
    holdingCounters sample member (countersOf sample member) = sample :=
  @State.assigned_self collector sample (.counters member)

theorem holdingCounters_twice (sample : SFSample) (member : DdosMember)
    (first second : String → UInt64) :
    holdingCounters (holdingCounters sample member first) member second =
      holdingCounters sample member second :=
  @State.assigned_twice collector sample (.counters member) first second

/-- The sample behind a copy. -/
def populated (buffer : Buffer) (width : Nat) (member : DdosMember) (fields : List String)
    (sample : SFSample) : SFSample :=
  State.moved (holdingCounters sample member
    (copied buffer width fields sample.cursor (countersOf sample member))) (width * fields.length)

theorem run_setCounter (member : DdosMember) (field : String) (value : UInt64) :
    run buffer (setCounter member field value) sample = .reply () (holdingCounters sample member
      (Function.update (countersOf sample member) field value)) := rfl

theorem populated_cons (member : DdosMember) (field : String) (rest : List String) :
    populated buffer width member rest (holdingCounters (State.moved sample width) member
      (Function.update (countersOf sample member) field (bigEndian buffer sample.cursor width))) =
    populated buffer width member (field :: rest) sample := by
  have place : sample.cursor + width + width * rest.length =
      sample.cursor + width * (field :: rest).length := by
    rw [List.length_cons, Nat.mul_succ]
    omega
  unfold populated
  rw [countersOf_holding, holdingCounters_twice]
  simp only [State.moved, holdingCounters, State.assigned, copied, place]

/-- The words are copied one after the other, if all of them were received. -/
theorem run_populateWords (reads : ReadsWord width next) (member : DdosMember)
    (fields : List String) (sample : SFSample)
    (room : sample.cursor + width * fields.length ≤ buffer.length) :
    run buffer (populateWords next member fields) sample =
      .reply () (populated buffer width member fields sample) := by
  induction fields generalizing sample with
  | nil => exact congrArg (Run.reply ()) (holdingCounters_self sample member).symm
  | cons field rest ih =>
      rw [List.length_cons, Nat.mul_succ] at room
      have first := reads.takes buffer sample (by omega)
      unfold populateWords
      rw [run_seq, first, Run.reply_bind, run_seq, run_setCounter, Run.reply_bind,
        countersOf_moved, ← populated_cons]
      apply ih
      rw [holdingCounters_cursor, State.moved_cursor]
      omega

/-- A copy stops at the first word that was not received as a whole. -/
theorem populateWords_stops (reads : ReadsWord width next) (member : DdosMember)
    (fields : List String) (sample : SFSample) (some : fields ≠ [])
    (short : ¬sample.cursor + width * fields.length ≤ buffer.length) :
    ∃ final, run buffer (populateWords next member fields) sample = .halt .eos final := by
  induction fields generalizing sample with
  | nil => exact absurd rfl some
  | cons field rest ih =>
      rw [List.length_cons, Nat.mul_succ] at short
      unfold populateWords
      rw [run_seq]
      by_cases room : sample.cursor + width ≤ buffer.length
      · have more : rest ≠ [] := by
          rintro rfl
          exact short (by simpa using room)
        rw [reads.takes buffer sample room, Run.reply_bind, run_seq, run_setCounter,
          Run.reply_bind, countersOf_moved]
        apply ih _ more
        rw [holdingCounters_cursor, State.moved_cursor]
        omega
      · obtain ⟨final, stopped⟩ := reads.stops buffer sample room
        rw [stopped]
        exact ⟨final, rfl⟩

end Copies

section Structs

/-- What a logging call shows: nothing but in full format. -/
def logTrace (config : SFConfig) (line : Line) (sample : SFSample) : List (Stamped collector) :=
  if config.outputFormat = .full then [⟨.log line, sample.ticks⟩] else []

theorem run_sfLog (config : SFConfig) (buffer : Buffer) (fmt : String) (args : List Arg)
    (sample : SFSample) : run buffer (sfLog config fmt args) sample =
      ⟨.ok (), sample, logTrace config ⟨fmt, args⟩ sample, []⟩ := by
  unfold sfLog logTrace
  by_cases full : config.outputFormat = .full
  · rw [when_pos full, if_pos full]
    rfl
  · rw [when_neg full, if_neg full]
    rfl

variable (config : SFConfig)

/-- A struct of words of `width` bytes, of any size an `unsigned short` holds: its whole words
by name. -/
structure StructLayout (width : Nat) where
  size : UInt16
  fields : List String
  distinct : fields.Nodup
  words : fields.length = size.toNat / width

/-- The copy for a struct whose size need not be that of its words. -/
def populateStruct (width : Nat) (next : Decode UInt64) (mismatch invalid : Line)
    (member : DdosMember) (fields : List String) (sflLength : Nat) : Decode Unit := do
  let contextLength ← getWord .currentContextLength
  let parseLength := contextLength.toNat % 65536
  if parseLength = 0 ∨ parseLength % width ≠ 0 then do
    sfLog config invalid.fmt invalid.args
    sfAbort .eos
  else do
    populateWords next member (fields.take (parseLength / width))
    when (sflLength < parseLength) do
      let description ← getText .sflDdosDesc
      sfLog config mismatch.fmt (.text description :: mismatch.args)
      jump (parseLength - sflLength)

/-- The structs of the counter records have the size of their words. -/
theorem populateSflowStruct_eq (width : Nat) (next : Decode UInt64) (mismatch invalid : Line)
    (member : DdosMember) (fields : List String) :
    populateSflowStruct config width next mismatch invalid member fields =
      populateStruct config width next mismatch invalid member fields (width * fields.length) :=
  rfl

/-- The announced length as the copy takes it. -/
def parseLengthOf (sample : SFSample) : Nat :=
  (wordOf sample .currentContextLength).toNat % 65536

/-- The words of a record that have a place in the struct. -/
def carriedFields (width : Nat) (fields : List String) (sample : SFSample) : List String :=
  fields.take (parseLengthOf sample / width)

/-- The copy goes through: the announced length is one of words, and those to be copied were
received. -/
def Copyable (buffer : Buffer) (width : Nat) (fields : List String) (sample : SFSample) : Prop :=
  parseLengthOf sample ≠ 0 ∧ parseLengthOf sample % width = 0 ∧
    (carriedFields width fields sample ≠ [] →
      sample.cursor + width * (carriedFields width fields sample).length ≤ buffer.length)

variable {config : SFConfig} {buffer : Buffer} {sample : SFSample} {width : Nat}
  {next : Decode UInt64} {mismatch invalid : Line} {member : DdosMember} {fields : List String}
  {sflLength : Nat}

/-- What the copy of a record longer than its struct reports. -/
def mismatchTrace (config : SFConfig) (mismatch : Line) (sflLength : Nat) (sample : SFSample) :
    List (Stamped collector) :=
  if sflLength < parseLengthOf sample then
    logTrace config ⟨mismatch.fmt, .text (textOf sample .sflDdosDesc) :: mismatch.args⟩ sample
  else []

/-- The sample behind a record: its words are copied and the rest of it is jumped over. -/
def behindRecord (buffer : Buffer) (width : Nat) (member : DdosMember) (fields : List String)
    (sflLength : Nat) (sample : SFSample) : SFSample :=
  State.moved (populated buffer width member (carriedFields width fields sample) sample)
    (parseLengthOf sample - sflLength)

theorem textOf_populated (member : DdosMember) (fields : List String) (var : TextVar) :
    textOf (populated buffer width member fields sample) var = textOf sample var := by
  have other : Var.text var ≠ .counters member := by simp
  exact Function.update_of_ne other
    (copied buffer width fields sample.cursor (countersOf sample member)) sample.store

theorem run_populateStruct (reads : ReadsWord width next)
    (copyable : Copyable buffer width fields sample) :
    run buffer (populateStruct config width next mismatch invalid member fields sflLength) sample =
      ⟨.ok (), behindRecord buffer width member fields sflLength sample,
        mismatchTrace config mismatch sflLength sample, []⟩ := by
  obtain ⟨some, whole, received⟩ := copyable
  have valid : ¬(parseLengthOf sample = 0 ∨ parseLengthOf sample % width ≠ 0) :=
    not_or.mpr ⟨some, not_not.mpr whole⟩
  have words : run buffer (populateWords next member (carriedFields width fields sample)) sample =
      .reply () (populated buffer width member (carriedFields width fields sample) sample) := by
    by_cases none : carriedFields width fields sample = []
    · rw [none]
      exact congrArg (Run.reply ()) (holdingCounters_self sample member).symm
    · exact run_populateWords reads member _ sample (received none)
  have read : run buffer
      (populateStruct config width next mismatch invalid member fields sflLength) sample =
    run buffer (if parseLengthOf sample = 0 ∨ parseLengthOf sample % width ≠ 0 then do
        sfLog config invalid.fmt invalid.args
        sfAbort .eos
      else do
        populateWords next member (carriedFields width fields sample)
        when (sflLength < parseLengthOf sample) do
          let description ← getText .sflDdosDesc
          sfLog config mismatch.fmt (.text description :: mismatch.args)
          jump (parseLengthOf sample - sflLength)) sample := rfl
  rw [read, if_neg valid, run_seq, words, Run.reply_bind]
  unfold behindRecord mismatchTrace
  generalize landed : populated buffer width member (carriedFields width fields sample) sample = behind
  have described : textOf behind .sflDdosDesc = textOf sample .sflDdosDesc := by
    rw [← landed]
    exact textOf_populated member _ _
  have ticks : behind.ticks = sample.ticks := by
    rw [← landed]
    rfl
  by_cases longer : sflLength < parseLengthOf sample
  · rw [when_pos longer, if_pos longer, run_seq,
      show run buffer (getText .sflDdosDesc) behind =
        .reply (textOf behind .sflDdosDesc) behind from rfl,
      Run.reply_bind, run_seq, run_sfLog, described, logTrace, ticks, ← logTrace]
    show (⟨.ok (), _, _ ++ [], []⟩ : Run collector Unit) = _
    rw [List.append_nil]
    rfl
  · rw [when_neg longer, if_neg longer, Nat.sub_eq_zero_of_le (by omega)]
    rfl

/-- What the copy of a record reports whose announced length is not one of words. -/
def invalidTrace (config : SFConfig) (invalid : Line) (width : Nat) (sample : SFSample) :
    List (Stamped collector) :=
  if parseLengthOf sample = 0 ∨ parseLengthOf sample % width ≠ 0 then
    logTrace config invalid sample
  else []

/-- A copy that does not go through stops. -/
theorem populateStruct_stops (config : SFConfig) (mismatch invalid : Line) (member : DdosMember)
    (sflLength : Nat) (reads : ReadsWord width next)
    (blocked : ¬Copyable buffer width fields sample) :
    ∃ reason final, run buffer
      (populateStruct config width next mismatch invalid member fields sflLength) sample =
        ⟨.error reason, final, invalidTrace config invalid width sample, []⟩ := by
  have read : run buffer
      (populateStruct config width next mismatch invalid member fields sflLength) sample =
    run buffer (if parseLengthOf sample = 0 ∨ parseLengthOf sample % width ≠ 0 then do
        sfLog config invalid.fmt invalid.args
        sfAbort .eos
      else do
        populateWords next member (carriedFields width fields sample)
        when (sflLength < parseLengthOf sample) do
          let description ← getText .sflDdosDesc
          sfLog config mismatch.fmt (.text description :: mismatch.args)
          jump (parseLengthOf sample - sflLength)) sample := rfl
  rw [read]
  unfold invalidTrace
  by_cases invalidLength : parseLengthOf sample = 0 ∨ parseLengthOf sample % width ≠ 0
  · rw [if_pos invalidLength, if_pos invalidLength, run_seq, run_sfLog]
    refine ⟨.eos, sample, ?_⟩
    show (⟨.error .eos, sample, _ ++ [], []⟩ : Run collector Unit) = _
    rw [List.append_nil]
  · obtain ⟨some, whole⟩ := not_or.mp invalidLength
    have short : carriedFields width fields sample ≠ [] ∧
        ¬sample.cursor + width * (carriedFields width fields sample).length ≤ buffer.length := by
      by_contra received
      exact blocked ⟨some, not_not.mp whole, fun more => not_not.mp fun late => received ⟨more, late⟩⟩
    obtain ⟨final, stopped⟩ := populateWords_stops reads member _ sample short.1 short.2
    rw [if_neg invalidLength, if_neg invalidLength, run_seq, stopped]
    exact ⟨_, _, rfl⟩

theorem behindRecord_cursor : (behindRecord buffer width member fields sflLength sample).cursor =
    sample.cursor + width * (carriedFields width fields sample).length +
      (parseLengthOf sample - sflLength) := rfl

theorem countersOf_behindRecord :
    countersOf (behindRecord buffer width member fields sflLength sample) member =
      copied buffer width (carriedFields width fields sample) sample.cursor
        (countersOf sample member) :=
  countersOf_holding ..

/-- The announced length of a record. -/
def contextLengthOf (sample : SFSample) : Nat := (wordOf sample .currentContextLength).toNat

/-- The record is taken up: the cursor moves over all of it and stays inside the datagram, and
the words it carries are in the struct. -/
structure TakenUp (buffer : Buffer) (member : DdosMember) (layout : StructLayout width)
    (sample final : SFSample) : Prop where
  cursor : final.cursor = sample.cursor + contextLengthOf sample
  inside : final.cursor ≤ buffer.length
  words : ∀ k (room : k < layout.fields.length), k < contextLengthOf sample / width →
    countersOf final member layout.fields[k] = bigEndian buffer (sample.cursor + width * k) width

/-- The length of the record has room in 16 bits, and if it is longer than its struct, the
struct consists of whole words and the record ends inside the datagram. -/
def KeepsCount (buffer : Buffer) (layout : StructLayout width) (sample : SFSample) : Prop :=
  contextLengthOf sample < 65536 ∧
    (layout.size.toNat < contextLengthOf sample → layout.size.toNat % width = 0 ∧
      sample.cursor + contextLengthOf sample ≤ buffer.length)

/-- The bytes a copy moves over, by the two lengths. -/
theorem copied_length (layout : StructLayout width) (sample : SFSample) :
    width * (carriedFields width layout.fields sample).length =
      min (width * (parseLengthOf sample / width)) (width * (layout.size.toNat / width)) := by
  rw [carriedFields, List.length_take, layout.words, Nat.mul_min_mul_left]

theorem takenUp_iff (layout : StructLayout width) (positive : 0 < width)
    (copyable : Copyable buffer width layout.fields sample) :
    TakenUp buffer member layout sample
        (behindRecord buffer width member layout.fields layout.size.toNat sample) ↔
      KeepsCount buffer layout sample := by
  obtain ⟨some, whole, received⟩ := copyable
  have parse : parseLengthOf sample = contextLengthOf sample % 65536 := rfl
  have length := copied_length layout sample
  have record := Nat.div_add_mod (parseLengthOf sample) width
  have struct := Nat.div_add_mod layout.size.toNat width
  have shorter (short : parseLengthOf sample ≤ layout.size.toNat) :
      width * (parseLengthOf sample / width) ≤ width * (layout.size.toNat / width) :=
    Nat.mul_le_mul_left width (Nat.div_le_div_right short)
  have longest (long : layout.size.toNat ≤ parseLengthOf sample) :
      width * (layout.size.toNat / width) ≤ width * (parseLengthOf sample / width) :=
    Nat.mul_le_mul_left width (Nat.div_le_div_right long)
  constructor
  · rintro ⟨cursor, inside, -⟩
    rw [behindRecord_cursor, length] at cursor inside
    refine ⟨by omega, fun longer => ?_⟩
    omega
  · rintro ⟨small, longer⟩
    have more : carriedFields width layout.fields sample ≠ [] ∨
        layout.size.toNat < contextLengthOf sample := by
      by_contra none
      obtain ⟨none, fits⟩ := not_or.mp none
      rw [not_not.mp none, List.length_nil] at length
      omega
    have room : sample.cursor + contextLengthOf sample ≤ buffer.length := by
      by_cases over' : layout.size.toNat < contextLengthOf sample
      · exact (longer over').2
      · have copies := received (more.resolve_right over')
        rw [length] at copies
        omega
    refine ⟨?_, ?_, ?_⟩
    · rw [behindRecord_cursor, length]
      omega
    · rw [behindRecord_cursor, length]
      omega
    · intro k known carried
      have taken : k < (carriedFields width layout.fields sample).length := by
        rw [carriedFields, List.length_take, parse, Nat.mod_eq_of_lt small]
        exact Nat.lt_min.mpr ⟨carried, known⟩
      have here : (carriedFields width layout.fields sample)[k] = layout.fields[k] :=
        List.getElem_take
      rw [countersOf_behindRecord, ← here]
      exact copied_word _ (layout.distinct.sublist (List.take_sublist ..)) _ _ k taken

theorem populateStruct_iff (reads : ReadsWord width next) (positive : 0 < width)
    (layout : StructLayout width) :
    ((run buffer (populateStruct config width next mismatch invalid member layout.fields
        layout.size.toNat) sample).Returning fun _ final =>
          TakenUp buffer member layout sample final) ↔
      (Copyable buffer width layout.fields sample → KeepsCount buffer layout sample) := by
  by_cases copyable : Copyable buffer width layout.fields sample
  · rw [run_populateStruct reads copyable]
    exact (takenUp_iff layout positive copyable).trans ⟨fun keeps _ => keeps, fun keeps => keeps copyable⟩
  · obtain ⟨reason, final, stopped⟩ := populateStruct_stops config mismatch invalid member
      layout.size.toNat reads copyable
    rw [stopped]
    exact iff_of_true trivial fun goes => absurd goes copyable

/-- `populate_sflow_struct_u64` for a struct of any size. -/
def populateStructU64 (config : SFConfig) (member : DdosMember) (layout : StructLayout 8) :
    Decode Unit :=
  populateStruct config 8 getData64
    ⟨"Counter Length mismatch detected for %s, continuing...\n", []⟩
    ⟨"[%s-%d] Invalid parse length detected.\n",
      [.name "populate_sflow_struct_u64", .word 4213]⟩ member layout.fields layout.size.toNat

/-- `populate_sflow_struct_u32`, likewise. -/
def populateStructU32 (config : SFConfig) (member : DdosMember) (layout : StructLayout 4) :
    Decode Unit :=
  populateStruct config 4 (do let data ← getData32; return data.toUInt64)
    ⟨"Counter Length mismatch detected for %s, continuing...", []⟩
    ⟨"[%s-%d] Invalid parse length detected.\n",
      [.name "populate_sflow_struct_u32", .word 4250]⟩ member layout.fields layout.size.toNat

theorem populateSflowStructU64_eq (layout : StructLayout 8)
    (whole : layout.size.toNat = 8 * layout.fields.length) :
    populateSflowStructU64 config member layout.fields = populateStructU64 config member layout := by
  unfold populateSflowStructU64 populateStructU64
  rw [populateSflowStruct_eq, whole]

theorem populateSflowStructU32_eq (layout : StructLayout 4)
    (whole : layout.size.toNat = 4 * layout.fields.length) :
    populateSflowStructU32 config member layout.fields = populateStructU32 config member layout := by
  unfold populateSflowStructU32 populateStructU32
  rw [populateSflowStruct_eq, whole]

/-- A copy takes its record up exactly if it does not go through or the record keeps the
count: for structs of every size and records of every announced length. -/
theorem struct_takes_up_record_iff (config : SFConfig) (buffer : Buffer) (sample : SFSample)
    (member : DdosMember) (layout : StructLayout 8) (narrow : StructLayout 4) :
    (((run buffer (populateStructU64 config member layout) sample).Returning fun _ final =>
        TakenUp buffer member layout sample final) ↔
      (Copyable buffer 8 layout.fields sample → KeepsCount buffer layout sample)) ∧
    (((run buffer (populateStructU32 config member narrow) sample).Returning fun _ final =>
        TakenUp buffer member narrow sample final) ↔
      (Copyable buffer 4 narrow.fields sample → KeepsCount buffer narrow sample)) :=
  ⟨populateStruct_iff reads_getData64 (by decide) layout,
    populateStruct_iff reads_getData32 (by decide) narrow⟩

/-- The struct of the packet counters. -/
def packetLayout : StructLayout 8 where
  size := 40
  fields := sflowDdosPacketCounters.map Prod.fst
  distinct := by decide
  words := rfl

/-- A record of 48 bytes whose datagram ends with the 40 the struct has room for. -/
theorem excess_leaves_datagram :
    ¬∀ (config : SFConfig) (buffer : Buffer) (sample : SFSample) (member : DdosMember)
        (layout : StructLayout 8),
      (run buffer (populateStructU64 config member layout) sample).Returning fun _ final =>
        TakenUp buffer member layout sample final := by
  intro takes
  have copyable : Copyable (datagramOf (List.replicate 10 0)) 8 packetLayout.fields
      (holding firstSample .currentContextLength 48) :=
    ⟨by decide, by decide, fun _ => by decide⟩
  have keeps := (populateStruct_iff reads_getData64 (by decide) packetLayout).mp
    (takes (defaultConfig .full) (datagramOf (List.replicate 10 0))
      (holding firstSample .currentContextLength 48) .pollingPackets packetLayout) copyable
  exact absurd (keeps.2 (by decide)).2 (by decide)

end Structs

end SflowTool
