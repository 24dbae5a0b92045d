import SflowTool.Consuming
import SflowTool.FlowFraming
import SflowTool.IndicatorLayouts
import SflowTool.SampleUses

/-! The arrays of the entry record. Their counts come from the wire and bound nothing but the
loops, so that a fifth protocol or a fourth application is stored behind the array, as soon as
its first word has been received. -/
namespace SflowTool
open Decoding Decoding.Decoder

section Sizes

variable {config : SFConfig}

instance (fmt : String) (args : List Arg) : Consumes (sfLog config fmt args) 0 :=
  consumes_when _ _
instance : Consumes getData16 2 := consumes_bind (@Decoder.take collector 2) _ 2 0
instance : Consumes getData32 4 := consumes_bind (@Decoder.take collector 4) _ 4 0
instance : Consumes getData64 8 := by
  unfold getData64
  infer_instance
instance (fieldName : String) : Consumes (sfLogNext16 config fieldName) 2 := by
  unfold sfLogNext16
  infer_instance
instance (fieldName : String) : Consumes (sfLogNext32 config fieldName) 4 := by
  unfold sfLogNext32
  infer_instance
instance (fieldName : String) : Consumes (sfLogNext64 config fieldName) 8 := by
  unfold sfLogNext64
  infer_instance
instance (member : DdosMember) : Consumes (getCounters member) 0 :=
  @consumes_get collector (.counters member)
instance (member : DdosMember) (value : String → UInt64) : Consumes (setCounters member value) 0 :=
  @consumes_set collector (.counters member) value
instance (member : DdosMember) : Consumes (getCommon member) 0 :=
  @consumes_get collector (.common member)
instance (member : DdosMember) (value : DdosCommon) : Consumes (setCommon member value) 0 :=
  @consumes_set collector (.common member) value
instance (member : DdosMember) (field : String) (value : UInt64) :
    Consumes (setCounter member field value) 0 := by
  unfold setCounter
  infer_instance
instance (member : DdosMember) (change : DdosCommon → DdosCommon) :
    Consumes (modifyCommon member change) 0 := by
  unfold modifyCommon
  infer_instance
instance (table : NameTable) (names : List String) (index : UInt32) :
    Consumes (lookupName table names index) 0 := by
  unfold lookupName
  infer_instance
instance (fmt title : String) (table : NameTable) (names : List String) (index : UInt32) :
    Consumes (logNamed config fmt title table names index) 0 := by
  unfold logNamed
  infer_instance

/-- Both kinds of address take sixteen bytes. -/
instance (ipType : UInt32) : Consumes (getDDoSAddress ipType) 16 := by
  have rest : Consumes (skipBytes 12) 12 := consumes_skip 12 12 (by decide) (by decide) (by decide)
  have whole : Consumes (skipBytes 16) 16 := consumes_skip 16 16 (by decide) (by decide) (by decide)
  have octets : Consumes getData32Nobswap 4 := consumes_take 4
  unfold getDDoSAddress
  exact consumes_ite _ _ _ 16 (by infer_instance) (by infer_instance)

instance (member : DdosMember) (name fieldName : String) :
    Consumes (storeField config member (name, .next16 fieldName)) 2 :=
  consumes_bind (sfLogNext16 config fieldName) _ 2 0
instance (member : DdosMember) (name fieldName : String) :
    Consumes (storeField config member (name, .next32 fieldName)) 4 :=
  consumes_bind (sfLogNext32 config fieldName) _ 4 0
instance (member : DdosMember) (name fieldName : String) :
    Consumes (storeField config member (name, .next64 fieldName)) 8 :=
  consumes_bind (sfLogNext64 config fieldName) _ 8 0

instance (member : DdosMember) : Consumes (storeFields config member []) 0 := consumes_pure ()
instance (member : DdosMember) (field : String × Field) (rest : List (String × Field))
    (size left : Nat) [Consumes (storeField config member field) size]
    [later : Consumes (storeFields config member rest) left] :
    Consumes (storeFields config member (field :: rest)) (size + left) :=
  @consumes_bind _ _ _ (storeField config member field) _ size left _ fun _ => later

end Sizes

section Stores

variable {config : SFConfig} {vars : Var → Prop}

/-- An operation that stores in these variables only. -/
def StoresOnly (vars : Var → Prop) : Op collector → Prop
  | .set var _ => vars var
  | _ => True

instance : Permits (StoresOnly vars) where
  take _ _ := trivial
  skip _ := trivial
  errout _ := trivial
  note _ _ _ _ _ := trivial
  abort _ _ := trivial
instance : PermitsNames (StoresOnly vars) where
  lookup _ _ := trivial
instance : PermitsLog config (StoresOnly vars) where
  log _ _ := trivial
instance : PermitsOctets (StoresOnly vars) where
  take _ := trivial

/-- A variable among those that may be stored in. -/
class MayStore (vars : Var → Prop) (var : Var) : Prop where
  may : vars var

instance (member : DdosMember) [counters : MayStore vars (.counters member)] (field : String)
    (value : UInt64) : Uses (StoresOnly vars) (setCounter member field value) := by
  have read : Uses (StoresOnly vars) (getCounters member) := uses_single _ trivial
  have stored (value : String → UInt64) : Uses (StoresOnly vars) (setCounters member value) :=
    uses_single _ counters.may
  unfold setCounter
  infer_instance
instance (member : DdosMember) [common : MayStore vars (.common member)]
    (change : DdosCommon → DdosCommon) :
    Uses (StoresOnly vars) (modifyCommon member change) := by
  have read : Uses (StoresOnly vars) (getCommon member) := uses_single _ trivial
  have stored (value : DdosCommon) : Uses (StoresOnly vars) (setCommon member value) :=
    uses_single _ common.may
  unfold modifyCommon
  infer_instance
instance (table : NameTable) (names : List String) (index : UInt32) :
    Uses (StoresOnly vars) (lookupName table names index) := by
  unfold lookupName
  infer_instance
instance (fmt title : String) (table : NameTable) (names : List String) (index : UInt32) :
    Uses (StoresOnly vars) (logNamed config fmt title table names index) := by
  unfold logNamed
  infer_instance
instance (ipType : UInt32) : Uses (StoresOnly vars) (getDDoSAddress ipType) := by
  unfold getDDoSAddress
  infer_instance
instance (member : DdosMember) [MayStore vars (.counters member)]
    (fields : List (String × Field)) :
    Uses (StoresOnly vars) (storeFields config member fields) := by
  have stored (field : String × Field) :
      Uses (StoresOnly vars) (storeField config member field) := by
    unfold storeField
    split <;> infer_instance
  unfold storeFields
  infer_instance

/-- What belongs to an element of an array. -/
abbrev ElementVar (member : DdosMember) (var : Var) : Prop := var = .counters member

instance (member : DdosMember) : MayStore (ElementVar member) (.counters member) := ⟨rfl⟩

/-! Counted once for each way it is handed on, as before. -/
set_option synthInstance.maxSize 1000000000000

instance [MayStore vars (.common .entry)] :
    Uses (StoresOnly vars) (readCountersDdosIpCounterHeader config) := by
  unfold readCountersDdosIpCounterHeader
  infer_instance
instance (member : DdosMember) [MayStore vars (.counters member)] :
    Uses (StoresOnly vars) (readCountersDdosIpCounterResStat config member) := by
  unfold readCountersDdosIpCounterResStat
  infer_instance

theorem array_stores (readElement : Nat → Decode Unit)
    (each : ∀ index, Uses (StoresOnly vars) (readElement index)) (remaining index : Nat) :
    Uses (StoresOnly vars) (readEntryArray readElement remaining index) := by
  have turn : Uses (StoresOnly vars) (@Decoder.note collector .iteration) := uses_single _ trivial
  induction remaining generalizing index with
  | zero => exact .pure ()
  | succ remaining ih =>
      unfold readEntryArray
      infer_instance

/-- An element of the protocol array stores in its place of the array only. -/
theorem protocol_stores (index : Nat) :
    Uses (StoresOnly (ElementVar (.entryStat index))) (readCountersDdosProtocol config index) := by
  have noted : Uses (StoresOnly (ElementVar (.entryStat index)))
      (@Decoder.note collector (.statStore index)) := uses_single _ trivial
  unfold readCountersDdosProtocol
  infer_instance

theorem app_stores (index : Nat) :
    Uses (StoresOnly (ElementVar (.entryAppStat index))) (readCountersDdosApp config index) := by
  have noted : Uses (StoresOnly (ElementVar (.entryAppStat index)))
      (@Decoder.note collector (.appStatStore index)) := uses_single _ trivial
  unfold readCountersDdosApp
  infer_instance

instance : Consumes (readCountersDdosIpCounterHeader config) 48 := by
  unfold readCountersDdosIpCounterHeader
  infer_instance
instance (member : DdosMember) : Consumes (readCountersDdosIpCounterResStat config member) 64 := by
  unfold readCountersDdosIpCounterResStat
  infer_instance
instance (index : Nat) : Consumes (readCountersDdosProtocol config index) 80 := by
  unfold readCountersDdosProtocol
  infer_instance
instance (index : Nat) : Consumes (readCountersDdosApp config index) 80 := by
  unfold readCountersDdosApp
  infer_instance

end Stores

section Arrays

variable {config : SFConfig} {buffer : Buffer} {sample : SFSample}

/-- The entry of the sample: its header and counts, four protocols and three applications. -/
def EntryVar : Var → Prop
  | .common .entry | .counters .entry => True
  | .counters (.entryStat index) => index < 4
  | .counters (.entryAppStat index) => index < 3
  | _ => False

instance : MayStore EntryVar (.common .entry) := ⟨trivial⟩
instance : MayStore EntryVar (.counters .entry) := ⟨trivial⟩

/-- Nothing is stored outside the entry. -/
abbrev StoresInEntry {α : Type} (buffer : Buffer) (program : Decode α) (sample : SFSample) : Prop :=
  Along buffer (fun _ op => StoresOnly EntryVar op) program sample

theorem StoresOnly.mono {strong weak : Var → Prop} (implies : ∀ var, strong var → weak var)
    (op : Op collector) (only : StoresOnly strong op) : StoresOnly weak op := by
  cases op with
  | set var value => exact implies var only
  | _ => trivial

theorem element_stores_inside {program : Decode Unit} (member : DdosMember)
    (inside : EntryVar (.counters member)) (uses : Uses (StoresOnly (ElementVar member)) program) :
    StoresInEntry buffer program sample := by
  apply Uses.along
  apply uses.mono
  apply StoresOnly.mono
  intro var same
  rw [same]
  exact inside

theorem setCounter_outside (member : DdosMember) (outside : ¬EntryVar (.counters member))
    (field : String) (value : UInt64) : ¬StoresInEntry buffer (setCounter member field value) sample :=
  fun stores => outside stores.2.1

/-- An element without a place in its array is stored as soon as its first word is there. -/
theorem element_stores_outside (member : DdosMember) (outside : ¬EntryVar (.counters member))
    (mark : Note) (noted : StoresOnly EntryVar (@Op.note collector mark)) (fmt title field : String)
    (table : NameTable) (names : List String) (next : UInt32 → Decode Unit) :
    StoresInEntry buffer (do
      @Decoder.note collector mark
      let value ← getData32
      logNamed config fmt title table names value
      setCounter member field value.toUInt64
      next value) sample ↔ ¬sample.cursor + 4 ≤ buffer.length := by
  have first : StoresInEntry buffer (@Decoder.note collector mark) sample :=
    (uses_single (Op.note mark) noted).along buffer sample
  have second (sample : SFSample) : StoresInEntry buffer getData32 sample :=
    Uses.along inferInstance buffer sample
  have third (value : UInt32) (sample : SFSample) :
      StoresInEntry buffer (logNamed config fmt title table names value) sample :=
    Uses.along inferInstance buffer sample
  refine (along_behind _ _ 0 first (¬sample.cursor + 4 ≤ buffer.length) ?_).trans ?_
  · intro _ _ marked _ place
    refine (along_behind _ _ 4 (second marked) False ?_).trans ?_
    · intro _ value behind _ _
      refine (along_behind _ _ 0 (third value behind) False ?_).trans ?_
      · intro _ _ logged _ _
        rw [Decoder.bind_eq, along_bind]
        exact ⟨fun stores => setCounter_outside member outside _ _ stores.1, False.elim⟩
      · exact ⟨fun never => never (.inl rfl), False.elim⟩
    · simp [Room, place]
  · exact ⟨fun unplaced => unplaced (.inl rfl), fun unplaced _ => unplaced⟩

theorem consumes_array (readElement : Nat → Decode Unit) (size : Nat)
    [element : ∀ index, Consumes (readElement index) size] (remaining index : Nat) :
    Consumes (readEntryArray readElement remaining index) (size * remaining) := by
  induction remaining generalizing index with
  | zero => exact consumes_pure ()
  | succ remaining ih =>
      have rest := ih (index + 1)
      have whole : size * (remaining + 1) = size + (0 + size * remaining) := by
        rw [Nat.mul_succ]
        omega
      rw [whole]
      unfold readEntryArray
      infer_instance

/-- The loop over an array of `limit` places stores inside the entry until it comes to an
element without one. -/
theorem array_stores_iff (readElement : Nat → Decode Unit) (limit size : Nat) (positive : 4 ≤ size)
    [element : ∀ index, Consumes (readElement index) size]
    (inside : ∀ index < limit, ∀ sample, StoresInEntry buffer (readElement index) sample)
    (outside : ∀ sample, StoresInEntry buffer (readElement limit) sample ↔
      ¬sample.cursor + 4 ≤ buffer.length)
    (remaining index : Nat) (known : index ≤ limit) (sample : SFSample) :
    StoresInEntry buffer (readEntryArray readElement remaining index) sample ↔
      (limit < index + remaining →
        buffer.length < sample.cursor + size * (limit - index) + 4) := by
  induction remaining generalizing index sample with
  | zero => exact iff_of_true trivial fun more => absurd more (by omega)
  | succ remaining ih =>
      have turn (middle : SFSample) : StoresInEntry buffer (@Decoder.note collector .iteration) middle :=
        (uses_single (@Op.note collector .iteration) trivial).along buffer middle
      rcases Nat.lt_or_eq_of_le known with more | full
      · -- The element has a place, and the loop goes on behind it.
        have left : size * (limit - index) = size + size * (limit - (index + 1)) := by
          have one : limit - index = limit - (index + 1) + 1 := by omega
          rw [one, Nat.mul_succ, Nat.add_comm]
        unfold readEntryArray
        refine (along_behind _ _ size (inside index more sample) (limit < index + 1 + remaining →
          buffer.length < sample.cursor + size + size * (limit - (index + 1)) + 4) ?_).trans ?_
        · intro _ _ middle _ place
          refine (along_behind _ _ 0 (turn middle) (limit < index + 1 + remaining →
            buffer.length < sample.cursor + size + size * (limit - (index + 1)) + 4) ?_).trans ?_
          · intro _ _ counted _ behind
            have same : counted.cursor = sample.cursor + size := behind.trans place
            rw [← same]
            exact ih (index + 1) more counted
          · exact ⟨fun stores => stores (.inl rfl), fun stores _ => stores⟩
        · unfold Room
          rw [left]
          omega
      · -- The element has none: the run stops in front of it or stores outside.
        subst full
        unfold readEntryArray
        rw [StoresInEntry, Decoder.bind_eq, along_bind, Nat.sub_self, Nat.mul_zero]
        constructor
        · intro stores _
          have unplaced := (outside sample).mp stores.1
          omega
        · intro short
          have unplaced := short (by omega)
          obtain ⟨reason, stopped⟩ := (element index).stops buffer sample (by unfold Room; omega)
          refine ⟨(outside sample).mpr (by omega), ?_⟩
          rw [Run.Returning, stopped]
          trivial

end Arrays

section Entry

variable {config : SFConfig} {buffer : Buffer} {sample : SFSample}

/-- Either the count at `place` is no more than the places of the array or the datagram ends
before the first word of the element behind the array's end. -/
def CountFits (buffer : Buffer) (limit place : Nat) : Prop :=
  place + 4 ≤ buffer.length → limit < (wordFrom buffer place).toNat →
    buffer.length < place + 4 + 80 * limit + 4

/-- Where the entry record has the count of its protocols. -/
def protoPlace (sample : SFSample) : Nat := sample.cursor + 48

/-- Where it has the count of its applications. -/
def appPlace (buffer : Buffer) (sample : SFSample) : Nat :=
  protoPlace sample + 4 + 80 * (wordFrom buffer (protoPlace sample)).toNat

/-- Behind a count the decode goes on with its value. -/
theorem behind_count_stores_iff (title field : String) (next : UInt32 → Decode Unit) (rest : Prop)
    (later : ∀ middle : SFSample, middle.cursor = sample.cursor + 4 →
      (StoresInEntry buffer (next (wordFrom buffer sample.cursor)) middle ↔ rest)) :
    StoresInEntry buffer (do
      let count ← getData32
      sfLog config "%-35s %u\n" [.name title, .word count]
      setCounter .entry field count.toUInt64
      next count) sample ↔ (sample.cursor + 4 ≤ buffer.length → rest) := by
  have first : StoresInEntry buffer getData32 sample := Uses.along inferInstance buffer sample
  have second (count : UInt32) (sample : SFSample) : StoresInEntry buffer
      (sfLog config "%-35s %u\n" [.name title, .word count]) sample :=
    Uses.along inferInstance buffer sample
  have third (count : UInt32) (sample : SFSample) :
      StoresInEntry buffer (setCounter .entry field count.toUInt64) sample :=
    Uses.along inferInstance buffer sample
  refine (along_behind _ _ 4 first rest ?_).trans (by simp [Room])
  intro room count behind read place
  have known : count = wordFrom buffer sample.cursor := by
    have taken := read.outcome
    rw [run_getData32 (room.resolve_left (by decide))] at taken
    exact (Except.ok.inj taken).symm
  refine (along_behind _ _ 0 (second count behind) rest ?_).trans (by simp [Room])
  intro _ _ logged _ same
  refine (along_behind _ _ 0 (third count logged) rest ?_).trans (by simp [Room])
  intro _ _ stored _ kept
  subst known
  apply later
  omega

theorem protocols_store_iff (remaining : Nat) :
    StoresInEntry buffer (readEntryArray (readCountersDdosProtocol config) remaining 0) sample ↔
      (4 < remaining → buffer.length < sample.cursor + 80 * 4 + 4) := by
  refine (array_stores_iff _ 4 80 (by decide) ?_ ?_ remaining 0 (by decide) sample).trans ?_
  · intro index inside sample
    exact element_stores_inside (.entryStat index) inside (protocol_stores index)
  · intro sample
    exact element_stores_outside (.entryStat 4) (Nat.lt_irrefl 4) _ trivial _ _ _ _ _ _
  · rw [Nat.zero_add]

theorem apps_store_iff (remaining : Nat) :
    StoresInEntry buffer (readEntryArray (readCountersDdosApp config) remaining 0) sample ↔
      (3 < remaining → buffer.length < sample.cursor + 80 * 3 + 4) := by
  refine (array_stores_iff _ 3 80 (by decide) ?_ ?_ remaining 0 (by decide) sample).trans ?_
  · intro index inside sample
    exact element_stores_inside (.entryAppStat index) inside (app_stores index)
  · intro sample
    exact element_stores_outside (.entryAppStat 3) (Nat.lt_irrefl 3) _ trivial _ _ _ _ _ _
  · rw [Nat.zero_add]

/-- The two arrays behind the header. -/
theorem arrays_store_iff (sample : SFSample) :
    StoresInEntry buffer (do
      let protoNum ← getData32
      sfLog config "%-35s %u\n" [.name "Protocol Num:", .word protoNum]
      setCounter .entry "proto_num" protoNum.toUInt64
      readEntryArray (readCountersDdosProtocol config) protoNum.toNat 0
      let appNum ← getData32
      sfLog config "%-35s %u\n" [.name "App Num:", .word appNum]
      setCounter .entry "app_num" appNum.toUInt64
      readEntryArray (readCountersDdosApp config) appNum.toNat 0) sample ↔
      CountFits buffer 4 sample.cursor ∧
        CountFits buffer 3 (sample.cursor + 4 + 80 * (wordFrom buffer sample.cursor).toNat) := by
  refine (behind_count_stores_iff "Protocol Num:" "proto_num" _
    ((4 < (wordFrom buffer sample.cursor).toNat → buffer.length < sample.cursor + 4 + 80 * 4 + 4) ∧
      (80 * (wordFrom buffer sample.cursor).toNat = 0 ∨
        sample.cursor + 4 + 80 * (wordFrom buffer sample.cursor).toNat ≤ buffer.length →
        CountFits buffer 3 (sample.cursor + 4 + 80 * (wordFrom buffer sample.cursor).toNat)))
    fun middle place => ?_).trans ?_
  · have protocols := consumes_array (readCountersDdosProtocol config) 80
      (wordFrom buffer sample.cursor).toNat 0
    refine (along_then _ _ _ (CountFits buffer 3 (sample.cursor + 4 +
      80 * (wordFrom buffer sample.cursor).toNat)) ?_).trans ?_
    · intro _ _ behind _ later
      rw [place] at later
      rw [← later]
      refine behind_count_stores_iff "App Num:" "app_num" _ _ fun last counted => ?_
      rw [← counted]
      exact apps_store_iff _
    · rw [Room, ← place]
      exact and_congr_left' (protocols_store_iff _)
  · unfold CountFits
    omega

/-- The entry record stores in the entry only where both of its counts fit. -/
theorem entry_stores_iff :
    StoresInEntry buffer (readCountersDdosIpCounter config) sample ↔
      CountFits buffer 4 (protoPlace sample) ∧ CountFits buffer 3 (appPlace buffer sample) := by
  have header : StoresInEntry buffer (readCountersDdosIpCounterHeader config) sample :=
    Uses.along inferInstance buffer sample
  refine (along_behind _ _ 48 header (CountFits buffer 4 (protoPlace sample) ∧
    CountFits buffer 3 (appPlace buffer sample)) fun _ _ counted _ place => ?_).trans ?_
  · rw [appPlace, protoPlace, ← place]
    exact arrays_store_iff counted
  · unfold CountFits Room appPlace protoPlace
    omega

/-- What is stored outside of what may be stored in is what was there. -/
theorem stores_keep {α : Type} {program : Decode α} {vars : Var → Prop}
    (stores : Along buffer (fun _ op => StoresOnly vars op) program sample) (var : Var)
    (outside : ¬vars var) : (run buffer program sample).state.store var = sample.store var :=
  (along_invariant buffer (fun state => state.store var = sample.store var) _
    (fun state op kept only => (perform_store buffer op var
      (fun value same => outside (same ▸ only : StoresOnly vars (.set var value))) state).trans kept)
    program sample rfl stores).2

/-- An array takes its bytes and leaves the counts as they are. -/
theorem array_returning (readElement : Nat → Decode Unit) (element : Nat → DdosMember)
    [∀ index, Consumes (readElement index) 80] (other : ∀ index, element index ≠ .entry)
    (stores : ∀ index, Uses (StoresOnly (ElementVar (element index))) (readElement index))
    (remaining : Nat) (sample : SFSample) :
    (run buffer (readEntryArray readElement remaining 0) sample).Returning fun _ final =>
      final.cursor = sample.cursor + 80 * remaining ∧
        (80 * remaining = 0 ∨ sample.cursor + 80 * remaining ≤ buffer.length) ∧
        countersOf final .entry = countersOf sample .entry := by
  have keeps (index : Nat) : Uses (StoresOnly fun var => var ≠ .counters .entry) (readElement index) := by
    apply (stores index).mono
    apply StoresOnly.mono
    intro var same counters
    rw [counters] at same
    exact other index (Var.counters.inj same).symm
  have same := uses_keeps (StoresOnly fun var => var ≠ .counters .entry) (.counters .entry)
    (fun _ allowed => allowed rfl) buffer _ (array_stores readElement keeps remaining 0) sample
  have consumes := consumes_array readElement 80 remaining 0
  have whole : (run buffer (readEntryArray readElement remaining 0) sample).Returning fun _ final =>
      Room buffer sample (80 * remaining) ∧ final.cursor = sample.cursor + 80 * remaining :=
    consumes_returning (readEntryArray readElement remaining 0) (80 * remaining)
  unfold Run.Returning at whole ⊢
  split at whole
  · exact ⟨whole.2, whole.1, same⟩
  · trivial

theorem count_returning (title field : String) (next : UInt32 → Decode Unit)
    (final : Unit → SFSample → Prop)
    (later : sample.cursor + 4 ≤ buffer.length → ∀ middle : SFSample, middle.cursor = sample.cursor + 4 →
      countersOf middle .entry = Function.update (countersOf sample .entry) field
        (wordFrom buffer sample.cursor).toUInt64 →
      (run buffer (next (wordFrom buffer sample.cursor)) middle).Returning final) :
    (run buffer (do
      let count ← getData32
      sfLog config "%-35s %u\n" [.name title, .word count]
      setCounter .entry field count.toUInt64
      next count) sample).Returning final := by
  by_cases room : sample.cursor + 4 ≤ buffer.length
  · apply returning_behind buffer _
      ⟨congrArg Run.outcome (run_getData32 room), congrArg Run.state (run_getData32 room)⟩
    apply returning_behind buffer _ (yields_sfLog buffer _ _ _)
    apply returning_behind buffer _ (yields_setCounter .entry field _)
    apply later room
    · rfl
    · exact countersOf_holding _ _ _
  · rw [run_seq, run_getData32_stops room]
    trivial

/-- What the run has come to where it returns: all elements were received, and the counts are
those of the datagram. -/
structure EntryDone (buffer : Buffer) (sample final : SFSample) : Prop where
  received : appPlace buffer sample + 4 + 80 * (wordFrom buffer (appPlace buffer sample)).toNat ≤
    buffer.length
  protoNum : countersOf final .entry "proto_num" =
    (wordFrom buffer (protoPlace sample)).toUInt64
  appNum : countersOf final .entry "app_num" = (wordFrom buffer (appPlace buffer sample)).toUInt64

theorem entry_returning : (run buffer (readCountersDdosIpCounter config) sample).Returning
    fun _ final => EntryDone buffer sample final := by
  unfold readCountersDdosIpCounter
  rw [run_seq]
  apply (consumes_returning (readCountersDdosIpCounterHeader config) 48).bind
  intro _ counted ⟨_, place⟩
  have first : protoPlace sample = counted.cursor := place.symm
  apply count_returning
  intro _ protocols atProtocols protoNum
  rw [run_seq]
  apply (array_returning (readCountersDdosProtocol config) .entryStat (fun _ => nofun)
    protocol_stores _ protocols).bind
  intro _ last ⟨behind, _, same⟩
  have second : appPlace buffer sample = last.cursor := by
    rw [behind, atProtocols, appPlace, first]
  apply count_returning
  intro room apps atApps appNum
  apply (array_returning (readCountersDdosApp config) .entryAppStat (fun _ => nofun)
    app_stores _ apps).mono
  intro _ final ⟨_, fits, kept⟩
  have other : "proto_num" ≠ "app_num" := by decide
  constructor
  · rw [second]
    omega
  · rw [kept, appNum, Function.update_of_ne other, same, protoNum, Function.update_self, first]
  · rw [kept, appNum, Function.update_self, second]

/-- The decode of an entry record keeps to the entry: nothing outside is stored or changed, and
it returns only with counts that the arrays have places for, which it leaves as decoded. -/
structure EntryKept (config : SFConfig) (buffer : Buffer) (sample : SFSample) : Prop where
  stores : StoresInEntry buffer (readCountersDdosIpCounter config) sample
  rest : ∀ var, ¬EntryVar var →
    (run buffer (readCountersDdosIpCounter config) sample).state.store var = sample.store var
  decoded : (run buffer (readCountersDdosIpCounter config) sample).Returning fun _ final =>
    EntryDone buffer sample final
  rejected : (run buffer (readCountersDdosIpCounter config) sample).Returning fun _ _ =>
    (wordFrom buffer (protoPlace sample)).toNat ≤ 4 ∧ (wordFrom buffer (appPlace buffer sample)).toNat ≤ 3

/-- The entry is kept to exactly where both counts fit. -/
theorem entry_kept_iff (config : SFConfig) (buffer : Buffer) (sample : SFSample) :
    EntryKept config buffer sample ↔
      CountFits buffer 4 (protoPlace sample) ∧ CountFits buffer 3 (appPlace buffer sample) := by
  constructor
  · intro kept
    exact entry_stores_iff.mp kept.stores
  · intro fits
    have stores : StoresInEntry buffer (readCountersDdosIpCounter config) sample :=
      entry_stores_iff.mpr fits
    refine ⟨stores, fun var outside => stores_keep stores var outside, entry_returning, ?_⟩
    apply entry_returning.mono
    intro _ final done
    have received := done.received
    unfold CountFits appPlace at fits
    unfold appPlace at received ⊢
    omega

/-- An entry record of five protocols and no application, all of it received. -/
def fiveProtocols : Buffer :=
  datagramOf (List.replicate 12 0 ++ [5] ++ List.replicate 100 0 ++ [0])

/-- The fifth protocol is stored behind the array. -/
theorem fifth_protocol_outside :
    ¬∀ (config : SFConfig) (buffer : Buffer) (sample : SFSample), EntryKept config buffer sample := by
  intro kept
  have few (buffer : Buffer) (returned : (run buffer (readCountersDdosIpCounter (defaultConfig .line))
      firstSample).outcome = .ok ()) : (wordFrom buffer (protoPlace firstSample)).toNat ≤ 4 :=
    ((kept (defaultConfig .line) buffer firstSample).rejected.of_ok returned).1
  exact absurd (few fiveProtocols (by decide +kernel)) (by decide +kernel)

end Entry

end SflowTool
