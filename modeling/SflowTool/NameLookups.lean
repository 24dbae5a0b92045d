import SflowTool.RecordStrings
import SflowTool.SampleUses

/-! The lookups of names. Six tables are indexed with words of the datagram as they come; only
an application type is compared with the size of its table first. A record keeps to the tables
exactly where its own words do. -/
namespace SflowTool
open Decoding Decoding.Decoder

section Tables

def sfHttpMethodNames : List String :=
  ["-", "OPTIONS", "GET", "HEAD", "POST", "PUT", "DELETE", "TRACE", "CONNECT"]

def sflAppStatusNames : List String :=
  ["SUCCESS", "OTHER", "TIMEOUT", "INTERNAL_ERROR", "BAD_REQUEST", "FORBIDDEN", "TOO_LARGE",
   "NOT_IMPLEMENTED", "NOT_FOUND", "UNAVAILABLE", "UNATHORIZED"]

def namesOf : NameTable → List String
  | .httpMethod => sfHttpMethodNames
  | .appStatus => sflAppStatusNames
  | .ddosProto => ddosProtoStr
  | .ddosState => ddosStateFlag
  | .ddosTableType => ddosTableType
  | .ddosIpType => ddosIpType

/-- The table has a name for the index. -/
def NameTable.Names (table : NameTable) (index : UInt32) : Prop :=
  index.toNat < (namesOf table).length

instance (table : NameTable) (index : UInt32) : Decidable (table.Names index) := by
  unfold NameTable.Names
  infer_instance

/-- A name is looked up inside its table. -/
def NamesInside (_ : SFSample) : Op collector → Prop
  | .note (.lookup table index) => table.Names index
  | _ => True

end Tables

section Shuns

/-- The notes that begin an element of a sample. -/
def Note.ofElement : Note → Bool
  | .flowElement _ _ | .counterElement _ _ => true
  | _ => false

/-- A kind of notes that are lookups of names or beginnings of elements. -/
class Elementary (kind : Note → Bool) : Prop where
  plain : ∀ mark : Note, mark.ofName = false → mark.ofElement = false → kind mark = false

instance : Elementary Note.ofName := ⟨fun _ unnamed _ => unnamed⟩
instance : Elementary Note.ofElement := ⟨fun _ _ inner => inner⟩
instance : Elementary fun mark => mark.ofName || mark.ofElement :=
  ⟨fun _ unnamed inner => by rw [unnamed, inner]; rfl⟩

/-- Operations that make no note of a kind. -/
def Shuns (kind : Note → Bool) : Op collector → Prop
  | .note mark => kind mark = false
  | _ => True

variable {config : SFConfig} {kind : Note → Bool} [elementary : Elementary kind]

instance : Permits (Shuns kind) where
  take _ _ := trivial
  skip _ := trivial
  errout _ := trivial
  note mark unframed _ unnamed _ := elementary.plain mark unnamed (by cases mark <;> first | rfl | cases unframed)
  abort _ _ := trivial
instance : PermitsFilter (Shuns kind) where
  lookup _ := elementary.plain _ rfl rfl
instance : PermitsNames (Shuns Note.ofElement) where
  lookup _ _ := rfl
instance : PermitsState (Shuns kind) where
  get _ := trivial
  set _ _ := trivial
  mark _ _ := trivial
  peek _ _ _ := trivial
  since _ := trivial
instance : PermitsLog config (Shuns kind) where
  log _ _ := trivial
instance : PermitsOctets (Shuns kind) where
  take _ := trivial
instance : PermitsIteration (Shuns kind) where
  note := elementary.plain _ rfl rfl
instance : PermitsHeader (Shuns kind) where
  note _ := elementary.plain _ rfl rfl
  exit _ := trivial
instance : PermitsReport (Shuns kind) where
  survey := trivial
  report _ _ _ _ := trivial
instance : PermitsPrint (Shuns kind) where
  print _ := trivial
instance : PermitsMetrics (Shuns kind) where
  opentsdb _ := trivial
instance : PermitsJump (Shuns kind) where
  jump _ := trivial
instance : PermitsFlexible (Shuns kind) where
  peekText _ _ := trivial
  write _ _ _ := trivial
  writeObject _ _ _ _ := trivial
  read _ _ := trivial
instance : PermitsNetFlow (Shuns kind) where
  tick _ := trivial
  netFlow _ := trivial
  netFlowSpoofed _ _ := trivial
instance : PermitsRecords config (Shuns kind) where
  record _ _ _ := trivial
instance : Uses (Shuns kind) (@Decoder.survey collector) := uses_single _ trivial
instance (name : Mark) : Uses (Shuns kind) (@Decoder.mark collector name) := uses_single _ trivial
instance : Uses (Shuns kind) (@Decoder.note collector .flowElementEnd) :=
  uses_single _ (elementary.plain _ rfl rfl)
instance : Uses (Shuns kind) (@Decoder.note collector .flowSampleEnd) :=
  uses_single _ (elementary.plain _ rfl rfl)
instance : Uses (Shuns kind) (@Decoder.note collector .counterElementEnd) :=
  uses_single _ (elementary.plain _ rfl rfl)
instance : Uses (Shuns kind) (@Decoder.note collector .countersSampleEnd) :=
  uses_single _ (elementary.plain _ rfl rfl)
instance (index : Nat) : Uses (Shuns kind) (@Decoder.note collector (.statStore index)) :=
  uses_single _ (elementary.plain _ rfl rfl)
instance (index : Nat) : Uses (Shuns kind) (@Decoder.note collector (.appStatStore index)) :=
  uses_single _ (elementary.plain _ rfl rfl)

/-- Whatever the datagram, the program looks up inside the tables. -/
abbrev KeepsToNames {α : Type} (program : Decode α) : Prop :=
  Grants (fun _ _ _ => True) (fun _ => NamesInside) program

instance (priority := low) keepsToNames_of_shuns {α : Type} (program : Decode α)
    [uses : Uses (Shuns Note.ofName) program] : KeepsToNames program :=
  uses.grants fun _ state op allow => by
    cases op with
    | note mark =>
        cases mark with
        | lookup table index => cases allow
        | _ => trivial
    | _ => trivial

end Shuns

/-! Counted once for each way it is handed on, as before. -/
set_option synthInstance.maxSize 1000000000000

section Lookups

variable {config : SFConfig} {buffer : Buffer} {sample : SFSample}

/-- The program looks up inside the tables. -/
abbrev LooksUpNames {α : Type} (buffer : Buffer) (program : Decode α) (sample : SFSample) : Prop :=
  Along buffer NamesInside program sample

theorem looksUp_logNamed (fmt title : String) (table : NameTable) (names : List String)
    (index : UInt32) : LooksUpNames buffer (logNamed config fmt title table names index) sample ↔
      table.Names index := by
  unfold logNamed lookupName
  rw [LooksUpNames, Decoder.bind_eq, along_bind]
  constructor
  · intro looks
    exact looks.1.1
  · intro inside
    exact ⟨⟨inside, trivial⟩, @along_granted _ _ (fun _ => NamesInside) buffer _ _ inferInstance⟩

/-- The application type is compared with the size of its table. -/
instance (appType : UInt32) : KeepsToNames (printAppType appType) where
  grants buffer sample _ := by
    unfold printAppType Decoder.when
    split
    · rename_i known
      have inside : NameTable.ddosProto.Names appType := Nat.lt_succ_of_le (UInt32.le_iff_toNat_le.mp known)
      exact ⟨inside, trivial, trivial⟩
    · trivial

/-- Behind a number that was received the decode goes on with it. -/
theorem looksUp_read (program : Decode UInt32) (size : Nat) (value : UInt32)
    [KeepsToNames program] [consumes : Consumes program size] (positive : 0 < size)
    (read : sample.cursor + size ≤ buffer.length →
      (run buffer program sample).Yields value (State.moved sample size))
    (next : UInt32 → Decode Unit) (rest : Prop)
    (later : ∀ middle : SFSample, middle.cursor = sample.cursor + size →
      (LooksUpNames buffer (next value) middle ↔ rest)) :
    LooksUpNames buffer (program >>= next) sample ↔ (sample.cursor + size ≤ buffer.length → rest) := by
  have quiet : LooksUpNames buffer program sample :=
    @along_granted _ _ (fun _ => NamesInside) buffer _ _ inferInstance
  refine (along_behind _ next size quiet rest fun room other middle yielded place => ?_).trans ?_
  · have same := yielded.outcome.symm.trans (read (room.resolve_left (by omega))).outcome
    cases same
    exact later middle place
  · constructor
    · intro met room
      exact met (.inr room)
    · intro met room
      exact met (room.resolve_left (by omega))

theorem looksUp_word (next : UInt32 → Decode Unit) (rest : Prop)
    (later : ∀ middle : SFSample, middle.cursor = sample.cursor + 4 →
      (LooksUpNames buffer (next (wordFrom buffer sample.cursor)) middle ↔ rest)) :
    LooksUpNames buffer (getData32 >>= next) sample ↔ (sample.cursor + 4 ≤ buffer.length → rest) :=
  looksUp_read getData32 4 _ (by decide)
    (fun room => ⟨congrArg Run.outcome (run_wordFrom room), congrArg Run.state (run_wordFrom room)⟩)
    next rest later

/-- The byte at a place. -/
def octetFrom (buffer : Buffer) (place : Nat) : UInt32 :=
  UInt32.ofNat (beNat (buffer.slice place 1))

instance : Consumes getDataU8 1 := consumes_bind (@Decoder.take collector 1) _ 1 0

theorem looksUp_octet (next : UInt32 → Decode Unit) (rest : Prop)
    (later : ∀ middle : SFSample, middle.cursor = sample.cursor + 1 →
      (LooksUpNames buffer (next (octetFrom buffer sample.cursor)) middle ↔ rest)) :
    LooksUpNames buffer (getDataU8 >>= next) sample ↔ (sample.cursor + 1 ≤ buffer.length → rest) :=
  looksUp_read getDataU8 1 _ (by decide)
    (fun room => yields_bind buffer _ _ (yields_take buffer 1 sample room) (yields_pure buffer _ _))
    next rest later

theorem looksUp_named (fmt title : String) (table : NameTable) (names : List String)
    (index : UInt32) (next : Unit → Decode Unit) (rest : Prop)
    (later : ∀ middle : SFSample, middle.cursor = sample.cursor →
      (LooksUpNames buffer (next ()) middle ↔ rest)) :
    LooksUpNames buffer (logNamed config fmt title table names index >>= next) sample ↔
      table.Names index ∧ rest := by
  refine (along_then _ next 0 rest fun _ _ middle _ place => later middle place).trans ?_
  apply and_congr (looksUp_logNamed fmt title table names index)
  exact ⟨fun met => met (.inl rfl), fun met _ => met⟩

/-- A program that takes nothing and looks up nothing. -/
theorem looksUp_still {α : Type} (program : Decode α) [KeepsToNames program] [Consumes program 0]
    (next : α → Decode Unit) (rest : Prop)
    (later : ∀ value, ∀ middle : SFSample, middle.cursor = sample.cursor →
      (LooksUpNames buffer (next value) middle ↔ rest)) :
    LooksUpNames buffer (program >>= next) sample ↔ rest := by
  have quiet : LooksUpNames buffer program sample :=
    @along_granted _ _ (fun _ => NamesInside) buffer _ _ inferInstance
  refine (along_behind _ next 0 quiet rest fun _ value middle _ place => later value middle place).trans ?_
  exact ⟨fun met => met (.inl rfl), fun met _ => met⟩

theorem looksUp_quiet {α : Type} (program : Decode α) [KeepsToNames program] :
    LooksUpNames buffer program sample ↔ True :=
  iff_true_intro (@along_granted _ _ (fun _ => NamesInside) buffer program sample inferInstance)

end Lookups

section Entries

variable {config : SFConfig} {buffer : Buffer} {sample : SFSample}

/-- The word at a place, if it was received, has a name. -/
def WordNames (buffer : Buffer) (place : Nat) (table : NameTable) : Prop :=
  place + 4 ≤ buffer.length → table.Names (wordFrom buffer place)

/-- The types of the table and of the address that a header begins with. -/
def HeaderNames (buffer : Buffer) (place : Nat) : Prop :=
  WordNames buffer place .ddosTableType ∧ WordNames buffer (place + 4) .ddosIpType

/-- The protocol and the state that an element of an array begins with. -/
def ElementNames (buffer : Buffer) (place : Nat) : Prop :=
  WordNames buffer place .ddosProto ∧ WordNames buffer (place + 4) .ddosState

/-- Two words with names, one behind the other, of which the first comes to bear first. -/
theorem two_words_iff (place : Nat) (first second : NameTable) :
    (place + 4 ≤ buffer.length → first.Names (wordFrom buffer place) ∧
      (place + 4 + 4 ≤ buffer.length → second.Names (wordFrom buffer (place + 4)))) ↔
      WordNames buffer place first ∧ WordNames buffer (place + 4) second := by
  unfold WordNames
  constructor
  · intro met
    exact ⟨fun room => (met room).1, fun room => (met (by omega)).2 room⟩
  · rintro ⟨one, two⟩ room
    exact ⟨one room, two⟩

instance (member : DdosMember) (change : DdosCommon → DdosCommon) :
    KeepsToNames (modifyCommon member change) := by
  have uses : Uses (Shuns Note.ofName) (modifyCommon member change) := by
    unfold modifyCommon
    infer_instance
  infer_instance

theorem looksUp_common (member : DdosMember) :
    LooksUpNames buffer (readCountersDdosIpCounterCommon config member) sample ↔
      HeaderNames buffer sample.cursor := by
  unfold readCountersDdosIpCounterCommon
  refine (looksUp_word _ _ fun read start => ?_).trans
    (two_words_iff sample.cursor .ddosTableType .ddosIpType)
  refine looksUp_named _ _ _ _ _ _ _ fun logged place => ?_
  refine looksUp_still _ _ _ fun _ stored same => ?_
  have behind : stored.cursor = sample.cursor + 4 := (same.trans place).trans start
  rw [← behind]
  refine looksUp_word _ _ fun _ _ => ?_
  exact (looksUp_named _ _ _ _ _ _ True fun _ _ => looksUp_quiet _).trans (and_iff_left trivial)

theorem looksUp_header :
    LooksUpNames buffer (readCountersDdosIpCounterHeader config) sample ↔
      HeaderNames buffer sample.cursor := by
  unfold readCountersDdosIpCounterHeader
  refine (looksUp_word _ _ fun read start => ?_).trans
    (two_words_iff sample.cursor .ddosTableType .ddosIpType)
  refine looksUp_still _ _ _ fun _ stored same => ?_
  refine looksUp_named _ _ _ _ _ _ _ fun logged place => ?_
  have behind : logged.cursor = sample.cursor + 4 := (place.trans same).trans start
  rw [← behind]
  refine looksUp_word _ _ fun _ _ => ?_
  refine looksUp_still _ _ _ fun _ _ _ => ?_
  exact (looksUp_named _ _ _ _ _ _ True fun _ _ => looksUp_quiet _).trans (and_iff_left trivial)

/-- An element of an array looks up its two words, whatever is stored of it. -/
theorem looksUp_element (mark : Note) (unnamed : mark.ofName = false) (member : DdosMember)
    (fmt title field stateFmt stateTitle stateField : String) (next : Decode Unit)
    [KeepsToNames next] :
    LooksUpNames buffer (do
      @Decoder.note collector mark
      let proto ← getData32
      logNamed config fmt title .ddosProto ddosProtoStr proto
      setCounter member field proto.toUInt64
      let state ← getData32
      logNamed config stateFmt stateTitle .ddosState ddosStateFlag state
      setCounter member stateField state.toUInt64
      next) sample ↔ ElementNames buffer sample.cursor := by
  have noted : Uses (Shuns Note.ofName) (@Decoder.note collector mark) := uses_single _ unnamed
  refine looksUp_still _ _ _ fun _ marked start => ?_
  rw [← start]
  refine (looksUp_word _ _ fun read begun => ?_).trans
    (two_words_iff marked.cursor .ddosProto .ddosState)
  refine looksUp_named _ _ _ _ _ _ _ fun logged place => ?_
  refine looksUp_still _ _ _ fun _ stored same => ?_
  have behind : stored.cursor = marked.cursor + 4 := (same.trans place).trans begun
  rw [← behind]
  refine looksUp_word _ _ fun _ _ => ?_
  exact (looksUp_named _ _ _ _ _ _ True fun _ _ => looksUp_quiet _).trans (and_iff_left trivial)

theorem elementNames_beyond {place : Nat} (beyond : ¬place + 4 ≤ buffer.length) :
    ElementNames buffer place :=
  ⟨fun room => absurd room beyond, fun room => absurd room (by omega)⟩

/-- The elements of an array are looked at one after the other. -/
theorem looksUp_array (readElement : Nat → Decode Unit)
    [∀ index, Consumes (readElement index) 80]
    (each : ∀ index (sample : SFSample),
      LooksUpNames buffer (readElement index) sample ↔ ElementNames buffer sample.cursor)
    (remaining index : Nat) (sample : SFSample) :
    LooksUpNames buffer (readEntryArray readElement remaining index) sample ↔
      ∀ later < remaining, ElementNames buffer (sample.cursor + 80 * later) := by
  induction remaining generalizing index sample with
  | zero => exact iff_of_true trivial fun later none => absurd none (Nat.not_lt_zero later)
  | succ remaining ih =>
      unfold readEntryArray
      have turn : KeepsToNames (@Decoder.note collector .iteration) := inferInstance
      refine (along_then _ _ 80 (∀ later < remaining,
        ElementNames buffer (sample.cursor + 80 + 80 * later)) fun _ _ middle _ place => ?_).trans ?_
      · rw [← place]
        refine looksUp_still _ _ _ fun _ counted same => ?_
        rw [← same]
        exact ih (index + 1) counted
      · rw [show Along buffer NamesInside (readElement index) sample ↔ _ from each index sample]
        constructor
        · rintro ⟨first, others⟩ later more
          cases later with
          | zero => exact first
          | succ later =>
              rw [Nat.mul_succ, Nat.add_comm (80 * later), ← Nat.add_assoc]
              by_cases room : sample.cursor + 80 ≤ buffer.length
              · exact others (.inr room) later (Nat.lt_of_succ_lt_succ more)
              · exact elementNames_beyond (by omega)
        · intro all
          refine ⟨all 0 (Nat.succ_pos remaining), fun _ later more => ?_⟩
          rw [Nat.add_assoc, Nat.add_comm 80, ← Nat.mul_succ]
          exact all (later + 1) (Nat.succ_lt_succ more)

/-- The elements of the array whose count is at a place. -/
def ArrayNames (buffer : Buffer) (place : Nat) : Prop :=
  ∀ index < (wordFrom buffer place).toNat, ElementNames buffer (place + 4 + 80 * index)

theorem arrayNames_beyond {place : Nat} (beyond : ¬place + 4 ≤ buffer.length) :
    ArrayNames buffer place :=
  fun _ _ => elementNames_beyond (by omega)

/-- The header, the protocols and the applications of an entry record. -/
structure EntryNames (buffer : Buffer) (place : Nat) : Prop where
  header : HeaderNames buffer place
  protocols : ArrayNames buffer (place + 48)
  apps : ArrayNames buffer (place + 48 + 4 + 80 * (wordFrom buffer (place + 48)).toNat)

/-- An array behind its count. -/
theorem looksUp_counted (title field : String) (readElement : Nat → Decode Unit)
    [∀ index, Consumes (readElement index) 80]
    (each : ∀ index (sample : SFSample),
      LooksUpNames buffer (readElement index) sample ↔ ElementNames buffer sample.cursor)
    (next : Decode Unit) (rest : Prop) (beyond : ¬sample.cursor + 4 +
      80 * (wordFrom buffer sample.cursor).toNat ≤ buffer.length → rest)
    (later : ∀ middle : SFSample, middle.cursor = sample.cursor + 4 +
      80 * (wordFrom buffer sample.cursor).toNat → (LooksUpNames buffer next middle ↔ rest)) :
    LooksUpNames buffer (do
      let count ← getData32
      sfLog config "%-35s %u\n" [.name title, .word count]
      setCounter .entry field count.toUInt64
      readEntryArray readElement count.toNat 0
      next) sample ↔ ArrayNames buffer sample.cursor ∧ rest := by
  refine (looksUp_word _ (ArrayNames buffer sample.cursor ∧ rest) fun read begun => ?_).trans ?_
  · refine looksUp_still _ _ _ fun _ logged place => ?_
    refine looksUp_still _ _ _ fun _ stored same => ?_
    have start : stored.cursor = sample.cursor + 4 := (same.trans place).trans begun
    have array := consumes_array readElement 80 (wordFrom buffer sample.cursor).toNat 0
    refine (along_then _ _ _ rest fun _ _ behind _ last => ?_).trans ?_
    · apply later
      rw [last, start]
    · rw [ArrayNames, ← start]
      apply and_congr (looksUp_array readElement each _ 0 stored)
      constructor
      · intro met
        by_cases fits : sample.cursor + 4 + 80 * (wordFrom buffer sample.cursor).toNat ≤ buffer.length
        · exact met (.inr (start ▸ fits))
        · exact beyond fits
      · intro met _
        exact met
  · constructor
    · intro met
      by_cases room : sample.cursor + 4 ≤ buffer.length
      · exact met room
      · exact ⟨arrayNames_beyond room, beyond (by omega)⟩
    · intro met _
      exact met

theorem looksUp_protocol (index : Nat) (sample : SFSample) :
    LooksUpNames buffer (readCountersDdosProtocol config index) sample ↔
      ElementNames buffer sample.cursor :=
  looksUp_element (.statStore index) rfl (.entryStat index) _ _ "protocol" _ _ "state" _

theorem looksUp_app (index : Nat) (sample : SFSample) :
    LooksUpNames buffer (readCountersDdosApp config index) sample ↔
      ElementNames buffer sample.cursor :=
  looksUp_element (.appStatStore index) rfl (.entryAppStat index) _ _ "app" _ _ "state" _

theorem looksUp_arrays (sample : SFSample) :
    LooksUpNames buffer (do
      let protoNum ← getData32
      sfLog config "%-35s %u\n" [.name "Protocol Num:", .word protoNum]
      setCounter .entry "proto_num" protoNum.toUInt64
      readEntryArray (readCountersDdosProtocol config) protoNum.toNat 0
      let appNum ← getData32
      sfLog config "%-35s %u\n" [.name "App Num:", .word appNum]
      setCounter .entry "app_num" appNum.toUInt64
      readEntryArray (readCountersDdosApp config) appNum.toNat 0) sample ↔
      ArrayNames buffer sample.cursor ∧
        ArrayNames buffer (sample.cursor + 4 + 80 * (wordFrom buffer sample.cursor).toNat) := by
  refine looksUp_counted _ _ _ looksUp_protocol _ _ ?_ fun apps place => ?_
  · intro beyond
    exact arrayNames_beyond (by omega)
  · rw [← place]
    have last := @looksUp_counted config buffer apps "App Num:" "app_num"
      (readCountersDdosApp config) _ looksUp_app (pure ()) True (fun _ => trivial)
      fun _ _ => looksUp_quiet _
    simp only [bind_pure_unit, and_true] at last
    exact last

/-- The entry record looks up inside the tables exactly where its header and all elements that
were received have names. -/
theorem looksUp_entry : LooksUpNames buffer (readCountersDdosIpCounter config) sample ↔
    EntryNames buffer sample.cursor := by
  unfold readCountersDdosIpCounter
  refine (along_then _ _ 48 (ArrayNames buffer (sample.cursor + 48) ∧ ArrayNames buffer
    (sample.cursor + 48 + 4 + 80 * (wordFrom buffer (sample.cursor + 48)).toNat))
    fun _ _ counted _ place => ?_).trans ?_
  · rw [← place]
    exact looksUp_arrays counted
  · rw [show Along buffer NamesInside (readCountersDdosIpCounterHeader config) sample ↔ _ from
      looksUp_header]
    constructor
    · rintro ⟨header, arrays⟩
      by_cases room : sample.cursor + 48 ≤ buffer.length
      · obtain ⟨protocols, apps⟩ := arrays (.inr room)
        exact ⟨header, protocols, apps⟩
      · exact ⟨header, arrayNames_beyond (by omega), arrayNames_beyond (by omega)⟩
    · rintro ⟨header, protocols, apps⟩
      exact ⟨header, fun _ => ⟨protocols, apps⟩⟩

end Entries

section Records

variable {config : SFConfig} {buffer : Buffer} {sample : SFSample}

/-- The type of the port in an entry map; the first type has no name and no place in the table. -/
def MapNames (buffer : Buffer) (place : Nat) : Prop :=
  place + 2 ≤ buffer.length → 0 < octetFrom buffer (place + 1) →
    NameTable.ddosProto.Names (octetFrom buffer (place + 1) - 1)

theorem looksUp_map :
    LooksUpNames buffer (readCountersDdosPollingEntryMap config) sample ↔
      MapNames buffer sample.cursor := by
  unfold readCountersDdosPollingEntryMap
  refine (looksUp_octet _ (sample.cursor + 1 + 1 ≤ buffer.length →
    0 < octetFrom buffer (sample.cursor + 1) →
    NameTable.ddosProto.Names (octetFrom buffer (sample.cursor + 1) - 1)) fun read start => ?_).trans ?_
  · refine looksUp_still _ _ _ fun _ stored place => ?_
    refine looksUp_still _ _ _ fun _ logged same => ?_
    have second : logged.cursor = sample.cursor + 1 := (same.trans place).trans start
    rw [← second]
    refine looksUp_octet _ _ fun again behind => ?_
    refine looksUp_still _ _ _ fun _ kept still => ?_
    have named (portType : UInt32) : Consumes (if portType > 0 then
        lookupName .ddosProto ddosProtoStr (portType - 1) else pure (.name "None")) 0 :=
      consumes_ite _ _ _ 0 inferInstance inferInstance
    refine (along_then _ _ 0 True fun _ _ _ _ _ => looksUp_quiet _).trans ?_
    rw [and_iff_left fun _ => trivial]
    split
    · rename_i some
      exact ⟨fun looks _ => looks.1, fun names => ⟨names some, trivial⟩⟩
    · rename_i none
      exact iff_of_true trivial fun some => absurd some none
  · unfold MapNames
    constructor
    · intro met room
      exact met (by omega) room
    · intro met _ room
      exact met room

/-- What precedes the status of an application record. -/
def appParts : List Part := [.string, .string, .string, .string, .octets 8, .octets 8]

def AppNames (buffer : Buffer) (place : Nat) : Prop :=
  ∀ status, behindParts buffer appParts place = some status → WordNames buffer status .appStatus

theorem looksUp_status (sample : SFSample) :
    LooksUpNames buffer (do
      let status ← getData32
      @Decoder.note collector (.lookup .appStatus status)
      sfLog config "status %s\n" [.word status]
      let _ ← sfLogNext32 config "duration_uS") sample ↔ WordNames buffer sample.cursor .appStatus := by
  refine looksUp_word _ _ fun read _ => ?_
  rw [LooksUpNames, Decoder.bind_eq, along_bind]
  constructor
  · intro looks
    exact looks.1.1
  · intro inside
    exact ⟨⟨inside, trivial⟩, @along_granted _ _ (fun _ => NamesInside) buffer _ _ inferInstance⟩

theorem looksUp_application :
    LooksUpNames buffer (readFlowSampleApp config) sample ↔ AppNames buffer sample.cursor := by
  have status : Awaits NamesInside (fun buffer place => WordNames buffer place .appStatus) (do
      let status ← getData32
      @Decoder.note collector (.lookup .appStatus status)
      sfLog config "status %s\n" [.word status]
      let _ ← sfLogNext32 config "duration_uS") [] := by
    constructor
    intro buffer sample
    refine (looksUp_status sample).trans ?_
    exact ⟨fun names place same => Option.some.inj same ▸ names, fun names => names _ rfl⟩
  unfold readFlowSampleApp AppNames
  refine (@Awaits.awaits _ NamesInside (fun buffer place => WordNames buffer place .appStatus) _ _
    inferInstance buffer sample).trans ?_
  exact Iff.rfl

/-- What an HTTP record is made of behind its method. -/
def httpParts (tag : UInt32) : List Part :=
  [.octets 4, .string, .string, .string, .string] ++
    ((if tag = tagHTTP2 then [.string] else []) ++
      ([.string, .string] ++
        ((if tag = tagHTTP2 then [.octets 8] else []) ++ [.octets 8, .octets 4, .octets 4])))

/-- The method of an HTTP record is looked up in the common log format only, and only once the
whole record was received. -/
def HttpNames (config : SFConfig) (buffer : Buffer) (tag : UInt32) (place : Nat) : Prop :=
  ∀ last, behindParts buffer (.octets 4 :: httpParts tag) place = some last →
    config.outputFormat = .clf → NameTable.httpMethod.Names (wordFrom buffer place)

theorem looksUp_http (tag : UInt32) :
    LooksUpNames buffer (readFlowSampleHttp config tag) sample ↔
      HttpNames config buffer tag sample.cursor := by
  have kept (method : UInt32) (log : HttpLog) : Awaits NamesInside
      (fun _ _ => config.outputFormat = .clf → NameTable.httpMethod.Names method)
      (when (config.outputFormat = .clf) do
        @Decoder.note collector (.lookup .httpMethod method)
        @Decoder.set collector .clfHttpLog log
        setWord .clfValid 1) [] := by
    constructor
    intro buffer sample
    unfold Decoder.when
    split
    · rename_i clf
      exact ⟨fun looks _ _ _ => looks.1, fun names => ⟨names _ rfl clf, trivial, trivial, trivial⟩⟩
    · rename_i other
      exact iff_of_true trivial fun _ _ clf => absurd clf other
  unfold readFlowSampleHttp
  refine looksUp_still _ _ _ fun _ logged start => ?_
  rw [← start]
  have method : Consumes (sfLogNext32 config "http_method") 4 := inferInstance
  refine (looksUp_read (sfLogNext32 config "http_method") 4 (wordFrom buffer logged.cursor) (by decide)
    (fun room => yields_sfLogNext32 "http_method" room) _
    (∀ place, behindParts buffer (httpParts tag) (logged.cursor + 4) = some place →
      config.outputFormat = .clf → NameTable.httpMethod.Names (wordFrom buffer logged.cursor))
    fun middle place => ?_).trans ?_
  · rw [← place]
    refine (@Awaits.awaits _ NamesInside (fun _ _ => config.outputFormat = .clf →
      NameTable.httpMethod.Names (wordFrom buffer logged.cursor)) _ _ inferInstance buffer middle).trans ?_
    exact Iff.rfl
  · unfold HttpNames
    rw [behindParts, Part.behind]
    by_cases room : logged.cursor + 4 ≤ buffer.length
    · rw [if_pos room]
      exact ⟨fun met => met room, fun met _ => met⟩
    · rw [if_neg room]
      exact iff_of_true (fun fits => absurd fits room) fun _ missing => by cases missing

end Records

section Elements

variable {config : SFConfig} {buffer : Buffer} {sample : SFSample}

/-- What a record of a tag demands of the bytes at its place. -/
abbrev NameRules := List (UInt32 × (Buffer → Nat → Prop))

/-- The flow records that look names up. -/
def flowNames (config : SFConfig) : NameRules :=
  [(2201, fun buffer => HttpNames config buffer 2201),
   (2206, fun buffer => HttpNames config buffer 2206), (2202, AppNames)]

/-- The counter records that look names up. -/
def counterNames : NameRules :=
  [(enterpriseA10 2, EntryNames), (enterpriseA10 5, HeaderNames), (enterpriseA10 6, HeaderNames),
   (enterpriseA10 7, HeaderNames), (enterpriseA10 16, HeaderNames), (enterpriseA10 8, HeaderNames),
   (enterpriseA10 60, MapNames), (enterpriseA10 11, HeaderNames), (enterpriseA10 12, HeaderNames),
   (enterpriseA10 13, HeaderNames), (enterpriseA10 14, HeaderNames),
   (enterpriseA10 15, HeaderNames)]

/-- A record of another tag demands nothing. -/
def NameRules.Demand (rules : NameRules) (tag : UInt32) (buffer : Buffer) (place : Nat) : Prop :=
  match rules.lookup tag with
  | some names => names buffer place
  | none => True

/-- A decoder looks up inside the tables exactly where its names are met. -/
class LooksFor (names : outParam (Buffer → Nat → Prop)) (decoder : Decode Unit) : Prop where
  iff : ∀ (buffer : Buffer) (sample : SFSample),
    LooksUpNames buffer decoder sample ↔ names buffer sample.cursor

instance (priority := low) (decoder : Decode Unit) [KeepsToNames decoder] :
    LooksFor (fun _ _ => True) decoder := ⟨fun _ _ => looksUp_quiet decoder⟩

theorem looksUp_first {α β : Type} (program : Decode α) (next : α → Decode β)
    [∀ value, KeepsToNames (next value)] :
    LooksUpNames buffer (program >>= next) sample ↔ LooksUpNames buffer program sample := by
  rw [LooksUpNames, Decoder.bind_eq, along_bind]
  apply and_iff_left
  unfold Run.Returning
  split
  · exact @along_granted _ _ (fun _ => NamesInside) buffer _ _ inferInstance
  · trivial

instance (description : String) (names : Buffer → Nat → Prop) (decoder : Decode Unit)
    [each : LooksFor names decoder] : LooksFor names (described description decoder) where
  iff buffer sample := by
    have read : Consumes (getText .sflDdosDesc) 0 := @consumes_get collector (.text .sflDdosDesc)
    have stored (text : Text) : Consumes (setText .sflDdosDesc text) 0 :=
      @consumes_set collector (.text .sflDdosDesc) text
    have still : Consumes (sflDdosDescription description) 0 := by
      unfold sflDdosDescription
      infer_instance
    unfold described
    refine looksUp_still _ _ _ fun _ middle same => ?_
    rw [← same]
    exact each.iff buffer middle

instance (member : DdosMember) (description : String) (readPort readStats : Decode Unit)
    [KeepsToNames readPort] [KeepsToNames readStats] :
    LooksFor HeaderNames (readPortEntry config member description readPort readStats) := by
  have entry : LooksFor HeaderNames (do
      readCountersDdosIpCounterCommon config member
      readPort
      sflDdosUpdateCtxLen config (commonSize + 4)
      readStats) := ⟨fun _ _ => (looksUp_first _ _).trans (looksUp_common member)⟩
  unfold readPortEntry
  infer_instance

instance (member : DdosMember) (description : String) (readStats : Decode Unit)
    [KeepsToNames readStats] :
    LooksFor HeaderNames (readPlainEntry config member description readStats) := by
  have entry : LooksFor HeaderNames (do
      readCountersDdosIpCounterCommon config member
      sflDdosUpdateCtxLen config commonSize
      readStats) := ⟨fun _ _ => (looksUp_first _ _).trans (looksUp_common member)⟩
  unfold readPlainEntry
  infer_instance

instance : LooksFor HeaderNames (readCountersDdosPortIpCounter config) := by
  unfold readCountersDdosPortIpCounter
  exact ⟨fun _ _ => (looksUp_first _ _).trans (looksUp_common .port)⟩
instance : LooksFor EntryNames (readCountersDdosIpCounter config) := ⟨fun _ _ => looksUp_entry⟩
instance : LooksFor MapNames (readCountersDdosPollingEntryMap config) := ⟨fun _ _ => looksUp_map⟩
instance (tag : UInt32) :
    LooksFor (fun buffer => HttpNames config buffer tag) (readFlowSampleHttp config tag) :=
  ⟨fun _ _ => looksUp_http tag⟩
instance : LooksFor AppNames (readFlowSampleApp config) := ⟨fun _ _ => looksUp_application⟩

instance (member : DdosMember) (title : String) :
    KeepsToNames (readCountersIpCounterPort config member title) := by
  unfold readCountersIpCounterPort
  infer_instance
instance : KeepsToNames (readCountersDdosHttpIpCounter config) := by
  unfold readCountersDdosHttpIpCounter
  infer_instance
instance : KeepsToNames (readCountersDdosSslL4IpCounter config) := by
  unfold readCountersDdosSslL4IpCounter
  infer_instance
instance : KeepsToNames (readCountersDdosUdpIpCounter config) := by
  unfold readCountersDdosUdpIpCounter
  infer_instance
instance : KeepsToNames (readCountersDdosTcpIpCounter config) := by
  unfold readCountersDdosTcpIpCounter
  infer_instance
instance : KeepsToNames (readCountersDdosOtherIpCounter config) := by
  unfold readCountersDdosOtherIpCounter
  infer_instance
instance : KeepsToNames (readCountersDdosDnsIpCounter config) := by
  unfold readCountersDdosDnsIpCounter
  infer_instance

/-- The decoder of a tag looks for what the rules have under the tag. -/
def Demands (rules : NameRules) (tag : UInt32) (decoder : Decode Unit) : Prop :=
  LooksFor (rules.Demand tag) decoder

theorem demands_nothing {rules : NameRules} {tag : UInt32} {decoder : Decode Unit}
    [looks : LooksFor (fun _ _ => True) decoder] (missing : (rules.lookup tag).isNone = true) :
    Demands rules tag decoder := by
  constructor
  intro buffer sample
  unfold NameRules.Demand
  rw [Option.isNone_iff_eq_none.mp missing]
  exact looks.iff buffer sample

theorem demands_names {rules : NameRules} {tag : UInt32} {decoder : Decode Unit}
    {names : Buffer → Nat → Prop} [looks : LooksFor names decoder]
    (found : rules.lookup tag = some names) : Demands rules tag decoder := by
  constructor
  intro buffer sample
  unfold NameRules.Demand
  rw [found]
  exact looks.iff buffer sample

theorem flowDecoders_demand (entry : UInt32 × Decode Unit) (member : entry ∈ flowDecoders config) :
    Demands (flowNames config) entry.1 entry.2 := by
  revert entry
  simp only [flowDecoders, List.forall_mem_cons, List.not_mem_nil, false_implies, implies_true,
    and_true]
  and_intros
  all_goals first
    | exact demands_nothing rfl
    | exact demands_names rfl

theorem counterDecoders_demand (length : UInt32) (entry : UInt32 × Decode Unit)
    (member : entry ∈ counterDecoders config length) : Demands counterNames entry.1 entry.2 := by
  revert entry
  simp only [counterDecoders, plainCounterDecoders, flexCounterDecoders, ddosCounterDecoders,
    List.forall_mem_append, List.forall_mem_cons, List.not_mem_nil, false_implies, implies_true,
    and_true]
  and_intros
  all_goals first
    | exact demands_nothing (by decide +kernel)
    | exact demands_names rfl

/-- A tag without a decoder is under no rule. -/
theorem demand_absent {rules : NameRules} {tag : UInt32} (decoders : List (UInt32 × Decode Unit))
    (listed : ∀ rule ∈ rules, rule.1 ∈ decoders.map Prod.fst)
    (absent : decoders.lookup tag = none) (place : Nat) : rules.Demand tag buffer place := by
  unfold NameRules.Demand
  cases found : rules.lookup tag with
  | none => trivial
  | some names =>
      obtain ⟨entry, member, same⟩ := List.mem_map.mp (listed _ (lookup_mem found))
      have differs := List.lookup_eq_none_iff.mp absent entry member
      rw [same] at differs
      exact absurd differs (by simp)

instance (tag length : UInt32) : LooksFor ((flowNames config).Demand tag)
    (readFlowElementBody config tag length) := by
  unfold readFlowElementBody
  split
  · rename_i decoder found
    exact flowDecoders_demand _ (lookup_mem found)
  · rename_i absent
    constructor
    intro buffer sample
    apply (looksUp_quiet _).trans
    exact (iff_true_intro (demand_absent (flowDecoders config)
      (by simp [flowNames, flowDecoders]) absent _)).symm

instance (tag length : UInt32) : LooksFor (counterNames.Demand tag)
    (readCounterElementBody config tag length) := by
  unfold readCounterElementBody
  split
  · rename_i decoder found
    exact counterDecoders_demand length _ (lookup_mem found)
  · rename_i absent
    constructor
    intro buffer sample
    apply (looksUp_quiet _).trans
    exact (iff_true_intro (demand_absent (counterDecoders config length)
      (by simp [counterNames, counterDecoders, ddosCounterDecoders]) absent _)).symm

end Elements

section Runs

variable {config : SFConfig}

/-- The words of a record that names are looked up with have names, where the record begins. -/
def RecordNamed (config : SFConfig) (buffer : Buffer) (sample : SFSample) : Op collector → Prop
  | .note (.flowElement tag _) => (flowNames config).Demand tag buffer sample.cursor
  | .note (.counterElement tag _) => counterNames.Demand tag buffer sample.cursor
  | _ => True

/-- The run looks up inside the tables exactly where its records are named. -/
abbrev NamedAsRead {α : Type} (config : SFConfig) (program : Decode α) : Prop :=
  Matches (RecordNamed config) (fun _ => NamesInside) program

/-- Notes that are neither of a lookup nor of an element. -/
abbrev Note.telling (mark : Note) : Bool := mark.ofName || mark.ofElement

theorem shuns_both (op : Op collector) (shuns : Shuns Note.telling op) (buffer : Buffer)
    (sample : SFSample) : RecordNamed config buffer sample op ∧ NamesInside sample op := by
  cases op with
  | note mark =>
      cases mark with
      | flowElement tag length => cases shuns
      | counterElement tag length => cases shuns
      | lookup table index => cases shuns
      | _ => exact ⟨trivial, trivial⟩
  | _ => exact ⟨trivial, trivial⟩

theorem shuns_element (op : Op collector) (shuns : Shuns Note.ofElement op) (buffer : Buffer)
    (sample : SFSample) : RecordNamed config buffer sample op := by
  cases op with
  | note mark =>
      cases mark with
      | flowElement tag length => cases shuns
      | counterElement tag length => cases shuns
      | _ => trivial
  | _ => trivial

instance (priority := low) namedAsRead_of_shuns {α : Type} (program : Decode α)
    [uses : Uses (Shuns Note.telling) program] : NamedAsRead config program :=
  uses.keepsBoth (fun buffer state op shuns => (@shuns_both config op shuns buffer state).1)
    fun buffer state op shuns => (@shuns_both config op shuns buffer state).2

/-- The lookups of the program are those of the records in it and of one more. -/
def Owes (config : SFConfig) (names : Buffer → Nat → Prop) (program : Decode Unit) : Prop :=
  ∀ (buffer : Buffer) (sample : SFSample),
    names buffer sample.cursor ∧ Along buffer (RecordNamed config buffer) program sample ↔
      LooksUpNames buffer program sample

theorem owes_body {names : Buffer → Nat → Prop} (body : Decode Unit) (rest : Unit → Decode Unit)
    [looks : LooksFor names body] [inner : Uses (Shuns Note.ofElement) body]
    [later : ∀ value, NamedAsRead config (rest value)] : Owes config names (body >>= rest) := by
  intro buffer sample
  have quiet : Along buffer (RecordNamed config buffer) body sample :=
    (inner.along buffer sample).weaken fun state op shuns => shuns_element op shuns buffer state
  rw [LooksUpNames, Decoder.bind_eq, along_bind, along_bind, and_iff_right quiet]
  apply and_congr (looks.iff buffer sample).symm
  generalize run buffer body sample = performed
  obtain ⟨outcome, middle, trace, notes⟩ := performed
  cases outcome with
  | error reason => exact Iff.rfl
  | ok value => exact (later value).iff buffer middle

theorem owes_still {names : Buffer → Nat → Prop} (program : Decode Unit) (rest : Unit → Decode Unit)
    [quiet : Uses (Shuns Note.telling) program] [consumes : Consumes program 0]
    (later : ∀ value, Owes config names (rest value)) : Owes config names (program >>= rest) := by
  intro buffer sample
  have along := quiet.along buffer sample
  have unread : Along buffer (RecordNamed config buffer) program sample :=
    along.weaken fun state op shuns => (@shuns_both config op shuns buffer state).1
  have unseen : LooksUpNames buffer program sample :=
    along.weaken fun state op shuns => (@shuns_both config op shuns buffer state).2
  obtain ⟨⟨value, returned⟩, place⟩ := consumes.takes buffer sample (.inl rfl)
  rw [LooksUpNames, Decoder.bind_eq, along_bind, along_bind, and_iff_right unread,
    and_iff_right unseen, Run.Returning, Run.Returning, returned]
  have whole := later value buffer (run buffer program sample).state
  rw [place] at whole
  exact whole

theorem named_flowElement (tag length : UInt32) (rest : Unit → Decode Unit)
    (owes : Owes config ((flowNames config).Demand tag) (rest ())) :
    NamedAsRead config (@Decoder.note collector (.flowElement tag length) >>= rest) where
  iff buffer sample := (owes buffer sample).trans ⟨fun looks => ⟨trivial, looks⟩, And.right⟩

theorem named_counterElement (tag length : UInt32) (rest : Unit → Decode Unit)
    (owes : Owes config (counterNames.Demand tag) (rest ())) :
    NamedAsRead config (@Decoder.note collector (.counterElement tag length) >>= rest) where
  iff buffer sample := (owes buffer sample).trans ⟨fun looks => ⟨trivial, looks⟩, And.right⟩

instance : NamedAsRead config (readFlowElement config) := by
  have element (tag length : UInt32) : NamedAsRead config (do
      @Decoder.note collector (.flowElement tag length)
      readFlowElementBody config tag length
      lengthCheck "flow_sample_element" .start length
      @Decoder.note collector .flowElementEnd) :=
    named_flowElement tag length _ (owes_body _ _)
  unfold readFlowElement
  infer_instance

instance : NamedAsRead config (readCounterElement config) := by
  have printed (fmt : String) (args : List Arg) : Consumes (printf fmt args) 0 :=
    @consumes_emit collector (.print ⟨fmt, args⟩)
  have enterprise (tag : UInt32) : Consumes (printEnterprise tag) 0 := printed _ _
  have element (tag length : UInt32) : NamedAsRead config (do
      @Decoder.note collector (.counterElement tag length)
      printEnterprise (htonl tag)
      printEnterprise tag
      printf "!!!!!!!!!!!tag == %lu; tag1 = %lu\n" [.word tag, .word (htonl tag)]
      readCounterElementBody config tag length
      @Decoder.note collector .counterElementEnd) :=
    named_counterElement tag length _ (owes_still _ _ fun _ => owes_still _ _ fun _ =>
      owes_still _ _ fun _ => owes_body _ _)
  unfold readCounterElement
  infer_instance

instance (remaining : Nat) : NamedAsRead config (readFlowElements config remaining) := by
  induction remaining with
  | zero => exact matches_pure ()
  | succ remaining ih =>
      unfold readFlowElements
      infer_instance

instance (remaining : Nat) : NamedAsRead config (readCounterElements config remaining) := by
  induction remaining with
  | zero => exact matches_pure ()
  | succ remaining ih =>
      unfold readCounterElements
      infer_instance

instance (expanded : Bool) : NamedAsRead config (readFlowSample config expanded) := by
  unfold readFlowSample
  infer_instance
instance : NamedAsRead config (readFlowSampleV2v4 config) := by
  unfold readFlowSampleV2v4
  infer_instance
instance (expanded : Bool) : NamedAsRead config (readCountersSample config expanded) := by
  unfold readCountersSample
  infer_instance
instance : NamedAsRead config (readCountersSampleV2v4 config) := by
  unfold readCountersSampleV2v4
  infer_instance

instance (samplesInPacket : UInt32) (remaining : Nat) (samp : UInt32) :
    NamedAsRead config (readSamples config samplesInPacket remaining samp) := by
  have sample : NamedAsRead config (readSample config) := by
    unfold readSample readSampleV5 readSampleV2v4
    infer_instance
  have checked (samp : UInt32) : Uses (Shuns Note.telling) (checkMoreData samp samplesInPacket) := by
    unfold checkMoreData
    infer_instance
  induction remaining generalizing samp with
  | zero => exact matches_pure ()
  | succ remaining ih =>
      unfold readSamples
      infer_instance

instance : NamedAsRead config (readSFlowDatagram config) := by
  have header : Uses (Shuns Note.telling) (readDatagramHeader config) := by
    unfold readDatagramHeader
    infer_instance
  unfold readSFlowDatagram
  infer_instance

/-- The lookups of a run: the table and the index of each. -/
def namesLookedUp (decoded : Run collector Unit) : List (NameTable × UInt32) :=
  decoded.notes.filterMap fun noted =>
    match noted.1 with
    | .lookup table index => some (table, index)
    | _ => none

/-- A lookup that is noted is inside its table. -/
def LookupInside (mark : Note) : Prop := ∀ table index, mark = .lookup table index → table.Names index

theorem namesInside_iff (sample : SFSample) (op : Op collector) :
    NamesInside sample op ↔ ∀ mark : Note, op = .note mark → LookupInside mark := by
  constructor
  · intro inside mark noted table index same
    subst noted same
    exact inside
  · intro each
    cases op with
    | note mark =>
        cases mark with
        | lookup table index => exact each _ rfl table index rfl
        | _ => trivial
    | _ => trivial

theorem namesLookedUp_iff (buffer : Buffer) (program : Decode Unit) (sample : SFSample) :
    (∀ lookup ∈ namesLookedUp (run buffer program sample), lookup.1.Names lookup.2) ↔
      LooksUpNames buffer program sample := by
  constructor
  · intro inside
    refine (@along_of_notes collector _ buffer program sample LookupInside ?_).weaken
      fun state op => (namesInside_iff state op).mpr
    intro noted member table index same
    apply inside (table, index)
    exact List.mem_filterMap.mpr ⟨noted, member, by rw [same]⟩
  · intro looks lookup member
    obtain ⟨noted, among, same⟩ := List.mem_filterMap.mp member
    have inside := @notes_along collector _ buffer program sample LookupInside
      (looks.weaken fun state op => (namesInside_iff state op).mp) noted among
    split at same
    · rename_i table index found
      cases same
      exact inside table index found
    · cases same

/-- The lookups of a datagram are inside their tables exactly where its records are named. -/
theorem names_looked_up_iff (config : SFConfig) (buffer : Buffer) (sourceIP : Address)
    (pcapTimestamp : UInt32) (statics : SFSample) :
    (∀ lookup ∈ namesLookedUp (run buffer (readSFlowDatagram config)
      (freshSample sourceIP pcapTimestamp statics)), lookup.1.Names lookup.2) ↔
      Along buffer (RecordNamed config buffer) (readSFlowDatagram config)
        (freshSample sourceIP pcapTimestamp statics) := by
  have named : NamedAsRead config (readSFlowDatagram config) := inferInstance
  rw [namesLookedUp_iff]
  exact (named.iff buffer _).symm

/-- A counters sample with an entry record of an IPv6 address and no elements. -/
def addressSample (ipType : UInt32) : List UInt32 :=
  [2, 76, 1, 1, 1, enterpriseA10 2, 56, 0, ipType, 0, 0, 0, 0, 0, 0, 0, 0, 0, 0, 0, 0]

/-- The documented type of an IPv6 address has no name. -/
theorem ipv6_type_outside :
    ¬∀ (config : SFConfig) (buffer : Buffer) (sourceIP : Address) (pcapTimestamp : UInt32)
        (statics : SFSample), ∀ lookup ∈ namesLookedUp (run buffer (readSFlowDatagram config)
      (freshSample sourceIP pcapTimestamp statics)), lookup.1.Names lookup.2 := by
  intro inside
  have looked : (.ddosIpType, 2) ∈ namesLookedUp (run
      (datagramOf (datagramHeaderV5 1 ++ addressSample 2)) (readSFlowDatagram (defaultConfig .line))
      (freshSample clearedAddress 0 firstSample)) := by decide +kernel
  exact absurd (inside (defaultConfig .line) _ clearedAddress 0 firstSample _ looked) (by decide)

end Runs

end SflowTool
