import SflowTool.VlanFilter
import SflowTool.StructCopies
import SflowTool.Preconditions
import SflowTool.SampleUses
import SflowTool.Granting

/-! Where the VLAN filter looks. Its two indices are fields of the sample that outlive the
records they come from, so what is asked of the records is carried along as an invariant of
every state on the way. -/
namespace SflowTool
open Decoding Decoding.Decoder

section Lookups

variable {config : SFConfig} {buffer : Buffer} {sample : SFSample}

/-- The number is an index of the table. -/
def InTable (vlan : UInt32) : Prop := vlan ≤ filterMaxVlan

instance (vlan : UInt32) : Decidable (InTable vlan) := inferInstanceAs (Decidable (_ ≤ _))

/-- The numbers a run looks up in the filter's table. -/
def vlansLookedUp {α : Type} (performed : Run collector α) : List UInt32 :=
  performed.notes.filterMap fun noted =>
    match noted.1 with
    | .vlanLookup vlan => some vlan
    | _ => none

/-- A VLAN is allowed if it has a place in the table and is set there. -/
def AllowedVlan (config : SFConfig) (vlan : UInt32) : Prop :=
  InTable vlan ∧ config.vlanFilter vlan = true

/-- The filter looks up nothing outside its table, and accepts what has an allowed VLAN. -/
structure FiltersInside (config : SFConfig) (buffer : Buffer) (sample : SFSample) : Prop where
  lookups : ∀ vlan ∈ vlansLookedUp (run buffer (sampleFilterOK config) sample), InTable vlan
  answer : (run buffer (sampleFilterOK config) sample).outcome = .ok true ↔
    config.gotVlanFilter = false ∨ AllowedVlan config (wordOf sample .inVlan) ∨
      AllowedVlan config (wordOf sample .outVlan)

/-- The second VLAN is looked up only if the first is not set. -/
theorem vlansLookedUp_filter : vlansLookedUp (run buffer (sampleFilterOK config) sample) =
    if config.gotVlanFilter = false then []
    else if config.vlanFilter (wordOf sample .inVlan) = true then [wordOf sample .inVlan]
    else [wordOf sample .inVlan, wordOf sample .outVlan] := by
  have looked (var : WordVar) (rest : UInt32 → Decode Bool) :
      vlansLookedUp (run buffer (do
        let vlan ← getWord var
        @Decoder.note collector (.vlanLookup vlan)
        rest vlan) sample) =
      wordOf sample var :: vlansLookedUp (run buffer (rest (wordOf sample var)) sample) := rfl
  unfold sampleFilterOK
  by_cases unfiltered : config.gotVlanFilter = false
  · rw [if_pos unfiltered, if_pos unfiltered]
    rfl
  · rw [if_neg unfiltered, if_neg unfiltered]
    refine (looked .inVlan _).trans ?_
    by_cases accepted : config.vlanFilter (wordOf sample .inVlan) = true
    · rw [if_pos accepted, if_pos accepted]
      rfl
    · rw [if_neg accepted, if_neg accepted]
      exact congrArg (_ :: ·) (looked .outVlan _)

/-- The VLANs of the sample have a place in the table. -/
structure VlansInside (sample : SFSample) : Prop where
  inVlan : InTable (wordOf sample .inVlan)
  outVlan : InTable (wordOf sample .outVlan)

/-- What the filter needs at one call: the first VLAN has a place in the table, and so has the
second unless the first is set. -/
theorem filtersInside_iff : FiltersInside config buffer sample ↔
    (config.gotVlanFilter = true → InTable (wordOf sample .inVlan) ∧
      (config.vlanFilter (wordOf sample .inVlan) = false → InTable (wordOf sample .outVlan))) := by
  constructor
  · rintro ⟨lookups, -⟩ configured
    rw [vlansLookedUp_filter, if_neg (ne_false_of_eq_true configured)] at lookups
    constructor
    · apply lookups
      split <;> exact List.mem_cons_self
    · intro rejected
      apply lookups
      rw [if_neg (ne_true_of_eq_false rejected)]
      exact List.mem_cons_of_mem _ List.mem_cons_self
  · intro inside
    by_cases unfiltered : config.gotVlanFilter = false
    · constructor
      · rw [vlansLookedUp_filter, if_pos unfiltered]
        exact fun _ none => absurd none List.not_mem_nil
      · rw [accepted_iff]
        exact iff_of_true (.inl unfiltered) (.inl unfiltered)
    · obtain ⟨first, second⟩ := inside (eq_true_of_ne_false unfiltered)
      constructor
      · rw [vlansLookedUp_filter, if_neg unfiltered]
        intro vlan member
        by_cases accepted : config.vlanFilter (wordOf sample .inVlan) = true
        · rw [if_pos accepted, List.mem_singleton] at member
          exact member ▸ first
        · rw [if_neg accepted] at member
          rcases List.mem_pair.mp member with rfl | rfl
          · exact first
          · exact second (eq_false_of_ne_true accepted)
      · rw [accepted_iff]
        unfold passesFilter AllowedVlan
        rw [or_iff_right unfiltered, or_iff_right unfiltered, and_iff_right first]
        by_cases accepted : config.vlanFilter (wordOf sample .inVlan) = true
        · exact iff_of_true (.inl accepted) (.inl accepted)
        · rw [or_iff_right accepted, or_iff_right accepted,
            and_iff_right (second (eq_false_of_ne_true accepted))]

theorem VlansInside.filters (inside : VlansInside sample) :
    FiltersInside config buffer sample :=
  filtersInside_iff.mpr fun _ => ⟨inside.inVlan, fun _ => inside.outVlan⟩

end Lookups

section Stores

variable {config : SFConfig} {buffer : Buffer} {sample : SFSample}

/-- The VLAN an operation stores in the sample. -/
def storedVlan : Op collector → Option UInt32
  | .set (.word .inVlan) vlan | .set (.word .outVlan) vlan => some vlan
  | _ => none

/-- A VLAN that is stored has a place in the table. -/
def StoresInTable (op : Op collector) : Prop := (storedVlan op).elim True InTable

instance : DecidablePred StoresInTable := fun op =>
  match stored : storedVlan op with
  | none => .isTrue (by simp [StoresInTable, stored])
  | some vlan => decidable_of_iff (InTable vlan) (by simp [StoresInTable, stored])

/-- A word is left alone or is what the operation stores. -/
theorem perform_word (state : SFSample) (op : Op collector) (var : WordVar) :
    wordOf (perform buffer op state).state var = wordOf state var ∨
      ∃ value : UInt32, op = .set (.word var) value ∧
        wordOf (perform buffer op state).state var = value := by
  by_cases stored : ∃ value : UInt32, op = .set (.word var) value
  · obtain ⟨value, rfl⟩ := stored
    exact .inr ⟨value, rfl, State.assigned_store ..⟩
  · exact .inl (perform_store buffer op (.word var) (fun value same => stored ⟨value, same⟩) state)

theorem perform_vlansInside (state : SFSample) (op : Op collector) (inside : VlansInside state)
    (stores : StoresInTable op) : VlansInside (perform buffer op state).state := by
  constructor
  · rcases perform_word state op .inVlan with same | ⟨value, rfl, stored⟩
    · exact same ▸ inside.inVlan
    · exact stored ▸ stores
  · rcases perform_word state op .outVlan with same | ⟨value, rfl, stored⟩
    · exact same ▸ inside.outVlan
    · exact stored ▸ stores

/-- Where no VLAN outside the table is stored, the filter is sound in every state. -/
theorem filters_along {α : Type} (program : Decode α) (inside : VlansInside sample)
    (stores : Along buffer (fun _ op => StoresInTable op) program sample) :
    Along buffer (fun state _ => FiltersInside config buffer state) program sample := by
  have along := (along_invariant buffer VlansInside (fun _ op => StoresInTable op)
    perform_vlansInside program sample inside stores).1
  exact along.weaken fun _ _ inside => inside.filters

/-- The VLAN of a sampled header has twelve bits. -/
theorem masked_inTable (word : UInt32) : InTable (word &&& 0x0fff) := by
  have masked : (word &&& 0x0fff).toNat ≤ 4095 := by
    rw [UInt32.toNat_and]
    exact Nat.and_le_right
  exact UInt32.le_iff_toNat_le.mpr (Nat.le_trans masked (by decide))

instance : Permits StoresInTable where
  take _ _ := trivial
  skip _ := trivial
  errout _ := trivial
  note _ _ _ _ _ := trivial
  abort _ _ := trivial
instance : PermitsLog config StoresInTable where
  log _ _ := trivial
instance : PermitsOctets StoresInTable where
  take _ := trivial
instance (offset : Nat) : Uses StoresInTable (headerHalf offset) :=
  @uses_bind _ _ _ _ (@Decoder.peek collector .header offset 2) _ (uses_single _ trivial)
    fun _ => uses_pure _
instance (word : UInt32) : Uses StoresInTable (setWord .inVlan (word &&& 0x0fff)) :=
  uses_single _ (masked_inTable word)

theorem header_stores_inside : Uses StoresInTable (decodeVLANTag config) := by
  unfold decodeVLANTag
  infer_instance

/-- Of what stores no VLAN outside the table, only the state it leaves matters. -/
theorem weakest_stores {α : Type} {program : Decode α} {value : α} {final : SFSample}
    (uses : Uses StoresInTable program) (yields : (run buffer program sample).Yields value final)
    (post : α → SFSample → Prop) :
    Weakest buffer (fun _ op => StoresInTable op) program post sample ↔ post value final :=
  weakest_yields (uses.along buffer sample) yields post

theorem weakest_number (room : sample.cursor + 4 ≤ buffer.length)
    (post : UInt32 → SFSample → Prop) :
    Weakest buffer (fun _ op => StoresInTable op) getData32 post sample ↔
      post (UInt32.ofNat (beNat (buffer.slice sample.cursor 4))) (State.moved sample 4) :=
  weakest_stores inferInstance
    ⟨congrArg Run.outcome (run_getData32 room), congrArg Run.state (run_getData32 room)⟩ post

theorem along_iff_weakest {α : Type} (program : Decode α) :
    Along buffer (fun _ op => StoresInTable op) program sample ↔
      Weakest buffer (fun _ op => StoresInTable op) program (fun _ _ => True) sample := by
  rw [weakest_iff]
  refine (and_iff_left ?_).symm
  unfold Run.Returning
  split <;> trivial

theorem weakest_inVlan (vlan : UInt32) (post : Unit → SFSample → Prop) :
    Weakest buffer (fun _ op => StoresInTable op) (setWord .inVlan vlan) post sample ↔
      InTable vlan ∧ post () (holding sample .inVlan vlan) := Iff.rfl

theorem weakest_outVlan (vlan : UInt32) (post : Unit → SFSample → Prop) :
    Weakest buffer (fun _ op => StoresInTable op) (setWord .outVlan vlan) post sample ↔
      InTable vlan ∧ post () (holding sample .outVlan vlan) := Iff.rfl

theorem weakest_inPriority (value : UInt32) (post : Unit → SFSample → Prop) :
    Weakest buffer (fun _ op => StoresInTable op) (setWord .inPriority value) post sample ↔
      post () (holding sample .inPriority value) := and_iff_right trivial

theorem weakest_outPriority (value : UInt32) (post : Unit → SFSample → Prop) :
    Weakest buffer (fun _ op => StoresInTable op) (setWord .outPriority value) post sample ↔
      post () (holding sample .outPriority value) := and_iff_right trivial

theorem weakest_logged (fmt : String) (args : List Arg) (post : Unit → SFSample → Prop) :
    Weakest buffer (fun _ op => StoresInTable op) (sfLog config fmt args) post sample ↔
      post () sample :=
  weakest_stores inferInstance (yields_sfLog buffer fmt args sample) post

/-- The VLANs of a switch record as they lie in it. -/
theorem switch_stores_iff (received : sample.cursor + 16 ≤ buffer.length) :
    Along buffer (fun _ op => StoresInTable op) (readExtendedSwitch config) sample ↔
      InTable (UInt32.ofNat (beNat (buffer.slice sample.cursor 4))) ∧
        InTable (UInt32.ofNat (beNat (buffer.slice (sample.cursor + 8) 4))) := by
  unfold readExtendedSwitch
  simp only [along_iff_weakest, weakest_bind, weakest_logged, weakest_inVlan, weakest_outVlan,
    weakest_inPriority, weakest_outPriority]
  rw [weakest_number (by omega)]
  apply and_congr Iff.rfl
  rw [weakest_number (show sample.cursor + 4 + 4 ≤ buffer.length by omega),
    weakest_number (show sample.cursor + 8 + 4 ≤ buffer.length by omega)]
  refine (and_congr Iff.rfl ?_).trans (and_iff_left trivial)
  rw [weakest_number (show sample.cursor + 12 + 4 ≤ buffer.length by omega)]

theorem vlanCounters_stores_iff (received : sample.cursor + 4 ≤ buffer.length) :
    Along buffer (fun _ op => StoresInTable op) (readCountersVlan config) sample ↔
      InTable (UInt32.ofNat (beNat (buffer.slice sample.cursor 4))) := by
  unfold readCountersVlan
  simp only [along_iff_weakest, weakest_bind, weakest_logged, weakest_inVlan]
  rw [weakest_number received]
  refine (and_congr Iff.rfl ?_).trans (and_iff_left trivial)
  rw [← along_iff_weakest]
  exact iff_of_true (Uses.along inferInstance buffer _) trivial

end Stores

section Runs

variable {config : SFConfig}

/-- A VLAN that is looked up is one of the sample. -/
def LooksUpOwn (state : SFSample) : Op collector → Prop
  | .note (.vlanLookup vlan) => vlan = wordOf state .inVlan ∨ vlan = wordOf state .outVlan
  | _ => True

/-- Operations that look up no VLAN. -/
def UnfilteredOp : Op collector → Prop
  | .note mark => mark.ofFilter = false
  | _ => True

instance : Permits UnfilteredOp where
  take _ _ := trivial
  skip _ := trivial
  errout _ := trivial
  note _ _ _ _ unfiltered := unfiltered
  abort _ _ := trivial
instance : PermitsNames UnfilteredOp where
  lookup _ _ := rfl
instance : PermitsState UnfilteredOp where
  get _ := trivial
  set _ _ := trivial
  mark _ _ := trivial
  peek _ _ _ := trivial
  since _ := trivial
instance : PermitsLog config UnfilteredOp where
  log _ _ := trivial
instance : PermitsOctets UnfilteredOp where
  take _ := trivial
instance : PermitsIteration UnfilteredOp where
  note := rfl
instance : PermitsHeader UnfilteredOp where
  note _ := rfl
  exit _ := trivial
instance : PermitsReport UnfilteredOp where
  survey := trivial
  report _ _ _ _ := trivial
instance : PermitsPrint UnfilteredOp where
  print _ := trivial
instance : PermitsMetrics UnfilteredOp where
  opentsdb _ := trivial
instance : PermitsJump UnfilteredOp where
  jump _ := trivial
instance : PermitsFlexible UnfilteredOp where
  peekText _ _ := trivial
  write _ _ _ := trivial
  writeObject _ _ _ _ := trivial
  read _ _ := trivial
instance : PermitsNetFlow UnfilteredOp where
  tick _ := trivial
  netFlow _ := trivial
  netFlowSpoofed _ _ := trivial
instance : PermitsRecords config UnfilteredOp where
  record _ _ _ := trivial
instance : Uses UnfilteredOp (@Decoder.survey collector) := uses_single _ trivial
instance (name : Mark) : Uses UnfilteredOp (@Decoder.mark collector name) := uses_single _ trivial
instance (tag length : UInt32) : Uses UnfilteredOp (@Decoder.note collector (.flowElement tag length)) :=
  uses_single _ rfl
instance : Uses UnfilteredOp (@Decoder.note collector .flowElementEnd) := uses_single _ rfl
instance : Uses UnfilteredOp (@Decoder.note collector .flowSampleEnd) := uses_single _ rfl
instance (tag length : UInt32) :
    Uses UnfilteredOp (@Decoder.note collector (.counterElement tag length)) := uses_single _ rfl
instance : Uses UnfilteredOp (@Decoder.note collector .counterElementEnd) := uses_single _ rfl
instance : Uses UnfilteredOp (@Decoder.note collector .countersSampleEnd) := uses_single _ rfl

abbrev LooksUp {α : Type} (program : Decode α) : Prop :=
  Grants (fun _ _ _ => True) (fun _ => LooksUpOwn) program

instance (priority := low) looksUp_of_unfiltered {α : Type} (program : Decode α)
    [uses : Uses UnfilteredOp program] : LooksUp program :=
  uses.grants fun _ state op allow => by
    cases op with
    | note mark =>
        cases mark with
        | vlanLookup vlan => cases allow
        | _ => trivial
    | _ => trivial

/-- The filter looks up what it has just read. -/
instance : LooksUp (sampleFilterOK config) where
  grants buffer state _ := by
    have own (var : WordVar) (rest : UInt32 → Decode Bool)
        (listed : wordOf state var = wordOf state .inVlan ∨ wordOf state var = wordOf state .outVlan)
        (later : Along buffer LooksUpOwn (rest (wordOf state var)) state) :
        Along buffer LooksUpOwn (do
          let vlan ← getWord var
          @Decoder.note collector (.vlanLookup vlan)
          rest vlan) state := ⟨trivial, listed, later⟩
    unfold sampleFilterOK
    split
    · trivial
    · refine own .inVlan _ (.inl rfl) ?_
      split
      · trivial
      · exact own .outVlan _ (.inr rfl) trivial

/-! Counted once for each way it is handed on, as before. -/
set_option synthInstance.maxSize 1000000000000

theorem looksUp_pcap (pcap : config.outputFormat = .pcap) : LooksUp (writePcapPacket config) :=
  @looksUp_of_unfiltered _ _ (writePcapPacket_uses pcap)
theorem looksUp_line (line : config.outputFormat = .line) : LooksUp writeFlowLine :=
  @looksUp_of_unfiltered _ _ (writeFlowLine_uses line)

instance : LooksUp (emitFlowSample config) := by
  have clf (client : Text) (httpLog : Var.clfHttpLog.type) :
      Uses UnfilteredOp (@Decoder.emit collector (.clfLine client httpLog)) := uses_single _ trivial
  unfold emitFlowSample
  refine @grants_bind _ _ _ _ _ _ _ inferInstance fun accepted => ?_
  refine @grants_when _ _ _ _ _ _ ?_
  split
  · infer_instance
  · next pcap => exact looksUp_pcap pcap
  · next line => exact looksUp_line line
  · infer_instance
  · infer_instance

instance : LooksUp (emitFlowSampleV2v4 config) := by
  unfold emitFlowSampleV2v4
  refine @grants_bind _ _ _ _ _ _ _ inferInstance fun accepted => ?_
  refine @grants_when _ _ _ _ _ _ ?_
  split
  · infer_instance
  · next pcap => exact looksUp_pcap pcap
  · next line => exact looksUp_line line
  · infer_instance

instance (remaining : Nat) : Uses UnfilteredOp (readFlowElements config remaining) := by
  induction remaining with
  | zero => exact .pure ()
  | succ remaining ih =>
      unfold readFlowElements readFlowElement
      infer_instance

instance (remaining : Nat) : Uses UnfilteredOp (readCounterElements config remaining) := by
  have element : Uses UnfilteredOp (readCounterElement config) := by
    unfold readCounterElement
    infer_instance
  induction remaining with
  | zero => exact .pure ()
  | succ remaining ih =>
      unfold readCounterElements
      infer_instance

instance (expanded : Bool) : LooksUp (readFlowSample config expanded) := by
  unfold readFlowSample
  infer_instance
instance : LooksUp (readFlowSampleV2v4 config) := by
  unfold readFlowSampleV2v4
  infer_instance
instance (expanded : Bool) : LooksUp (readCountersSample config expanded) := by
  unfold readCountersSample
  infer_instance
instance : LooksUp (readCountersSampleV2v4 config) := by
  unfold readCountersSampleV2v4
  infer_instance

instance (samplesInPacket : UInt32) (remaining : Nat) (samp : UInt32) :
    LooksUp (readSamples config samplesInPacket remaining samp) := by
  have sample : LooksUp (readSample config) := by
    unfold readSample readSampleV5 readSampleV2v4
    infer_instance
  have checked (samp : UInt32) : Uses UnfilteredOp (checkMoreData samp samplesInPacket) := by
    unfold checkMoreData
    infer_instance
  induction remaining generalizing samp with
  | zero => exact grants_pure ()
  | succ remaining ih =>
      unfold readSamples
      infer_instance

instance : LooksUp (readSFlowDatagram config) := by
  have header : Uses UnfilteredOp (readDatagramHeader config) := by
    unfold readDatagramHeader
    infer_instance
  unfold readSFlowDatagram
  infer_instance

/-- The filter of a run is sound: no lookup leaves the table, and wherever the filter could
be asked it would answer as the table does. -/
structure FilterSound {α : Type} (config : SFConfig) (buffer : Buffer) (program : Decode α)
    (sample : SFSample) : Prop where
  lookups : ∀ vlan ∈ vlansLookedUp (run buffer program sample), InTable vlan
  answers : Along buffer (fun state _ => FiltersInside config buffer state) program sample

theorem lookups_inside {α : Type} {buffer : Buffer} {sample : SFSample} (program : Decode α)
    [looks : LooksUp program]
    (inside : Along buffer (fun state _ => VlansInside state) program sample) :
    ∀ vlan ∈ vlansLookedUp (run buffer program sample), InTable vlan := by
  have own := looks.grants buffer sample (inside.weaken fun _ _ _ => trivial)
  have notes := notes_along (fun mark : Note => ∀ vlan, mark = .vlanLookup vlan → InTable vlan)
    ((own.and inside).weaken fun state op both mark noted vlan lookup => by
      subst noted lookup
      rcases both.1 with rfl | rfl
      · exact both.2.inVlan
      · exact both.2.outVlan)
  intro vlan member
  obtain ⟨⟨mark, place⟩, noted, same⟩ := List.mem_filterMap.mp member
  cases mark with
  | vlanLookup other =>
      cases Option.some.inj same
      exact notes _ noted vlan rfl
  | _ => cases same

/-- The filter of a datagram is sound where no record stores a VLAN outside the table. -/
theorem vlan_filter_sound (config : SFConfig) (buffer : Buffer) (sourceIP : Address)
    (pcapTimestamp : UInt32) (statics : SFSample)
    (stores : Along buffer (fun _ op => StoresInTable op) (readSFlowDatagram config)
      (freshSample sourceIP pcapTimestamp statics)) :
    FilterSound config buffer (readSFlowDatagram config)
      (freshSample sourceIP pcapTimestamp statics) := by
  have fresh : VlansInside (freshSample sourceIP pcapTimestamp statics) :=
    ⟨UInt32.zero_le, UInt32.zero_le⟩
  have inside := (along_invariant buffer VlansInside (fun _ op => StoresInTable op)
    perform_vlansInside _ _ fresh stores).1
  exact ⟨lookups_inside _ inside, inside.weaken fun _ _ inside => inside.filters⟩

/-- A flow sample with a switch record. -/
def switchSample (inVlan outVlan : UInt32) : List UInt32 :=
  [1, 56, 1, 1, 100, 1000, 0, 1, 2, 1, 1001, 16, inVlan, 0, outVlan, 0]

/-- VLAN 1 alone is let through. -/
def vlanOneConfig : SFConfig :=
  { defaultConfig .line with gotVlanFilter := true, vlanFilter := fun vlan => vlan = 1 }

theorem switched_filter_sound :
    FilterSound vlanOneConfig (datagramOf (datagramHeaderV5 1 ++ switchSample 5 4096))
      (readSFlowDatagram vlanOneConfig) (freshSample clearedAddress 0 firstSample) :=
  vlan_filter_sound vlanOneConfig _ clearedAddress 0 firstSample (by decide +kernel)

/-- The index 5000 is looked up in the table of 4097 entries. -/
theorem switch_vlan_outside :
    ¬∀ (config : SFConfig) (buffer : Buffer) (sourceIP : Address) (pcapTimestamp : UInt32)
        (statics : SFSample), FilterSound config buffer (readSFlowDatagram config)
      (freshSample sourceIP pcapTimestamp statics) := by
  intro sound
  have looked : 5000 ∈ vlansLookedUp (run (datagramOf (datagramHeaderV5 1 ++ switchSample 5000 1))
      (readSFlowDatagram vlanOneConfig) (freshSample clearedAddress 0 firstSample)) := by
    decide +kernel
  exact absurd ((sound vlanOneConfig _ clearedAddress 0 firstSample).lookups 5000 looked) (by decide)

end Runs

end SflowTool
