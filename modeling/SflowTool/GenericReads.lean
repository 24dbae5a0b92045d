import SflowTool.Peeking
import SflowTool.SampleRelocation
import SflowTool.StoredCounters

/-! The bytes the flexible record is read from. It is read before any of its bytes is counted:
neither its declared length nor the end of the datagram bounds the reads. -/
namespace SflowTool
open Decoding Decoding.Decoder

section Looks

variable {config : SFConfig} {buffer : Buffer} {sample : SFSample}

/-- A pair of the record that begins at `start`. -/
def pairLook (start index : Nat) : Look :=
  .octets (start + (customInfoSize + flexKvSize * index)) flexKvSize

def pairLooks (start count : Nat) : List Look := (List.range count).map (pairLook start)

/-- The header of an earlier flow sample is printed, where there is one. -/
def headerLooks (buffer : Buffer) (sample : SFSample) : List Look :=
  if wordOf sample .gotHeader = 0 then []
  else [.text (sample.marks .header) (buffer.text (sample.marks .header)).length]

/-- The number of pairs, as the decoder counts them. -/
def visitedPairs (sample : SFSample) : UInt32 := (wordOf sample .currentContextLength - 45) / 12

/-- The looks at a record in their order: its information, and, where its UUID has the length of
one, the earlier header and the pairs. -/
def genericLooks (buffer : Buffer) (sample : SFSample) : List Look :=
  .text sample.cursor (buffer.text sample.cursor).length ::
  .octets (sample.cursor + 37) 4 ::
  .octets (sample.cursor + 41) 4 ::
  if (buffer.text sample.cursor).length = uuidLength then
    headerLooks buffer sample ++ pairLooks sample.cursor (visitedPairs sample).toNat
  else []

theorem looks_readFlexKv (remaining index : Nat) (sample : SFSample) :
    looks buffer (readFlexKv remaining index) sample =
      (List.range' index remaining).map (pairLook (sample.marks .ptr)) := by
  induction remaining generalizing index with
  | zero => rfl
  | succ remaining ih =>
      unfold readFlexKv
      rw [List.range'_succ, List.map_cons]
      refine looks_cons (@yields_peek collector buffer _ _ _ sample) rfl ?_
      refine looks_quiet (@yields_emit collector buffer _ sample) rfl ?_
      rw [looks_behind (yields_readFlexKv _ _), ih]
      exact List.append_nil _

theorem looks_printHeader (sample : SFSample) :
    looks buffer printHeader sample = headerLooks buffer sample := by
  unfold printHeader headerLooks
  refine looks_quiet (yields_getWord buffer .gotHeader sample) rfl ?_
  by_cases unseen : wordOf sample .gotHeader = 0
  · rw [if_pos unseen, if_pos unseen]
    rfl
  · rw [if_neg unseen, if_neg unseen]
    rfl

theorem steady_unseeing (op : Op collector) (steady : SteadyOp op) : Unseeing op := by
  cases op with
  | peek name offset count => exact steady
  | peekText name offset => exact steady
  | _ => trivial

/-! Counted once for each way it is handed on, as before. -/
set_option synthInstance.maxSize 1000000000000

/-- What follows the pairs is checked or only reported. -/
theorem looks_behindPairs (remaining : UInt32) (key objKey : Line) (oid : UInt32) (uuid : Text)
    (data : List (UInt32 × UInt64)) (sample : SFSample) :
    looks buffer (do
      let _ ← skipBytes remaining
      leveldbSimpleWriteData config (.leveldbWrite key data .rawDb)
      printf ("Test for obj key = " ++ objKey.fmt ++ "\n") objKey.args
      writeObjectId config objKey oid uuid
      printf ("Test for key = " ++ key.fmt ++ "\n") key.args
      let _ ← leveldbSimpleReadData config key .rawDb) sample = [] := by
  have steady : Uses SteadyOp (do
      let _ ← skipBytes remaining
      leveldbSimpleWriteData config (.leveldbWrite key data .rawDb)
      printf ("Test for obj key = " ++ objKey.fmt ++ "\n") objKey.args
      writeObjectId config objKey oid uuid
      printf ("Test for key = " ++ key.fmt ++ "\n") key.args
      let _ ← leveldbSimpleReadData config key .rawDb) := inferInstance
  exact looks_nil (steady.mono steady_unseeing) sample

theorem looks_generic : looks buffer (readCountersA10_4_1_n_generic config) sample =
    genericLooks buffer sample := by
  unfold readCountersA10_4_1_n_generic genericLooks
  refine looks_quiet (@yields_mark collector buffer .ptr sample) rfl ?_
  refine looks_quiet (@yields_jump collector buffer _ _) rfl ?_
  refine looks_cons (@yields_peekText collector buffer _ _ _) rfl ?_
  refine looks_quiet (@yields_emit collector buffer _ _) rfl ?_
  refine looks_cons (@yields_peek collector buffer _ _ _ _) rfl ?_
  iterate 2 refine looks_quiet (@yields_emit collector buffer _ _) rfl ?_
  refine looks_cons (@yields_peek collector buffer _ _ _ _) rfl ?_
  refine looks_quiet (@yields_emit collector buffer _ _) rfl ?_
  refine looks_quiet (yields_getWord buffer _ _) rfl ?_
  refine looks_quiet (yields_setWord buffer _ _ _) rfl ?_
  refine looks_quiet (@yields_emit collector buffer _ _) rfl ?_
  by_cases known : (buffer.text sample.cursor).length = uuidLength
  · rw [if_pos known]
    refine (congrArg (looks buffer · _) (if_neg (not_not_intro known))).trans ?_
    refine looks_append yields_printHeader (looks_printHeader _) ?_
    rw [looks_behind (yields_readFlexKv _ _), looks_behindPairs, List.append_nil,
      looks_readFlexKv, ← List.range_eq_range']
    rfl
  · rw [if_neg known]
    exact congrArg (looks buffer · _) (if_pos known)

end Looks

section Records

variable {config : SFConfig} {buffer : Buffer} {sample : SFSample}

/-- Where the bytes of a record end: those of its declared length that were received. -/
def recordEnd (buffer : Buffer) (sample : SFSample) : Nat :=
  min (sample.cursor + (wordOf sample .currentContextLength).toNat) buffer.length

/-- The pairs a record of the declared length has behind its information. -/
def pairCount (sample : SFSample) : Nat :=
  ((wordOf sample .currentContextLength).toNat - customInfoSize) / flexKvSize

/-- A look at a pair. -/
def pairSeen : Look → Bool
  | .octets _ count => count = flexKvSize
  | .text _ _ => false

/-- The record is read inside its bytes, its UUID in the field for it, and exactly its pairs are
visited, one after the other. -/
structure RecordRead (config : SFConfig) (buffer : Buffer) (sample : SFSample) : Prop where
  inside : PeeksInside buffer sample.cursor (recordEnd buffer sample)
    (readCountersA10_4_1_n_generic config) sample
  uuid : ∀ length, .text sample.cursor length ∈
    looks buffer (readCountersA10_4_1_n_generic config) sample → length < 37
  pairs : (looks buffer (readCountersA10_4_1_n_generic config) sample).filter pairSeen =
    pairLooks sample.cursor (pairCount sample)

/-- The record has its whole information, which was received, and its UUID ends in its field. Where
the UUID has the length of one, no header is printed from outside the record and the pairs were
received; where it has not, there are no pairs. -/
structure RecordFits (buffer : Buffer) (sample : SFSample) : Prop where
  long : customInfoSize ≤ (wordOf sample .currentContextLength).toNat
  received : sample.cursor + customInfoSize ≤ buffer.length
  ended : (buffer.text sample.cursor).length ≤ uuidLength
  header : (buffer.text sample.cursor).length = uuidLength → ∀ look ∈ headerLooks buffer sample,
    look.Inside sample.cursor (recordEnd buffer sample)
  pairs : (buffer.text sample.cursor).length = uuidLength →
    sample.cursor + customInfoSize + flexKvSize * pairCount sample ≤ buffer.length
  empty : (buffer.text sample.cursor).length ≠ uuidLength → pairCount sample = 0

theorem visited_of_long (long : customInfoSize ≤ (wordOf sample .currentContextLength).toNat) :
    (visitedPairs sample).toNat = pairCount sample := by
  have less : (45 : UInt32) ≤ wordOf sample .currentContextLength := UInt32.le_iff_toNat_le.mpr long
  rw [visitedPairs, UInt32.toNat_div, UInt32.toNat_sub_of_le _ _ less]
  rfl

theorem pairLooks_seen (start count : Nat) :
    (pairLooks start count).filter pairSeen = pairLooks start count := by
  apply List.filter_eq_self.mpr
  intro look member
  obtain ⟨index, _, rfl⟩ := List.mem_map.mp member
  rfl

theorem headerLooks_unseen : (headerLooks buffer sample).filter pairSeen = [] := by
  unfold headerLooks
  split <;> rfl

theorem pairLooks_inside (start count high : Nat) :
    (∀ look ∈ pairLooks start count, look.Inside start high) ↔
      (0 < count → start + customInfoSize + flexKvSize * count ≤ high) := by
  simp only [pairLooks, List.forall_mem_map, List.mem_range, pairLook, Look.Inside, customInfoSize,
    flexKvSize]
  constructor
  · intro inside some
    have last := inside (count - 1) (by omega) 11 (by decide)
    omega
  · intro room index bound offset within
    have fits := room (by omega)
    omega

/-- Every text that is looked at where the record begins is its UUID. -/
theorem genericLooks_text (length : Nat) (member : .text sample.cursor length ∈ genericLooks buffer sample) :
    length = (buffer.text sample.cursor).length := by
  unfold genericLooks at member
  rcases List.mem_cons.mp member with same | member
  · exact (Look.text.inj same).2
  · rcases List.mem_cons.mp member with same | member
    · cases same
    · rcases List.mem_cons.mp member with same | member
      · cases same
      · split at member
        · rcases List.mem_append.mp member with header | pair
          · unfold headerLooks at header
            split at header
            · cases header
            · obtain ⟨place, text⟩ := Look.text.inj (List.mem_singleton.mp header)
              rw [place]
              exact text
          · obtain ⟨index, _, other⟩ := List.mem_map.mp pair
            cases other
        · cases member

theorem genericLooks_pairs : (genericLooks buffer sample).filter pairSeen =
    if (buffer.text sample.cursor).length = uuidLength then
      pairLooks sample.cursor (visitedPairs sample).toNat
    else [] := by
  unfold genericLooks
  split
  · show (headerLooks buffer sample ++ pairLooks _ _).filter pairSeen = _
    rw [List.filter_append, headerLooks_unseen, pairLooks_seen, List.nil_append]
  · rfl

/-- A flexible record is read as it declares exactly where it fits. -/
theorem record_read_iff (config : SFConfig) (buffer : Buffer) (sample : SFSample) :
    RecordRead config buffer sample ↔ RecordFits buffer sample := by
  constructor
  · rintro ⟨inside, uuid, pairs⟩
    rw [peeksInside_iff, looks_generic] at inside
    rw [looks_generic] at uuid
    rw [looks_generic, genericLooks_pairs] at pairs
    have ended := uuid _ (List.mem_cons_self)
    have last := inside (.octets (sample.cursor + 41) 4) (by simp [genericLooks]) 3 (by decide)
    have long : customInfoSize ≤ (wordOf sample .currentContextLength).toNat := by
      unfold recordEnd at last
      unfold customInfoSize
      omega
    have received : sample.cursor + customInfoSize ≤ buffer.length := by
      unfold recordEnd at last
      unfold customInfoSize
      omega
    have behind (known : (buffer.text sample.cursor).length = uuidLength) (look : Look)
        (member : look ∈ headerLooks buffer sample ++
          pairLooks sample.cursor (visitedPairs sample).toNat) :
        look.Inside sample.cursor (recordEnd buffer sample) := by
      apply inside
      simp only [genericLooks, if_pos known, List.mem_cons]
      exact .inr (.inr (.inr member))
    refine ⟨long, received, Nat.le_of_lt_succ ended, ?_, ?_, ?_⟩
    · intro known look member
      exact behind known look (List.mem_append_left _ member)
    · intro known
      have room := (pairLooks_inside sample.cursor _ (recordEnd buffer sample)).mp
        fun look member => behind known look (List.mem_append_right _ member)
      rw [visited_of_long long] at room
      unfold recordEnd at room
      rcases Nat.eq_zero_or_pos (pairCount sample) with none | some
      · rw [none]
        exact received
      · have fits := room some
        omega
    · intro other
      rw [if_neg other] at pairs
      have count := congrArg List.length pairs
      simp only [pairLooks, List.length_nil, List.length_map, List.length_range] at count
      exact count.symm
  · intro fits
    have visited := visited_of_long fits.long
    have long := fits.long
    have received := fits.received
    have ended := fits.ended
    refine ⟨?_, ?_, ?_⟩
    · rw [peeksInside_iff, looks_generic]
      simp only [genericLooks, List.forall_mem_cons]
      unfold customInfoSize at long received
      unfold uuidLength at ended
      refine ⟨⟨Nat.le_refl _, ?_⟩, ?_, ?_, ?_⟩
      · unfold recordEnd
        omega
      · intro index bound
        unfold recordEnd
        omega
      · intro index bound
        unfold recordEnd
        omega
      · split
        · rename_i known
          rw [List.forall_mem_append, pairLooks_inside, visited]
          refine ⟨fits.header known, fun some => ?_⟩
          have room := fits.pairs known
          have whole := Nat.mul_div_le ((wordOf sample .currentContextLength).toNat - customInfoSize)
            flexKvSize
          unfold recordEnd
          unfold pairCount at room ⊢
          unfold customInfoSize at room whole ⊢
          omega
        · exact List.forall_mem_nil _
    · intro length member
      rw [looks_generic] at member
      rw [genericLooks_text length member]
      unfold uuidLength at ended
      omega
    · rw [looks_generic, genericLooks_pairs, visited]
      split
      · rfl
      · rename_i other
        rw [fits.empty other]
        rfl

/-- A record of 44 bytes with others behind it. -/
def shortRecord : Buffer := datagramOf (List.replicate 22 0)

/-- The last byte of the partition id is read behind the end of the record. -/
theorem short_record_read :
    ¬∀ (config : SFConfig) (buffer : Buffer) (sample : SFSample), RecordRead config buffer sample := by
  intro read
  have outside : ¬PeeksInside shortRecord 0
      (recordEnd shortRecord (holding firstSample .currentContextLength 44))
      (readCountersA10_4_1_n_generic (defaultConfig .line))
      (holding firstSample .currentContextLength 44) := by decide +kernel
  exact outside (read (defaultConfig .line) shortRecord _).inside

end Records

end SflowTool
