import SflowTool.SampleUses
import SflowTool.NetFlowExport
import SflowTool.Pacing
import SflowTool.Yielding

/-! Why a decode ends. Every round of a loop whose count is on the wire has to read four
bytes of its own before it can complete, so that no datagram pays for more rounds than a
quarter of its length; the walk over the IPv6 extension headers moves on by at least six
bytes and ends with the sampled header. -/
namespace SflowTool
open Decoding Decoding.Decoder

def Note.isIteration : Note → Bool
  | .iteration => true
  | _ => false

/-- Four bytes for every round. -/
def wirePace : Pace collector := ⟨Note.isIteration, 4⟩

/-- The rounds of wire-counted loops that a run has completed. -/
def iterations (notes : List (Note × Nat)) : Nat := wirePace.rounds notes

/-- Operations that complete no round. -/
abbrev UnpacedOp : Op collector → Prop := Unpaced wirePace

instance : Permits UnpacedOp where
  take _ _ := trivial
  skip _ := trivial
  errout _ := trivial
  note mark _ other _ _ := by
    cases mark with
    | iteration => exact absurd rfl other
    | _ => rfl
  abort _ _ := trivial
instance : PermitsNames UnpacedOp where
  lookup _ _ := rfl
instance : PermitsFilter UnpacedOp where
  lookup _ := rfl
instance : PermitsState UnpacedOp where
  get _ := trivial
  set _ _ := trivial
  mark _ _ := trivial
  peek _ _ _ := trivial
  since _ := trivial

variable {config : SFConfig}

instance : PermitsLog config UnpacedOp where
  log _ _ := trivial
instance : PermitsOctets UnpacedOp where
  take _ := trivial
instance : PermitsHeader UnpacedOp where
  note _ := rfl
  exit _ := trivial
instance : PermitsReport UnpacedOp where
  survey := trivial
  report _ _ _ _ := trivial
instance : PermitsPrint UnpacedOp where
  print _ := trivial
instance : PermitsMetrics UnpacedOp where
  opentsdb _ := trivial
instance : PermitsJump UnpacedOp where
  jump _ := trivial
instance : PermitsFlexible UnpacedOp where
  peekText _ _ := trivial
  write _ _ _ := trivial
  writeObject _ _ _ _ := trivial
  read _ _ := trivial
instance : PermitsNetFlow UnpacedOp where
  tick _ := trivial
  netFlow _ := trivial
  netFlowSpoofed _ _ := trivial
instance : PermitsRecords config UnpacedOp where
  record _ _ _ := trivial

/-- A program whose rounds are all paid for. -/
abbrev KeepsPace {α : Type} (program : Decode α) : Prop := Paces wirePace 0 program

/-- A program that pays for a round besides. -/
abbrev PaysRound {α : Type} (program : Decode α) : Prop := Paces wirePace 1 program

/-! Counted once for each way it is handed on, as before. -/
set_option synthInstance.maxSize 1000000000000

instance (name : Mark) : Uses UnpacedOp (@Decoder.mark collector name) := uses_single _ trivial
instance : Uses UnpacedOp (@Decoder.survey collector) := uses_single _ trivial
instance (tag length : UInt32) :
    Uses UnpacedOp (@Decoder.note collector (.flowElement tag length)) := uses_single _ rfl
instance : Uses UnpacedOp (@Decoder.note collector .flowElementEnd) := uses_single _ rfl
instance : Uses UnpacedOp (@Decoder.note collector .flowSampleEnd) := uses_single _ rfl
instance (tag length : UInt32) :
    Uses UnpacedOp (@Decoder.note collector (.counterElement tag length)) := uses_single _ rfl
instance : Uses UnpacedOp (@Decoder.note collector .counterElementEnd) := uses_single _ rfl
instance : Uses UnpacedOp (@Decoder.note collector .countersSampleEnd) := uses_single _ rfl

/-- A word pays for a round. -/
theorem getData32_pays (next : UInt32 → Decode Unit) (rest : ∀ word, KeepsPace (next word)) :
    PaysRound (getData32 >>= next) := by
  refine paces_first _ _ ?_ rest
  exact paces_first _ _ (paces_take 4 (Nat.le_refl 4)) fun octets => paces_pure _

section Gateway

/-- One AS number of a path segment. -/
def readASNumber (config : SFConfig) (segments seg segType segLen i : UInt32) : Decode Unit := do
  let asNumber ← getData32
  (if i = 0 ∧ seg = 0 then setWord .dstPeerAs asNumber else sfLog config "-" [])
  when (i = 0 ∧ segType = 1) (sfLog config "(" [])
  sfLog config "%u" [.word asNumber]
  when (seg = segments - 1 ∧ i = segLen - 1) (setWord .dstAs asNumber)

theorem readASNumbers_succ (segments seg segType segLen : UInt32) (remaining : Nat) (i : UInt32) :
    readASNumbers config segments seg segType segLen (remaining + 1) i = (do
      readASNumber config segments seg segType segLen i
      @Decoder.note collector .iteration
      readASNumbers config segments seg segType segLen remaining (i + 1)) := by
  simp only [readASNumbers, readASNumber, LawfulMonad.bind_assoc]

theorem readASNumber_pays (segments seg segType segLen i : UInt32) :
    PaysRound (readASNumber config segments seg segType segLen i) :=
  getData32_pays _ fun _ => inferInstance

instance (segments seg segType segLen : UInt32) (remaining : Nat) (i : UInt32) :
    KeepsPace (readASNumbers config segments seg segType segLen remaining i) := by
  induction remaining generalizing i with
  | zero => exact paces_pure ()
  | succ remaining ih =>
      rw [readASNumbers_succ]
      exact paces_round _ _ _ (readASNumber_pays segments seg segType segLen i) (ih (i + 1))

/-- One path segment. -/
def readASSegment (config : SFConfig) (segments seg : UInt32) : Decode Unit := do
  let segType ← getData32
  let segLen ← getData32
  readASNumbers config segments seg segType segLen segLen.toNat 0
  when (segType = 1) (sfLog config ")" [])

theorem readASSegments_succ (segments : UInt32) (remaining : Nat) (seg : UInt32) :
    readASSegments config segments (remaining + 1) seg = (do
      readASSegment config segments seg
      @Decoder.note collector .iteration
      readASSegments config segments remaining (seg + 1)) := by
  simp only [readASSegments, readASSegment, LawfulMonad.bind_assoc]

theorem readASSegment_pays (segments seg : UInt32) :
    PaysRound (readASSegment config segments seg) :=
  getData32_pays _ fun _ => inferInstance

instance (segments : UInt32) (remaining : Nat) (seg : UInt32) :
    KeepsPace (readASSegments config segments remaining seg) := by
  induction remaining generalizing seg with
  | zero => exact paces_pure ()
  | succ remaining ih =>
      rw [readASSegments_succ]
      exact paces_round _ _ _ (readASSegment_pays segments seg) (ih (seg + 1))

instance : KeepsPace (readExtendedGateway config) := by
  unfold readExtendedGateway
  infer_instance

end Gateway

section Adaptors

/-- One hardware address of an adaptor. -/
def readAdaptorMAC (config : SFConfig) (i j : UInt32) : Decode Unit := do
  mark .ptr
  let mac ← peek .ptr 0 6
  sfLog config "adaptor_%u_MAC_%u %02x%02x%02x%02x%02x%02x\n" [.word i, .word j, .bytes mac]
  let _ ← skipBytes 8

theorem readAdaptorMACs_succ (i : UInt32) (remaining : Nat) (j : UInt32) :
    readAdaptorMACs config i (remaining + 1) j = (do
      readAdaptorMAC config i j
      @Decoder.note collector .iteration
      readAdaptorMACs config i remaining (j + 1)) := by
  simp only [readAdaptorMACs, readAdaptorMAC, LawfulMonad.bind_assoc, pure_bind]

theorem readAdaptorMAC_pays (i j : UInt32) : PaysRound (readAdaptorMAC config i j) := by
  have skipped : PaysRound (skipBytes 8) := paces_skip 8 (by decide)
  refine paces_rest _ _ inferInstance fun _ => ?_
  refine paces_rest _ _ inferInstance fun _ => ?_
  refine paces_rest _ _ inferInstance fun _ => ?_
  exact paces_first _ _ skipped fun _ => paces_pure ()

instance (i : UInt32) (remaining : Nat) (j : UInt32) :
    KeepsPace (readAdaptorMACs config i remaining j) := by
  induction remaining generalizing j with
  | zero => exact paces_pure ()
  | succ remaining ih =>
      rw [readAdaptorMACs_succ]
      exact paces_round _ _ _ (readAdaptorMAC_pays i j) (ih (j + 1))

/-- One adaptor. -/
def readAdaptor (config : SFConfig) (i : UInt32) : Decode Unit := do
  let ifindex ← getData32
  sfLog config "adaptor_%u_ifIndex %u\n" [.word i, .word ifindex]
  let numMacs ← getData32
  sfLog config "adaptor_%u_MACs %u\n" [.word i, .word numMacs]
  readAdaptorMACs config i numMacs.toNat 0

theorem readAdaptors_succ (remaining : Nat) (i : UInt32) :
    readAdaptors config (remaining + 1) i = (do
      readAdaptor config i
      @Decoder.note collector .iteration
      readAdaptors config remaining (i + 1)) := by
  simp only [readAdaptors, readAdaptor, LawfulMonad.bind_assoc]

theorem readAdaptor_pays (i : UInt32) : PaysRound (readAdaptor config i) :=
  getData32_pays _ fun _ => inferInstance

instance (remaining : Nat) (i : UInt32) : KeepsPace (readAdaptors config remaining i) := by
  induction remaining generalizing i with
  | zero => exact paces_pure ()
  | succ remaining ih =>
      rw [readAdaptors_succ]
      exact paces_round _ _ _ (readAdaptor_pays i) (ih (i + 1))

instance : KeepsPace (readCountersAdaptors config) := by
  unfold readCountersAdaptors
  infer_instance

end Adaptors

section EntryArrays

theorem readCountersDdosProtocol_pays (index : Nat) :
    PaysRound (readCountersDdosProtocol config index) := by
  unfold readCountersDdosProtocol
  refine paces_rest _ _ inferInstance fun _ => ?_
  exact getData32_pays _ fun _ => inferInstance

theorem readCountersDdosApp_pays (index : Nat) :
    PaysRound (readCountersDdosApp config index) := by
  unfold readCountersDdosApp
  refine paces_rest _ _ inferInstance fun _ => ?_
  exact getData32_pays _ fun _ => inferInstance

theorem readEntryArray_paces (readElement : Nat → Decode Unit)
    (pays : ∀ index, PaysRound (readElement index)) (remaining index : Nat) :
    KeepsPace (readEntryArray readElement remaining index) := by
  induction remaining generalizing index with
  | zero => exact paces_pure ()
  | succ remaining ih =>
      unfold readEntryArray
      exact paces_round _ _ _ (pays index) (ih (index + 1))

instance : KeepsPace (readCountersDdosIpCounter config) := by
  have protocols := readEntryArray_paces (readCountersDdosProtocol config)
    readCountersDdosProtocol_pays
  have apps := readEntryArray_paces (readCountersDdosApp config) readCountersDdosApp_pays
  unfold readCountersDdosIpCounter
  infer_instance

end EntryArrays

section Elements

theorem flowDecoders_pace (entry : UInt32 × Decode Unit) (member : entry ∈ flowDecoders config) :
    KeepsPace entry.2 := by
  revert entry
  simp only [flowDecoders, List.forall_mem_cons, List.not_mem_nil, false_implies, implies_true,
    and_true]
  and_intros <;> infer_instance

instance (tag length : UInt32) : KeepsPace (readFlowElementBody config tag length) := by
  unfold readFlowElementBody
  split
  · next decoder found => exact flowDecoders_pace _ (lookup_mem found)
  · infer_instance

theorem readFlowElement_pays : PaysRound (readFlowElement config) :=
  getData32_pays _ fun _ => inferInstance

instance (remaining : Nat) : KeepsPace (readFlowElements config remaining) := by
  induction remaining with
  | zero => exact paces_pure ()
  | succ remaining ih =>
      unfold readFlowElements
      exact paces_round _ _ _ readFlowElement_pays ih

theorem counterDecoders_pace (length : UInt32) (entry : UInt32 × Decode Unit)
    (member : entry ∈ counterDecoders config length) : KeepsPace entry.2 := by
  revert entry
  simp only [counterDecoders, plainCounterDecoders, flexCounterDecoders, ddosCounterDecoders,
    described, List.forall_mem_append, List.forall_mem_cons, List.not_mem_nil, false_implies,
    implies_true, and_true]
  and_intros <;> infer_instance

instance (tag length : UInt32) : KeepsPace (readCounterElementBody config tag length) := by
  unfold readCounterElementBody
  split
  · next decoder found => exact counterDecoders_pace length _ (lookup_mem found)
  · infer_instance

theorem readCounterElement_pays : PaysRound (readCounterElement config) :=
  getData32_pays _ fun _ => inferInstance

instance (remaining : Nat) : KeepsPace (readCounterElements config remaining) := by
  induction remaining with
  | zero => exact paces_pure ()
  | succ remaining ih =>
      unfold readCounterElements
      exact paces_round _ _ _ readCounterElement_pays ih

/-- One extended record of a version 2 or 4 sample. -/
def readOneExtendedV2v4 (config : SFConfig) : Decode Unit := do
  let extendedTag ← getData32
  readExtendedV2v4 config extendedTag

theorem readAllExtendedV2v4_succ (remaining : Nat) :
    readAllExtendedV2v4 config (remaining + 1) = (do
      readOneExtendedV2v4 config
      @Decoder.note collector .iteration
      readAllExtendedV2v4 config remaining) := by
  simp only [readAllExtendedV2v4, readOneExtendedV2v4, LawfulMonad.bind_assoc]

theorem readOneExtendedV2v4_pays : PaysRound (readOneExtendedV2v4 config) := by
  have record (extendedTag : UInt32) : KeepsPace (readExtendedV2v4 config extendedTag) := by
    unfold readExtendedV2v4
    infer_instance
  exact getData32_pays _ record

instance (remaining : Nat) : KeepsPace (readAllExtendedV2v4 config remaining) := by
  induction remaining with
  | zero => exact paces_pure ()
  | succ remaining ih =>
      rw [readAllExtendedV2v4_succ]
      exact paces_round _ _ _ readOneExtendedV2v4_pays ih

end Elements

section Samples

instance (expanded : Bool) : KeepsPace (readFlowSample config expanded) := by
  unfold readFlowSample
  infer_instance
instance : KeepsPace (readFlowSampleV2v4 config) := by
  unfold readFlowSampleV2v4
  infer_instance
instance (expanded : Bool) : KeepsPace (readCountersSample config expanded) := by
  unfold readCountersSample
  infer_instance
instance : KeepsPace (readCountersSampleV2v4 config) := by
  unfold readCountersSampleV2v4
  infer_instance

/-- One sample of a datagram, where one is still announced. -/
def readNextSample (config : SFConfig) (samp samplesInPacket : UInt32) : Decode Unit := do
  checkMoreData samp samplesInPacket
  readSample config

theorem readSamples_succ (samplesInPacket : UInt32) (remaining : Nat) (samp : UInt32) :
    readSamples config samplesInPacket (remaining + 1) samp = (do
      readNextSample config samp samplesInPacket
      @Decoder.note collector .iteration
      readSamples config samplesInPacket remaining (samp + 1)) := by
  simp only [readSamples, readNextSample, LawfulMonad.bind_assoc]

theorem readNextSample_pays (samp samplesInPacket : UInt32) :
    PaysRound (readNextSample config samp samplesInPacket) := by
  have checked : KeepsPace (checkMoreData samp samplesInPacket) := by
    unfold checkMoreData
    infer_instance
  have sample : PaysRound (readSample config) := by
    unfold readSample readSampleV5 readSampleV2v4
    exact getData32_pays _ fun _ => inferInstance
  exact paces_rest _ _ checked fun _ => sample

instance (samplesInPacket : UInt32) (remaining : Nat) (samp : UInt32) :
    KeepsPace (readSamples config samplesInPacket remaining samp) := by
  induction remaining generalizing samp with
  | zero => exact paces_pure ()
  | succ remaining ih =>
      rw [readSamples_succ]
      exact paces_round _ _ _ (readNextSample_pays samp samplesInPacket) (ih (samp + 1))

instance : KeepsPace (readSFlowDatagram config) := by
  have header : KeepsPace (readDatagramHeader config) := by
    unfold readDatagramHeader
    infer_instance
  unfold readSFlowDatagram
  infer_instance

end Samples

section ExtensionHeaders

/-- The extension headers that are skipped. -/
def SkippedHeader (nextHeader : UInt32) : Prop :=
  nextHeader = 0 ∨ nextHeader = 43 ∨ nextHeader = 44 ∨ nextHeader = 51 ∨ nextHeader = 60

/-- The bytes from one extension header to the next. -/
def extensionSkip (optionLen : UInt32) : Nat := (8 * (optionLen + 1) - 2).toNat

/-- The loop over the extension headers, round by round: it ends where the next header
is no extension, or with nothing where it has run off the sampled header. -/
inductive SkipsExtensions (byteAt : Nat → UInt32) (headerLen : Nat) :
    UInt32 → Nat → Option (UInt32 × Nat) → Prop where
  | arrived (nextHeader : UInt32) (ptr : Nat) (other : ¬SkippedHeader nextHeader) :
      SkipsExtensions byteAt headerLen nextHeader ptr (some (nextHeader, ptr))
  | ranOff (nextHeader : UInt32) (ptr : Nat) (skipped : SkippedHeader nextHeader)
      (beyond : ptr + extensionSkip (byteAt (ptr + 1)) > headerLen) :
      SkipsExtensions byteAt headerLen nextHeader ptr none
  | round (nextHeader : UInt32) (ptr : Nat) (result : Option (UInt32 × Nat))
      (skipped : SkippedHeader nextHeader)
      (inside : ptr + extensionSkip (byteAt (ptr + 1)) ≤ headerLen)
      (rest : SkipsExtensions byteAt headerLen (byteAt ptr)
        (ptr + extensionSkip (byteAt (ptr + 1))) result) :
      SkipsExtensions byteAt headerLen nextHeader ptr result

/-- A byte of the sampled header. -/
def headerByteOf (buffer : Buffer) (sample : SFSample) (offset : Nat) : UInt32 :=
  UInt32.ofNat (beNat (buffer.slice (sample.marks .header + offset) 1))

theorem headerByteOf_lt (buffer : Buffer) (sample : SFSample) (offset : Nat) :
    (headerByteOf buffer sample offset).toNat < 256 := by
  have octet := (buffer.byte (sample.marks .header + offset)).toNat_lt
  simp only [headerByteOf, Buffer.slice, List.range_one, List.map_cons, List.map_nil, beNat,
    List.foldl_cons, List.foldl_nil, UInt32.toNat_ofNat', Nat.add_zero]
  omega

theorem extensionSkip_octet (optionLen : UInt32) (octet : optionLen.toNat < 256) :
    extensionSkip optionLen + 2 = 8 * (optionLen.toNat + 1) := by
  have grown : (8 * (optionLen + 1)).toNat = 8 * (optionLen.toNat + 1) := by
    simp only [UInt32.toNat_mul, UInt32.toNat_add, UInt32.reduceToNat]
    omega
  have room : (2 : UInt32) ≤ 8 * (optionLen + 1) := by
    rw [UInt32.le_iff_toNat_le, grown]
    simp only [UInt32.reduceToNat]
    omega
  rw [extensionSkip, UInt32.toNat_sub_of_le _ _ room, grown]
  simp only [UInt32.reduceToNat]
  omega

theorem yields_sfLog (buffer : Buffer) (fmt : String) (args : List Arg) (sample : SFSample) :
    (run buffer (sfLog config fmt args) sample).Yields () sample := by
  unfold sfLog Decoder.when
  split
  · exact ⟨rfl, rfl⟩
  · exact ⟨rfl, rfl⟩

theorem yields_headerByte (buffer : Buffer) (offset : Nat) (sample : SFSample) :
    (run buffer (headerByte offset) sample).Yields (headerByteOf buffer sample offset) sample :=
  ⟨rfl, rfl⟩

/-- What a round does once it has looked at its header. -/
def afterExtension (config : SFConfig) (headerLen fuel ptr : Nat) (following optionLen : UInt32) :
    Decode (Option (UInt32 × Nat)) :=
  if ptr + extensionSkip optionLen > headerLen then return none
  else skipIPV6Extensions config headerLen fuel following (ptr + extensionSkip optionLen)

theorem skipIPV6Extensions_succ (headerLen fuel : Nat) (nextHeader : UInt32) (ptr : Nat)
    (skipped : SkippedHeader nextHeader) :
    skipIPV6Extensions config headerLen (fuel + 1) nextHeader ptr = (do
      sfLog config "IP6HeaderExtension: %d\n" [.word nextHeader]
      let following ← headerByte ptr
      let optionLen ← headerByte (ptr + 1)
      afterExtension config headerLen fuel ptr following optionLen) :=
  if_pos skipped

/-- Every round moves on by six bytes inside the sampled header, so that the rounds run
out before the fuel does. -/
theorem skipIPV6Extensions_ends (buffer : Buffer) (headerLen fuel : Nat) (nextHeader : UInt32)
    (ptr : Nat) (sample : SFSample) (some : 1 ≤ fuel) (enough : headerLen + 2 ≤ fuel + ptr) :
    ∃ result, SkipsExtensions (headerByteOf buffer sample) headerLen nextHeader ptr result ∧
      (run buffer (skipIPV6Extensions config headerLen fuel nextHeader ptr) sample).Yields
        result sample := by
  induction fuel generalizing nextHeader ptr with
  | zero => omega
  | succ fuel ih =>
      by_cases skipped : SkippedHeader nextHeader
      · have round {result : Option (UInt32 × Nat)} (rest : (run buffer (afterExtension config
            headerLen fuel ptr (headerByteOf buffer sample ptr) (headerByteOf buffer sample (ptr + 1)))
            sample).Yields result sample) : (run buffer (skipIPV6Extensions config headerLen
            (fuel + 1) nextHeader ptr) sample).Yields result sample := by
          rw [skipIPV6Extensions_succ headerLen fuel nextHeader ptr skipped]
          exact yields_bind buffer _ _ (yields_sfLog buffer _ _ sample)
            (yields_bind buffer _ _ (yields_headerByte buffer ptr sample)
              (yields_bind buffer _ _ (yields_headerByte buffer (ptr + 1) sample) rest))
        have moved := extensionSkip_octet _ (headerByteOf_lt buffer sample (ptr + 1))
        by_cases beyond : ptr + extensionSkip (headerByteOf buffer sample (ptr + 1)) > headerLen
        · refine ⟨none, .ranOff nextHeader ptr skipped beyond, round ?_⟩
          exact yields_pos buffer beyond (yields_pure buffer none sample)
        · obtain ⟨result, walked, returned⟩ := ih (headerByteOf buffer sample ptr)
            (ptr + extensionSkip (headerByteOf buffer sample (ptr + 1))) (by omega) (by omega)
          refine ⟨result, .round nextHeader ptr result skipped (by omega) walked, round ?_⟩
          exact yields_neg buffer beyond returned
      · refine ⟨_, .arrived nextHeader ptr skipped, ?_⟩
        unfold skipIPV6Extensions
        exact yields_neg buffer (show ¬(nextHeader = 0 ∨ nextHeader = 43 ∨ nextHeader = 44 ∨
          nextHeader = 51 ∨ nextHeader = 60) from skipped) (yields_pure buffer _ sample)

end ExtensionHeaders

/-- The rounds of the loops whose count is on the wire. -/
inductive LoopBody (config : SFConfig) : Decode Unit → Prop where
  | sample (samp samplesInPacket : UInt32) :
      LoopBody config (readNextSample config samp samplesInPacket)
  | flowElement : LoopBody config (readFlowElement config)
  | counterElement : LoopBody config (readCounterElement config)
  | extended : LoopBody config (readOneExtendedV2v4 config)
  | segment (segments seg : UInt32) : LoopBody config (readASSegment config segments seg)
  | asNumber (segments seg segType segLen i : UInt32) :
      LoopBody config (readASNumber config segments seg segType segLen i)
  | adaptor (i : UInt32) : LoopBody config (readAdaptor config i)
  | mac (i j : UInt32) : LoopBody config (readAdaptorMAC config i j)
  | protocol (index : Nat) : LoopBody config (readCountersDdosProtocol config index)
  | app (index : Nat) : LoopBody config (readCountersDdosApp config index)

theorem loopBody_pays (body : Decode Unit) (loop : LoopBody config body) : PaysRound body := by
  cases loop with
  | sample samp samplesInPacket => exact readNextSample_pays samp samplesInPacket
  | flowElement => exact readFlowElement_pays
  | counterElement => exact readCounterElement_pays
  | extended => exact readOneExtendedV2v4_pays
  | segment segments seg => exact readASSegment_pays segments seg
  | asNumber segments seg segType segLen i => exact readASNumber_pays segments seg segType segLen i
  | adaptor i => exact readAdaptor_pays i
  | mac i j => exact readAdaptorMAC_pays i j
  | protocol index => exact readCountersDdosProtocol_pays index
  | app index => exact readCountersDdosApp_pays index

/-- A decode only moves forward and completes at most one round of a wire-counted loop
for every four received bytes: each round moves on by four bytes besides those of the
rounds inside it. The walk over the extension headers comes to its end. -/
theorem datagram_decode_ends (config : SFConfig) (buffer : Buffer) (sample : SFSample) :
    ((∀ (op : Op collector) (state : SFSample),
        state.cursor ≤ (perform buffer op state).state.cursor) ∧
      sample.cursor ≤ (receiveSFlowDatagram config buffer sample).state.cursor ∧
      ((receiveSFlowDatagram config buffer sample).notes.map Prod.snd).Pairwise (· ≤ ·) ∧
      iterations (receiveSFlowDatagram config buffer sample).notes ≤ buffer.length / 4) ∧
    (∀ body, LoopBody config body → (run buffer body sample).Finishing fun _ final notes =>
      sample.cursor + 4 + 4 * iterations notes ≤ final.cursor) ∧
    ∀ (headerLen : Nat) (nextHeader : UInt32) (ptr : Nat), ∃ result,
      SkipsExtensions (headerByteOf buffer sample) headerLen nextHeader ptr result ∧
      (run buffer (skipIPV6Extensions config headerLen (headerLen + 2) nextHeader ptr)
        sample).outcome = .ok result := by
  have paced : KeepsPace (readSFlowDatagram config) := inferInstance
  refine ⟨⟨perform_cursor buffer, run_cursor buffer _ sample, (run_notes_ordered buffer _ sample).1, ?_⟩, ?_, ?_⟩
  · have within : min sample.cursor buffer.length +
        4 * iterations (receiveSFlowDatagram config buffer sample).notes ≤ buffer.length :=
      (paced.paces buffer sample).within
    omega
  · intro body loop
    refine ((loopBody_pays body loop).paces buffer sample).returned.mono ?_
    intro value final notes paid
    have forward : sample.cursor + 4 * (iterations notes + 1) ≤ final.cursor := paid.1
    omega
  · intro headerLen nextHeader ptr
    obtain ⟨result, walked, yields⟩ := @skipIPV6Extensions_ends config buffer headerLen
      (headerLen + 2) nextHeader ptr sample (by omega) (by omega)
    exact ⟨result, walked, yields.outcome⟩

/-- A datagram that announces two samples and ends after the first. -/
theorem announced_samples_end :
    iterations (receiveSFlowDatagram (netFlowConfig 1000)
      (datagramOf (datagramHeaderV5 2 ++ udpSample)) firstSample).notes ≤ 136 / 4 ∧
    (run (datagramOf udpSample) (readNextSample (netFlowConfig 1000) 0 1)
      firstSample).Finishing fun _ final notes =>
        firstSample.cursor + 4 + 4 * iterations notes ≤ final.cursor := by
  have size : (datagramOf (datagramHeaderV5 2 ++ udpSample)).length = 136 := by decide +kernel
  obtain ⟨⟨_, _, _, rounds⟩, _⟩ := datagram_decode_ends (netFlowConfig 1000)
    (datagramOf (datagramHeaderV5 2 ++ udpSample)) firstSample
  obtain ⟨_, paid, _⟩ := datagram_decode_ends (netFlowConfig 1000) (datagramOf udpSample) firstSample
  rw [size] at rounds
  exact ⟨rounds, paid _ (.sample 0 1)⟩

end SflowTool
