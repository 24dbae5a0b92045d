import SflowTool.ExportSpecs
import SflowTool.Relocation
import SflowTool.Wire

/-! A version 5 sample does not notice where it lies. Whatever its decoders look at without
a check lies behind a pointer they have just taken, but for two looks at the last header:
the capture of a packet and the text that the flexible record prints of it. What the
header's pointer shows therefore belongs to the contents of a sample. -/
namespace SflowTool
open Decoding Decoding.Decoder

variable {config : SFConfig}

section Contents

/-- The header pointers show the same, as it is captured and as it is printed. -/
structure HeaderAlike (config : SFConfig) (first second : Buffer) (one two : SFSample) :
    Prop where
  captured : second.slice (two.marks .header) (captureLength config two).toNat =
    first.slice (one.marks .header) (captureLength config one).toNat
  text : second.text (two.marks .header) = first.text (one.marks .header)

abbrev headerTie (config : SFConfig) : Tie collector := HeaderAlike config

theorem headerAlike_of_displaced {first second : Buffer} {left right : Nat}
    (tail : first.SameTail second left right) {one two : SFSample} (same : two.store = one.store)
    (displaced : ∃ offset, one.marks .header = left + offset ∧ two.marks .header = right + offset) :
    HeaderAlike config first second one two := by
  obtain ⟨offset, here, there⟩ := displaced
  constructor
  · rw [captureLength_congr (congrFun same _) (congrFun same _), here, there, tail.slice]
  · rw [here, there, tail.text]

/-- What leaves the header's pointer and sizes alone leaves alone what it shows. -/
theorem HeaderAlike.kept {first second : Buffer} {one two one' two' : SFSample}
    (alike : HeaderAlike config first second one two)
    (mark : one'.marks .header = one.marks .header) (mark' : two'.marks .header = two.marks .header)
    (store : ∀ var : Var, var.family = .header → one'.store var = one.store var)
    (store' : ∀ var : Var, var.family = .header → two'.store var = two.store var) :
    HeaderAlike config first second one' two' := by
  constructor
  · rw [mark, mark', captureLength_congr (store _ rfl) (store _ rfl),
      captureLength_congr (store' _ rfl) (store' _ rfl)]
    exact alike.captured
  · rw [mark, mark']
    exact alike.text

end Contents

section Operations

/-- Operations that look behind no pointer and leave the header alone. -/
def SteadyOp : Op collector → Prop
  | .mark _ | .since _ | .peek _ _ _ | .peekText _ _ | .survey => False
  | .set var _ => var.family ≠ .header
  | _ => True

/-- Operations of the dissection of a header: they look behind its pointer alone. -/
def HeaderOp : Op collector → Prop
  | .mark name | .peek name _ _ => name = .header
  | .since _ | .peekText _ _ | .survey => False
  | _ => True

instance : Permits SteadyOp where
  take _ _ := trivial
  skip _ := trivial
  errout _ := trivial
  note _ _ _ _ _ := trivial
  abort _ _ := trivial
instance : PermitsNames SteadyOp where
  lookup _ _ := trivial
instance : PermitsFilter SteadyOp where
  lookup _ := trivial
instance : PermitsLog config SteadyOp where
  log _ _ := trivial
instance : PermitsOctets SteadyOp where
  take _ := trivial
instance : PermitsIteration SteadyOp where
  note := trivial
instance : PermitsPrint SteadyOp where
  print _ := trivial
instance : PermitsMetrics SteadyOp where
  opentsdb _ := trivial
instance : PermitsJump SteadyOp where
  jump _ := trivial
instance (family : Family) : PermitsGet SteadyOp family where
  get _ _ := trivial

instance (event : Event) : Uses SteadyOp (@Decoder.emit collector event) :=
  uses_single _ trivial

theorem steady_sets (family : Family) (other : family ≠ .header) :
    PermitsUse SteadyOp family where
  get _ _ := trivial
  set _ same _ := fun header => other (same.symm.trans header)

instance : PermitsUse SteadyOp .sample := steady_sets _ nofun
instance : PermitsUse SteadyOp .packet := steady_sets _ nofun
instance : PermitsUse SteadyOp .ethernet := steady_sets _ nofun
instance : PermitsUse SteadyOp .addresses := steady_sets _ nofun
instance : PermitsUse SteadyOp .vlan := steady_sets _ nofun
instance : PermitsUse SteadyOp .switching := steady_sets _ nofun
instance : PermitsUse SteadyOp .router := steady_sets _ nofun
instance : PermitsUse SteadyOp .gateway := steady_sets _ nofun
instance : PermitsUse SteadyOp .user := steady_sets _ nofun
instance : PermitsUse SteadyOp .url := steady_sets _ nofun
instance : PermitsUse SteadyOp .forwarding := steady_sets _ nofun
instance : PermitsUse SteadyOp .commonLog := steady_sets _ nofun
instance : PermitsUse SteadyOp .context := steady_sets _ nofun
instance : PermitsUse SteadyOp .metrics := steady_sets _ nofun
instance : PermitsUse SteadyOp .counters := steady_sets _ nofun

instance : Permits HeaderOp where
  take _ _ := trivial
  skip _ := trivial
  errout _ := trivial
  note _ _ _ _ _ := trivial
  abort _ _ := trivial
instance : PermitsNames HeaderOp where
  lookup _ _ := trivial
instance : PermitsFilter HeaderOp where
  lookup _ := trivial
instance : PermitsLog config HeaderOp where
  log _ _ := trivial
instance : PermitsHeader HeaderOp where
  note _ := trivial
  exit _ := trivial
instance (family : Family) : PermitsUse HeaderOp family where
  get _ _ := trivial
  set _ _ _ := trivial
instance : PermitsMark HeaderOp .header where
  mark _ := rfl
  peek _ _ := rfl
instance : PermitsPacket HeaderOp where
  mark := inferInstance
  datagram := inferInstance
  header := inferInstance
  packet := inferInstance
  ethernet := inferInstance
  addresses := inferInstance
  vlan := inferInstance

/-- A program does the same wherever its bytes lie. -/
abbrev DecodesAlike (config : SFConfig) {α : Type} (stale : Mark → Prop) (program : Decode α) :
    Prop :=
  @Relocatable collector α (headerTie config) stale program

variable {stale : Mark → Prop}

theorem steady_kept (buffer : Buffer) (op : Op collector) (allow : SteadyOp op)
    (sample : SFSample) :
    (perform buffer op sample).state.marks .header = sample.marks .header ∧
      ∀ var : Var, var.family = .header →
        (perform buffer op sample).state.store var = sample.store var := by
  constructor
  · refine perform_marks buffer op Mark.header ?_ sample
    rintro rfl
    exact allow
  · intro var header
    refine perform_store buffer op var ?_ sample
    rintro value rfl
    exact allow header

instance (priority := low) relocates_steady {α : Type} (program : Decode α)
    [uses : Uses SteadyOp program] : DecodesAlike config stale program := by
  refine uses.relocatable ?_ ?_
  · intro op allow
    cases op <;> first | trivial | exact allow.elim
  · intro op allow first second left right _ one two _ tied _
    obtain ⟨mark, store⟩ := steady_kept first op allow one
    obtain ⟨mark', store'⟩ := steady_kept second op allow two
    exact tied.kept mark mark' store store'

theorem relocates_header {α : Type} (program : Decode α) [fresh : @Fresh collector stale .header]
    [uses : Uses HeaderOp program] : DecodesAlike config stale program := by
  refine uses.relocatable ?_ ?_
  · intro op allow
    cases op with
    | peek name offset count =>
        cases allow
        exact fresh.fresh
    | since name | peekText name offset | survey => exact allow.elim
    | _ => trivial
  · intro op _ first second left right tail one two _ _ later
    exact headerAlike_of_displaced tail later.store (later.marks _ fresh.fresh)

end Operations

/-! Counted once for each way it is handed on, as before. -/
set_option synthInstance.maxSize 1000000000000

section Pointers

instance (name : Mark) (offset count : Nat) [fresh : @Fresh collector stale name] :
    DecodesAlike config stale (@Decoder.peek collector name offset count) := by
  have peeked : Uses (fun op => op = .peek name offset count)
      (@Decoder.peek collector name offset count) := uses_single _ rfl
  refine peeked.relocatable ?_ ?_
  · rintro op rfl
    exact fresh.fresh
  · rintro op rfl first second left right _ one two _ tied _
    exact tied

instance (name : Mark) (offset : Nat) [fresh : @Fresh collector stale name] :
    DecodesAlike config stale (@Decoder.peekText collector name offset) := by
  have peeked : Uses (fun op => op = .peekText name offset)
      (@Decoder.peekText collector name offset) := uses_single _ rfl
  refine peeked.relocatable ?_ ?_
  · rintro op rfl
    exact fresh.fresh
  · rintro op rfl first second left right _ one two _ tied _
    exact tied

instance (name : Mark) [fresh : @Fresh collector stale name] :
    DecodesAlike config stale (@Decoder.since collector name) := by
  have measured : Uses (fun op => op = .since name) (@Decoder.since collector name) :=
    uses_single _ rfl
  refine measured.relocatable ?_ ?_
  · rintro op rfl
    exact fresh.fresh
  · rintro op rfl first second left right _ one two _ tied _
    exact tied

instance : @Retakes collector (headerTie config) .header where
  tied _ _ _ _ tail _ _ _ related _ :=
    headerAlike_of_displaced tail related.store ((related.marked Mark.header).marks _ (fresh_without _).fresh)

theorem retakes_other (name : Mark) (other : name ≠ .header) :
    @Retakes collector (headerTie config) name where
  tied _ _ _ _ _ _ one two _ tied :=
    tied.kept (State.marked_other one name _ (Ne.symm other))
      (State.marked_other two name _ (Ne.symm other)) (fun _ _ => rfl) fun _ _ => rfl

instance : @Retakes collector (headerTie config) .ptr := retakes_other _ nofun
instance : @Retakes collector (headerTie config) .communities := retakes_other _ nofun
instance : @Retakes collector (headerTie config) .start := retakes_other _ nofun
instance : @Retakes collector (headerTie config) .sampleStart := retakes_other _ nofun

instance (priority := high) {α : Type} (name : Mark) (next : Unit → Decode α)
    [@Retakes collector (headerTie config) name]
    [rest : DecodesAlike config (@without collector stale name) (next ())] :
    DecodesAlike config stale (@Decoder.mark collector name >>= next) :=
  relocatable_mark_bind _ _

instance (fieldName : String) : DecodesAlike config stale (sfLogNextMAC config fieldName) := by
  unfold sfLogNextMAC
  infer_instance

instance (title : Line) (fmt : String) (args : UInt32 → List Arg) :
    DecodesAlike config stale (readStack config title fmt args) := by
  unfold readStack
  refine @relocatable_bind _ _ _ _ _ _ _ inferInstance fun depth => ?_
  by_cases counted : depth > 0
  · simp only [when_pos counted]
    infer_instance
  · simp only [when_neg counted]
    infer_instance

instance : DecodesAlike config stale (readExtendedGateway config) := by
  have behind (communitiesLen : UInt32) : DecodesAlike config stale (do
      when (communitiesLen > 0) (@Decoder.mark collector .communities)
      let _ ← skipBytes (communitiesLen * 4)
      when (communitiesLen > 0) do
        let communities ← peek .communities 0 (4 * communitiesLen.toNat)
        logWords config ⟨"BGP_communities ", []⟩ "%u" (fun community => [.word community])
          (wordsOf communities)
      let localpref ← getData32
      setWord .localpref localpref
      sfLog config "BGP_localpref %u\n" [.word localpref]) := by
    by_cases counted : communitiesLen > 0
    · simp only [when_pos counted]
      infer_instance
    · simp only [when_neg counted]
      infer_instance
  unfold readExtendedGateway
  infer_instance

instance : DecodesAlike config stale (readExtendedMpls config) := by
  unfold readExtendedMpls mplsLabelStack
  infer_instance
instance : DecodesAlike config stale (readExtendedVlanTunnel config) := by
  unfold readExtendedVlanTunnel
  infer_instance
instance : DecodesAlike config stale (readExtendedWifiRx config) := by
  unfold readExtendedWifiRx
  infer_instance
instance : DecodesAlike config stale (readExtendedWifiTx config) := by
  unfold readExtendedWifiTx
  infer_instance
instance : DecodesAlike config stale (readCountersHostHid config) := by
  unfold readCountersHostHid
  infer_instance
instance : DecodesAlike config stale (readCountersLACP config) := by
  unfold readCountersLACP
  infer_instance

instance (i : UInt32) (remaining : Nat) (j : UInt32) :
    DecodesAlike config stale (readAdaptorMACs config i remaining j) := by
  induction remaining generalizing j stale with
  | zero => exact relocatable_pure ()
  | succ remaining ih =>
      unfold readAdaptorMACs
      infer_instance

instance (remaining : Nat) (i : UInt32) :
    DecodesAlike config stale (readAdaptors config remaining i) := by
  induction remaining generalizing i with
  | zero => exact relocatable_pure ()
  | succ remaining ih =>
      unfold readAdaptors
      infer_instance

instance : DecodesAlike config stale (readCountersAdaptors config) := by
  unfold readCountersAdaptors
  infer_instance

end Pointers

section Headers

/-- The sizes of a header may go before its pointer, as long as the pointer follows at once. -/
theorem relocates_retake {α : Type} (before : Decode Unit) (next : Unit → Decode α)
    (returns : ∀ (buffer : Buffer) (sample : SFSample),
      ∃ value, (run buffer before sample).outcome = .ok value)
    (sizes : @Relocatable collector Unit (fun _ _ _ _ => True) stale before)
    (rest : DecodesAlike config (@without collector stale .header) (next ())) :
    DecodesAlike config stale
      (before >>= fun _ => @Decoder.mark collector .header >>= next) where
  relocates first second left right tail one two related _ := by
    obtain ⟨earlier, -⟩ := sizes.relocates first second left right tail one two related trivial
    have retaken := earlier.state.marked Mark.header
    have shown : HeaderAlike config first second _ _ := headerAlike_of_displaced tail retaken.store
      (retaken.marks Mark.header (fresh_without _).fresh)
    obtain ⟨later, kept⟩ := rest.relocates first second left right tail _ _ retaken shown
    rw [Decoder.bind_eq, run_bind, run_bind]
    refine relocates_bind _ earlier ?_ fun _ => ?_
    · intro reason stopped
      obtain ⟨value, returned⟩ := returns first one
      rw [returned] at stopped
      cases stopped
    · exact ⟨⟨later.outcome, later.state.forget, later.trace, later.notes⟩, kept⟩

theorem run_sets (buffer : Buffer) (var : WordVar) (value : UInt32) (sample : SFSample) :
    ∃ reply, (run buffer (setWord var value) sample).outcome = .ok reply := ⟨(), rfl⟩

instance (stale : Mark → Prop) (var : WordVar) (value : UInt32) :
    @Relocatable collector Unit (fun _ _ _ _ => True) stale (setWord var value) := by
  have assigned : Uses (fun op => ∃ var value, op = @Op.set collector var value)
      (setWord var value) := uses_single _ ⟨_, _, rfl⟩
  refine assigned.relocatable ?_ fun _ _ _ _ _ _ _ _ _ _ _ _ => trivial
  rintro op ⟨var, value, rfl⟩
  trivial

instance (title : String) : DecodesAlike config stale (readFlowSampleIPv4 config title) := by
  unfold readFlowSampleIPv4
  refine @relocatable_bind _ _ _ _ _ _ _ inferInstance fun _ => ?_
  refine relocates_retake _ _ (fun buffer => run_sets buffer _ _) inferInstance ?_
  exact relocates_header _

instance (title : String) : DecodesAlike config stale (readFlowSampleIPv6 config title) := by
  unfold readFlowSampleIPv6
  refine @relocatable_bind _ _ _ _ _ _ _ inferInstance fun _ => ?_
  refine @relocatable_mark_bind _ _ _ _ _ _ _ ?_
  exact relocates_header _

instance (stale : Mark → Prop) (fmt : String) (args : List Arg) :
    @Relocatable collector Unit (fun _ _ _ _ => True) stale (sfLog config fmt args) := by
  have logged : Uses (fun op => ∃ event, op = @Op.emit collector event)
      (sfLog config fmt args) := uses_when_of _ _ fun _ => uses_single _ ⟨_, rfl⟩
  refine logged.relocatable ?_ fun _ _ _ _ _ _ _ _ _ _ _ _ => trivial
  rintro op ⟨event, rfl⟩
  trivial

/-- The announced size of a header and its log line. -/
theorem run_headerLen (buffer : Buffer) (headerLen : UInt32) (sample : SFSample) :
    ∃ value, (run buffer (do
      setWord .headerLen headerLen
      sfLog config "headerLen %u\n" [.word headerLen]) sample).outcome = .ok value := by
  cases full : decide (config.outputFormat = .full) with
  | true => exact ⟨(), by simp [sfLog, when_pos (of_decide_eq_true full)]; rfl⟩
  | false => exact ⟨(), by simp [sfLog, when_neg (of_decide_eq_false full)]; rfl⟩

instance : DecodesAlike config stale (readFlowSampleHeader config) := by
  have retaken (headerLen : UInt32) (next : Unit → Decode Unit)
      (rest : DecodesAlike config (@without collector stale .header) (next ())) :
      DecodesAlike config stale (do
        setWord .headerLen headerLen
        sfLog config "headerLen %u\n" [.word headerLen]
        @Decoder.mark collector .header
        next ()) := by
    have sized := relocates_retake (do
      setWord .headerLen headerLen
      sfLog config "headerLen %u\n" [.word headerLen]) next
      (fun buffer => run_headerLen buffer headerLen) inferInstance rest
    rw [LawfulMonad.bind_assoc] at sized
    exact sized
  unfold readFlowSampleHeader
  iterate 10 refine @relocatable_bind _ _ _ _ _ _ _ inferInstance fun _ => ?_
  refine retaken _ (fun _ => _) ?_
  exact relocates_header _

instance : DecodesAlike config stale (readExtendedWifiPayload config) := by
  unfold readExtendedWifiPayload
  infer_instance

/-- The last header as a text is what its pointer shows. -/
theorem relocates_headerText (next : Text → Decode Unit)
    (rest : ∀ header, DecodesAlike config stale (next header)) :
    DecodesAlike config stale (@Decoder.peekText collector .header 0 >>= next) where
  relocates first second left right tail one two related tied := by
    have same : second.text (two.marks .header + 0) = first.text (one.marks .header + 0) := tied.text
    obtain ⟨later, kept⟩ := (rest (first.text (one.marks .header + 0))).relocates first second left
      right tail one two related tied
    have shown (buffer : Buffer) (sample : SFSample) : 
        run buffer (@Decoder.peekText collector .header 0 >>= next) sample = (run buffer (next (buffer.text (sample.marks .header + 0))) sample).after
        (Run.reply () sample) := rfl
    rw [shown, shown, same]
    exact ⟨⟨later.outcome, later.state, later.trace, later.notes⟩, kept⟩

instance : DecodesAlike config stale printHeader := by
  have printed (header : Text) : DecodesAlike config stale
      (printf "smaple-> datap = %s\n" [.text header]) := inferInstance
  have looked := relocates_headerText _ printed
  unfold printHeader
  infer_instance

instance (remaining index : Nat) [@Fresh collector stale .ptr] :
    DecodesAlike config stale (readFlexKv remaining index) := by
  induction remaining generalizing index with
  | zero => exact relocatable_pure []
  | succ remaining ih =>
      unfold readFlexKv
      infer_instance

instance (write : Event) : Uses SteadyOp (leveldbSimpleWriteData config write) := by
  unfold leveldbSimpleWriteData
  cases config.leveldbError <;> infer_instance
instance (key : Line) (database : Database) :
    Uses SteadyOp (leveldbSimpleReadData config key database) := by
  unfold leveldbSimpleReadData
  cases config.leveldbError <;> infer_instance
instance (objId : Line) (oid : UInt32) (uuid : Text) :
    Uses SteadyOp (writeObjectId config objId oid uuid) := by
  unfold writeObjectId
  infer_instance

instance : DecodesAlike config stale (readCountersA10_4_1_n_generic config) := by
  unfold readCountersA10_4_1_n_generic
  infer_instance

end Headers

section Elements

theorem flowDecoders_alike (entry : UInt32 × Decode Unit) (member : entry ∈ flowDecoders config) :
    DecodesAlike config stale entry.2 := by
  revert entry
  simp only [flowDecoders, List.forall_mem_cons, List.not_mem_nil, false_implies, implies_true,
    and_true]
  and_intros <;> infer_instance

theorem counterDecoders_alike (length : UInt32) (entry : UInt32 × Decode Unit)
    (member : entry ∈ counterDecoders config length) : DecodesAlike config stale entry.2 := by
  revert entry
  simp only [counterDecoders, plainCounterDecoders, flexCounterDecoders, ddosCounterDecoders,
    List.forall_mem_append, List.forall_mem_cons, List.not_mem_nil, false_implies, implies_true,
    and_true]
  and_intros <;> infer_instance

instance (tag length : UInt32) : DecodesAlike config stale (readFlowElementBody config tag length) := by
  unfold readFlowElementBody
  split
  · next decoder found => exact flowDecoders_alike _ (lookup_mem found)
  · infer_instance

instance (tag length : UInt32) :
    DecodesAlike config stale (readCounterElementBody config tag length) := by
  unfold readCounterElementBody
  split
  · next decoder found => exact counterDecoders_alike length _ (lookup_mem found)
  · infer_instance

instance (mark : Note) : Uses SteadyOp (@Decoder.note collector mark) := uses_single _ trivial

instance (description : String) (origin : Mark) (len : UInt32) [@Fresh collector stale origin] :
    DecodesAlike config stale (lengthCheck description origin len) := by
  unfold lengthCheck
  infer_instance

instance : DecodesAlike config stale (readFlowElement config) := by
  unfold readFlowElement
  infer_instance

instance (remaining : Nat) : DecodesAlike config stale (readFlowElements config remaining) := by
  induction remaining with
  | zero => exact relocatable_pure ()
  | succ remaining ih =>
      unfold readFlowElements
      infer_instance

instance : DecodesAlike config stale (readCounterElement config) := by
  unfold readCounterElement
  infer_instance

instance (remaining : Nat) : DecodesAlike config stale (readCounterElements config remaining) := by
  induction remaining with
  | zero => exact relocatable_pure ()
  | succ remaining ih =>
      unfold readCounterElements
      infer_instance

end Elements

section Exports

instance : PermitsHeader SteadyOp where
  note _ := trivial
  exit _ := trivial
instance : PermitsNetFlow SteadyOp where
  tick _ := trivial
  netFlow _ := trivial
  netFlowSpoofed _ _ := trivial
instance : PermitsRecords config SteadyOp where
  record _ _ _ := trivial

instance : DecodesAlike config stale (writePcapPacket config) where
  relocates first second left right _ one two related tied := by
    have length : captureLength config two = captureLength config one :=
      captureLength_congr (congrFun related.store _) (congrFun related.store _)
    have packet : pcapPacketOf config second two = pcapPacketOf config first one := by
      have captured := tied.captured
      rw [length] at captured
      simp only [pcapPacketOf, length, captured, wordOf, related.store]
    rw [run_writePcapPacket, run_writePcapPacket, packet, related.ticks]
    exact ⟨⟨rfl, related, rfl, rfl⟩, tied⟩

instance : DecodesAlike config stale (emitFlowSample config) := by
  unfold emitFlowSample
  refine @relocatable_bind _ _ _ _ _ _ _ inferInstance fun accepted => ?_
  refine @relocatable_when _ _ _ _ _ _ ?_
  split
  · infer_instance
  · infer_instance
  · next line =>
      have listed : Uses SteadyOp writeFlowLine := @writeFlowLine_uses config _ _ _ _ line
      infer_instance
  · have emitted (client : Text) (httpLog : Var.clfHttpLog.type) :
        Uses SteadyOp (@Decoder.emit collector (.clfLine client httpLog)) := uses_single _ trivial
    infer_instance
  · exact relocatable_pure ()

end Exports

end SflowTool
