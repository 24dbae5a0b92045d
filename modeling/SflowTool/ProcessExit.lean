import SflowTool.SampleUses
import SflowTool.Wire

/-! When a datagram ends the process. Every abort is caught and the collector goes on
to the next datagram; the only way out is a sampled header whose protocol has no entry
in the table of header protocols. The contract below is exact: a piece of a decode
exits where it met such a header and nowhere else. -/
namespace SflowTool
open Decoding Decoding.Decoder

/-- The header protocols that are dissected or known not to be. -/
def KnownProtocol (protocol : UInt32) : Prop :=
  protocol ∈ [1, 11, 12, 15] ∨ protocol ∈ undissectedProtocols

instance (protocol : UInt32) : Decidable (KnownProtocol protocol) :=
  inferInstanceAs (Decidable (_ ∨ _))

def Note.Known : Note → Prop
  | .headerProtocol protocol => KnownProtocol protocol
  | _ => True

variable (config : SFConfig)

def SafeOp : Op collector → Prop
  | .emit event => event.Gated config
  | .note mark => mark.Known
  | .stop reason => reason.isExit = false
  | _ => True

/-- A piece of a decode exits exactly where it met an unknown header protocol, and it
logs in the full format only. -/
structure Orderly (shown : Shown collector) : Prop where
  exits : (∃ reason, shown.stopped = some reason ∧ reason.isExit = true) ↔
    ∃ mark ∈ shown.notes, ¬mark.Known
  gated : ∀ event ∈ shown.events, event.Gated config

variable {config}

instance : Sequential (Orderly config) where
  nothing := ⟨by simp, by simp⟩
  append first second returned earlier later := by
    have known : ∀ mark ∈ first.notes, mark.Known := by
      intro mark member
      by_contra unknown
      obtain ⟨reason, stopped, _⟩ := earlier.exits.mpr ⟨mark, member, unknown⟩
      rw [returned] at stopped
      cases stopped
    constructor
    · simp only [Shown.append, List.mem_append]
      rw [later.exits]
      constructor
      · rintro ⟨mark, member, unknown⟩
        exact ⟨mark, .inr member, unknown⟩
      · rintro ⟨mark, member | member, unknown⟩
        · exact absurd (known mark member) unknown
        · exact ⟨mark, member, unknown⟩
    · intro event member
      rcases List.mem_append.mp member with member | member
      · exact earlier.gated event member
      · exact later.gated event member

theorem known_of_decent (mark : Note) (decent : mark.framing = false) : mark.Known := by
  cases mark with
  | headerProtocol protocol => cases decent
  | _ => trivial

instance : Harmless (Orderly config) (SafeOp config) where
  single op allow buffer state := by
    cases op with
    | take count =>
        simp only [perform]
        split <;> exact ⟨by simp [Run.shown, Run.reply, Run.halt, Stop.isExit], List.forall_mem_nil _⟩
    | skip count =>
        simp only [perform]
        split <;> exact ⟨by simp [Run.shown, Run.reply, Run.halt, Stop.isExit], List.forall_mem_nil _⟩
    | emit event =>
        refine ⟨by simp [perform, Run.shown], ?_⟩
        simpa [perform, Run.shown, SafeOp] using allow
    | note mark =>
        refine ⟨?_, by simp [perform, Run.shown]⟩
        simpa [perform, Run.shown, SafeOp] using allow
    | stop reason =>
        refine ⟨?_, by simp [perform, Run.shown, Run.halt]⟩
        simpa [perform, Run.shown, Run.halt, SafeOp] using allow
    | _ => exact ⟨by simp [perform, Run.shown, Run.reply], by simp [perform, Run.shown, Run.reply]⟩

instance (priority := low) safe_of_decent {α : Type} (program : Decode α)
    [decent : Uses (DecentOp config) program] : Uses (SafeOp config) program :=
  decent.mono fun op allow => by
    cases op with
    | note mark => exact known_of_decent mark allow
    | emit event => exact allow
    | stop reason => exact allow
    | _ => trivial

/-! Counted once for each way it is handed on, as before. -/
set_option synthInstance.maxSize 1000000000000

theorem note_safe (mark : Note) (known : mark.Known) :
    Uses (SafeOp config) (@Decoder.note collector mark) :=
  uses_single _ known

instance (name : Mark) : Uses (SafeOp config) (@Decoder.mark collector name) :=
  uses_single _ trivial
instance (tag length : UInt32) :
    Uses (SafeOp config) (@Decoder.note collector (.flowElement tag length)) :=
  note_safe _ trivial
instance : Uses (SafeOp config) (@Decoder.note collector .flowElementEnd) := note_safe _ trivial
instance : Uses (SafeOp config) (@Decoder.note collector .flowSampleEnd) := note_safe _ trivial
instance (tag length : UInt32) :
    Uses (SafeOp config) (@Decoder.note collector (.counterElement tag length)) :=
  note_safe _ trivial
instance : Uses (SafeOp config) (@Decoder.note collector .counterElementEnd) :=
  note_safe _ trivial
instance : Uses (SafeOp config) (@Decoder.note collector .countersSampleEnd) :=
  note_safe _ trivial
instance : Uses (SafeOp config) (@Decoder.survey collector) :=
  uses_single _ trivial

/-- An unknown protocol falls through the table to the exit. -/
theorem dissectHeader_unknown (protocol : UInt32) (unknown : ¬KnownProtocol protocol) :
    dissectHeader config protocol = (do
      fprintfErr "undefined headerProtocol = %d\n" [.word protocol]
      customExit (-12)) := by
  simp only [KnownProtocol, List.mem_cons, List.not_mem_nil, or_false, not_or] at unknown
  obtain ⟨⟨one, eleven, twelve, fifteen⟩, others⟩ := unknown
  simp only [dissectHeader, if_neg one, if_neg eleven, if_neg twelve, if_neg fifteen]
  rw [if_neg]
  simpa [undissectedProtocols] using others

theorem dissectHeader_known (protocol : UInt32) (known : KnownProtocol protocol) :
    Uses (SafeOp config) (dissectHeader config protocol) := by
  unfold dissectHeader
  split
  · infer_instance
  split
  · infer_instance
  split
  · infer_instance
  split
  · infer_instance
  split
  · infer_instance
  next one eleven twelve fifteen others =>
    simp [KnownProtocol, one, eleven, twelve, fifteen, others] at known

/-- From the note of the header on, whatever follows the dissection. -/
instance always_dissectHeader {α : Type} (protocol : UInt32) (rest : Unit → Decode α)
    [safe : ∀ value, Uses (SafeOp config) (rest value)] : Always (Orderly config) (do
      @Decoder.note collector (.headerProtocol protocol)
      let value ← dissectHeader config protocol
      rest value) := by
  by_cases known : KnownProtocol protocol
  · have noted : Uses (SafeOp config) (@Decoder.note collector (.headerProtocol protocol)) :=
      note_safe _ known
    have dissected : Uses (SafeOp config) (dissectHeader config protocol) :=
      dissectHeader_known protocol known
    infer_instance
  · rw [dissectHeader_unknown protocol known]
    constructor
    intro buffer state
    constructor
    · constructor
      · intro _
        exact ⟨.headerProtocol protocol, List.mem_singleton.mpr rfl, known⟩
      · intro _
        exact ⟨.exit (-12), rfl, rfl⟩
    · intro event member
      rw [List.mem_singleton.mp member]
      trivial

section Samples

instance : Always (Orderly config) (readFlowSampleHeader config) := by
  unfold readFlowSampleHeader
  infer_instance
instance : Always (Orderly config) (readExtendedWifiPayload config) := by
  unfold readExtendedWifiPayload
  infer_instance

theorem flowDecoders_orderly (entry : UInt32 × Decode Unit) (member : entry ∈ flowDecoders config) :
    Always (Orderly config) entry.2 := by
  revert entry
  simp only [flowDecoders, List.forall_mem_cons, List.not_mem_nil, false_implies, implies_true,
    and_true]
  and_intros <;> infer_instance

instance (tag length : UInt32) :
    Always (Orderly config) (readFlowElementBody config tag length) := by
  unfold readFlowElementBody
  split
  · next decoder found => exact flowDecoders_orderly _ (lookup_mem found)
  · infer_instance

instance : Always (Orderly config) (readFlowElement config) := by
  unfold readFlowElement
  infer_instance

instance (remaining : Nat) : Always (Orderly config) (readFlowElements config remaining) := by
  induction remaining with
  | zero => exact always_pure ()
  | succ remaining ih =>
      unfold readFlowElements
      infer_instance

instance (expanded : Bool) : Always (Orderly config) (readFlowSample config expanded) := by
  unfold readFlowSample
  infer_instance

instance : Always (Orderly config) (readCounterElement config) := by
  unfold readCounterElement
  infer_instance

instance (remaining : Nat) : Always (Orderly config) (readCounterElements config remaining) := by
  induction remaining with
  | zero => exact always_pure ()
  | succ remaining ih =>
      unfold readCounterElements
      infer_instance

instance (expanded : Bool) : Always (Orderly config) (readCountersSample config expanded) := by
  unfold readCountersSample
  infer_instance

instance (packetDataTag : UInt32) :
    Always (Orderly config) (readPacketDataV2v4 config packetDataTag) := by
  unfold readPacketDataV2v4
  infer_instance

instance : Always (Orderly config) (readFlowSampleV2v4 config) := by
  unfold readFlowSampleV2v4
  infer_instance

instance : Always (Orderly config) (readCountersSampleV2v4 config) := by
  unfold readCountersSampleV2v4
  infer_instance

instance : Always (Orderly config) (readSample config) := by
  unfold readSample readSampleV5 readSampleV2v4
  infer_instance

instance (samplesInPacket : UInt32) (remaining : Nat) (samp : UInt32) :
    Always (Orderly config) (readSamples config samplesInPacket remaining samp) := by
  induction remaining generalizing samp with
  | zero => exact always_pure ()
  | succ remaining ih =>
      unfold readSamples checkMoreData
      infer_instance

instance : Always (Orderly config) (readSFlowDatagram config) := by
  unfold readSFlowDatagram readDatagramHeader
  infer_instance

end Samples

/-- The collector is handed back the control. -/
def Received.ToCaller : Received → Prop
  | .exited _ => False
  | _ => True

theorem toCaller_iff (outcome : Except Stop Unit) :
    (received outcome).ToCaller ↔ ∀ reason, outcome = .error reason → reason.isExit = false := by
  cases outcome with
  | ok value => simp [received, Received.ToCaller]
  | error reason => cases reason <;> simp [received, Received.ToCaller, Stop.isExit]

/-- A flow sample whose header record carries a protocol. -/
def headerSample (protocol : UInt32) : List UInt32 :=
  [1, 72, 7, 1, 100, 5, 6, 3, 4, 1, 1, 32, protocol, 64, 0, 16, 0x01020304, 5, 6, 7]

end SflowTool
