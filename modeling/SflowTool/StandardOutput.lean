import SflowTool.SampleUses
import SflowTool.Wire

/-! What reaches standard output outside the full format. The exports write records of
the format that was asked for; every element of a version 5 counters sample also prints
its tag, whatever the format is. The contract is again exact: a piece of a decode writes
something else than records where it got to such an element and nowhere else. -/
namespace SflowTool
open Decoding Decoding.Decoder

def Note.ofCounterElement : Note → Bool
  | .counterElement _ _ => true
  | _ => false

variable (config : SFConfig)

def TidyOp : Op collector → Prop
  | .emit event => event.Clean config
  | .note mark => mark.ofCounterElement = false
  | _ => True

/-- Outside the full format a piece writes something else than records exactly where it
got to an element of a counters sample. -/
def Tidy (shown : Shown collector) : Prop :=
  config.outputFormat ≠ .full →
    ((∃ event ∈ shown.events, ¬event.Clean config) ↔
      ∃ mark ∈ shown.notes, mark.ofCounterElement = true)

variable {config}

instance : Sequential (Tidy config) where
  nothing _ := by simp
  append first second _ earlier later format := by
    have one := earlier format
    have two := later format
    simp only [Shown.append, List.mem_append, or_and_right, exists_or, one, two]

instance : Harmless (Tidy config) (TidyOp config) where
  single op allow buffer state format := by
    cases op with
    | take count => simp only [perform]; split <;> simp [Run.shown, Run.reply, Run.halt]
    | skip count => simp only [perform]; split <;> simp [Run.shown, Run.reply, Run.halt]
    | emit event => simpa [perform, Run.shown, TidyOp] using allow
    | note mark => simpa [perform, Run.shown, TidyOp] using allow
    | _ => simp [perform, Run.shown, Run.reply, Run.halt]

instance (priority := low) tidy_of_record {α : Type} (program : Decode α)
    [record : Uses (RecordOp config) program] : Uses (TidyOp config) program :=
  record.mono fun op allow => by
    cases op with
    | emit event => exact allow.2 event rfl
    | note mark =>
        have unframed : mark.framing = false := allow.1
        cases mark <;> first | rfl | cases unframed
    | _ => trivial

instance (priority := low) tidy_of_flow {α : Type} (program : Decode α)
    [flow : Uses (FlowOp config) program] : Uses (TidyOp config) program :=
  flow.mono fun op allow => by
    rcases allow with plain | ⟨protocol, rfl⟩ | ⟨code, rfl⟩
    · cases op with
      | emit event => exact clean_of_silent event plain.1.1 plain.1.2
      | note mark =>
          have unframed : mark.framing = false := plain.1.1
          cases mark <;> first | rfl | cases unframed
      | _ => trivial
    · rfl
    · trivial

/-! Counted once for each way it is handed on, as before. -/
set_option synthInstance.maxSize 1000000000000

theorem note_tidy (mark : Note) (other : mark.ofCounterElement = false) :
    Uses (TidyOp config) (@Decoder.note collector mark) :=
  uses_single _ other

instance (name : Mark) : Uses (TidyOp config) (@Decoder.mark collector name) :=
  uses_single _ trivial
instance (tag length : UInt32) :
    Uses (TidyOp config) (@Decoder.note collector (.flowElement tag length)) :=
  note_tidy _ rfl
instance : Uses (TidyOp config) (@Decoder.note collector .flowElementEnd) := note_tidy _ rfl
instance : Uses (TidyOp config) (@Decoder.note collector .flowSampleEnd) := note_tidy _ rfl
instance : Uses (TidyOp config) (@Decoder.note collector .countersSampleEnd) := note_tidy _ rfl
instance : Uses (TidyOp config) (@Decoder.survey collector) := uses_single _ trivial

instance : Uses (TidyOp config) (readFlowElement config) := by
  unfold readFlowElement
  infer_instance

instance (remaining : Nat) : Uses (TidyOp config) (readFlowElements config remaining) := by
  induction remaining with
  | zero => exact .pure ()
  | succ remaining ih =>
      unfold readFlowElements
      infer_instance

instance (expanded : Bool) : Uses (TidyOp config) (readFlowSample config expanded) := by
  unfold readFlowSample
  infer_instance

/-- The prints that follow the note of an element are text in every format, whatever the
rest of the element does. -/
instance always_counterElement {α : Type} (tag length other : UInt32) (rest : Unit → Decode α) :
    Always (Tidy config) (do
      @Decoder.note collector (.counterElement tag length)
      let value ← printEnterprise other
      rest value) where
  all buffer state format := by
    constructor
    · intro _
      exact ⟨.counterElement tag length, List.mem_cons_self, rfl⟩
    · intro _
      refine ⟨.print ⟨"format %lu == id ==%lu \n", [.word (other &&& 0xfff), .word (other >>> 12)]⟩,
        List.mem_cons_self, ?_⟩
      intro clean
      have recorded := clean rfl
      cases chosen : config.outputFormat with
      | full => exact format chosen
      | _ => simp [chosen, Event.recordOf] at recorded

instance : Always (Tidy config) (readCounterElement config) := by
  unfold readCounterElement
  infer_instance

instance (remaining : Nat) : Always (Tidy config) (readCounterElements config remaining) := by
  induction remaining with
  | zero => exact always_pure ()
  | succ remaining ih =>
      unfold readCounterElements
      infer_instance

instance (expanded : Bool) : Always (Tidy config) (readCountersSample config expanded) := by
  unfold readCountersSample
  infer_instance

instance : Uses (TidyOp config) (readFlowSampleV2v4 config) := by
  unfold readFlowSampleV2v4
  infer_instance

instance : Uses (TidyOp config) (readCountersSampleV2v4 config) := by
  unfold readCountersSampleV2v4
  infer_instance

instance : Always (Tidy config) (readSample config) := by
  unfold readSample readSampleV5 readSampleV2v4
  infer_instance

instance (samplesInPacket : UInt32) (remaining : Nat) (samp : UInt32) :
    Always (Tidy config) (readSamples config samplesInPacket remaining samp) := by
  induction remaining generalizing samp with
  | zero => exact always_pure ()
  | succ remaining ih =>
      unfold readSamples checkMoreData
      infer_instance

instance : Always (Tidy config) (readSFlowDatagram config) := by
  unfold readSFlowDatagram readDatagramHeader
  infer_instance

/-- What the receipt of a datagram puts on standard output is records of the output
format and nothing else. -/
def OnlyRecords (config : SFConfig) (decoded : Run collector Unit) : Prop :=
  ∀ event ∈ receivedEvents config decoded, event.Clean config

theorem onlyRecords_iff (config : SFConfig) (format : config.outputFormat ≠ .full)
    (decoded : Run collector Unit) :
    OnlyRecords config decoded ↔ ∀ event ∈ decoded.trace.map Stamped.event, event.Clean config := by
  have unframed (fmt : String) : frameLine config fmt = [] := if_neg format
  unfold OnlyRecords receivedEvents
  simp only [unframed, List.nil_append, List.mem_append, or_imp, forall_and, and_iff_left_iff_imp]
  intro _ event member
  cases ended : received decoded.outcome with
  | returned => simp [ended] at member
  | exited code => simp [ended] at member
  | caught value =>
      simp only [ended, List.mem_cons, List.not_mem_nil, or_false] at member
      subst member
      exact nofun

/-- A counters sample with the processor record's tag and no data in it. -/
def emptyElementSample : List UInt32 := [2, 20, 1, 1, 1, 7000, 0]

end SflowTool
