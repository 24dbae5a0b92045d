import SflowTool.RecordSizes
import SflowTool.Wire

/-! The framing of a version 5 flow sample. A reference splitter looks at declared lengths
only; the decode dispatches on tags and lets each decoder move the cursor. Where a sample
decodes without an abort the two walk over the same elements. -/
namespace SflowTool
open Decoding Decoding.Decoder

variable {config : SFConfig}

section Splitter

/-- The word at a position of the datagram. -/
def wordFrom (buffer : Buffer) (start : Nat) : UInt32 := UInt32.ofNat (beNat (buffer.slice start 4))

/-- The bytes a declared length takes with its padding. -/
def roundUp (length : UInt32) : Nat := 4 * ((length.toNat + 3) / 4)

/-- An element of a sample: its tag, its declared length and where its body starts. -/
structure Element where
  tag : UInt32
  length : UInt32
  body : Nat

def elementAt (buffer : Buffer) (start : Nat) : Element :=
  ⟨wordFrom buffer start, wordFrom buffer (start + 4), start + 8⟩

/-- Where the next element starts. -/
def Element.next (element : Element) : Nat := element.body + roundUp element.length

def Element.content (buffer : Buffer) (element : Element) : List UInt8 :=
  buffer.slice element.body element.length.toNat

/-- The elements from a position on, told apart by their declared lengths alone. -/
def splitElements (buffer : Buffer) : Nat → Nat → List Element
  | 0, _ => []
  | remaining + 1, start =>
      elementAt buffer start :: splitElements buffer remaining (elementAt buffer start).next

/-- Where the last of them ends. -/
def splitEnd (buffer : Buffer) : Nat → Nat → Nat
  | 0, start => start
  | remaining + 1, start => splitEnd buffer remaining (elementAt buffer start).next

end Splitter

section Arithmetic

theorem adjustLen_toNat (len : UInt32) :
    (adjustLen len).toNat = (len.toNat + 3) % 2 ^ 32 / 4 * 4 := by
  simp only [adjustLen, UInt32.toNat_shiftLeft, UInt32.toNat_shiftRight, UInt32.toNat_add,
    UInt32.reduceToNat, Nat.reduceMod, Nat.shiftLeft_eq, Nat.shiftRight_eq_div_pow, Nat.reducePow]
  omega

/-- A whole number of quads that passes the length check is the declared length rounded
up, unless that length is one of the three that round up to zero. -/
theorem checked_size (moved : Nat) (len : UInt32) (aligned : 4 ∣ moved)
    (small : moved < 2 ^ 32 - 3)
    (checked : adjustLen (UInt32.ofNat moved) = adjustLen len)
    (plain : 4 ≤ moved ∨ len.toNat < 2 ^ 32 - 3) : moved = roundUp len := by
  have equal := congrArg UInt32.toNat checked
  have bound := len.toNat_lt
  rw [adjustLen_toNat, adjustLen_toNat, UInt32.toNat_ofNat', Nat.mod_eq_of_lt (by omega)] at equal
  obtain ⟨quads, rfl⟩ := aligned
  unfold roundUp
  omega

end Arithmetic

section Pieces

/-- The notes that frame a flow sample. -/
def Note.ofFlowFraming : Note → Bool
  | .flowElement _ _ | .flowElementEnd | .flowSampleEnd => true
  | _ => false

def flowNotes (notes : List (Note × Nat)) : List (Note × Nat) :=
  notes.filter fun met => met.1.ofFlowFraming

@[simp] theorem flowNotes_append (first second : List (Note × Nat)) :
    flowNotes (first ++ second) = flowNotes first ++ flowNotes second :=
  List.filter_append ..

/-- What a flow decode does between the marks and notes of its framing. -/
structure Between (buffer : Buffer) (state final : SFSample) (notes : List (Note × Nat)) :
    Prop where
  forward : state.cursor ≤ final.cursor
  aligned : 4 ∣ final.cursor - state.cursor
  within : final.cursor ≤ buffer.length
  start : final.marks .start = state.marks .start
  sampleStart : final.marks .sampleStart = state.marks .sampleStart
  unframed : flowNotes notes = []

/-- The part of it that shows. -/
def Aligned (shown : Shown collector) : Prop :=
  4 ∣ shown.moved ∧ ∀ mark ∈ shown.notes, mark.ofFlowFraming = false

instance : Sequential Aligned where
  nothing := ⟨Nat.dvd_zero 4, List.forall_mem_nil _⟩
  append first second _ earlier later := by
    refine ⟨Nat.dvd_add earlier.1 later.1, ?_⟩
    intro mark member
    rcases List.mem_append.mp member with member | member
    · exact earlier.2 mark member
    · exact later.2 mark member

theorem flow_aligned : Harmless Aligned (FlowOp config) where
  single op allow buffer state := by
    cases op with
    | take count =>
        have quads : 4 ∣ count := by
          rcases allow with plain | ⟨_, other⟩ | ⟨_, other⟩
          · exact plain.2
          · cases other
          · cases other
        simp only [perform]
        split <;> exact ⟨by simpa [Run.shown, Run.reply, Run.halt] using quads, List.forall_mem_nil _⟩
    | skip count =>
        simp only [perform]
        have quads : 4 ∣ quadBytes count := Nat.dvd_mul_right 4 _
        split <;> exact ⟨by simpa [Run.shown, Run.reply, Run.halt] using quads, List.forall_mem_nil _⟩
    | jump count =>
        rcases allow with plain | ⟨_, other⟩ | ⟨_, other⟩
        · exact absurd plain.2 id
        · cases other
        · cases other
    | note mark =>
        refine ⟨by simp [perform, Run.shown], ?_⟩
        intro shown member
        rw [List.mem_singleton.mp member]
        rcases allow with plain | ⟨protocol, other⟩ | ⟨_, other⟩
        · have unframed : mark.framing = false := plain.1.1
          cases mark <;> first | rfl | cases unframed
        · cases other
          rfl
        · cases other
    | _ => exact ⟨by simp [perform, Run.shown, Run.reply, Run.halt], List.forall_mem_nil _⟩

theorem flow_unmarked (name : Mark) (framing : name.framing = true) :
    ¬FlowOp config (.mark name) := by
  rintro (plain | ⟨_, other⟩ | ⟨_, other⟩)
  · have unframed : name.framing = false := plain.1.1
    rw [framing] at unframed
    cases unframed
  · cases other
  · cases other

theorem flow_unjumped (count : Nat) : ¬FlowOp config (.jump count) := by
  rintro (plain | ⟨_, other⟩ | ⟨_, other⟩)
  · exact plain.2
  · cases other
  · cases other

/-- A program of flow operations stays between the framing. -/
theorem flow_between (config : SFConfig) {α : Type} (buffer : Buffer) (program : Decode α)
    (uses : Uses (FlowOp config) program) (state : SFSample)
    (inside : state.cursor ≤ buffer.length) :
    (run buffer program state).Finishing fun _ final notes => Between buffer state final notes := by
  have within := uses_within _ flow_unjumped buffer program uses state inside
  have forward := run_cursor buffer program state
  have start := uses_keeps_mark _ Mark.start (flow_unmarked _ rfl) buffer program uses state
  have sampleStart := uses_keeps_mark _ Mark.sampleStart (flow_unmarked _ rfl) buffer program uses state
  have aligned := (uses.always flow_aligned).all buffer state
  generalize run buffer program state = performed at within forward start sampleStart aligned ⊢
  obtain ⟨outcome, final, trace, notes⟩ := performed
  cases outcome with
  | error reason => trivial
  | ok value =>
      refine ⟨forward, aligned.1, within, start, sampleStart, ?_⟩
      have unframed := aligned.2
      simpa [flowNotes, Run.shown] using unframed

theorem getData32_finishing (buffer : Buffer) (state : SFSample) :
    (run buffer getData32 state).Finishing fun value final notes =>
      value = wordFrom buffer state.cursor ∧ final = state.moved 4 ∧
        final.cursor ≤ buffer.length ∧ notes = [] := by
  have read : run buffer getData32 state = (perform buffer (.take 4) state).bind
    fun octets middle => .reply (UInt32.ofNat (beNat octets)) middle := rfl
  rw [read]
  simp only [perform]
  split
  · next room => exact ⟨rfl, rfl, room, rfl⟩
  · trivial

theorem mark_finishing (buffer : Buffer) (name : Mark) (state : SFSample) :
    (run buffer (@Decoder.mark collector name) state).Finishing fun _ final notes =>
      final = state.marked name ∧ notes = [] :=
  ⟨rfl, rfl⟩

theorem note_finishing (buffer : Buffer) (mark : Note) (state : SFSample) :
    (run buffer (@Decoder.note collector mark) state).Finishing fun _ final notes =>
      final = state ∧ notes = [(mark, state.cursor)] :=
  ⟨rfl, rfl⟩

theorem sfLog_finishing (buffer : Buffer) (fmt : String) (args : List Arg) (state : SFSample) :
    (run buffer (sfLog config fmt args) state).Finishing fun _ final notes =>
      final = state ∧ notes = [] := by
  unfold sfLog Decoder.when
  split
  · exact ⟨rfl, rfl⟩
  · exact ⟨rfl, rfl⟩

theorem lengthCheck_finishing (buffer : Buffer) (description : String) (origin : Mark)
    (len : UInt32) (state : SFSample) :
    (run buffer (lengthCheck description origin len) state).Finishing fun _ final notes =>
      final = state ∧ notes = [] ∧
        adjustLen (UInt32.ofNat (state.cursor - state.marks origin)) = adjustLen len := by
  have checked : run buffer (lengthCheck description origin len) state = run buffer
      (if adjustLen (UInt32.ofNat (state.cursor - state.marks origin)) ≠ adjustLen len then do
        fprintfErr "%s length error (expected %d, found %d)\n" [.name description, .word len,
          .word (adjustLen (UInt32.ofNat (state.cursor - state.marks origin)))]
        sfAbort .lengthError
      else pure ()) state := rfl
  rw [checked]
  split
  · trivial
  · next same => exact ⟨rfl, rfl, not_not.mp same⟩

end Pieces

section Samples

/-- How the decode of a flow sample records an element. -/
def Element.flowNotes (element : Element) : List (Note × Nat) :=
  [(.flowElement element.tag element.length, element.body), (.flowElementEnd, element.next)]

/-- A body moves by whole quads; it is a word at least, or a skip of its declared length. -/
theorem readFlowElementBody_finishing (buffer : Buffer) (tag length : UInt32) (state : SFSample)
    (inside : state.cursor ≤ buffer.length) :
    (run buffer (readFlowElementBody config tag length) state).Finishing fun _ final notes =>
      Between buffer state final notes ∧
        (4 ≤ final.cursor - state.cursor ∨ length.toNat ≤ buffer.length) := by
  have between := flow_between config buffer (readFlowElementBody config tag length) inferInstance
    state inside
  refine between.and ?_
  unfold readFlowElementBody
  split
  · next decoder found =>
      have advance := (flowDecoders_advance config _ (lookup_mem found)).advances buffer state
      refine advance.finishing.mono fun _ final _ moved => .inl ?_
      exact Nat.le_sub_of_add_le (by rw [Nat.add_comm]; exact moved)
  · unfold skipTLVRecord
    refine finishing_bind buffer _ _ _ _ ((sfLog_finishing buffer _ _ state).mono ?_)
    rintro _ middle _ ⟨rfl, -⟩
    refine finishing_bind buffer _ _ _ _ ?_
    have skipped : run buffer (skipBytes length) middle = perform buffer (.skip length) middle :=
      run_single buffer _ middle
    rw [skipped]
    simp only [perform]
    split
    · next known => exact .inr known.1
    · trivial

/-- An element that decodes has taken its declared length with the padding. -/
theorem readFlowElement_finishing (buffer : Buffer) (small : buffer.length < 2 ^ 32 - 3)
    (state : SFSample) :
    (run buffer (readFlowElement config) state).Finishing fun _ final notes =>
      final.cursor = (elementAt buffer state.cursor).next ∧ final.cursor ≤ buffer.length ∧
        final.marks .sampleStart = state.marks .sampleStart ∧
        flowNotes notes = (elementAt buffer state.cursor).flowNotes := by
  unfold readFlowElement
  refine finishing_bind buffer _ _ _ _ ((getData32_finishing buffer state).mono ?_)
  rintro tag _ _ ⟨rfl, rfl, _, rfl⟩
  refine finishing_bind buffer _ _ _ _ ((sfLog_finishing buffer _ _ _).mono ?_)
  rintro _ _ _ ⟨rfl, rfl⟩
  refine finishing_bind buffer _ _ _ _ ((getData32_finishing buffer _).mono ?_)
  rintro length opened _ ⟨rfl, rfl, inside, rfl⟩
  -- the mark and the note of the element
  refine finishing_bind buffer _ _ _ _ ((mark_finishing buffer .start _).mono ?_)
  rintro _ _ _ ⟨rfl, rfl⟩
  refine finishing_bind buffer _ _ _ _
    ((note_finishing buffer (.flowElement _ _) _).mono ?_)
  rintro _ _ _ ⟨rfl, rfl⟩
  refine finishing_bind buffer _ _ _ _
    ((readFlowElementBody_finishing buffer _ _ (((state.moved 4).moved 4).marked .start)
      inside).mono ?_)
  rintro _ after notes ⟨between, plain⟩
  refine finishing_bind buffer _ _ _ _ ((lengthCheck_finishing buffer _ _ _ _).mono ?_)
  rintro _ _ _ ⟨rfl, rfl, checked⟩
  refine (note_finishing buffer .flowElementEnd _).mono ?_
  rintro _ after _ ⟨rfl, rfl⟩
  have opened : (((state.moved 4).moved 4).marked Mark.start).cursor = state.cursor + 8 := rfl
  have sampleStart : (((state.moved 4).moved 4).marked Mark.start).marks .sampleStart =
      state.marks .sampleStart := State.marked_other _ _ _ nofun
  have forward := between.forward
  have within := between.within
  have aligned := between.aligned
  rw [between.start, State.marked_marks] at checked
  rw [opened] at forward aligned plain
  have size := checked_size _ _ aligned (by omega) checked
    (plain.imp_right fun known => by omega)
  have ended : after.cursor = (elementAt buffer state.cursor).next := by
    show after.cursor = state.cursor + 8 + roundUp (wordFrom buffer (state.moved 4).cursor)
    omega
  refine ⟨ended, within, between.sampleStart.trans sampleStart, ?_⟩
  simp only [flowNotes_append, between.unframed, ended]
  rfl

theorem readFlowElements_finishing (buffer : Buffer) (small : buffer.length < 2 ^ 32 - 3)
    (remaining : Nat) (state : SFSample) (inside : state.cursor ≤ buffer.length) :
    (run buffer (readFlowElements config remaining) state).Finishing fun _ final notes =>
      final.cursor = splitEnd buffer remaining state.cursor ∧ final.cursor ≤ buffer.length ∧
        final.marks .sampleStart = state.marks .sampleStart ∧
        flowNotes notes =
          (splitElements buffer remaining state.cursor).flatMap Element.flowNotes := by
  induction remaining generalizing state with
  | zero => exact ⟨rfl, inside, rfl, rfl⟩
  | succ remaining ih =>
      unfold readFlowElements
      refine finishing_bind buffer _ _ _ _ ((readFlowElement_finishing buffer small state).mono ?_)
      rintro _ middle before ⟨ended, within, kept, framed⟩
      refine finishing_bind buffer _ _ _ _ ((note_finishing buffer .iteration middle).mono ?_)
      rintro _ _ _ ⟨rfl, rfl⟩
      refine (ih _ within).mono ?_
      rintro _ final after ⟨finished, inside, still, rest⟩
      rw [ended] at finished rest
      refine ⟨finished, inside, still.trans kept, ?_⟩
      simp only [flowNotes_append, framed, rest]
      rfl

/-- Where the elements of a flow sample start that starts at `start`: behind its length,
its fields and the number of its elements. -/
def elementsStart (expanded : Bool) (start : Nat) : Nat := start + 4 + fieldsSize expanded + 4

/-- The elements of the sample, by the reference splitter. -/
def sampleElements (buffer : Buffer) (expanded : Bool) (start : Nat) : List Element :=
  splitElements buffer (wordFrom buffer (start + 4 + fieldsSize expanded)).toNat
    (elementsStart expanded start)

theorem splitEnd_aligned (buffer : Buffer) (remaining start : Nat) :
    start ≤ splitEnd buffer remaining start ∧ 4 ∣ splitEnd buffer remaining start - start := by
  induction remaining generalizing start with
  | zero => exact ⟨Nat.le_refl _, by simp [splitEnd]⟩
  | succ remaining ih =>
      obtain ⟨forward, aligned⟩ := ih (elementAt buffer start).next
      simp only [splitEnd]
      generalize splitEnd buffer remaining (elementAt buffer start).next = ended at *
      simp only [Element.next, elementAt, roundUp] at *
      omega

theorem ofFlowFraming_unframed (mark : Note) (unframed : mark.framing = false) :
    mark.ofFlowFraming = false := by
  cases mark <;> first | rfl | cases unframed

theorem emitFlowSample_finishing (buffer : Buffer) (state : SFSample) :
    (run buffer (emitFlowSample config) state).Finishing fun _ final notes =>
      final.cursor = state.cursor ∧ flowNotes notes = [] := by
  have record : Uses (RecordOp config) (emitFlowSample config) := inferInstance
  have stays := (inferInstance : Stays (emitFlowSample config)).stays buffer state
  have unframed := ((decent_of_record (emitFlowSample config)).always
    (@decent_unframed config)).all buffer state
  refine (stays.finishing).and ?_
  generalize run buffer (emitFlowSample config) state = performed at unframed ⊢
  obtain ⟨outcome, final, trace, notes⟩ := performed
  cases outcome with
  | error reason => trivial
  | ok value =>
      refine List.filter_eq_nil_iff.mpr fun met member => ?_
      have plain := unframed met.1 (List.mem_map_of_mem member)
      rw [ofFlowFraming_unframed met.1 plain]
      exact Bool.false_ne_true

/-- A flow sample that decodes is framed by its declared lengths alone, and so is what
follows it. -/
theorem readFlowSample_finishing (buffer : Buffer) (small : buffer.length < 2 ^ 32 - 3)
    (expanded : Bool) (state : SFSample) :
    (run buffer (readFlowSample config expanded) state).Finishing fun _ final notes =>
      final.cursor = state.cursor + 4 + roundUp (wordFrom buffer state.cursor) ∧
        flowNotes notes =
          (sampleElements buffer expanded state.cursor).flatMap Element.flowNotes ++
            [(.flowSampleEnd, state.cursor + 4 + roundUp (wordFrom buffer state.cursor))] := by
  unfold readFlowSample
  refine finishing_bind buffer _ _ _ _ ((sfLog_finishing buffer _ _ state).mono ?_)
  rintro _ state _ ⟨rfl, rfl⟩
  refine finishing_bind buffer _ _ _ _ ((getData32_finishing buffer _).mono ?_)
  rintro sampleLength _ _ ⟨rfl, rfl, inside, rfl⟩
  refine finishing_bind buffer _ _ _ _ ((mark_finishing buffer .sampleStart _).mono ?_)
  rintro _ opened _ ⟨rfl, rfl⟩
  have size := (readFlowSampleFields_moves config expanded).moves buffer
    ((state.moved 4).marked .sampleStart)
  have between := flow_between config buffer (readFlowSampleFields config expanded) inferInstance
    ((state.moved 4).marked .sampleStart) inside
  refine finishing_bind buffer _ _ _ _ ((size.finishing.and between).mono ?_)
  rintro _ fields _ ⟨moved, between⟩
  refine finishing_bind buffer _ _ _ _ ((getData32_finishing buffer _).mono ?_)
  rintro numElements _ _ ⟨rfl, rfl, inside, rfl⟩
  refine finishing_bind buffer _ _ _ _
    ((readFlowElements_finishing buffer small _ _ inside).mono ?_)
  rintro _ elements _ ⟨ended, within, kept, framed⟩
  refine finishing_bind buffer _ _ _ _ ((lengthCheck_finishing buffer _ _ _ _).mono ?_)
  rintro _ _ _ ⟨rfl, rfl, checked⟩
  refine finishing_bind buffer _ _ _ _ ((note_finishing buffer .flowSampleEnd _).mono ?_)
  rintro _ elements _ ⟨rfl, rfl⟩
  refine (emitFlowSample_finishing buffer _).mono ?_
  rintro _ final _ ⟨stayed, unframed⟩
  have start : elements.marks .sampleStart = state.cursor + 4 :=
    kept.trans (between.sampleStart.trans (State.marked_marks _ _))
  have elementsAt : (fields.moved 4).cursor = elementsStart expanded state.cursor :=
    congrArg (· + 4) moved
  obtain ⟨forward, aligned⟩ :=
    splitEnd_aligned buffer (wordFrom buffer fields.cursor).toNat (elementsStart expanded state.cursor)
  rw [elementsAt] at ended framed
  have base : elementsStart expanded state.cursor =
      state.cursor + 4 + fieldsSize expanded + 4 := rfl
  have quads : 4 ∣ fieldsSize expanded := by cases expanded <;> decide
  have sampleEnd : elements.cursor =
      state.cursor + 4 + roundUp (wordFrom buffer state.cursor) := by
    rw [start] at checked
    rw [← ended] at forward aligned
    have size := checked_size _ _ (by omega) (by omega) checked (.inl (by omega))
    omega
  have counted : wordFrom buffer fields.cursor =
      wordFrom buffer (state.cursor + 4 + fieldsSize expanded) := congrArg (wordFrom buffer) moved
  refine ⟨stayed.trans sampleEnd, ?_⟩
  simp only [flowNotes_append, between.unframed, framed, unframed, sampleEnd, counted]
  rfl

end Samples

section Pairs

/-- The tag and the body of an element that a decode got to. -/
def decodedPair (buffer : Buffer) (met : Note × Nat) : Option (UInt32 × List UInt8) :=
  match met.1 with
  | .flowElement tag length => some (tag, buffer.slice met.2 length.toNat)
  | _ => none

def decodedPairs (buffer : Buffer) (notes : List (Note × Nat)) : List (UInt32 × List UInt8) :=
  notes.filterMap (decodedPair buffer)

theorem decodedPairs_framing (buffer : Buffer) (notes : List (Note × Nat)) :
    decodedPairs buffer notes = decodedPairs buffer (flowNotes notes) := by
  unfold decodedPairs flowNotes
  rw [List.filterMap_filter]
  congr 1
  funext met
  obtain ⟨mark, place⟩ := met
  cases mark <;> rfl

theorem decodedPairs_elements (buffer : Buffer) (elements : List Element) :
    decodedPairs buffer (elements.flatMap Element.flowNotes) =
      elements.map fun element => (element.tag, element.content buffer) := by
  induction elements with
  | nil => rfl
  | cons element rest ih =>
      rw [List.map_cons, ← ih]
      rfl

end Pairs

/-- A version 5 flow sample that decodes without an abort: each of its elements takes its
declared length rounded up, so does the sample, and the tags and bodies decoded are
those of the reference splitter. -/
theorem flow_sample_framed (config : SFConfig) (expanded : Bool) (buffer : Buffer)
    (state : SFSample) (small : buffer.length < 2 ^ 32 - 3)
    (done : (run buffer (readFlowSample config expanded) state).outcome = .ok ()) :
    flowNotes (run buffer (readFlowSample config expanded) state).notes =
        (sampleElements buffer expanded state.cursor).flatMap Element.flowNotes ++
          [(.flowSampleEnd, state.cursor + 4 + roundUp (wordFrom buffer state.cursor))] ∧
      (run buffer (readFlowSample config expanded) state).state.cursor =
        state.cursor + 4 + roundUp (wordFrom buffer state.cursor) ∧
      decodedPairs buffer (run buffer (readFlowSample config expanded) state).notes =
        (sampleElements buffer expanded state.cursor).map fun element =>
          (element.tag, element.content buffer) := by
  obtain ⟨ended, framed⟩ := (readFlowSample_finishing buffer small expanded state).of_ok done
  refine ⟨framed, ended, ?_⟩
  rw [decodedPairs_framing, framed, decodedPairs, List.filterMap_append]
  have elements := decodedPairs_elements buffer (sampleElements buffer expanded state.cursor)
  rw [decodedPairs] at elements
  simp [elements, decodedPair]

/-- A compact flow sample behind its tag: one Ethernet record, and a record of an unknown
kind with three bytes of padding. -/
def ethernetSample : List UInt32 :=
  [76, 7, 1, 100, 5, 6, 3, 4, 2, 2, 24, 64, 0x01020304, 0x05060000, 0x0708090a, 0x0b0c0000, 0x0800,
    9000, 1, 0xff000000]

theorem ethernet_sample_framed :
    flowNotes (run (datagramOf ethernetSample) (readFlowSample (defaultConfig .line) false)
        firstSample).notes =
        (sampleElements (datagramOf ethernetSample) false 0).flatMap Element.flowNotes ++
          [(.flowSampleEnd, 0 + 4 + roundUp (wordFrom (datagramOf ethernetSample) 0))] ∧
      (run (datagramOf ethernetSample) (readFlowSample (defaultConfig .line) false)
        firstSample).state.cursor = 0 + 4 + roundUp (wordFrom (datagramOf ethernetSample) 0) ∧
      decodedPairs (datagramOf ethernetSample) (run (datagramOf ethernetSample)
        (readFlowSample (defaultConfig .line) false) firstSample).notes =
        (sampleElements (datagramOf ethernetSample) false 0).map fun element =>
          (element.tag, element.content (datagramOf ethernetSample)) :=
  flow_sample_framed (defaultConfig .line) false (datagramOf ethernetSample) firstSample
    (by decide) ((received_returned _).mp (by decide +kernel))

end SflowTool
