import SflowTool.SampleRelocation
import SflowTool.FlowFraming
import SflowTool.HeaderSpecs

/-! The two encodings of a version 5 sample. They pack the source and the ports of a flow
differently and are of different lengths, so that everything behind them lies at another
place of the datagram; the elements and their checks come out the same. -/
namespace SflowTool
open Decoding Decoding.Decoder

variable {config : SFConfig}

section Encodings

/-- The fields of a flow sample before its elements. -/
structure FlowHead where
  samplesGenerated : UInt32
  dsClass : UInt32
  dsIndex : UInt32
  meanSkipCount : UInt32
  samplePool : UInt32
  dropEvents : UInt32
  inputPortFormat : UInt32
  inputPort : UInt32
  outputPortFormat : UInt32
  outputPort : UInt32
  numElements : UInt32

/-- The fields of a counters sample before its elements. -/
structure CountersHead where
  samplesGenerated : UInt32
  dsClass : UInt32
  dsIndex : UInt32
  numElements : UInt32

inductive SampleHead where
  | flow (head : FlowHead)
  | counters (head : CountersHead)

def sourceWords (expanded : Bool) (dsClass dsIndex : UInt32) : List UInt32 :=
  if expanded then [dsClass, dsIndex] else [(dsClass <<< 24) ||| dsIndex]

def portWords (expanded : Bool) (head : FlowHead) : List UInt32 :=
  if expanded then
    [head.inputPortFormat, head.inputPort, head.outputPortFormat, head.outputPort]
  else
    [(head.inputPortFormat <<< 30) ||| head.inputPort,
      (head.outputPortFormat <<< 30) ||| head.outputPort]

/-- The words of an encoding behind its length. -/
def SampleHead.words (expanded : Bool) : SampleHead → List UInt32
  | .flow head => head.samplesGenerated :: (sourceWords expanded head.dsClass head.dsIndex ++
      (head.meanSkipCount :: head.samplePool :: head.dropEvents ::
        (portWords expanded head ++ [head.numElements])))
  | .counters head => head.samplesGenerated ::
      (sourceWords expanded head.dsClass head.dsIndex ++ [head.numElements])

/-- The length of an encoding that announces so many bytes of elements. -/
def SampleHead.length (expanded : Bool) (elementsLength : UInt32) (head : SampleHead) : UInt32 :=
  4 * UInt32.ofNat (head.words expanded).length + elementsLength

/-- What the compact encoding has room for. -/
def SampleHead.Compact : SampleHead → Prop
  | .flow head => head.dsClass < 256 ∧ head.dsIndex < 2 ^ 24 ∧ head.inputPortFormat < 4 ∧
      head.inputPort < 2 ^ 30 ∧ head.outputPortFormat < 4 ∧ head.outputPort < 2 ^ 30
  | .counters head => head.dsClass < 256 ∧ head.dsIndex < 2 ^ 24

def SampleHead.decode (config : SFConfig) (expanded : Bool) : SampleHead → Decode Unit
  | .flow _ => readFlowSample config expanded
  | .counters _ => readCountersSample config expanded

/-- The encoding lies at `start`, and behind it `elements`, with whatever memory follows;
`rest` bytes of these were received. -/
structure SampleHead.EncodedAt (head : SampleHead) (expanded : Bool) (elementsLength : UInt32)
    (buffer : Buffer) (start : Nat) (elements : List UInt8) (rest : Nat) : Prop where
  bytes : buffer.bytes.drop start =
    (head.length expanded elementsLength :: head.words expanded).flatMap be32 ++ elements
  received : buffer.length = start + 4 + 4 * (head.words expanded).length + rest
  small : buffer.length < 2 ^ 32 - 3

/-- The contents of two samples, apart from the raw buffers and where they lie in them. -/
structure SameContents (config : SFConfig) (first second : Buffer) (one two : SFSample) :
    Prop where
  store : two.store = one.store
  ticks : two.ticks = one.ticks
  header : HeaderAlike config first second one two

/-- What is emitted, apart from diagnostics: a length error shows the lengths of its encoding. -/
def recordsOf {α : Type} (decoded : Run collector α) : List (Stamped collector) :=
  decoded.trace.filter fun emitted =>
    match emitted.event with
    | .errout _ => false
    | _ => true

/-- Two decodes with the same outcome, the same contents and the same records. -/
structure DecodedAlike (config : SFConfig) (first second : Buffer) (one two : Run collector Unit) :
    Prop where
  outcome : two.outcome = one.outcome
  contents : SameContents config first second one.state two.state
  records : recordsOf two = recordsOf one

end Encodings

section Packing

theorem packed_nat (high low width : Nat) (small : low < 2 ^ width) :
    (high <<< width ||| low) / 2 ^ width = high ∧ (high <<< width ||| low) % 2 ^ width = low := by
  rw [← Nat.shiftLeft_add_eq_or_of_lt small, Nat.shiftLeft_eq]
  constructor
  · rw [Nat.mul_comm, Nat.mul_add_div (Nat.two_pow_pos width), Nat.div_eq_of_lt small, Nat.add_zero]
  · rw [Nat.mul_comm, Nat.mul_add_mod, Nat.mod_eq_of_lt small]

/-- A field above another comes apart again. -/
theorem packed_fields (high low width : UInt32) (short : width < 32)
    (small : low.toNat < 2 ^ width.toNat) (room : high.toNat * 2 ^ width.toNat < 2 ^ 32) :
    (high <<< width ||| low) >>> width = high ∧
      (high <<< width ||| low) &&& (UInt32.ofNat (2 ^ width.toNat - 1)) = low := by
  have bits : width.toNat < 32 := short
  have value : (high <<< width ||| low).toNat = high.toNat <<< width.toNat ||| low.toNat := by
    rw [UInt32.toNat_or, UInt32.toNat_shiftLeft, Nat.mod_eq_of_lt bits, Nat.shiftLeft_eq,
      Nat.mod_eq_of_lt room, ← Nat.shiftLeft_eq]
  obtain ⟨upper, lower⟩ := packed_nat high.toNat low.toNat width.toNat small
  have mask : (UInt32.ofNat (2 ^ width.toNat - 1)).toNat = 2 ^ width.toNat - 1 := by
    have bound : 2 ^ width.toNat < 2 ^ 32 := Nat.pow_lt_pow_right (by decide) bits
    rw [UInt32.toNat_ofNat', Nat.mod_eq_of_lt (by omega)]
  constructor
  · apply UInt32.toNat_inj.mp
    rw [UInt32.toNat_shiftRight, value, Nat.mod_eq_of_lt bits, Nat.shiftRight_eq_div_pow, upper]
  · apply UInt32.toNat_inj.mp
    rw [UInt32.toNat_and, value, mask, Nat.and_two_pow_sub_one_eq_mod, lower]

theorem packed_source (dsClass dsIndex : UInt32) (small : dsClass < 256) (room : dsIndex < 2 ^ 24) :
    (dsClass <<< 24 ||| dsIndex) >>> 24 = dsClass ∧
      (dsClass <<< 24 ||| dsIndex) &&& 0x00ffffff = dsIndex := by
  have low : dsIndex.toNat < 2 ^ 24 := room
  have high : dsClass.toNat < 256 := small
  exact packed_fields dsClass dsIndex 24 (by decide) low (by simp; omega)

theorem packed_port (format port : UInt32) (small : format < 4) (room : port < 2 ^ 30) :
    (format <<< 30 ||| port) >>> 30 = format ∧ (format <<< 30 ||| port) &&& 0x3fffffff = port := by
  have low : port.toNat < 2 ^ 30 := room
  have high : format.toNat < 4 := small
  exact packed_fields format port 30 (by decide) low (by simp; omega)

theorem adjustLen_quads (quads len : UInt32) :
    adjustLen (4 * quads + len) = 4 * quads + adjustLen len := by
  have bound := quads.toNat_lt
  have short := len.toNat_lt
  apply UInt32.toNat_inj.mp
  rw [UInt32.toNat_add, adjustLen_toNat, adjustLen_toNat, UInt32.toNat_add, UInt32.toNat_mul,
    show (4 : UInt32).toNat = 4 from rfl]
  omega

end Packing

section Words

/-- The words behind a position of the datagram. -/
theorem holds_of_drop (buffer : Buffer) (start : Nat) (bytes behind : List UInt8)
    (room : start + bytes.length ≤ buffer.length)
    (here : buffer.bytes.drop start = bytes ++ behind) : buffer.Holds start bytes := by
  refine ⟨room, List.ext_getElem (by simp) fun index bound _ => ?_⟩
  have small : index < bytes.length := by simpa using bound
  have entry := congrArg (fun bytes => bytes.getD index 0) here
  simp only [List.getD_eq_getElem?_getD, List.getElem?_drop, List.getElem?_append_left small] at entry
  rw [Buffer.slice_getElem, Buffer.byte, List.getD_eq_getElem?_getD, entry,
    List.getElem?_eq_getElem small, Option.getD_some]

theorem length_words (words : List UInt32) : (words.flatMap be32).length = 4 * words.length := by
  induction words with
  | nil => rfl
  | cons word words ih =>
      rw [List.flatMap_cons, List.length_append, ih, length_be32, List.length_cons]
      omega

theorem run_word {α : Type} (buffer : Buffer) (word : UInt32) (words : List UInt32)
    (next : UInt32 → Decode α) (sample : SFSample)
    (holds : buffer.Holds sample.cursor ((word :: words).flatMap be32)) :
    run buffer (getData32 >>= next) sample = run buffer (next word) (sample.moved 4) ∧
      buffer.Holds (sample.moved 4).cursor (words.flatMap be32) := by
  rw [List.flatMap_cons] at holds
  have room := holds.left.room
  have bytes := holds.left.2
  rw [length_be32] at room bytes
  have read : run buffer (getData32 >>= next) sample = (perform buffer (.take 4) sample).bind
    fun octets middle => run buffer (next (UInt32.ofNat (beNat octets))) middle := rfl
  have taken : perform buffer (.take 4) sample = .reply (be32 word) (sample.moved 4) := by
    simp only [perform]
    rw [if_pos room, bytes]
  refine ⟨?_, holds.right⟩
  rw [read, taken]
  exact congrArg (fun value => run buffer (next value) (sample.moved 4)) (word_be32 word)

end Words

section Heads

/-- Operations that leave what the header shows alone, and look at no byte. -/
def HeadOp (op : Op collector) : Prop := Offline op ∧ SteadyOp op

instance (fmt : String) (args : List Arg) : Uses HeadOp (sfLog config fmt args) :=
  uses_when_of _ _ fun _ => uses_single _ ⟨trivial, trivial⟩
instance (var : WordVar) : Uses HeadOp (getWord var) := uses_single _ ⟨trivial, trivial⟩
instance (var : WordVar) (value : UInt32) [sets : PermitsSet SteadyOp var.family] :
    Uses HeadOp (setWord var value) :=
  uses_single _ ⟨trivial, sets.set (.word var) rfl value⟩
instance (var : TextVar) (value : Text) [sets : PermitsSet SteadyOp var.family] :
    Uses HeadOp (setText var value) :=
  uses_single _ ⟨trivial, sets.set (.text var) rfl value⟩
instance (fmt : String) (args : List Arg) : Uses HeadOp (logSourceId config fmt args) := by
  unfold logSourceId
  infer_instance
instance (title : String) (format port : UInt32) :
    Uses HeadOp (logPort config title format port) := by
  unfold logPort
  infer_instance

/-- Where the elements of two samples lie and where their lengths are counted from. -/
structure Places where
  left : Nat
  right : Nat
  start : Nat
  start' : Nat

/-- Two samples with the same contents, each before words of its own. -/
structure AtWords (config : SFConfig) (first second : Buffer) (places : Places)
    (one two : SFSample) (words words' : List UInt32) : Prop where
  contents : SameContents config first second one two
  here : first.Holds one.cursor (words.flatMap be32)
  there : second.Holds two.cursor (words'.flatMap be32)
  ends : one.cursor + 4 * words.length = places.left
  ends' : two.cursor + 4 * words'.length = places.right
  start : one.marks .sampleStart = places.start
  start' : two.marks .sampleStart = places.start'

variable {first second : Buffer} {places : Places} {one two : SFSample}
  {words words' : List UInt32}

theorem SameContents.moved (same : SameContents config first second one two) (count count' : Nat) :
    SameContents config first second (one.moved count) (two.moved count') :=
  ⟨same.store, same.ticks, same.header.captured, same.header.text⟩

theorem holding_comm (sample : SFSample) {one two : WordVar} (differ : one ≠ two)
    (first second : UInt32) :
    holding (holding sample one first) two second = holding (holding sample two second) one first :=
  @State.assigned_comm collector sample (.word one) (.word two) (by simpa using differ) first second

theorem SameContents.holding (same : SameContents config first second one two) (var : WordVar)
    (value : UInt32) (other : var.family ≠ .header) :
    SameContents config first second (holding one var value) (holding two var value) where
  store := by simp only [SflowTool.holding, State.assigned, same.store]
  ticks := same.ticks
  header := by
    have kept (sample : SFSample) (headed : Var) (header : headed.family = .header) :
        (SflowTool.holding sample var value).store headed = sample.store headed := by
      refine Function.update_of_ne ?_ ..
      rintro rfl
      exact other header
    exact same.header.kept rfl rfl (kept one) (kept two)

theorem SameContents.marked (same : SameContents config first second one two) (name : Mark)
    (other : name ≠ .header) : SameContents config first second (@State.marked collector one name)
      (@State.marked collector two name) where
  store := same.store
  ticks := same.ticks
  header := same.header.kept (State.marked_other one name _ (Ne.symm other))
      (State.marked_other two name _ (Ne.symm other)) (fun _ _ => rfl) fun _ _ => rfl

theorem DecodedAlike.after {decoded decoded' : Run collector Unit} {α : Type}
    {earlier earlier' : Run collector α}
    (alike : DecodedAlike config first second decoded decoded')
    (trace : earlier'.trace = earlier.trace) :
    DecodedAlike config first second (decoded.after earlier) (decoded'.after earlier') where
  outcome := alike.outcome
  contents := alike.contents
  records := by
    have records := alike.records
    simp only [recordsOf, Run.after, List.filter_append, trace] at records ⊢
    rw [records]

/-- What looks at no byte may come before. -/
theorem alike_offline {α : Type} (program : Decode α) (next next' : α → Decode Unit)
    (uses : Uses HeadOp program) (before : AtWords config first second places one two words words')
    (rest : ∀ value one' two', AtWords config first second places one' two' words words' →
      DecodedAlike config first second (run first (next value) one')
        (run second (next' value) two')) :
    DecodedAlike config first second (run first (program >>= next) one)
      (run second (program >>= next') two) := by
  have concurs := run_concurs first second program (uses.mono fun _ allow => allow.1) one two
    before.contents.store before.contents.ticks
  have kept (buffer : Buffer) (sample : SFSample) (var : Var) (header : var.family = .header) :=
    uses_keeps HeadOp var (fun _ allow => allow.2 header) buffer program uses sample
  have alike := before.contents.header.kept (congrFun concurs.marks.1 Mark.header)
    (congrFun concurs.marks.2 Mark.header) (kept first one) (kept second two)
  have contents : SameContents config first second _ _ := ⟨concurs.store, concurs.ticks, alike⟩
  obtain ⟨outcome, -, -, trace, ⟨stays, stays'⟩, marks, marks'⟩ := concurs
  rw [run_seq, run_seq]
  generalize run first program one = performed at contents outcome trace stays marks ⊢
  generalize run second program two = performed' at contents outcome trace stays' marks' ⊢
  obtain ⟨result, middle, shown, notes⟩ := performed
  obtain ⟨result', middle', shown', notes'⟩ := performed'
  cases outcome
  cases result with
  | error reason =>
      refine ⟨rfl, contents, ?_⟩
      simp only [recordsOf, Run.bind, trace]
  | ok value =>
      refine (rest value middle middle' ⟨contents, ?_, ?_, ?_, ?_, ?_, ?_⟩).after trace
      · rw [show middle.cursor = one.cursor from stays]
        exact before.here
      · rw [show middle'.cursor = two.cursor from stays']
        exact before.there
      · rw [show middle.cursor = one.cursor from stays]
        exact before.ends
      · rw [show middle'.cursor = two.cursor from stays']
        exact before.ends'
      · exact (congrFun marks Mark.sampleStart).trans before.start
      · exact (congrFun marks' Mark.sampleStart).trans before.start'

/-- The next word of each. -/
theorem alike_word {word word' : UInt32} (next next' : UInt32 → Decode Unit)
    (before : AtWords config first second places one two (word :: words) (word' :: words'))
    (rest : AtWords config first second places (one.moved 4) (two.moved 4) words words' →
      DecodedAlike config first second (run first (next word) (one.moved 4))
        (run second (next' word') (two.moved 4))) :
    DecodedAlike config first second (run first (getData32 >>= next) one)
      (run second (getData32 >>= next') two) := by
  obtain ⟨read, here⟩ := run_word first word words next one before.here
  obtain ⟨read', there⟩ := run_word second word' words' next' two before.there
  have ends := before.ends
  have ends' := before.ends'
  simp only [List.length_cons] at ends ends'
  rw [read, read']
  refine rest ⟨before.contents.moved 4 4, here, there, ?_, ?_, before.start, before.start'⟩
  · rw [State.moved_cursor, ← ends]
    omega
  · rw [State.moved_cursor, ← ends']
    omega

theorem alike_start (next next' : Unit → Decode Unit)
    (before : AtWords config first second places one two words words')
    (rest : AtWords config first second
        { places with
          start := places.left - 4 * words.length
          start' := places.right - 4 * words'.length }
        (@State.marked collector one .sampleStart) (@State.marked collector two .sampleStart)
        words words' →
      DecodedAlike config first second
        (run first (next ()) (@State.marked collector one .sampleStart))
        (run second (next' ()) (@State.marked collector two .sampleStart))) :
    DecodedAlike config first second
      (run first (@Decoder.mark collector .sampleStart >>= next) one)
      (run second (@Decoder.mark collector .sampleStart >>= next') two) := by
  have ends := before.ends
  have ends' := before.ends'
  refine rest ⟨before.contents.marked .sampleStart (by decide), before.here, before.there, ends, ends',
    ?_, ?_⟩
  · rw [State.marked_marks]
    exact (Nat.sub_eq_of_eq_add ends.symm).symm
  · rw [State.marked_marks]
    exact (Nat.sub_eq_of_eq_add ends'.symm).symm

/-- The words of both encodings have been read, and the contents are the same again. -/
theorem alike_read {decoded decoded' : SFSample} (next next' : Unit → Decode Unit)
    (program program' : Decode Unit) {skipped skipped' : List UInt32}
    (before : AtWords config first second places one two (skipped ++ words) (skipped' ++ words'))
    (read : run first (program >>= next) one = run first (next ()) decoded)
    (read' : run second (program' >>= next') two = run second (next' ()) decoded')
    (contents : SameContents config first second decoded decoded')
    (moved : decoded.cursor = one.cursor + 4 * skipped.length)
    (moved' : decoded'.cursor = two.cursor + 4 * skipped'.length)
    (start : decoded.marks = one.marks) (start' : decoded'.marks = two.marks)
    (rest : ∀ one' two', AtWords config first second places one' two' words words' →
      DecodedAlike config first second (run first (next ()) one') (run second (next' ()) two')) :
    DecodedAlike config first second (run first (program >>= next) one)
      (run second (program' >>= next') two) := by
  have here := before.here
  have there := before.there
  have ends := before.ends
  have ends' := before.ends'
  rw [List.flatMap_append] at here there
  rw [List.length_append] at ends ends'
  rw [read, read']
  refine rest _ _ ⟨contents, ?_, ?_, by omega, by omega, ?_, ?_⟩
  · rw [moved, ← length_words]
    exact here.right
  · rw [moved', ← length_words]
    exact there.right
  · rw [start]
    exact before.start
  · rw [start']
    exact before.start'

/-- A word that goes into a field at once. -/
theorem run_word_into {α : Type} (buffer : Buffer) (word : UInt32) (words : List UInt32)
    (var : WordVar) (next : Unit → Decode α) (sample : SFSample)
    (holds : buffer.Holds sample.cursor ((word :: words).flatMap be32)) :
    run buffer (getData32 >>= fun word => setWord var word >>= next) sample =
        run buffer (next ()) (holding (sample.moved 4) var word) ∧
      buffer.Holds (holding (sample.moved 4) var word).cursor (words.flatMap be32) :=
  run_word buffer word words (fun word => setWord var word >>= next) sample holds

/-- The source in both encodings. -/
theorem alike_source (dsClass dsIndex : UInt32) (small : dsClass < 256) (room : dsIndex < 2 ^ 24)
    (next next' : Unit → Decode Unit)
    (before : AtWords config first second places one two
      (sourceWords false dsClass dsIndex ++ words) (sourceWords true dsClass dsIndex ++ words'))
    (rest : ∀ one' two', AtWords config first second places one' two' words words' →
      DecodedAlike config first second (run first (next ()) one') (run second (next' ()) two')) :
    DecodedAlike config first second (run first (readSourceId false >>= next) one)
      (run second (readSourceId true >>= next') two) := by
  have compact := before.here
  have expanded := before.there
  simp only [sourceWords, Bool.false_eq_true, ↓reduceIte, List.cons_append, List.nil_append] at compact expanded
  obtain ⟨packedClass, packedIndex⟩ := packed_source dsClass dsIndex small room
  have set (source : UInt32) (upper : source >>> 24 = dsClass)
      (lower : source &&& 0x00ffffff = dsIndex) (sample : SFSample) :
      run first (setSamplerId source >>= next) sample =
        run first (next ()) (holding (holding sample .dsClass dsClass) .dsIndex dsIndex) := by
    subst upper lower
    rfl
  have read : run first (readSourceId false >>= next) one = run first (next ())
      (holding (holding (one.moved 4) .dsClass dsClass) .dsIndex dsIndex) := by
    obtain ⟨read, -⟩ := run_word first _ _ (fun samplerId => setSamplerId samplerId >>= next) one
      compact
    exact read.trans (set _ packedClass packedIndex _)
  have read' : run second (readSourceId true >>= next') two = run second (next' ())
      (holding ((holding (two.moved 4) .dsClass dsClass).moved 4) .dsIndex dsIndex) := by
    obtain ⟨readClass, further⟩ := run_word_into second _ _ .dsClass (fun _ => do
      let dsIndex ← getData32
      setWord .dsIndex dsIndex >>= next') two expanded
    obtain ⟨readIndex, -⟩ := run_word_into second _ _ .dsIndex next' _ further
    exact readClass.trans readIndex
  refine alike_read next next' _ _ before read read' ?_ rfl rfl rfl rfl rest
  exact (((before.contents.moved 4 4).holding .dsClass dsClass nofun).moved 0 4).holding
    .dsIndex dsIndex nofun

/-- The ports in both encodings. -/
theorem alike_ports (head : FlowHead) (compactable : (SampleHead.flow head).Compact)
    (next next' : Unit → Decode Unit)
    (before : AtWords config first second places one two
      (portWords false head ++ words) (portWords true head ++ words'))
    (rest : ∀ one' two', AtWords config first second places one' two' words words' →
      DecodedAlike config first second (run first (next ()) one') (run second (next' ()) two')) :
    DecodedAlike config first second (run first (readPorts false >>= next) one)
      (run second (readPorts true >>= next') two) := by
  obtain ⟨-, -, inFormatSmall, inSmall, outFormatSmall, outSmall⟩ := compactable
  obtain ⟨inFormat, inPort⟩ := packed_port _ _ inFormatSmall inSmall
  obtain ⟨outFormat, outPort⟩ := packed_port _ _ outFormatSmall outSmall
  have compact := before.here
  have expanded := before.there
  simp only [portWords, Bool.false_eq_true, ↓reduceIte, List.cons_append, List.nil_append] at compact expanded
  -- the compact encoding sets both formats before the ports
  have set (inp outp : UInt32) (sample : SFSample)
      (formatIn : inp >>> 30 = head.inputPortFormat) (input : inp &&& 0x3fffffff = head.inputPort)
      (formatOut : outp >>> 30 = head.outputPortFormat)
      (output : outp &&& 0x3fffffff = head.outputPort) : run first (do
          setWord .inputPortFormat (inp >>> 30)
          setWord .outputPortFormat (outp >>> 30)
          setWord .inputPort (inp &&& 0x3fffffff)
          setWord .outputPort (outp &&& 0x3fffffff) >>= next) sample =
        run first (next ()) (holding (holding (holding (holding sample
          .inputPortFormat head.inputPortFormat) .inputPort head.inputPort)
          .outputPortFormat head.outputPortFormat) .outputPort head.outputPort) := by
    rw [formatIn, input, formatOut, output,
      @holding_comm _ .inputPort .outputPortFormat (by decide) _ _]
    rfl
  have read : run first (readPorts false >>= next) one = run first (next ())
      (holding (holding (holding (holding ((one.moved 4).moved 4)
        .inputPortFormat head.inputPortFormat) .inputPort head.inputPort)
        .outputPortFormat head.outputPortFormat) .outputPort head.outputPort) := by
    obtain ⟨readIn, further⟩ := run_word first _ _ (fun inp => do
      let outp ← getData32
      setWord .inputPortFormat (inp >>> 30)
      setWord .outputPortFormat (outp >>> 30)
      setWord .inputPort (inp &&& 0x3fffffff)
      setWord .outputPort (outp &&& 0x3fffffff) >>= next) one compact
    obtain ⟨readOut, -⟩ := run_word first _ _ (fun outp => do
      setWord .inputPortFormat ((head.inputPortFormat <<< 30 ||| head.inputPort) >>> 30)
      setWord .outputPortFormat (outp >>> 30)
      setWord .inputPort ((head.inputPortFormat <<< 30 ||| head.inputPort) &&& 0x3fffffff)
      setWord .outputPort (outp &&& 0x3fffffff) >>= next) (one.moved 4) further
    exact (readIn.trans readOut).trans (set _ _ _ inFormat inPort outFormat outPort)
  have read' : run second (readPorts true >>= next') two = run second (next' ())
      (holding ((holding ((holding ((holding (two.moved 4)
        .inputPortFormat head.inputPortFormat).moved 4) .inputPort head.inputPort).moved 4)
        .outputPortFormat head.outputPortFormat).moved 4) .outputPort head.outputPort) := by
    obtain ⟨formatIn, one⟩ := run_word_into second _ _ .inputPortFormat (fun _ => do
      let inputPort ← getData32
      setWord .inputPort inputPort
      let outputPortFormat ← getData32
      setWord .outputPortFormat outputPortFormat
      let outputPort ← getData32
      setWord .outputPort outputPort >>= next') two expanded
    obtain ⟨input, two⟩ := run_word_into second _ _ .inputPort (fun _ => do
      let outputPortFormat ← getData32
      setWord .outputPortFormat outputPortFormat
      let outputPort ← getData32
      setWord .outputPort outputPort >>= next') _ one
    obtain ⟨formatOut, three⟩ := run_word_into second _ _ .outputPortFormat (fun _ => do
      let outputPort ← getData32
      setWord .outputPort outputPort >>= next') _ two
    obtain ⟨output, -⟩ := run_word_into second _ _ .outputPort next' _ three
    exact ((formatIn.trans input).trans formatOut).trans output
  refine alike_read next next' _ _ before read read' ?_ rfl rfl rfl rfl rest
  exact (((((((before.contents.moved 8 4).holding .inputPortFormat _ nofun).moved 0 4).holding
    .inputPort _ nofun).moved 0 4).holding .outputPortFormat _ nofun).moved 0 4).holding
    .outputPort _ nofun

end Heads

section Elements

/-- Operations that leave the start of the sample alone. -/
def StartedOp (op : Op collector) : Prop := op ≠ .mark .sampleStart

instance : Permits StartedOp where
  take _ _ := nofun
  skip _ := nofun
  errout _ := nofun
  note _ _ _ _ _ := nofun
  abort _ _ := nofun
instance : PermitsNames StartedOp where
  lookup _ _ := nofun
instance : PermitsFilter StartedOp where
  lookup _ := nofun
instance : PermitsState StartedOp where
  get _ := nofun
  set _ _ := nofun
  mark name unframed same := by
    cases same
    cases unframed
  peek _ _ _ := nofun
  since _ := nofun
instance : PermitsLog config StartedOp where
  log _ _ := nofun
instance : PermitsOctets StartedOp where
  take _ := nofun
instance : PermitsIteration StartedOp where
  note := nofun
instance : PermitsHeader StartedOp where
  note _ := nofun
  exit _ := nofun
instance : PermitsPrint StartedOp where
  print _ := nofun
instance : PermitsMetrics StartedOp where
  opentsdb _ := nofun
instance : PermitsJump StartedOp where
  jump _ := nofun
instance : PermitsFlexible StartedOp where
  peekText _ _ := nofun
  write _ _ _ := nofun
  writeObject _ _ _ _ := nofun
  read _ _ := nofun
instance : Uses StartedOp (@Decoder.mark collector .start) := uses_single _ nofun
instance (mark : Note) : Uses StartedOp (@Decoder.note collector mark) := uses_single _ nofun

/-! Counted once for each way it is handed on, as before. -/
set_option synthInstance.maxSize 1000000000000

instance (remaining : Nat) : Uses StartedOp (readFlowElements config remaining) := by
  induction remaining with
  | zero => exact .pure ()
  | succ remaining ih =>
      unfold readFlowElements readFlowElement
      infer_instance

instance (remaining : Nat) : Uses StartedOp (readCounterElements config remaining) := by
  have printed (tag : UInt32) : Uses StartedOp (printEnterprise tag) := by
    unfold printEnterprise
    infer_instance
  induction remaining with
  | zero => exact .pure ()
  | succ remaining ih =>
      unfold readCounterElements readCounterElement
      infer_instance

theorem run_lengthCheck (buffer : Buffer) (description : String) (origin : Mark) (len : UInt32)
    (sample : SFSample) : run buffer (lengthCheck description origin len) sample =
      if adjustLen (UInt32.ofNat (sample.cursor - sample.marks origin)) = adjustLen len then
        .reply () sample
      else ⟨.error .lengthError, sample, [⟨.errout ⟨"%s length error (expected %d, found %d)\n",
        [.name description, .word len,
          .word (adjustLen (UInt32.ofNat (sample.cursor - sample.marks origin)))]⟩, sample.ticks⟩],
        []⟩ := by
  have measured : run buffer (lengthCheck description origin len) sample =
      run buffer (if adjustLen (UInt32.ofNat (sample.cursor - sample.marks origin)) ≠ adjustLen len
        then do
          fprintfErr "%s length error (expected %d, found %d)\n" [.name description, .word len,
            .word (adjustLen (UInt32.ofNat (sample.cursor - sample.marks origin)))]
          sfAbort .lengthError
        else return ()) sample := rfl
  rw [measured]
  by_cases same : adjustLen (UInt32.ofNat (sample.cursor - sample.marks origin)) = adjustLen len
  · rw [if_neg (not_not_intro same), if_pos same]
    rfl
  · rw [if_pos same, if_neg same]
    rfl

/-- How far the elements reach decides the check, whatever words come before them. -/
theorem checked_elements (count reach : Nat) (announced : UInt32) :
    adjustLen (UInt32.ofNat (4 * count + reach)) =
        adjustLen (4 * UInt32.ofNat count + announced) ↔
      adjustLen (UInt32.ofNat reach) = adjustLen announced := by
  have split : UInt32.ofNat (4 * count + reach) = 4 * UInt32.ofNat count + UInt32.ofNat reach := by
    simp
  rw [split, adjustLen_quads, adjustLen_quads, UInt32.add_right_inj]

/-- Every pointer is stale where the elements begin. -/
abbrev anyMark : Mark → Prop := fun _ => True

theorem alike_of_relocates {first second : Buffer} {left right : Nat} {one two : Run collector Unit}
    (related : Relocates anyMark left right one two)
    (header : HeaderAlike config first second one.state two.state) :
    DecodedAlike config first second one two where
  outcome := related.outcome
  contents := ⟨related.state.store, related.state.ticks, header⟩
  records := by simp only [recordsOf, related.trace]

/-- From the elements on the two encodings come to the same. -/
theorem alike_elements {first second : Buffer} {places : Places} {one two : SFSample}
    (before : AtWords config first second places one two [] [])
    (tail : first.SameTail second places.left places.right)
    (elements ending : Decode Unit) [decodes : DecodesAlike config anyMark elements]
    [started : Uses StartedOp elements] [ends : DecodesAlike config anyMark ending]
    (description : String) (count count' : Nat) (announced : UInt32)
    (counted : places.start + 4 * count = places.left)
    (counted' : places.start' + 4 * count' = places.right) :
    DecodedAlike config first second
      (run first (do
        elements
        lengthCheck description .sampleStart (4 * UInt32.ofNat count + announced)
        ending) one)
      (run second (do
        elements
        lengthCheck description .sampleStart (4 * UInt32.ofNat count' + announced)
        ending) two) := by
  have here : one.cursor = places.left := before.ends
  have there : two.cursor = places.right := before.ends'
  have related : Relocated anyMark places.left places.right one two :=
    ⟨⟨0, here, there⟩, before.contents.store, before.contents.ticks, fun _ fresh => absurd trivial fresh⟩
  obtain ⟨decoded, shown⟩ := decodes.relocates first second places.left places.right tail one two
    related before.contents.header
  have start := uses_keeps_mark StartedOp Mark.sampleStart (fun kept => kept rfl) first elements started one
  have start' := uses_keeps_mark StartedOp Mark.sampleStart (fun kept => kept rfl) second elements started two
  rw [run_seq, run_seq]
  generalize run first elements one = performed at decoded shown start ⊢
  generalize run second elements two = performed' at decoded shown start' ⊢
  obtain ⟨outcome, middle, trace, notes⟩ := performed
  obtain ⟨outcome', middle', trace', notes'⟩ := performed'
  have same := decoded.outcome
  cases same
  cases outcome with
  | error reason => exact alike_of_relocates decoded shown
  | ok value =>
      refine DecodedAlike.after ?_ decoded.trace
      obtain ⟨reach, moved, moved'⟩ := decoded.state.cursor
      have distance : middle.cursor - middle.marks .sampleStart = 4 * count + reach := by
        have kept : middle.marks .sampleStart = places.start := start.trans before.start
        rw [kept, moved]
        omega
      have distance' : middle'.cursor - middle'.marks .sampleStart = 4 * count' + reach := by
        have kept : middle'.marks .sampleStart = places.start' := start'.trans before.start'
        rw [kept, moved']
        omega
      simp only [run_seq]
      rw [run_lengthCheck, run_lengthCheck,
        distance, distance', if_congr (checked_elements count reach announced) rfl rfl,
        if_congr (checked_elements count' reach announced) rfl rfl]
      by_cases checked : adjustLen (UInt32.ofNat reach) = adjustLen announced
      · rw [if_pos checked, if_pos checked]
        obtain ⟨later, shown⟩ := ends.relocates first second places.left places.right tail middle middle'
          decoded.state shown
        exact alike_of_relocates later shown
      · rw [if_neg checked, if_neg checked]
        exact ⟨rfl, ⟨decoded.state.store, decoded.state.ticks, shown⟩, rfl⟩

end Elements

section Samples

theorem SampleHead.EncodedAt.holds {head : SampleHead} {expanded : Bool} {elementsLength : UInt32}
    {buffer : Buffer} {start rest : Nat} {elements : List UInt8}
    (encoded : head.EncodedAt expanded elementsLength buffer start elements rest) :
    buffer.Holds start
      ((head.length expanded elementsLength :: head.words expanded).flatMap be32) := by
  refine holds_of_drop buffer start _ elements ?_ encoded.bytes
  have received := encoded.received
  rw [length_words, List.length_cons]
  omega

theorem SampleHead.EncodedAt.behind {head : SampleHead} {expanded : Bool}
    {elementsLength : UInt32} {buffer : Buffer} {start rest : Nat} {elements : List UInt8}
    (encoded : head.EncodedAt expanded elementsLength buffer start elements rest) :
    buffer.bytes.drop (start + 4 + 4 * (head.words expanded).length) = elements := by
  have bytes := congrArg (List.drop (4 + 4 * (head.words expanded).length)) encoded.bytes
  rw [List.drop_drop, List.drop_left' (by rw [length_words, List.length_cons]; omega)] at bytes
  rw [Nat.add_assoc]
  exact bytes

/-- Behind their fields the two encodings go on alike. -/
theorem encodings_tail {head : SampleHead} {elementsLength : UInt32}
    {first second : Buffer} {start start' rest : Nat} {elements : List UInt8}
    (compact : head.EncodedAt false elementsLength first start elements rest)
    (expanded : head.EncodedAt true elementsLength second start' elements rest) :
    first.SameTail second (start + 4 + 4 * (head.words false).length)
      (start' + 4 + 4 * (head.words true).length) where
  bytes := compact.behind.trans expanded.behind.symm
  received := ⟨rest, compact.received, expanded.received⟩
  small := ⟨compact.small, expanded.small⟩

variable {first second : Buffer} {one two : SFSample}

theorem flow_alike (head : FlowHead) (compactable : (SampleHead.flow head).Compact)
    (elementsLength : UInt32) {places : Places}
    (tail : first.SameTail second places.left places.right)
    (before : AtWords config first second places one two
      ((SampleHead.flow head).length false elementsLength :: (SampleHead.flow head).words false)
      ((SampleHead.flow head).length true elementsLength :: (SampleHead.flow head).words true)) :
    DecodedAlike config first second (run first (readFlowSample config false) one)
      (run second (readFlowSample config true) two) := by
  have fits : 4 * ((SampleHead.flow head).words false).length ≤ places.left := by
    have ends := before.ends
    rw [List.length_cons] at ends
    omega
  have fits' : 4 * ((SampleHead.flow head).words true).length ≤ places.right := by
    have ends := before.ends'
    rw [List.length_cons] at ends
    omega
  unfold readFlowSample readFlowSampleFields
  simp only [LawfulMonad.bind_assoc]
  refine alike_offline _ _ _ inferInstance before fun _ one two before => ?_
  refine alike_word _ _ before fun before => ?_
  refine alike_start _ _ before fun before => ?_
  refine alike_word _ _ before fun before => ?_
  iterate 2 refine alike_offline _ _ _ inferInstance before fun _ one two before => ?_
  refine alike_source _ _ compactable.1 compactable.2.1 _ _ before fun one two before => ?_
  refine alike_offline _ _ _ inferInstance before fun _ one two before => ?_
  iterate 3
    refine alike_word _ _ before fun before => ?_
    refine alike_offline _ _ _ inferInstance before fun _ one two before => ?_
  iterate 3 refine alike_offline _ _ _ inferInstance before fun _ one two before => ?_
  refine alike_ports head compactable _ _ before fun one two before => ?_
  iterate 8 refine alike_offline _ _ _ inferInstance before fun _ one two before => ?_
  refine alike_word _ _ before fun before => ?_
  exact alike_elements before tail _ _ "flow_sample" _ _ elementsLength (Nat.sub_add_cancel fits)
    (Nat.sub_add_cancel fits')

theorem counters_alike (head : CountersHead) (compactable : (SampleHead.counters head).Compact)
    (elementsLength : UInt32) {places : Places}
    (tail : first.SameTail second places.left places.right)
    (before : AtWords config first second places one two
      ((SampleHead.counters head).length false elementsLength ::
        (SampleHead.counters head).words false)
      ((SampleHead.counters head).length true elementsLength ::
        (SampleHead.counters head).words true)) :
    DecodedAlike config first second (run first (readCountersSample config false) one)
      (run second (readCountersSample config true) two) := by
  have fits : 4 * ((SampleHead.counters head).words false).length ≤ places.left := by
    have ends := before.ends
    rw [List.length_cons] at ends
    omega
  have fits' : 4 * ((SampleHead.counters head).words true).length ≤ places.right := by
    have ends := before.ends'
    rw [List.length_cons] at ends
    omega
  unfold readCountersSample
  refine alike_offline _ _ _ inferInstance before fun _ one two before => ?_
  refine alike_word _ _ before fun before => ?_
  refine alike_start _ _ before fun before => ?_
  refine alike_word _ _ before fun before => ?_
  iterate 2 refine alike_offline _ _ _ inferInstance before fun _ one two before => ?_
  refine alike_source _ _ compactable.1 compactable.2 _ _ before fun one two before => ?_
  refine alike_offline _ _ _ inferInstance before fun _ one two before => ?_
  refine alike_word _ _ before fun before => ?_
  exact alike_elements before tail _ _ "length_check_2_counters_sample" _ _ elementsLength (Nat.sub_add_cancel fits)
    (Nat.sub_add_cancel fits')

/-- The compact and the expanded encoding of a sample come to the same. -/
theorem encodings_decode_alike (config : SFConfig) (head : SampleHead) (compactable : head.Compact)
    (elementsLength : UInt32) (elements : List UInt8) (rest : Nat) (first second : Buffer)
    (one two : SFSample)
    (compact : head.EncodedAt false elementsLength first one.cursor elements rest)
    (expanded : head.EncodedAt true elementsLength second two.cursor elements rest)
    (same : SameContents config first second one two) :
    DecodedAlike config first second (run first (head.decode config false) one)
      (run second (head.decode config true) two) := by
  have tail := encodings_tail compact expanded
  have before : AtWords config first second
      ⟨one.cursor + 4 + 4 * (head.words false).length, two.cursor + 4 + 4 * (head.words true).length,
        one.marks .sampleStart, two.marks .sampleStart⟩ one two
      (head.length false elementsLength :: head.words false)
      (head.length true elementsLength :: head.words true) := by
    refine ⟨same, compact.holds, expanded.holds, ?_, ?_, rfl, rfl⟩
    · simp only [List.length_cons]
      omega
    · simp only [List.length_cons]
      omega
  cases head with
  | flow head => exact flow_alike head compactable elementsLength tail before
  | counters head => exact counters_alike head compactable elementsLength tail before

/-- A flow sample with one element, the VLANs that a switch reports. -/
def switchedFlow : SampleHead := .flow ⟨9, 0, 7, 400, 4000, 0, 0, 3, 0, 4, 1⟩
def switchElement : List UInt8 := [1001, 16, 12, 1, 13, 2].flatMap be32

def switchedDatagram (expanded : Bool) : Buffer :=
  .ofBytes ((switchedFlow.length expanded 24 :: switchedFlow.words expanded).flatMap be32 ++
    switchElement)

theorem switched_flow_alike : DecodedAlike (defaultConfig .line) (switchedDatagram false)
    (switchedDatagram true)
    (run (switchedDatagram false) (readFlowSample (defaultConfig .line) false) firstSample)
    (run (switchedDatagram true) (readFlowSample (defaultConfig .line) true) firstSample) := by
  have compact : switchedFlow.EncodedAt false 24 (switchedDatagram false) 0 switchElement 24 :=
    ⟨rfl, by decide +kernel, by decide +kernel⟩
  have expanded : switchedFlow.EncodedAt true 24 (switchedDatagram true) 0 switchElement 24 :=
    ⟨rfl, by decide +kernel, by decide +kernel⟩
  have room : switchedFlow.Compact := by
    refine ⟨?_, ?_, ?_, ?_, ?_, ?_⟩ <;> decide
  have same : SameContents (defaultConfig .line) (switchedDatagram false) (switchedDatagram true)
      firstSample firstSample := by
    refine ⟨rfl, rfl, ?_, ?_⟩
    · decide +kernel
    · decide +kernel
  exact encodings_decode_alike (defaultConfig .line) switchedFlow room 24 switchElement 24
    (switchedDatagram false) (switchedDatagram true) firstSample firstSample compact expanded same

end Samples

end SflowTool
