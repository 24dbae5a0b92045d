import SflowTool.SampleUses

/-! How far the decoders move the cursor. A record of a fixed layout moves it by the size
of the layout; a flow record, whatever it holds, by at least one word. -/
namespace SflowTool
open Decoding Decoding.Decoder

variable (config : SFConfig)

/-! An answer of the search for instances is counted once for each way it is handed on. -/
set_option synthInstance.maxSize 1000000000000

section Reads

instance (mark : Note) : Stays (@Decoder.note collector mark) := stays_note _
instance (name : Mark) : Stays (@Decoder.mark collector name) := stays_mark _
instance (name : Mark) : Stays (@Decoder.since collector name) := stays_since _
instance (name : Mark) (offset count : Nat) : Stays (@Decoder.peek collector name offset count) :=
  stays_peek _ _ _
instance (event : Event) : Stays (@Decoder.emit collector event) := stays_emit _
instance (counter : Counter) : Stays (@Decoder.tick collector counter) := stays_tick _
instance : Stays (@Decoder.get collector .clfHttpLog) := stays_get _
instance : Moves getData32Nobswap 4 := moves_take 4
instance (count : UInt32) : Moves (skipBytes count) (quadBytes count) := moves_skip count
instance (var : WordVar) : Stays (getWord var) := stays_get _
instance (var : WordVar) (value : UInt32) : Stays (setWord var value) := stays_set _ _
instance (var : DwordVar) : Stays (getDword var) := stays_get _
instance (var : DwordVar) (value : UInt64) : Stays (setDword var value) := stays_set _ _
instance (var : AddressVar) : Stays (getAddressVar var) := stays_get _
instance (var : AddressVar) (value : Address) : Stays (setAddressVar var value) := stays_set _ _
instance (var : TextVar) : Stays (getText var) := stays_get _
instance (var : TextVar) (value : Text) : Stays (setText var value) := stays_set _ _
instance (member : DdosMember) : Stays (getCommon member) := stays_get _
instance (member : DdosMember) (value : DdosCommon) : Stays (setCommon member value) :=
  stays_set _ _
instance (member : DdosMember) : Stays (getCounters member) := stays_get _
instance (member : DdosMember) (value : String → UInt64) : Stays (setCounters member value) :=
  stays_set _ _
instance (fmt : String) (args : List Arg) : Stays (sfLog config fmt args) := by
  unfold sfLog; infer_instance
instance (fmt : String) (args : List Arg) : Stays (printf fmt args) := stays_emit _
instance (fmt : String) (args : List Arg) : Stays (fprintfErr fmt args) := stays_emit _
instance {α : Type} (reason : Stop) : Stays (sfAbort reason : Decode α) := stays_stop _
instance (description : String) (origin : Mark) (len : UInt32) :
    Stays (lengthCheck description origin len) := by
  unfold lengthCheck
  infer_instance

instance : Moves getData32 4 := by unfold getData32; infer_instance
instance : Moves getData64 8 := by unfold getData64; infer_instance
instance : Moves getFloat 4 := by unfold getFloat; infer_instance
instance : Moves getData16 2 := by unfold getData16; infer_instance
instance : Moves getDataU8 1 := by unfold getDataU8; infer_instance
instance (len : Nat) : Moves (getData8 len) len := by unfold getData8; infer_instance
instance (buffer : String) : Stays (sfLogString config buffer) := by
  unfold sfLogString; infer_instance
instance (val : UInt32) (fieldName : String) : Stays (sfLogU32 config val fieldName) := by
  unfold sfLogU32; infer_instance
instance (val : UInt64) (fieldName : String) : Stays (sfLogU64 config val fieldName) := by
  unfold sfLogU64; infer_instance
instance (fieldName : String) (len : Nat) : Moves (sfLogNext8 config fieldName len) len := by
  unfold sfLogNext8; infer_instance
instance (fieldName : String) : Moves (sfLogNext16 config fieldName) 2 := by
  unfold sfLogNext16; infer_instance
instance (fieldName : String) : Moves (sfLogNext32 config fieldName) 4 := by
  unfold sfLogNext32; infer_instance
instance (fieldName : String) : Moves (sfLogNext64 config fieldName) 8 := by
  unfold sfLogNext64; infer_instance
instance (fieldName : String) : Moves (sfLogPercentage config fieldName) 4 := by
  unfold sfLogPercentage; infer_instance
instance (fieldName : String) : Moves (sfLogNextFloat config fieldName) 4 := by
  unfold sfLogNextFloat; infer_instance
instance (fieldName : String) : Moves (sfLogNextMAC config fieldName) 8 := by
  unfold sfLogNextMAC; infer_instance

end Reads

section FlowSamples

instance (samplerId : UInt32) : Stays (setSamplerId samplerId) := by
  unfold setSamplerId; infer_instance
instance (fmt : String) (args : List Arg) : Stays (logSourceId config fmt args) := by
  unfold logSourceId; infer_instance
instance (title : String) (format port : UInt32) : Stays (logPort config title format port) := by
  unfold logPort; infer_instance

theorem readSourceId_moves (expanded : Bool) :
    Moves (readSourceId expanded) (if expanded then 8 else 4) := by
  cases expanded with
  | true =>
      simp only [readSourceId, ↓reduceIte]
      infer_instance
  | false =>
      simp only [readSourceId, Bool.false_eq_true, ↓reduceIte]
      infer_instance

theorem readPorts_moves (expanded : Bool) :
    Moves (readPorts expanded) (if expanded then 16 else 8) := by
  cases expanded with
  | true =>
      simp only [readPorts, ↓reduceIte]
      infer_instance
  | false =>
      simp only [readPorts, Bool.false_eq_true, ↓reduceIte]
      infer_instance

/-- The size of the fields before the number of elements. -/
def fieldsSize (expanded : Bool) : Nat := if expanded then 40 else 28

theorem readFlowSampleFields_moves (expanded : Bool) :
    Moves (readFlowSampleFields config expanded) (fieldsSize expanded) := by
  have sourceId := readSourceId_moves expanded
  have ports := readPorts_moves expanded
  unfold readFlowSampleFields
  refine Moves.congr inferInstance ?_
  cases expanded <;> rfl

instance : Stays (sampleFilterOK config) := by
  unfold sampleFilterOK; infer_instance
instance : Stays nfBytes := by
  unfold nfBytes; infer_instance
instance : Stays (sendNetFlowDatagram config) := by
  unfold sendNetFlowDatagram; infer_instance
instance : Stays writeFlowLine := by
  unfold writeFlowLine; infer_instance
instance : Stays (writePcapPacket config) := by
  unfold writePcapPacket; infer_instance
instance : Stays (emitFlowSample config) := by
  have emitted (client : Text) (httpLog : Var.clfHttpLog.type) :
      Stays (@Decoder.emit collector (.clfLine client httpLog)) := stays_emit _
  unfold emitFlowSample
  cases config.outputFormat <;> infer_instance

end FlowSamples

section FlowRecords

/-- A word is read somewhere in the program whatever it does. -/
instance advances_bind {α β : Type} (program : Decode α) (next : α → Decode β) (least : Nat)
    [first : Advances least program] : Advances least (program >>= next) :=
  advances_first program next least first

instance (priority := low) advances_bind_rest {α β : Type} (program : Decode α)
    (next : α → Decode β) (least : Nat) [rest : ∀ value, Advances least (next value)] :
    Advances least (program >>= next) :=
  advances_rest program next least rest

instance : Advances 4 getData32 := advances_of_moves _ 4 4 inferInstance (Nat.le_refl 4)
instance : Advances 4 getData32Nobswap := advances_of_moves _ 4 4 inferInstance (Nat.le_refl 4)
instance (fieldName : String) : Advances 4 (sfLogNext32 config fieldName) :=
  advances_of_moves _ 4 4 inferInstance (Nat.le_refl 4)
instance (bufLen : UInt32) : Advances 4 (getString bufLen) := by
  unfold getString; infer_instance
instance (fmt : String) (bufLen : UInt32) : Advances 4 (logNextString config fmt bufLen) := by
  unfold logNextString; infer_instance
instance (var : AddressVar) : Advances 4 (getAddress var) := by
  unfold getAddress; infer_instance
instance : Advances 4 (skipBytes 32) :=
  advances_of_moves _ 4 32 (inferInstanceAs (Moves (skipBytes 32) (quadBytes 32))) (by decide)
instance : Advances 4 (skipBytes 56) :=
  advances_of_moves _ 4 56 (inferInstanceAs (Moves (skipBytes 56) (quadBytes 56))) (by decide)

instance : Advances 4 (readFlowSampleHeader config) := by
  unfold readFlowSampleHeader; infer_instance
instance (title : String) : Advances 4 (readFlowSampleEthernet config title) := by
  unfold readFlowSampleEthernet; infer_instance
instance (title : String) : Advances 4 (readFlowSampleIPv4 config title) := by
  unfold readFlowSampleIPv4; infer_instance
instance (title : String) : Advances 4 (readFlowSampleIPv6 config title) := by
  unfold readFlowSampleIPv6; infer_instance
instance : Advances 4 (readFlowSampleMemcache config) := by
  unfold readFlowSampleMemcache; infer_instance
instance (tag : UInt32) : Advances 4 (readFlowSampleHttp config tag) := by
  unfold readFlowSampleHttp; infer_instance
instance : Advances 4 (readFlowSampleApp config) := by
  unfold readFlowSampleApp; infer_instance
instance : Advances 4 (readFlowSampleAppCtxt config) := by
  unfold readFlowSampleAppCtxt; infer_instance
instance : Advances 4 (readFlowSampleAppActorInit config) := by
  unfold readFlowSampleAppActorInit; infer_instance
instance : Advances 4 (readFlowSampleAppActorTgt config) := by
  unfold readFlowSampleAppActorTgt; infer_instance
instance : Advances 4 (readExtendedSwitch config) := by
  unfold readExtendedSwitch; infer_instance
instance : Advances 4 (readExtendedRouter config) := by
  unfold readExtendedRouter; infer_instance
instance : Advances 4 (readExtendedGateway config) := by
  unfold readExtendedGateway; infer_instance
instance : Advances 4 (readExtendedUser config) := by
  unfold readExtendedUser; infer_instance
instance : Advances 4 (readExtendedUrl config) := by
  unfold readExtendedUrl; infer_instance
instance : Advances 4 (readExtendedMpls config) := by
  unfold readExtendedMpls; infer_instance
instance : Advances 4 (readExtendedNat config) := by
  unfold readExtendedNat; infer_instance
instance : Advances 4 (readExtendedNatPort config) := by
  unfold readExtendedNatPort; infer_instance
instance : Advances 4 (readExtendedMplsTunnel config) := by
  unfold readExtendedMplsTunnel; infer_instance
instance : Advances 4 (readExtendedMplsVC config) := by
  unfold readExtendedMplsVC; infer_instance
instance : Advances 4 (readExtendedMplsFTN config) := by
  unfold readExtendedMplsFTN; infer_instance
instance : Advances 4 (readExtendedMplsLdpFec config) := by
  unfold readExtendedMplsLdpFec; infer_instance
instance (title : Line) (fmt : String) (args : UInt32 → List Arg) :
    Advances 4 (readStack config title fmt args) := by
  unfold readStack; infer_instance
instance : Advances 4 (readExtendedVlanTunnel config) := by
  unfold readExtendedVlanTunnel; infer_instance
instance : Advances 4 (readExtendedWifiPayload config) := by
  unfold readExtendedWifiPayload; infer_instance
instance : Advances 4 (readExtendedWifiRx config) := by
  unfold readExtendedWifiRx; infer_instance
instance : Advances 4 (readExtendedWifiTx config) := by
  unfold readExtendedWifiTx; infer_instance
instance : Advances 4 (readExtendedSocket4 config) := by
  unfold readExtendedSocket4; infer_instance
instance : Advances 4 (readExtendedSocket6 config) := by
  unfold readExtendedSocket6; infer_instance
instance : Advances 4 (readExtendedProxySocket4 config) := by
  unfold readExtendedProxySocket4; infer_instance
instance : Advances 4 (readExtendedProxySocket6 config) := by
  unfold readExtendedProxySocket6; infer_instance
instance (title : String) : Advances 4 (readExtendedDecap config title) := by
  unfold readExtendedDecap; infer_instance
instance (title : String) : Advances 4 (readExtendedVNI config title) := by
  unfold readExtendedVNI; infer_instance

theorem flowDecoders_advance (entry : UInt32 × Decode Unit)
    (member : entry ∈ flowDecoders config) : Advances 4 entry.2 := by
  revert entry
  simp only [flowDecoders, List.forall_mem_cons, List.not_mem_nil, false_implies, implies_true,
    and_true]
  and_intros <;> infer_instance

end FlowRecords

end SflowTool
