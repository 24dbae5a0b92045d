import SflowTool.FlowFraming
import SflowTool.FlowSequence
import SflowTool.Commitment
import SflowTool.HeaderSpecs

/-! The tcpdump record of a flow sample. What is captured starts where the last header of
the sample does, which the reference splitter finds without a decode; how much is captured
is one of two lengths that nothing bounds. -/
namespace SflowTool
open Decoding Decoding.Decoder

variable {config : SFConfig}

section Carried

/-- A header that a sample carries: where it starts and how long it says it is. -/
structure CarriedHeader where
  start : Nat
  length : UInt32

def CarriedHeader.octets (buffer : Buffer) (header : CarriedHeader) : List UInt8 :=
  buffer.slice header.start header.length.toNat

/-- A header record: the protocol, the size of the packet, from version 5 on what was
stripped of it, and the length of the header before its bytes. -/
def headerRecordAt (buffer : Buffer) (version : UInt32) (body : Nat) : CarriedHeader :=
  if version > 4 then ⟨body + 16, wordFrom buffer (body + 12)⟩
  else ⟨body + 12, wordFrom buffer (body + 8)⟩

/-- The header a record carries, by its tag. An IP structure stands for one itself. -/
def headerIn (buffer : Buffer) (version tag : UInt32) (body : Nat) : Option CarriedHeader :=
  if tag = 1 then some (headerRecordAt buffer version body)
  else if tag = 1013 then some (headerRecordAt buffer version (body + 4))
  else if tag = 3 ∨ tag = 1023 ∨ tag = 1024 then some ⟨body, 32⟩
  else if tag = 4 ∨ tag = 1025 ∨ tag = 1026 then some ⟨body, 56⟩
  else none

/-- The header of a sample is that of the last element that carries one. -/
def lastHeader (buffer : Buffer) (version : UInt32) : List Element → Option CarriedHeader
  | [] => none
  | element :: rest =>
      (lastHeader buffer version rest).or (headerIn buffer version element.tag element.body)

/-- From one state to the other the header of the sample was replaced by the carried one,
where there is one. -/
structure Replaced (carried : Option CarriedHeader) (state final : SFSample) : Prop where
  version : wordOf final .datagramVersion = wordOf state .datagramVersion
  length : wordOf final .headerLen = (carried.map (·.length)).getD (wordOf state .headerLen)
  start : final.marks .header = (carried.map (·.start)).getD (state.marks .header)

theorem Replaced.trans {first second : Option CarriedHeader} {state middle final : SFSample}
    (one : Replaced first state middle) (two : Replaced second middle final) :
    Replaced (second.or first) state final where
  version := two.version.trans one.version
  length := by
    rw [two.length, one.length]
    cases second <;> rfl
  start := by
    rw [two.start, one.start]
    cases second <;> rfl

/-- What comes before and behind a replacement and replaces nothing. -/
theorem Replaced.within {carried : Option CarriedHeader} {state opened closed final : SFSample}
    (before : Replaced none state opened) (replaced : Replaced carried opened closed)
    (after : Replaced none closed final) : Replaced carried state final := by
  simpa using (before.trans replaced).trans after

/-- Operations that leave the header and the version alone. -/
def HeaderKeptOp : Op collector → Prop
  | .set var _ => var ≠ .word .headerLen ∧ var ≠ .word .datagramVersion
  | .mark name => name ≠ .header
  | _ => True

theorem replaced_none {α : Type} (buffer : Buffer) (program : Decode α)
    (uses : Uses HeaderKeptOp program) (state : SFSample) :
    (run buffer program state).Finishing fun _ final _ => Replaced none state final := by
  have version := uses_keeps HeaderKeptOp (.word .datagramVersion)
    (fun _ allow => allow.2 rfl) buffer program uses state
  have length := uses_keeps HeaderKeptOp (.word .headerLen)
    (fun _ allow => allow.1 rfl) buffer program uses state
  have start := uses_keeps_mark HeaderKeptOp .header (fun allow => allow rfl) buffer program uses state
  generalize run buffer program state = performed at version length start ⊢
  obtain ⟨outcome, final, trace, notes⟩ := performed
  cases outcome with
  | error reason => trivial
  | ok value => exact ⟨version, length, start⟩

end Carried

/-! Counted once for each way it is handed on, as before. -/
set_option synthInstance.maxSize 1000000000000

section Uses

instance : Permits HeaderKeptOp where
  take _ _ := trivial
  skip _ := trivial
  errout _ := trivial
  note _ _ _ _ _ := trivial
  abort _ _ := trivial
instance : PermitsNames HeaderKeptOp where
  lookup _ _ := trivial
instance : PermitsFilter HeaderKeptOp where
  lookup _ := trivial
instance (family : Family) : PermitsGet HeaderKeptOp family where
  get _ _ := trivial

theorem headerKept_use (family : Family) (notHeader : family ≠ .header)
    (notDatagram : family ≠ .datagram) : PermitsUse HeaderKeptOp family where
  get _ _ := trivial
  set var same _ := by
    refine ⟨?_, ?_⟩
    · rintro rfl
      exact notHeader same.symm
    · rintro rfl
      exact notDatagram same.symm

instance : PermitsUse HeaderKeptOp .sample := headerKept_use _ (by decide) (by decide)
instance : PermitsUse HeaderKeptOp .packet := headerKept_use _ (by decide) (by decide)
instance : PermitsUse HeaderKeptOp .ethernet := headerKept_use _ (by decide) (by decide)
instance : PermitsUse HeaderKeptOp .addresses := headerKept_use _ (by decide) (by decide)
instance : PermitsUse HeaderKeptOp .vlan := headerKept_use _ (by decide) (by decide)
instance : PermitsUse HeaderKeptOp .switching := headerKept_use _ (by decide) (by decide)
instance : PermitsUse HeaderKeptOp .router := headerKept_use _ (by decide) (by decide)
instance : PermitsUse HeaderKeptOp .gateway := headerKept_use _ (by decide) (by decide)
instance : PermitsUse HeaderKeptOp .user := headerKept_use _ (by decide) (by decide)
instance : PermitsUse HeaderKeptOp .url := headerKept_use _ (by decide) (by decide)
instance : PermitsUse HeaderKeptOp .forwarding := headerKept_use _ (by decide) (by decide)
instance : PermitsUse HeaderKeptOp .commonLog := headerKept_use _ (by decide) (by decide)

instance : PermitsMark HeaderKeptOp .ptr where
  mark _ := nofun
  peek _ _ := trivial
instance : PermitsMark HeaderKeptOp .asPath where
  mark _ := nofun
  peek _ _ := trivial
instance : PermitsMark HeaderKeptOp .communities where
  mark _ := nofun
  peek _ _ := trivial
instance : PermitsSince HeaderKeptOp where
  since _ := trivial
instance : PermitsLog config HeaderKeptOp where
  log _ _ := trivial
instance : PermitsIteration HeaderKeptOp where
  note := trivial
instance : PermitsHeader HeaderKeptOp where
  note _ := trivial
  exit _ := trivial
instance : PermitsReport HeaderKeptOp where
  survey := trivial
  report _ _ _ _ := trivial

/-! The dissection of a header sets one variable of the header's own, the payload offset. -/

instance (value : UInt32) : Uses HeaderKeptOp (setWord .offsetToPayload value) :=
  uses_single _ ⟨nofun, nofun⟩
instance (offset count : Nat) : Uses HeaderKeptOp (@Decoder.peek collector .header offset count) :=
  uses_single _ trivial
instance (offset : Nat) : Uses HeaderKeptOp (headerByte offset) := by
  unfold headerByte; infer_instance
instance (offset : Nat) : Uses HeaderKeptOp (headerHalf offset) := by
  unfold headerHalf; infer_instance
instance : Uses HeaderKeptOp (decodeVLANTag config) := by
  unfold decodeVLANTag; infer_instance
instance (typeLen : UInt32) (ptr : Nat) : Uses HeaderKeptOp (peekForIPX typeLen ptr) := by
  unfold peekForIPX; infer_instance
instance (ptr : Nat) : Uses HeaderKeptOp (decode8022 config ptr) := by
  unfold decode8022; infer_instance
instance (headerLen typeLen : UInt32) (ptr : Nat) :
    Uses HeaderKeptOp (decodeEthernetType headerLen typeLen ptr) := by
  unfold decodeEthernetType; infer_instance
instance : Uses HeaderKeptOp (decode80211MAC config) := by
  unfold decode80211MAC; infer_instance
instance (ptr : Nat) : Uses HeaderKeptOp (decodeIPLayer4 config ptr) := by
  unfold decodeIPLayer4; infer_instance
instance : Uses HeaderKeptOp (decodeIPV4 config) := by
  unfold decodeIPV4; infer_instance

instance : Uses HeaderKeptOp (decodeLinkLayer config) := by
  have behind (headerLen : UInt32) (found : Option (UInt32 × Nat)) : Uses HeaderKeptOp
      (match found with
        | none => (return () : Decode Unit)
        | some (typeLen, ptr) => decodeEthernetType headerLen typeLen ptr) := by
    cases found <;> infer_instance
  unfold decodeLinkLayer
  infer_instance

instance skipIPV6Extensions_kept (headerLen fuel : Nat) (nextHeader : UInt32) (ptr : Nat) :
    Uses HeaderKeptOp (skipIPV6Extensions config headerLen fuel nextHeader ptr) := by
  induction fuel generalizing nextHeader ptr with
  | zero => exact .pure none
  | succ fuel ih =>
      unfold skipIPV6Extensions
      infer_instance

instance : Uses HeaderKeptOp (decodeIPV6 config) := by
  have behind (walked : Option (UInt32 × Nat)) : Uses HeaderKeptOp
      (match walked with
        | none => (return () : Decode Unit)
        | some (nextHeader, ptr) => do
            setWord .dcdIpProtocol nextHeader
            sfLog config "IPProtocol %u\n" [.word nextHeader]
            decodeIPLayer4 config ptr) := by
    cases walked <;> infer_instance
  unfold decodeIPV6
  infer_instance

instance (headerProtocol : UInt32) : Uses HeaderKeptOp (dissectHeader config headerProtocol) := by
  unfold dissectHeader; infer_instance
instance (offsetVar : WordVar) : Uses HeaderKeptOp (logIPSize config offsetVar) := by
  unfold logIPSize; infer_instance

end Uses

section Records

theorem getWord_finishing (buffer : Buffer) (var : WordVar) (state : SFSample) :
    (run buffer (getWord var) state).Finishing fun value final notes =>
      value = wordOf state var ∧ final = state ∧ notes = [] := ⟨rfl, rfl, rfl⟩

theorem setWord_finishing (buffer : Buffer) (var : WordVar) (value : UInt32) (state : SFSample) :
    (run buffer (setWord var value) state).Finishing fun _ final notes =>
      final = holding state var value ∧ notes = [] := ⟨rfl, rfl⟩

/-- A word that is read, stored and logged. -/
def storeLogged (config : SFConfig) (var : WordVar) (fmt : String) : Decode Unit := do
  let value ← getData32
  setWord var value
  sfLog config fmt [.word value]

theorem storeLogged_finishing (buffer : Buffer) (var : WordVar) (fmt : String) (state : SFSample) :
    (run buffer (storeLogged config var fmt) state).Finishing fun _ final _ =>
      final = holding (state.moved 4) var (wordFrom buffer state.cursor) := by
  refine finishing_bind buffer _ _ _ _ ((getData32_finishing buffer state).mono ?_)
  rintro value _ _ ⟨rfl, rfl, -, -⟩
  refine finishing_bind buffer _ _ _ _ ((setWord_finishing buffer var _ _).mono ?_)
  rintro _ _ _ ⟨rfl, -⟩
  refine (sfLog_finishing buffer _ _ _).mono ?_
  rintro _ _ _ ⟨rfl, -⟩
  rfl

/-- The record behind the length of its header. -/
def readHeaderBytes (config : SFConfig) (headerProtocol headerLen : UInt32) : Decode Unit := do
  setWord .gotHeader 1
  let octets ← skipBytes headerLen
  sfLog config "headerBytes %s\n" [.bytes (octets.take headerLen.toNat)]
  note (.headerProtocol headerProtocol)
  dissectHeader config headerProtocol
  let gotIPV4 ← getWord .gotIPV4
  if gotIPV4 ≠ 0 then
    logIPSize config .offsetToIPV4
    decodeIPV4 config
  else
    let gotIPV6 ← getWord .gotIPV6
    when (gotIPV6 ≠ 0) do
      logIPSize config .offsetToIPV6
      decodeIPV6 config

instance (value : UInt32) : Uses HeaderKeptOp (setWord .gotHeader value) :=
  uses_single _ ⟨nofun, nofun⟩

instance (headerProtocol headerLen : UInt32) :
    Uses HeaderKeptOp (readHeaderBytes config headerProtocol headerLen) := by
  unfold readHeaderBytes
  infer_instance

/-- The end of the record from the length of its header on. -/
def readHeaderFrom (config : SFConfig) (headerProtocol : UInt32) : Decode Unit := do
  let headerLen ← getData32
  setWord .headerLen headerLen
  sfLog config "headerLen %u\n" [.word headerLen]
  mark .header
  readHeaderBytes config headerProtocol headerLen

theorem readHeaderFrom_replaces (buffer : Buffer) (headerProtocol : UInt32) (state : SFSample) :
    (run buffer (readHeaderFrom config headerProtocol) state).Finishing fun _ final _ =>
      Replaced (some ⟨state.cursor + 4, wordFrom buffer state.cursor⟩) state final := by
  refine finishing_bind buffer _ _ _ _ ((getData32_finishing buffer state).mono ?_)
  rintro headerLen _ _ ⟨rfl, rfl, -, -⟩
  refine finishing_bind buffer _ _ _ _ ((setWord_finishing buffer _ _ _).mono ?_)
  rintro _ _ _ ⟨rfl, -⟩
  refine finishing_bind buffer _ _ _ _ ((sfLog_finishing buffer _ _ _).mono ?_)
  rintro _ _ _ ⟨rfl, -⟩
  refine finishing_bind buffer _ _ _ _ ((mark_finishing buffer .header _).mono ?_)
  rintro _ _ _ ⟨rfl, -⟩
  refine (replaced_none buffer (readHeaderBytes config headerProtocol _) inferInstance _).mono ?_
  rintro _ final _ ⟨version, length, start⟩
  exact ⟨version, length, start.trans (State.marked_marks _ _)⟩

theorem readFlowSampleHeader_replaces (buffer : Buffer) (state : SFSample) :
    (run buffer (readFlowSampleHeader config) state).Finishing fun _ final _ =>
      Replaced (some (headerRecordAt buffer (wordOf state .datagramVersion) state.cursor))
        state final := by
  unfold readFlowSampleHeader
  refine finishing_bind buffer _ _ _ _ ((sfLog_finishing buffer _ _ state).mono ?_)
  rintro _ state _ ⟨rfl, -⟩
  refine finishing_bind buffer _ _ _ _ ((getData32_finishing buffer _).mono ?_)
  rintro headerProtocol _ _ ⟨-, rfl, -, -⟩
  refine finishing_bind buffer _ _ _ _ ((setWord_finishing buffer _ _ _).mono ?_)
  rintro _ _ _ ⟨rfl, -⟩
  refine finishing_bind buffer _ _ _ _ ((sfLog_finishing buffer _ _ _).mono ?_)
  rintro _ _ _ ⟨rfl, -⟩
  refine finishing_bind buffer _ _ _ _ ((getData32_finishing buffer _).mono ?_)
  rintro sampledPacketSize _ _ ⟨-, rfl, -, -⟩
  refine finishing_bind buffer _ _ _ _ ((setWord_finishing buffer _ _ _).mono ?_)
  rintro _ _ _ ⟨rfl, -⟩
  refine finishing_bind buffer _ _ _ _ ((sfLog_finishing buffer _ _ _).mono ?_)
  rintro _ sized _ ⟨rfl, -⟩
  refine finishing_bind buffer _ _ _ _ ((getWord_finishing buffer _ _).mono ?_)
  rintro version _ _ ⟨rfl, rfl, -⟩
  rw [show wordOf (holding (State.moved (holding (State.moved state 4) .headerProtocol headerProtocol) 4)
    .sampledPacketSize sampledPacketSize) .datagramVersion = wordOf state .datagramVersion from rfl]
  unfold headerRecordAt
  by_cases newer : wordOf state .datagramVersion > 4
  · rw [when_pos newer, if_pos newer]
    refine finishing_bind buffer _ _ _ _ ((storeLogged_finishing buffer .stripped _ _).mono ?_)
    rintro _ _ _ rfl
    refine (readHeaderFrom_replaces buffer headerProtocol _).mono ?_
    rintro _ final _ ⟨version, length, start⟩
    exact ⟨version, length, start⟩
  · rw [when_neg newer, if_neg newer]
    refine (readHeaderFrom_replaces buffer headerProtocol _).mono ?_
    rintro _ final _ ⟨version, length, start⟩
    exact ⟨version, length, start⟩

theorem readExtendedWifiPayload_replaces (buffer : Buffer) (state : SFSample) :
    (run buffer (readExtendedWifiPayload config) state).Finishing fun _ final _ =>
      Replaced (some (headerRecordAt buffer (wordOf state .datagramVersion) (state.cursor + 4)))
        state final := by
  have suite : (run buffer (sfLogNext32 config "cipher_suite") state).Finishing
      fun _ final _ => final = state.moved 4 := by
    refine finishing_bind buffer _ _ _ _ ((getData32_finishing buffer state).mono ?_)
    rintro _ _ _ ⟨-, rfl, -, -⟩
    refine finishing_bind buffer _ _ _ _ ((sfLog_finishing buffer _ _ _).mono ?_)
    rintro _ _ _ ⟨rfl, -⟩
    rfl
  refine finishing_bind buffer _ _ _ _ (suite.mono ?_)
  rintro _ _ _ rfl
  refine (readFlowSampleHeader_replaces buffer _).mono ?_
  rintro _ final _ ⟨version, length, start⟩
  exact ⟨version, length, start⟩

theorem readFlowSampleIPv4_replaces (title : String) (buffer : Buffer) (state : SFSample) :
    (run buffer (readFlowSampleIPv4 config title) state).Finishing fun _ final _ =>
      Replaced (some ⟨state.cursor, 32⟩) state final := by
  unfold readFlowSampleIPv4
  refine finishing_bind buffer _ _ _ _ ((sfLog_finishing buffer _ _ state).mono ?_)
  rintro _ state _ ⟨rfl, -⟩
  refine finishing_bind buffer _ _ _ _ ((setWord_finishing buffer _ _ _).mono ?_)
  rintro _ _ _ ⟨rfl, -⟩
  refine finishing_bind buffer _ _ _ _ ((mark_finishing buffer .header _).mono ?_)
  rintro _ _ _ ⟨rfl, -⟩
  refine Run.Finishing.mono (replaced_none buffer _ ?_ _) ?_
  · infer_instance
  · rintro _ final _ ⟨version, length, start⟩
    exact ⟨version, length, start.trans (State.marked_marks _ _)⟩

theorem readFlowSampleIPv6_replaces (title : String) (buffer : Buffer) (state : SFSample) :
    (run buffer (readFlowSampleIPv6 config title) state).Finishing fun _ final _ =>
      Replaced (some ⟨state.cursor, 56⟩) state final := by
  unfold readFlowSampleIPv6
  refine finishing_bind buffer _ _ _ _ ((sfLog_finishing buffer _ _ state).mono ?_)
  rintro _ state _ ⟨rfl, -⟩
  refine finishing_bind buffer _ _ _ _ ((mark_finishing buffer .header _).mono ?_)
  rintro _ _ _ ⟨rfl, -⟩
  refine finishing_bind buffer _ _ _ _ ((setWord_finishing buffer _ _ _).mono ?_)
  rintro _ _ _ ⟨rfl, -⟩
  refine finishing_bind buffer _ _ _ _ ((setWord_finishing buffer _ _ _).mono ?_)
  rintro _ _ _ ⟨rfl, -⟩
  refine Run.Finishing.mono (replaced_none buffer _ ?_ _) ?_
  · infer_instance
  · rintro _ final _ ⟨version, length, start⟩
    exact ⟨version, length, start.trans (State.marked_marks state .header)⟩

/-- Every decoder of the table replaces the header by what its record carries. -/
theorem flowDecoders_replace (buffer : Buffer) (state : SFSample) (entry : UInt32 × Decode Unit)
    (member : entry ∈ flowDecoders config) :
    (run buffer entry.2 state).Finishing fun _ final _ =>
      Replaced (headerIn buffer (wordOf state .datagramVersion) entry.1 state.cursor)
        state final := by
  have kept (tag : UInt32) (decoder : Decode Unit) (uses : Uses HeaderKeptOp decoder)
      (none : headerIn buffer (wordOf state .datagramVersion) tag state.cursor = none) :
      (run buffer decoder state).Finishing fun _ final _ =>
        Replaced (headerIn buffer (wordOf state .datagramVersion) tag state.cursor) state final := by
    rw [none]
    exact replaced_none buffer decoder uses state
  revert entry
  simp only [flowDecoders, List.forall_mem_cons, List.not_mem_nil, false_implies, implies_true,
    and_true]
  and_intros
  all_goals try exact kept _ _ inferInstance rfl
  · exact readFlowSampleHeader_replaces buffer state
  · exact readFlowSampleIPv4_replaces _ buffer state
  · exact readFlowSampleIPv6_replaces _ buffer state
  · exact readExtendedWifiPayload_replaces buffer state
  · exact readFlowSampleIPv4_replaces _ buffer state
  · exact readFlowSampleIPv4_replaces _ buffer state
  · exact readFlowSampleIPv6_replaces _ buffer state
  · exact readFlowSampleIPv6_replaces _ buffer state

/-- A tag without a decoder carries no header. -/
theorem headerIn_unknown (buffer : Buffer) (version tag : UInt32) (body : Nat)
    (unknown : (flowDecoders config).lookup tag = none) :
    headerIn buffer version tag body = none := by
  have absent (known : UInt32) (listed : known ∈ (flowDecoders config).map Prod.fst) :
      tag ≠ known := by
    rintro rfl
    obtain ⟨entry, member, same⟩ := List.mem_map.mp listed
    have differs := List.lookup_eq_none_iff.mp unknown entry member
    simp [same] at differs
  have header := absent 1 (by simp [flowDecoders])
  have wifi := absent 1013 (by simp [flowDecoders])
  have structV4 : ¬(tag = 3 ∨ tag = 1023 ∨ tag = 1024) := by
    rintro (same | same | same)
    · exact absent 3 (by simp [flowDecoders]) same
    · exact absent 1023 (by simp [flowDecoders]) same
    · exact absent 1024 (by simp [flowDecoders]) same
  have structV6 : ¬(tag = 4 ∨ tag = 1025 ∨ tag = 1026) := by
    rintro (same | same | same)
    · exact absent 4 (by simp [flowDecoders]) same
    · exact absent 1025 (by simp [flowDecoders]) same
    · exact absent 1026 (by simp [flowDecoders]) same
  rw [headerIn, if_neg header, if_neg wifi, if_neg structV4, if_neg structV6]

theorem readFlowElementBody_replaces (buffer : Buffer) (tag length : UInt32) (state : SFSample) :
    (run buffer (readFlowElementBody config tag length) state).Finishing fun _ final _ =>
      Replaced (headerIn buffer (wordOf state .datagramVersion) tag state.cursor) state final := by
  unfold readFlowElementBody
  split
  · next decoder found => exact flowDecoders_replace buffer state _ (lookup_mem found)
  · next unknown =>
      rw [headerIn_unknown buffer _ tag _ unknown]
      exact replaced_none buffer _ inferInstance state

theorem readFlowElement_replaces (buffer : Buffer) (state : SFSample) :
    (run buffer (readFlowElement config) state).Finishing fun _ final _ =>
      Replaced (headerIn buffer (wordOf state .datagramVersion) (elementAt buffer state.cursor).tag
        (elementAt buffer state.cursor).body) state final := by
  unfold readFlowElement
  refine finishing_bind buffer _ _ _ _ ((getData32_finishing buffer state).mono ?_)
  rintro tag _ _ ⟨rfl, rfl, -, -⟩
  refine finishing_bind buffer _ _ _ _ ((sfLog_finishing buffer _ _ _).mono ?_)
  rintro _ _ _ ⟨rfl, -⟩
  refine finishing_bind buffer _ _ _ _ ((getData32_finishing buffer _).mono ?_)
  rintro length _ _ ⟨rfl, rfl, -, -⟩
  refine finishing_bind buffer _ _ _ _ ((mark_finishing buffer .start _).mono ?_)
  rintro _ _ _ ⟨rfl, -⟩
  refine finishing_bind buffer _ _ _ _ ((note_finishing buffer (.flowElement _ _) _).mono ?_)
  rintro _ _ _ ⟨rfl, -⟩
  refine finishing_bind buffer _ _ _ _ ((readFlowElementBody_replaces buffer _ _ _).mono ?_)
  rintro _ after _ ⟨version, length, start⟩
  refine finishing_bind buffer _ _ _ _ ((lengthCheck_finishing buffer _ _ _ _).mono ?_)
  rintro _ _ _ ⟨rfl, -, -⟩
  refine (note_finishing buffer .flowElementEnd _).mono ?_
  rintro _ _ _ ⟨rfl, -⟩
  exact ⟨version, length, start⟩

theorem readFlowElements_replace (buffer : Buffer) (small : buffer.length < 2 ^ 32 - 3)
    (remaining : Nat) (state : SFSample) :
    (run buffer (readFlowElements config remaining) state).Finishing fun _ final _ =>
      Replaced (lastHeader buffer (wordOf state .datagramVersion)
        (splitElements buffer remaining state.cursor)) state final := by
  induction remaining generalizing state with
  | zero => exact ⟨rfl, rfl, rfl⟩
  | succ remaining ih =>
      unfold readFlowElements
      refine finishing_bind buffer _ _ _ _
        (((readFlowElement_finishing buffer small state).and
          (readFlowElement_replaces buffer state)).mono ?_)
      rintro _ middle _ ⟨⟨ended, -, -, -⟩, first⟩
      refine finishing_bind buffer _ _ _ _ ((note_finishing buffer .iteration middle).mono ?_)
      rintro _ _ _ ⟨rfl, -⟩
      refine (ih _).mono ?_
      rintro _ final _ rest
      rw [first.version, ended] at rest
      exact first.trans rest

end Records

section Samples

/-- The kinds of flow samples: those of version 5, compact or expanded, and the older ones. -/
inductive FlowSampleKind where
  | v5 (expanded : Bool)
  | v2v4

/-- A flow sample up to its export, and with it. -/
def FlowSampleKind.decode (config : SFConfig) : FlowSampleKind → Decode Unit
  | .v5 expanded => decodeFlowSample config expanded
  | .v2v4 => decodeFlowSampleV2v4 config

def FlowSampleKind.read (config : SFConfig) : FlowSampleKind → Decode Unit
  | .v5 expanded => readFlowSample config expanded
  | .v2v4 => readFlowSampleV2v4 config

def FlowSampleKind.emit (config : SFConfig) : FlowSampleKind → Decode Unit
  | .v5 _ => emitFlowSample config
  | .v2v4 => emitFlowSampleV2v4 config

theorem read_split (kind : FlowSampleKind) :
    kind.read config = (kind.decode config >>= fun _ => kind.emit config) := by
  cases kind with
  | v5 expanded => exact readFlowSample_split expanded
  | v2v4 => exact readFlowSampleV2v4_split

/-- The header in the packet data of an older sample. -/
def packetHeader (buffer : Buffer) (version packetDataTag : UInt32) (body : Nat) :
    Option CarriedHeader :=
  if packetDataTag = 1 then some (headerRecordAt buffer version body)
  else if packetDataTag = 2 then some ⟨body, 32⟩
  else if packetDataTag = 3 then some ⟨body, 56⟩
  else none

/-- The sampled header of the flow sample that starts at the cursor. -/
def sampledHeader (buffer : Buffer) (sample : SFSample) : FlowSampleKind → Option CarriedHeader
  | .v5 expanded => lastHeader buffer (wordOf sample .datagramVersion)
      (sampleElements buffer expanded sample.cursor)
  | .v2v4 => packetHeader buffer (wordOf sample .datagramVersion)
      (wordFrom buffer (sample.cursor + 28)) (sample.cursor + 32)

theorem decodeFlowSample_replaces (buffer : Buffer) (small : buffer.length < 2 ^ 32 - 3)
    (expanded : Bool) (state : SFSample) :
    (run buffer (decodeFlowSample config expanded) state).Finishing fun _ final _ =>
      Replaced (sampledHeader buffer state (.v5 expanded)) state final := by
  unfold decodeFlowSample
  refine finishing_bind buffer _ _ _ _ ((sfLog_finishing buffer _ _ state).mono ?_)
  rintro _ state _ ⟨rfl, -⟩
  refine finishing_bind buffer _ _ _ _ ((getData32_finishing buffer _).mono ?_)
  rintro sampleLength _ _ ⟨-, rfl, -, -⟩
  refine finishing_bind buffer _ _ _ _ ((mark_finishing buffer .sampleStart _).mono ?_)
  rintro _ _ _ ⟨rfl, -⟩
  have size := (readFlowSampleFields_moves config expanded).moves buffer
    ((state.moved 4).marked .sampleStart)
  have kept := replaced_none buffer (readFlowSampleFields config expanded) inferInstance
    ((state.moved 4).marked .sampleStart)
  refine finishing_bind buffer _ _ _ _ ((size.finishing.and kept).mono ?_)
  rintro _ fields _ ⟨moved, before⟩
  refine finishing_bind buffer _ _ _ _ ((getData32_finishing buffer _).mono ?_)
  rintro numElements _ _ ⟨rfl, rfl, -, -⟩
  refine finishing_bind buffer _ _ _ _ ((readFlowElements_replace buffer small _ _).mono ?_)
  rintro _ elements _ replaced
  refine finishing_bind buffer _ _ _ _ ((lengthCheck_finishing buffer _ _ _ _).mono ?_)
  rintro _ _ _ ⟨rfl, -, -⟩
  refine (note_finishing buffer .flowSampleEnd _).mono ?_
  rintro _ _ _ ⟨rfl, -⟩
  have place : fields.cursor = state.cursor + 4 + fieldsSize expanded := moved
  have version : wordOf (fields.moved 4) .datagramVersion = wordOf state .datagramVersion :=
    before.version
  have split : splitElements buffer (wordFrom buffer fields.cursor).toNat (fields.moved 4).cursor =
      sampleElements buffer expanded state.cursor := by
    rw [State.moved_cursor, place]
    rfl
  rw [version, split] at replaced
  have opened : Replaced none state (fields.moved 4) :=
    ⟨version, before.length,
      before.start.trans (State.marked_other (state.moved 4) .sampleStart .header nofun)⟩
  exact opened.within replaced ⟨rfl, rfl, rfl⟩

theorem readPacketDataV2v4_replaces (buffer : Buffer) (packetDataTag : UInt32) (state : SFSample) :
    (run buffer (readPacketDataV2v4 config packetDataTag) state).Finishing fun _ final _ =>
      Replaced (packetHeader buffer (wordOf state .datagramVersion) packetDataTag state.cursor)
        state final := by
  unfold readPacketDataV2v4 packetHeader
  by_cases header : packetDataTag = 1
  · rw [if_pos header, if_pos header]
    exact readFlowSampleHeader_replaces buffer state
  · rw [if_neg header, if_neg header]
    by_cases structV4 : packetDataTag = 2
    · rw [if_pos structV4, if_pos structV4]
      refine finishing_bind buffer _ _ _ _ ((setWord_finishing buffer .gotIPV4Struct 1 state).mono ?_)
      rintro _ _ _ ⟨rfl, -⟩
      refine (readFlowSampleIPv4_replaces "" buffer _).mono ?_
      rintro _ final _ ⟨version, length, start⟩
      exact ⟨version, length, start⟩
    · rw [if_neg structV4, if_neg structV4]
      by_cases structV6 : packetDataTag = 3
      · rw [if_pos structV6, if_pos structV6]
        refine finishing_bind buffer _ _ _ _
          ((setWord_finishing buffer .gotIPV6Struct 1 state).mono ?_)
        rintro _ _ _ ⟨rfl, -⟩
        refine (readFlowSampleIPv6_replaces "" buffer _).mono ?_
        rintro _ final _ ⟨version, length, start⟩
        exact ⟨version, length, start⟩
      · rw [if_neg structV6, if_neg structV6]
        exact replaced_none buffer _ inferInstance state

theorem readFlowSampleFieldsV2v4_moves : Moves (readFlowSampleFieldsV2v4 config) 28 := by
  unfold readFlowSampleFieldsV2v4
  exact Moves.congr inferInstance rfl

instance (extendedTag : UInt32) : Uses HeaderKeptOp (readExtendedV2v4 config extendedTag) := by
  unfold readExtendedV2v4; infer_instance

instance (remaining : Nat) : Uses HeaderKeptOp (readAllExtendedV2v4 config remaining) := by
  induction remaining with
  | zero => exact .pure ()
  | succ remaining ih =>
      unfold readAllExtendedV2v4
      infer_instance

theorem decodeFlowSampleV2v4_replaces (buffer : Buffer) (state : SFSample) :
    (run buffer (decodeFlowSampleV2v4 config) state).Finishing fun _ final _ =>
      Replaced (sampledHeader buffer state .v2v4) state final := by
  unfold decodeFlowSampleV2v4
  refine finishing_bind buffer _ _ _ _ ((sfLog_finishing buffer _ _ state).mono ?_)
  rintro _ state _ ⟨rfl, -⟩
  have size := (@readFlowSampleFieldsV2v4_moves config).moves buffer state
  have kept := replaced_none buffer (readFlowSampleFieldsV2v4 config) inferInstance state
  refine finishing_bind buffer _ _ _ _ ((size.finishing.and kept).mono ?_)
  rintro _ fields _ ⟨moved, before⟩
  refine finishing_bind buffer _ _ _ _ ((getData32_finishing buffer _).mono ?_)
  rintro packetDataTag _ _ ⟨rfl, rfl, -, -⟩
  refine finishing_bind buffer _ _ _ _ ((setWord_finishing buffer _ _ _).mono ?_)
  rintro _ _ _ ⟨rfl, -⟩
  refine finishing_bind buffer _ _ _ _ ((readPacketDataV2v4_replaces buffer _ _).mono ?_)
  rintro _ packet _ replaced
  refine finishing_bind buffer _ _ _ _ ((getData32_finishing buffer _).mono ?_)
  rintro numExtended _ _ ⟨-, rfl, -, -⟩
  refine finishing_bind buffer _ _ _ _ ((setWord_finishing buffer _ _ _).mono ?_)
  rintro _ _ _ ⟨rfl, -⟩
  refine (replaced_none buffer (readAllExtendedV2v4 config numExtended.toNat) inferInstance _).mono ?_
  rintro _ final _ after
  have place : fields.cursor = state.cursor + 28 := moved
  have header : packetHeader buffer (wordOf (holding (fields.moved 4) .packetDataTag
        (wordFrom buffer fields.cursor)) .datagramVersion) (wordFrom buffer fields.cursor)
        (holding (fields.moved 4) .packetDataTag (wordFrom buffer fields.cursor)).cursor =
      sampledHeader buffer state .v2v4 := by
    rw [show wordOf (holding (fields.moved 4) .packetDataTag (wordFrom buffer fields.cursor))
      .datagramVersion = wordOf state .datagramVersion from before.version, place,
      show (holding (fields.moved 4) .packetDataTag (wordFrom buffer (state.cursor + 28))).cursor =
        state.cursor + 32 from congrArg (· + 4) place]
    rfl
  rw [header] at replaced
  have opened : Replaced none state
      (holding (fields.moved 4) .packetDataTag (wordFrom buffer fields.cursor)) :=
    ⟨before.version, before.length, before.start⟩
  have closed : Replaced none packet final := ⟨after.version, after.length, after.start⟩
  exact opened.within replaced closed

theorem decode_replaces (kind : FlowSampleKind) (buffer : Buffer)
    (small : buffer.length < 2 ^ 32 - 3) (state : SFSample) :
    (run buffer (kind.decode config) state).Finishing fun _ final _ =>
      Replaced (sampledHeader buffer state kind) state final := by
  cases kind with
  | v5 expanded => exact decodeFlowSample_replaces buffer small expanded state
  | v2v4 => exact decodeFlowSampleV2v4_replaces buffer state

end Samples

section Records

/-- The record an event writes to a tcpdump file. -/
def Event.writtenPacket : Event → Option PcapPacket
  | .pcapPacket packet => some packet
  | _ => none

def Event.isPcap (event : Event) : Bool := event.writtenPacket.isSome

def writtenPackets {α : Type} (decoded : Run collector α) : List PcapPacket :=
  (eventsOf decoded).filterMap Event.writtenPacket

theorem uncaptured_of_flow {α : Type} (program : Decode α) (uses : Uses (FlowOp config) program) :
    Uses (Unshown Event.isPcap) program := by
  refine uses.mono ?_
  intro op allow
  cases op with
  | emit event =>
      have silent : event.silent = true := by
        rcases allow with plain | ⟨_, other⟩ | ⟨_, other⟩
        · exact plain.1.2
        · cases other
        · cases other
      cases event <;> first | rfl | cases silent
  | _ => trivial

instance (name : Mark) : Uses (Unshown Event.isPcap) (@Decoder.mark collector name) :=
  uses_single _ trivial
instance (mark : Note) : Uses (Unshown Event.isPcap) (@Decoder.note collector mark) :=
  uses_single _ trivial

instance : Uses (Unshown Event.isPcap) getData32 :=
  @uncaptured_of_flow (defaultConfig .pcap) _ _ inferInstance
instance (description : String) (origin : Mark) (len : UInt32) :
    Uses (Unshown Event.isPcap) (lengthCheck description origin len) :=
  @uncaptured_of_flow (defaultConfig .pcap) _ _ inferInstance
instance (fmt : String) (args : List Arg) : Uses (Unshown Event.isPcap) (sfLog config fmt args) :=
  @uncaptured_of_flow config _ _ inferInstance
instance (tag length : UInt32) :
    Uses (Unshown Event.isPcap) (readFlowElementBody config tag length) :=
  @uncaptured_of_flow config _ _ inferInstance
instance (expanded : Bool) :
    Uses (Unshown Event.isPcap) (readFlowSampleFields config expanded) :=
  @uncaptured_of_flow config _ _ inferInstance

instance (remaining : Nat) : Uses (Unshown Event.isPcap) (readFlowElements config remaining) := by
  have element : Uses (Unshown Event.isPcap) (readFlowElement config) := by
    unfold readFlowElement
    infer_instance
  induction remaining with
  | zero => exact .pure ()
  | succ remaining ih =>
      unfold readFlowElements
      infer_instance

theorem decode_uncaptured (kind : FlowSampleKind) :
    Uses (Unshown Event.isPcap) (kind.decode config) := by
  cases kind with
  | v5 expanded =>
      unfold FlowSampleKind.decode decodeFlowSample
      infer_instance
  | v2v4 =>
      refine @uncaptured_of_flow config _ _ ?_
      unfold FlowSampleKind.decode decodeFlowSampleV2v4
      infer_instance

theorem filtered_emission (buffer : Buffer) (sample : SFSample) (body : Decode Unit)
    (passes : passesFilter config sample) : eventsOf (run buffer (do
        let accepted ← sampleFilterOK config
        when (accepted = true) body) sample) = eventsOf (run buffer body sample) := by
  obtain ⟨notes, filtered⟩ := @run_sampleFilterOK config buffer sample
  rw [Decoder.bind_eq, run_bind, filtered]
  simp [Run.bind, Run.after, eventsOf, passes, when_pos]

theorem eventsOf_behind {α β : Type} {buffer : Buffer} {program : Decode α}
    {next : α → Decode β} {sample decoded : SFSample} {value : α}
    (yields : (run buffer program sample).Yields value decoded) :
    eventsOf (run buffer (program >>= next) sample) =
      eventsOf (run buffer program sample) ++ eventsOf (run buffer (next value) decoded) := by
  rw [run_seq]
  obtain ⟨returned, reached⟩ := yields
  generalize run buffer program sample = first at returned reached ⊢
  obtain ⟨outcome, state, trace, notes⟩ := first
  cases returned
  cases reached
  simp [Run.bind, Run.after, eventsOf]

/-- Up to its export a sample writes no record. -/
theorem decode_writes_none (kind : FlowSampleKind) (buffer : Buffer) (sample : SFSample) :
    writtenPackets (run buffer (kind.decode config) sample) = [] := by
  have silent := unshown_silent buffer _ (@decode_uncaptured config kind) sample
  refine List.filterMap_eq_nil_iff.mpr ?_
  intro event member
  obtain ⟨sent, emitted, rfl⟩ := List.mem_map.mp member
  cases written : sent.event.writtenPacket with
  | none => rfl
  | some packet =>
      refine absurd ⟨sent, emitted, ?_⟩ silent
      rw [Event.isPcap, written]
      rfl

/-- In pcap mode a sample that passes the filter is exported as its record. -/
theorem pcap_emission (kind : FlowSampleKind) (pcap : config.outputFormat = .pcap)
    (buffer : Buffer) (sample : SFSample) (passes : passesFilter config sample) :
    eventsOf (run buffer (kind.emit config) sample) =
      [.pcapPacket (pcapPacketOf config buffer sample)] := by
  have written : eventsOf (run buffer (writePcapPacket config) sample) =
      [.pcapPacket (pcapPacketOf config buffer sample)] := by
    rw [run_writePcapPacket]
    rfl
  cases kind with
  | v5 expanded =>
      unfold FlowSampleKind.emit emitFlowSample
      rw [pcap]
      exact (filtered_emission buffer sample _ passes).trans written
  | v2v4 =>
      unfold FlowSampleKind.emit emitFlowSampleV2v4
      rw [pcap]
      exact (filtered_emission buffer sample _ passes).trans written

end Records

section WellFormed

/-- The buffer a record is put together in, and the size of its header. -/
def stagingSize : Nat := 2048
def pcapHeaderSize : Nat := 16

/-- The record fits its buffer, says how many bytes were captured, and captured the
beginning of the sampled header. -/
structure PcapPacket.WellFormed (packet : PcapPacket) (header : List UInt8) : Prop where
  fits : pcapHeaderSize + packet.pad.toNat + packet.captured.length ≤ stagingSize
  counted : packet.caplen.toNat = packet.captured.length
  within : packet.caplen.toNat ≤ header.length
  captured : packet.captured <+: header

/-- The bytes of the header a sample carries, if it does. -/
def sampledOctets (buffer : Buffer) (header : Option CarriedHeader) : List UInt8 :=
  (header.map (·.octets buffer)).getD []

/-- What the capture relies on and nothing checks: the room in the buffer, a payload offset
inside the header, and a header in the sample at all. -/
structure Capturable (config : SFConfig) (header : Option CarriedHeader) (sample : SFSample) :
    Prop where
  room : pcapHeaderSize + config.tcpdumpHdrPad.toNat + (captureLength config sample).toNat ≤
    stagingSize
  offset : config.removeContent = true →
    wordOf sample .offsetToPayload ≤ wordOf sample .headerLen
  own : header = none → captureLength config sample = 0

theorem captureLength_le (sample : SFSample) :
    captureLength config sample ≤ wordOf sample .headerLen ↔
      (config.removeContent = true → wordOf sample .offsetToPayload ≤ wordOf sample .headerLen) := by
  unfold captureLength
  by_cases shortened : config.removeContent = true ∧ wordOf sample .offsetToPayload ≠ 0
  · rw [if_pos shortened]
    constructor
    · intro within _
      exact within
    · intro within
      exact within shortened.1
  · rw [if_neg shortened]
    constructor
    · intro _ removed
      have absent : wordOf sample .offsetToPayload = 0 := by
        by_contra present
        exact shortened ⟨removed, present⟩
      rw [absent]
      exact UInt32.zero_le
    · intro _
      exact UInt32.le_refl _

theorem captured_prefix (buffer : Buffer) (start : Nat) {count length : Nat}
    (within : count ≤ length) : buffer.slice start count <+: buffer.slice start length := by
  obtain ⟨rest, rfl⟩ := Nat.exists_eq_add_of_le within
  rw [Buffer.slice_append]
  exact List.prefix_append _ _

/-- A record that is captured from the header of its own sample. -/
theorem wellFormed_iff_capturable (buffer : Buffer) (header : Option CarriedHeader)
    {sample decoded : SFSample} (replaced : Replaced header sample decoded) :
    (pcapPacketOf config buffer decoded).WellFormed (sampledOctets buffer header) ↔
      Capturable config header decoded := by
  have counted : (pcapPacketOf config buffer decoded).captured.length =
      (captureLength config decoded).toNat := Buffer.length_slice ..
  have within := @captureLength_le config decoded
  cases header with
  | none =>
      constructor
      · intro wellFormed
        have empty : captureLength config decoded = 0 :=
          UInt32.toNat_inj.mp (Nat.le_zero.mp wellFormed.within)
        refine ⟨?_, within.mp (by rw [empty]; exact UInt32.zero_le), fun _ => empty⟩
        rw [← counted]
        exact wellFormed.fits
      · intro capturable
        have empty := capturable.own rfl
        have nothing : (pcapPacketOf config buffer decoded).captured = [] :=
          List.eq_nil_of_length_eq_zero (counted.trans (congrArg UInt32.toNat empty))
        refine ⟨?_, counted.symm, ?_, ?_⟩
        · rw [counted]
          exact capturable.room
        · exact Nat.le_of_eq (congrArg UInt32.toNat empty)
        · rw [nothing]
          exact List.nil_prefix
  | some own =>
      have size : (sampledOctets buffer (some own)).length =
          (wordOf decoded .headerLen).toNat := by
        rw [replaced.length]
        exact Buffer.length_slice ..
      have taken : sampledOctets buffer (some own) =
          buffer.slice (decoded.marks .header) (wordOf decoded .headerLen).toNat := by
        rw [replaced.length, replaced.start]
        rfl
      constructor
      · intro wellFormed
        have inside := wellFormed.within
        rw [size] at inside
        refine ⟨?_, within.mp (UInt32.le_iff_toNat_le.mpr inside), nofun⟩
        rw [← counted]
        exact wellFormed.fits
      · intro capturable
        have inside := UInt32.le_iff_toNat_le.mp (within.mpr capturable.offset)
        refine ⟨?_, counted.symm, ?_, ?_⟩
        · rw [counted]
          exact capturable.room
        · rw [size]
          exact inside
        · rw [taken]
          exact captured_prefix buffer _ inside

/-- In pcap mode a flow sample that decodes and passes the filter writes one record, and
the record is well formed exactly where the capture can rely on its three lengths. -/
theorem pcap_record_wellFormed_iff (config : SFConfig) (kind : FlowSampleKind) (buffer : Buffer)
    (small : buffer.length < 2 ^ 32 - 3) (sample decoded : SFSample)
    (pcap : config.outputFormat = .pcap)
    (done : (run buffer (kind.decode config) sample).Yields () decoded)
    (passes : passesFilter config decoded) :
    writtenPackets (run buffer (kind.read config) sample) =
        [pcapPacketOf config buffer decoded] ∧
      ((pcapPacketOf config buffer decoded).WellFormed
          (sampledOctets buffer (sampledHeader buffer sample kind)) ↔
        Capturable config (sampledHeader buffer sample kind) decoded) := by
  have replaced := (@decode_replaces config kind buffer small sample).of_ok done.outcome
  rw [done.state] at replaced
  refine ⟨?_, wellFormed_iff_capturable buffer _ replaced⟩
  have before := @decode_writes_none config kind buffer sample
  rw [writtenPackets] at before
  rw [writtenPackets, read_split, eventsOf_behind done, List.filterMap_append, before,
    pcap_emission kind pcap buffer decoded passes]
  rfl

/-- The header of a TCP packet whose data offset says that its options reach to byte 94,
where the sampled header ends after 54. -/
def tcpSample : List UInt32 :=
  [112, 7, 1, 100, 5, 6, 3, 4, 1, 1, 72, 1, 64, 0, 54, 0x00010203, 0x04050006, 0x0708090a,
    0x08004500, 0x0028abcd, 0x00004006, 0x00000a00, 0x00010a00, 0x00020050, 0x00510000, 0,
    0x0000f010, 0, 0]

def captureConfig : SFConfig := { defaultConfig .pcap with removeContent := true }

def sampleV5 : SFSample := holding firstSample .datagramVersion 5

/-- The record of that sample captures 94 bytes of a header of 54. -/
theorem tcp_capture_overruns :
    (run (datagramOf tcpSample) (FlowSampleKind.decode captureConfig (.v5 false))
      sampleV5).outcome = .ok () ∧
    ∃ packet, writtenPackets (run (datagramOf tcpSample)
        (FlowSampleKind.read captureConfig (.v5 false)) sampleV5) = [packet] ∧
      ¬packet.WellFormed (sampledOctets (datagramOf tcpSample)
        (sampledHeader (datagramOf tcpSample) sampleV5 (.v5 false))) := by
  have written : (writtenPackets (run (datagramOf tcpSample)
      (FlowSampleKind.read captureConfig (.v5 false)) sampleV5)).map
        (fun packet => packet.caplen.toNat) = [94] := by decide +kernel
  have header : (sampledOctets (datagramOf tcpSample)
      (sampledHeader (datagramOf tcpSample) sampleV5 (.v5 false))).length = 54 := by
    decide +kernel
  obtain ⟨packet, sole, caplen⟩ := List.map_eq_singleton_iff.mp written
  refine ⟨(received_returned _).mp (by decide +kernel), packet, sole, ?_⟩
  intro wellFormed
  have inside := wellFormed.within
  rw [caplen, header] at inside
  exact absurd inside (by decide)

/-- A datagram behind whose sample type stands a packet over UDP. -/
theorem udp_capture_wellFormed :
    writtenPackets (run (datagramOf udpSample.tail) (FlowSampleKind.read captureConfig (.v5 false))
        sampleV5) = [pcapPacketOf captureConfig (datagramOf udpSample.tail)
          (run (datagramOf udpSample.tail) (FlowSampleKind.decode captureConfig (.v5 false))
            sampleV5).state] ∧
      ((pcapPacketOf captureConfig (datagramOf udpSample.tail) (run (datagramOf udpSample.tail)
          (FlowSampleKind.decode captureConfig (.v5 false)) sampleV5).state).WellFormed
          (sampledOctets (datagramOf udpSample.tail)
            (sampledHeader (datagramOf udpSample.tail) sampleV5 (.v5 false))) ↔
        Capturable captureConfig (sampledHeader (datagramOf udpSample.tail) sampleV5 (.v5 false))
          (run (datagramOf udpSample.tail) (FlowSampleKind.decode captureConfig (.v5 false))
            sampleV5).state) :=
  pcap_record_wellFormed_iff captureConfig (.v5 false) (datagramOf udpSample.tail) (by decide)
    sampleV5 _ rfl ⟨(received_returned _).mp (by decide +kernel), rfl⟩ (.inl rfl)

end WellFormed

end SflowTool
