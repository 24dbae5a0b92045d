import SflowTool.CounterReports
import SflowTool.EntryArrays
import SflowTool.Oblivious

/-! The reports of a DDoS record after different histories. The records that are read field by
field show what the wire says whatever came before. Those that are copied into a struct show the
whole struct, and with it what an earlier record of their kind left where they carry nothing. -/
namespace SflowTool
open Decoding Decoding.Decoder

section Wire

/-- The variables a record starts with whatever came before it: its announced length, the agent
of the datagram, and a static that is sent but that nothing assigns. -/
def Own : collector.Var → Prop
  | Var.word .currentContextLength | Var.address .agentAddr | Var.dword .dnsExclSrcDropped => True
  | _ => False

variable {config : SFConfig}

instance : Permits (Onward Own) where
  take _ _ := trivial
  skip _ := trivial
  errout _ := trivial
  note _ _ _ _ _ := trivial
  abort _ _ := trivial
instance : PermitsNames (Onward Own) where
  lookup _ _ := trivial
instance : PermitsLog config (Onward Own) where
  log _ _ := trivial
instance : PermitsPrint (Onward Own) where
  print _ := trivial
instance : PermitsOctets (Onward Own) where
  take _ := trivial
instance : PermitsIteration (Onward Own) where
  note := trivial

/-- The program shows nothing of what came before the record it reads. -/
abbrev Unmindful {α : Type} (program : Decode α) : Prop := @Oblivious collector α Own program

instance (fmt : String) (args : List Arg) : Unmindful (sfLog config fmt args) :=
  oblivious_of_uses _
instance (fmt : String) (args : List Arg) : Unmindful (printf fmt args) := oblivious_of_uses _
instance : Unmindful getData32 := oblivious_of_uses _
instance : Unmindful getData16 := oblivious_of_uses _
instance : Unmindful getDataU8 := oblivious_of_uses _
instance (fieldName : String) : Unmindful (sfLogNext16 config fieldName) := oblivious_of_uses _
instance (fieldName : String) : Unmindful (sfLogNext32 config fieldName) := oblivious_of_uses _
instance (fieldName : String) : Unmindful (sfLogNext64 config fieldName) := oblivious_of_uses _
instance (fieldName : String) (len : Nat) : Unmindful (sfLogNext8 config fieldName len) :=
  oblivious_of_uses _
instance (field : Field) : Unmindful (logField config field) := oblivious_of_uses _
instance (table : NameTable) (names : List String) (index : UInt32) :
    Unmindful (lookupName table names index) := by
  unfold lookupName
  exact oblivious_of_uses _
instance (fmt title : String) (table : NameTable) (names : List String) (index : UInt32) :
    Unmindful (logNamed config fmt title table names index) := by
  unfold logNamed
  infer_instance
instance (ipType : UInt32) : Unmindful (getDDoSAddress ipType) := by
  unfold getDDoSAddress
  exact oblivious_of_uses _
instance (appType : UInt32) : Unmindful (printAppType appType) := by
  unfold printAppType
  infer_instance
instance (index : Nat) : Unmindful (@Decoder.note collector (.statStore index)) :=
  oblivious_of_uses _
instance (index : Nat) : Unmindful (@Decoder.note collector (.appStatStore index)) :=
  oblivious_of_uses _
instance : Unmindful (@Decoder.note collector .iteration) := oblivious_of_uses _

/-! Counted once for each way it is handed on, as before. -/
set_option synthInstance.maxSize 1000000000000

instance (member : DdosMember) (field : String) (value : UInt64) :
    Unmindful (setCounter member field value) :=
  @oblivious_modify collector Own (.counters member)
    (fun counters => Function.update counters field value) id
instance (member : DdosMember) (change : DdosCommon → DdosCommon) :
    Unmindful (modifyCommon member change) :=
  @oblivious_modify collector Own (.common member) change id
instance (description : String) : Unmindful (sflDdosDescription description) :=
  @oblivious_modify collector Own (.text .sflDdosDesc)
    (fun old => asciiText description ++ old.drop (asciiText description).length) id

instance (member : DdosMember) (field : String × Field) :
    Unmindful (storeField config member field) := by
  unfold storeField
  split <;> infer_instance
instance (member : DdosMember) (fields : List (String × Field)) :
    Unmindful (storeFields config member fields) := by
  unfold storeFields
  infer_instance
instance (member : DdosMember) : Unmindful (readCountersDdosIpCounterCommon config member) := by
  unfold readCountersDdosIpCounterCommon
  infer_instance
instance (member : DdosMember) (title : String) :
    Unmindful (readCountersIpCounterPort config member title) := by
  unfold readCountersIpCounterPort
  infer_instance
instance (member : DdosMember) : Unmindful (readCountersDdosIpCounterResStat config member) := by
  unfold readCountersDdosIpCounterResStat
  infer_instance
instance (index : Nat) : Unmindful (readCountersDdosProtocol config index) := by
  unfold readCountersDdosProtocol
  infer_instance
instance (index : Nat) : Unmindful (readCountersDdosApp config index) := by
  unfold readCountersDdosApp
  infer_instance
instance (readElement : Nat → Decode Unit) (remaining index : Nat)
    [each : ∀ index, Unmindful (readElement index)] :
    Unmindful (readEntryArray readElement remaining index) := by
  induction remaining generalizing index with
  | zero => exact oblivious_pure ()
  | succ remaining ih =>
      unfold readEntryArray
      infer_instance
instance : Unmindful (readCountersDdosIpCounterHeader config) := by
  unfold readCountersDdosIpCounterHeader
  infer_instance

instance : Unmindful (readCountersDdosIpCounter config) := by
  unfold readCountersDdosIpCounter
  infer_instance
instance : Unmindful (readCountersDdosPortIpCounter config) := by
  unfold readCountersDdosPortIpCounter
  infer_instance
instance : Unmindful (readCountersDdosPollingEntryMap config) := by
  unfold readCountersDdosPollingEntryMap
  infer_instance
instance : Unmindful (readCountersDdosPollingTcpStateful config) := by
  unfold readCountersDdosPollingTcpStateful sfLogString
  infer_instance
instance : Unmindful (readCountersDdosPollingHttp config) := by
  unfold readCountersDdosPollingHttp
  infer_instance
instance (description : String) (decoder : Decode Unit) [Unmindful decoder] :
    Unmindful (described description decoder) := by
  unfold described
  infer_instance
instance (len : UInt32) : Unmindful (sflDdosUpdateCtxLen config len) := by
  have read : Uses (Onward Own) (getWord .currentContextLength) := uses_single _ trivial
  have stored (value : UInt32) : Uses (Onward Own) (setWord .currentContextLength value) :=
    uses_single _ trivial
  unfold sflDdosUpdateCtxLen
  exact oblivious_of_uses _

/-- The DDoS records that are read field by field. -/
def fieldwiseTags : List UInt32 := [2, 8, 60, 67, 68, 80, 81, 82, 83, 84].map enterpriseA10

theorem fieldwise_unmindful (tag length : UInt32) (fieldwise : tag ∈ fieldwiseTags) :
    Unmindful (readCounterElementBody config tag length) := by
  revert tag
  unfold fieldwiseTags
  simp only [List.map_cons, List.map_nil, List.forall_mem_cons, List.not_mem_nil, false_imp_iff,
    implies_true, and_true]
  refine ⟨?_, ?_, ?_, ?_, ?_, ?_, ?_, ?_, ?_, ?_⟩
  · exact (inferInstance : Unmindful (described "Sflow DDoS Entry Ctrs" (readCountersDdosIpCounter config)))
  · exact (inferInstance : Unmindful (described "Sflow DDoS Entry Port Ctrs"
      (readCountersDdosPortIpCounter config)))
  · exact (inferInstance : Unmindful (described "Sflow DDoS Entry Map Ctrs"
      (readCountersDdosPollingEntryMap config)))
  · exact (inferInstance : Unmindful (described "Sflow DDoS Polling TCP stateful Ctrs"
      (readCountersDdosPollingTcpStateful config)))
  · exact (inferInstance : Unmindful (described "Sflow DDoS Polling HTTP Ctrs"
      (readCountersDdosPollingHttp config)))
  · exact (inferInstance : Unmindful (storeFields config .ddosDstIndicators dstIndicators))
  · exact (inferInstance : Unmindful
      (storeFields config .ddosDstTcpIndicators (tcpIndicators "" "")))
  · exact (inferInstance : Unmindful (storeFields config .ddosDstUdpIndicators dstUdpIndicators))
  · exact (inferInstance : Unmindful
      (storeFields config .ddosDstIcmpIndicators (icmpIndicators "" "")))
  · exact (inferInstance : Unmindful
      (storeFields config .ddosDstOtherIndicators (otherIndicators "" "")))

end Wire

section Preludes

variable {config : SFConfig} {buffer : Buffer} {sample : SFSample} {member : DdosMember}

/-- The number in two bytes, and the address of an entry, in the datagram. -/
def halfFrom (buffer : Buffer) (start : Nat) : UInt32 := UInt32.ofNat (beNat (buffer.slice start 2))

def addressFrom (buffer : Buffer) (ipType : UInt32) (start : Nat) : Address :=
  if ipType &&& 0xff = 1 then Address.ipV4 (buffer.slice start 4)
  else Address.ipV6 (buffer.slice start 16)

/-- The common header of an entry as it stands in the datagram. -/
def commonFrom (config : SFConfig) (buffer : Buffer) (start : Nat) : DdosCommon where
  tableType := wordFrom buffer start
  ipType := wordFrom buffer (start + 4)
  staticEntry := wordFrom buffer (start + 8)
  ip := copiedOctets config (wordFrom buffer (start + 4))
    (addressFrom buffer (wordFrom buffer (start + 4)) (start + 12))
  dstIp := copiedOctets config (wordFrom buffer (start + 4))
    (addressFrom buffer (wordFrom buffer (start + 4)) (start + 28))
  subnetMask := halfFrom buffer (start + 44)
  age := halfFrom buffer (start + 46)

/-- The sample inside a header: so many bytes of it are read, and this is stored of it. -/
def insideHeader (sample : SFSample) (member : DdosMember) (common : DdosCommon) (count : Nat) :
    SFSample :=
  State.moved (@State.assigned collector sample (.common member) common) count

theorem insideHeader_start (sample : SFSample) (member : DdosMember) :
    insideHeader sample member (commonOf sample member) 0 = sample :=
  @State.assigned_self collector sample (.common member)

theorem yields_getData32 (room : sample.cursor + 4 ≤ buffer.length) :
    (run buffer getData32 sample).Yields (wordFrom buffer sample.cursor) (State.moved sample 4) :=
  ⟨congrArg Run.outcome (run_getData32 room), congrArg Run.state (run_getData32 room)⟩

theorem yields_modifyCommon (common : DdosCommon) (count : Nat)
    (change : DdosCommon → DdosCommon) :
    (run buffer (modifyCommon member change) (insideHeader sample member common count)).Yields ()
      (insideHeader sample member (change common) count) := by
  have read : commonOf (insideHeader sample member common count) member = common :=
    @State.assigned_store collector sample (.common member) common
  have twice := @State.assigned_twice collector sample (.common member) common (change common)
  refine ⟨rfl, ?_⟩
  show State.assigned (insideHeader sample member common count) (Var.common member)
    (change (commonOf (insideHeader sample member common count) member)) = _
  rw [read]
  exact congrArg (fun state => State.moved state count) twice

theorem yields_logNamed (fmt title : String) (table : NameTable) (names : List String)
    (index : UInt32) :
    (run buffer (logNamed config fmt title table names index) sample).Yields () sample :=
  yields_bind buffer _ _ (yields_bind buffer _ _ (yields_note buffer _ _) (yields_pure buffer _ _))
    (yields_sfLog buffer _ _ _)

theorem yields_getDDoSAddress (ipType : UInt32) (room : sample.cursor + 16 ≤ buffer.length) :
    (run buffer (getDDoSAddress ipType) sample).Yields (addressFrom buffer ipType sample.cursor)
      (State.moved sample 16) := by
  unfold getDDoSAddress addressFrom
  by_cases four : ipType &&& 0xff = 1
  · rw [if_pos four, if_pos four]
    have skipped := yields_skip buffer 12 (State.moved sample 4)
      (show 12 ≤ buffer.length by omega) (show sample.cursor + 4 + 12 ≤ buffer.length by omega)
    exact yields_bind buffer _ _ (yields_take buffer 4 sample (by omega))
      (yields_bind buffer _ _ skipped (yields_pure buffer _ _))
  · rw [if_neg four, if_neg four]
    have skipped := yields_skip buffer 16 sample (show 16 ≤ buffer.length by omega) room
    exact yields_bind buffer _ _ skipped (yields_pure buffer _ _)

/-- A whole header overwrites all of what is stored of it. -/
theorem yields_common (room : sample.cursor + 48 ≤ buffer.length) :
    (run buffer (readCountersDdosIpCounterCommon config member) sample).Yields ()
      (insideHeader sample member (commonFrom config buffer sample.cursor) 48) := by
  have word (common : DdosCommon) (count : Nat) (inside : count + 4 ≤ 48) :
      (run buffer getData32 (insideHeader sample member common count)).Yields
        (wordFrom buffer (sample.cursor + count))
        (insideHeader sample member common (count + 4)) :=
    yields_getData32 (show sample.cursor + count + 4 ≤ buffer.length by omega)
  have logged (common : DdosCommon) (count : Nat) (inside : count + 4 ≤ 48) (fieldName : String) :
      (run buffer (sfLogNext32 config fieldName) (insideHeader sample member common count)).Yields
        (wordFrom buffer (sample.cursor + count))
        (insideHeader sample member common (count + 4)) :=
    yields_sfLogNext32 fieldName (show sample.cursor + count + 4 ≤ buffer.length by omega)
  have half (common : DdosCommon) (count : Nat) (inside : count + 2 ≤ 48) (fieldName : String) :
      (run buffer (sfLogNext16 config fieldName) (insideHeader sample member common count)).Yields
        (halfFrom buffer (sample.cursor + count))
        (insideHeader sample member common (count + 2)) :=
    yields_sfLogNext16 fieldName (show sample.cursor + count + 2 ≤ buffer.length by omega)
  have address (common : DdosCommon) (count : Nat) (inside : count + 16 ≤ 48) (ipType : UInt32) :
      (run buffer (getDDoSAddress ipType) (insideHeader sample member common count)).Yields
        (addressFrom buffer ipType (sample.cursor + count))
        (insideHeader sample member common (count + 16)) :=
    yields_getDDoSAddress ipType (show sample.cursor + count + 16 ≤ buffer.length by omega)
  have start := insideHeader_start sample member
  generalize commonOf sample member = common at start
  nth_rewrite 1 [← start]
  unfold readCountersDdosIpCounterCommon
  refine yields_bind buffer _ _ (word _ 0 (by decide)) ?_
  refine yields_bind buffer _ _ (yields_logNamed _ _ _ _ _) ?_
  refine yields_bind buffer _ _ (yields_modifyCommon _ 4 _) ?_
  refine yields_bind buffer _ _ (word _ 4 (by decide)) ?_
  refine yields_bind buffer _ _ (yields_logNamed _ _ _ _ _) ?_
  refine yields_bind buffer _ _ (yields_modifyCommon _ 8 _) ?_
  refine yields_bind buffer _ _ (logged _ 8 (by decide) _) ?_
  refine yields_bind buffer _ _ (yields_modifyCommon _ 12 _) ?_
  refine yields_bind buffer _ _ (address _ 12 (by decide) _) ?_
  refine yields_bind buffer _ _ (yields_modifyCommon _ 28 _) ?_
  refine yields_bind buffer _ _ (yields_sfLog buffer _ _ _) ?_
  refine yields_bind buffer _ _ (address _ 28 (by decide) _) ?_
  refine yields_bind buffer _ _ (yields_modifyCommon _ 44 _) ?_
  refine yields_bind buffer _ _
    (yields_when buffer _ _ _ (fun _ => yields_sfLog buffer _ _ _) fun _ => rfl) ?_
  refine yields_bind buffer _ _ (half _ 44 (by decide) _) ?_
  refine yields_bind buffer _ _ (yields_modifyCommon _ 46 _) ?_
  refine yields_bind buffer _ _ (half _ 46 (by decide) _) ?_
  exact yields_modifyCommon _ 48 _

theorem yields_printAppType (appType : UInt32) :
    (run buffer (printAppType appType) sample).Yields () sample :=
  yields_when buffer _ _ _ (fun _ => yields_bind buffer _ _
    (yields_bind buffer _ _ (yields_note buffer _ _) (yields_pure buffer _ _))
    (yields_emit buffer _ _)) fun _ => rfl

/-- The counters of an entry behind its port. -/
def portCounters (buffer : Buffer) (start : Nat) (counters : String → UInt64) : String → UInt64 :=
  Function.update (Function.update counters "port" (halfFrom buffer start).toUInt64) "app_type"
    (halfFrom buffer (start + 2)).toUInt64

theorem portCounters_port (buffer : Buffer) (start : Nat) (counters : String → UInt64) :
    portCounters buffer start counters "port" = (halfFrom buffer start).toUInt64 := by
  rw [portCounters, Function.update_of_ne (by decide), Function.update_self]

theorem portCounters_appType (buffer : Buffer) (start : Nat) (counters : String → UInt64) :
    portCounters buffer start counters "app_type" = (halfFrom buffer (start + 2)).toUInt64 :=
  Function.update_self ..

theorem portCounters_other (buffer : Buffer) (start : Nat) (counters : String → UInt64)
    (field : String) (notPort : field ≠ "port") (notType : field ≠ "app_type") :
    portCounters buffer start counters field = counters field := by
  rw [portCounters, Function.update_of_ne notType, Function.update_of_ne notPort]

theorem yields_port (title : String) (room : sample.cursor + 4 ≤ buffer.length) :
    (run buffer (readCountersIpCounterPort config member title) sample).Yields ()
      (State.moved (holdingCounters sample member
        (portCounters buffer sample.cursor (countersOf sample member))) 4) := by
  -- both counters are stored in one struct, the second behind two more bytes
  let first := Function.update (countersOf sample member) "port"
    (halfFrom buffer sample.cursor).toUInt64
  let between := State.moved (holdingCounters (State.moved sample 2) member first) 2
  have stored : holdingCounters between member (Function.update (countersOf between member)
      "app_type" (halfFrom buffer (sample.cursor + 2)).toUInt64) =
      State.moved (holdingCounters sample member
        (portCounters buffer sample.cursor (countersOf sample member))) 4 := by
    have read : countersOf between member = first := countersOf_holding ..
    rw [read]
    exact holdingCounters_twice (State.moved sample 4) member first _
  unfold readCountersIpCounterPort
  refine yields_bind buffer _ _ (yields_sfLogNext16 title (by omega)) ?_
  refine yields_bind buffer _ _ (yields_setCounter member "port" _) ?_
  refine yields_bind buffer _ _ (yields_bind buffer _ _ (yields_take buffer 2 _
    (show sample.cursor + 2 + 2 ≤ buffer.length by omega)) (yields_pure buffer _ _)) ?_
  refine yields_bind buffer _ _ (yields_setCounter member "app_type" _) ?_
  rw [← stored]
  exact yields_printAppType _

/-- What a record of an entry starts with: the header of the entry, and the port of some. -/
inductive Prelude where
  | bare
  | entry
  | port (title : String)

def Prelude.size : Prelude → UInt32
  | .bare => 0
  | .entry => commonSize
  | .port _ => commonSize + 4

/-- What comes before the counters of a record. -/
def Prelude.program (config : SFConfig) (member : DdosMember) (description : String) :
    Prelude → Decode Unit
  | .bare => sflDdosDescription description
  | .entry => do
      sflDdosDescription description
      readCountersDdosIpCounterCommon config member
      sflDdosUpdateCtxLen config commonSize
  | .port title => do
      sflDdosDescription description
      readCountersDdosIpCounterCommon config member
      readCountersIpCounterPort config member title
      sflDdosUpdateCtxLen config (commonSize + 4)

instance (description : String) (prelude : Prelude) :
    Unmindful (prelude.program config member description) := by
  cases prelude <;> (unfold Prelude.program; infer_instance)

/-- The announced length goes on behind the prelude, and what is left of it is an `int`. -/
def Prelude.Leaves (length : UInt32) : Prelude → Prop
  | .bare => True
  | prelude => prelude.size < length ∧ length - prelude.size < 0x80000000

/-- The variables a prelude sets. -/
def Prelude.sets (member : DdosMember) (var : Var) : Prop :=
  var = .common member ∨ var = .counters member ∨ var = .word .currentContextLength ∨
    var = .text .sflDdosDesc

/-- The sample behind a prelude: what was read of it, and nothing else is changed. -/
structure Prelude.Read (config : SFConfig) (buffer : Buffer) (member : DdosMember)
    (prelude : Prelude) (sample final : SFSample) : Prop where
  cursor : final.cursor = sample.cursor + prelude.size.toNat
  context : wordOf final .currentContextLength =
    wordOf sample .currentContextLength - prelude.size
  common : prelude ≠ .bare → commonOf final member = commonFrom config buffer sample.cursor
  port : ∀ title, prelude = .port title →
    countersOf final member "port" = (halfFrom buffer (sample.cursor + 48)).toUInt64 ∧
      countersOf final member "app_type" = (halfFrom buffer (sample.cursor + 50)).toUInt64
  counters : ∀ field, field ≠ "port" → field ≠ "app_type" →
    countersOf final member field = countersOf sample member field
  other : ∀ var : Var, ¬Prelude.sets member var → final.store var = sample.store var

theorem yields_description (description : String) :
    (run buffer (sflDdosDescription description) sample).Yields () (holdingText sample .sflDdosDesc
      (asciiText description ++
        (textOf sample .sflDdosDesc).drop (asciiText description).length)) := ⟨rfl, rfl⟩

theorem yields_updateCtxLen (len : UInt32) (more : len < wordOf sample .currentContextLength)
    (signed : wordOf sample .currentContextLength - len < 0x80000000) :
    (run buffer (sflDdosUpdateCtxLen config len) sample).Yields ()
      (holding sample .currentContextLength (wordOf sample .currentContextLength - len)) := by
  have some : wordOf sample .currentContextLength - len ≠ 0 := by
    intro none
    have left := UInt32.toNat_sub_of_le _ _ (UInt32.le_of_lt more)
    rw [none] at left
    have less := UInt32.lt_iff_toNat_lt.mp more
    simp only [UInt32.reduceToNat] at left
    omega
  have read (rest : UInt32 → Decode Unit) : run buffer (do
        let contextLength ← getWord .currentContextLength
        rest contextLength) sample = run buffer (rest (wordOf sample .currentContextLength)) sample :=
    rfl
  unfold sflDdosUpdateCtxLen
  rw [read, if_neg (UInt32.not_lt.mpr (UInt32.le_of_lt more)), if_pos ⟨some, signed⟩]
  exact ⟨rfl, rfl⟩

theorem unset_by {var : Var} (kept : ¬Prelude.sets member var) : var ≠ .common member ∧
    var ≠ .counters member ∧ var ≠ .word .currentContextLength ∧ var ≠ .text .sflDdosDesc := by
  unfold Prelude.sets at kept
  simpa only [not_or] using kept

/-- A prelude that was received and leaves something of its record is read. -/
theorem prelude_reads (description : String) (prelude : Prelude)
    (room : prelude.size = 0 ∨ sample.cursor + prelude.size.toNat ≤ buffer.length)
    (leaves : prelude.Leaves (wordOf sample .currentContextLength)) :
    ∃ final, (run buffer (prelude.program config member description) sample).Yields () final ∧
      prelude.Read config buffer member sample final := by
  cases prelude with
  | bare =>
      refine ⟨_, yields_description description, ?_⟩
      refine ⟨rfl, (UInt32.sub_zero _).symm, fun bare => absurd rfl bare, nofun,
        fun _ _ _ => rfl, ?_⟩
      intro var kept
      refine Function.update_of_ne ?_ _ _
      rintro rfl
      exact kept (.inr (.inr (.inr rfl)))
  | entry =>
      have received : sample.cursor + 48 ≤ buffer.length := room.resolve_left (by decide)
      refine ⟨_, yields_bind buffer _ _ (yields_description description) (yields_bind buffer _ _
        (yields_common received) (yields_updateCtxLen commonSize leaves.1 leaves.2)), ?_⟩
      refine ⟨rfl, rfl, fun _ => ?_, nofun, fun _ _ _ => rfl, ?_⟩
      · exact @State.assigned_store collector _ (.common member) _
      · intro var kept
        obtain ⟨common, _, context, text⟩ := unset_by kept
        exact (Function.update_of_ne context _ _).trans ((Function.update_of_ne common _ _).trans
          (Function.update_of_ne text _ _))
  | port title =>
      have received : sample.cursor + 52 ≤ buffer.length :=
        room.resolve_left (show commonSize + 4 ≠ 0 by decide)
      refine ⟨_, yields_bind buffer _ _ (yields_description description) (yields_bind buffer _ _
        (yields_common (show sample.cursor + 48 ≤ buffer.length by omega)) (yields_bind buffer _ _
          (yields_port title (show sample.cursor + 48 + 4 ≤ buffer.length by omega))
          (yields_updateCtxLen (commonSize + 4) leaves.1 leaves.2))), ?_⟩
      refine ⟨rfl, rfl, fun _ => ?_, fun _ _ => ?_, fun field notPort notType => ?_, ?_⟩
      · exact @State.assigned_store collector _ (.common member) _
      · exact ⟨(congrFun (@State.assigned_store collector _ (.counters member) _) "port").trans
            (portCounters_port ..),
          (congrFun (@State.assigned_store collector _ (.counters member) _) "app_type").trans
            (portCounters_appType ..)⟩
      · exact (congrFun (@State.assigned_store collector _ (.counters member) _) field).trans
          (portCounters_other _ _ _ field notPort notType)
      · intro var kept
        obtain ⟨common, counters, context, text⟩ := unset_by kept
        exact (Function.update_of_ne context _ _).trans ((Function.update_of_ne counters _ _).trans
          ((Function.update_of_ne common _ _).trans (Function.update_of_ne text _ _)))

/-! Counted once for each way it is handed on, as before. -/
set_option synthInstance.maxSize 1000000000000

instance : Consumes (readCountersDdosIpCounterCommon config member) 48 := by
  have shown (tableType : UInt32) (address : Address) : Consumes (Decoder.when (tableType = 2)
      (sfLog config "Dst Address: %s\n" [.address address])) 0 := consumes_when _ _
  unfold readCountersDdosIpCounterCommon
  infer_instance
instance (appType : UInt32) : Consumes (printAppType appType) 0 := by
  have printed (name : Arg) : Consumes (printf "%-35s %s\n" [.name "App type:", name]) 0 :=
    @consumes_emit collector _
  unfold printAppType
  exact consumes_when _ _
instance (title : String) : Consumes (readCountersIpCounterPort config member title) 4 := by
  unfold readCountersIpCounterPort
  infer_instance

theorem updateCtxLen_returns (len : UInt32)
    (returned : (run buffer (sflDdosUpdateCtxLen config len) sample).outcome = .ok ())
    (positive : 0 < len) :
    len < wordOf sample .currentContextLength ∧
      wordOf sample .currentContextLength - len < 0x80000000 := by
  have read (rest : UInt32 → Decode Unit) : run buffer (do
        let contextLength ← getWord .currentContextLength
        rest contextLength) sample = run buffer (rest (wordOf sample .currentContextLength)) sample :=
    rfl
  unfold sflDdosUpdateCtxLen at returned
  rw [read] at returned
  split at returned
  · obtain ⟨_, middle, _, stopped⟩ := returned_bind buffer _ _ returned
    cases stopped
  · next announced =>
      simp only at returned
      split at returned
      · next valid =>
          refine ⟨UInt32.lt_of_le_of_ne (UInt32.not_lt.mp announced) ?_, valid.2⟩
          rintro rfl
          exact valid.1 (UInt32.sub_self _)
      · cases returned

theorem yields_reach {α : Type} {performed : Run collector α} {value value' : α}
    {final final' : SFSample} (one : performed.Yields value final)
    (two : performed.Yields value' final') : final' = final := two.state.symm.trans one.state

theorem room_of_returned {α : Type} {program : Decode α} {size : Nat} [consumes : Consumes program size]
    {value : α} {final : SFSample} (returned : (run buffer program sample).Yields value final) :
    Room buffer sample size := by
  by_contra full
  obtain ⟨reason, stopped⟩ := consumes.stops buffer sample full
  cases stopped.symm.trans returned.outcome

/-- Where the prelude returns, it was received and leaves something. -/
theorem prelude_returned (description : String) (prelude : Prelude)
    (returned : (run buffer (prelude.program config member description) sample).outcome = .ok ()) :
    (prelude.size = 0 ∨ sample.cursor + prelude.size.toNat ≤ buffer.length) ∧
      prelude.Leaves (wordOf sample .currentContextLength) := by
  cases prelude with
  | bare => exact ⟨.inl rfl, trivial⟩
  | entry =>
      obtain ⟨_, described, told, later⟩ := returned_bind buffer _ _ returned
      cases yields_reach (yields_description description) told
      obtain ⟨_, read, common, update⟩ := returned_bind buffer _ _ later
      have room := (room_of_returned common).resolve_left (by decide)
      cases yields_reach (yields_common room) common
      have announced := updateCtxLen_returns commonSize update (by decide)
      exact ⟨.inr room, announced⟩
  | port title =>
      obtain ⟨_, described, told, later⟩ := returned_bind buffer _ _ returned
      cases yields_reach (yields_description description) told
      obtain ⟨_, read, common, later⟩ := returned_bind buffer _ _ later
      have room := (room_of_returned common).resolve_left (by decide)
      cases yields_reach (yields_common room) common
      obtain ⟨_, behind, port, update⟩ := returned_bind buffer _ _ later
      have further := (room_of_returned port).resolve_left (by decide)
      cases yields_reach (yields_port title further) port
      have announced := updateCtxLen_returns (commonSize + 4) update (by decide)
      exact ⟨.inr further, announced⟩

end Preludes

end SflowTool
