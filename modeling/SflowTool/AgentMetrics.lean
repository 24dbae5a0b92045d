import SflowTool.Freshness
import SflowTool.Labelling
import SflowTool.Sessions
import SflowTool.SampleUses
import SflowTool.Wire

/-! The metrics of one agent among the datagrams of others. Every metric is tagged with the
address of the agent that sent the datagram, but the derived ones go through statics of the
process, which the datagrams of all agents share. -/
namespace SflowTool
open Decoding Decoding.Decoder

section Tags

/-- The argument of a metric's tags that names the agent. It comes last, but for an entry
with an IPv4 address, whose type follows; one with an IPv6 address begins with its bytes. -/
def Line.agentArg (tags : Line) : Option Arg :=
  match tags.args with
  | [agent] => some agent
  | .bytes _ :: _ => tags.args.getLast?
  | args => args.dropLast.getLast?

theorem agentArg_ipV4 (fmt : String) (ip mask : UInt32) (columns : List Arg) (agent last : Arg) :
    Line.agentArg ⟨fmt, .word ip :: .word mask :: (columns ++ [agent, last])⟩ =
      (.word ip :: .word mask :: (columns ++ [agent])).getLast? := by
  have trimmed : (Arg.word ip :: .word mask :: (columns ++ [agent, last])).dropLast =
      .word ip :: .word mask :: (columns ++ [agent]) := by
    rw [show Arg.word ip :: .word mask :: (columns ++ [agent, last]) =
      (.word ip :: .word mask :: (columns ++ [agent])) ++ [last] by simp, List.dropLast_concat]
  exact congrArg List.getLast? trimmed

theorem agentArg_ipV6 (fmt : String) (octets : List UInt8) (mask : UInt32) (rest : List Arg) :
    Line.agentArg ⟨fmt, .bytes octets :: .word mask :: rest⟩ =
      (.bytes octets :: .word mask :: rest).getLast? := rfl

/-- The metric is tagged with the agent. -/
def Metric.OfAgent (agent : UInt32) (metric : Metric) : Prop :=
  metric.tags.agentArg = some (.word agent)

instance (agent : UInt32) (metric : Metric) : Decidable (metric.OfAgent agent) :=
  inferInstanceAs (Decidable (_ = _))

/-- All metrics of the event are tagged with the agent. -/
def Event.TaggedBy (agent : UInt32) : Event → Prop
  | .opentsdb lines => ∀ line ∈ lines, line.OfAgent agent
  | _ => True

/-- A decode tags its metrics with the word of the agent's address. -/
abbrev agentTagging : Labelling collector where
  Label := UInt32
  of sample := agentWord (sample.store (.address .agentAddr))
  fits := Event.TaggedBy

/-- Operations that send no metric and leave the agent's address alone. -/
def UntaggedOp : Op collector → Prop
  | .set var _ => var ≠ .address .agentAddr
  | .emit event => ∀ agent, event.TaggedBy agent
  | _ => True

instance : Unlabelled agentTagging UntaggedOp where
  single op allow buffer state := by
    have kept : (perform buffer op state).state.store (.address .agentAddr) =
        state.store (.address .agentAddr) :=
      perform_store buffer op _ (fun value same => by subst same; exact allow rfl) state
    refine ⟨congrArg agentWord kept, ?_⟩
    cases op with
    | take count => simp only [perform]; split <;> exact List.forall_mem_nil _
    | skip count => simp only [perform]; split <;> exact List.forall_mem_nil _
    | emit event =>
        intro sent member
        rw [List.mem_singleton.mp member]
        exact allow _
    | _ => exact List.forall_mem_nil _

instance : Permits UntaggedOp where
  take _ _ := trivial
  skip _ := trivial
  errout _ _ := trivial
  note _ _ _ _ _ := trivial
  abort _ _ := trivial
instance : PermitsNames UntaggedOp where
  lookup _ _ := trivial
instance : PermitsFilter UntaggedOp where
  lookup _ := trivial
instance : PermitsContents UntaggedOp where
  get _ := trivial
  set _ other _ _ same := by
    subst same
    exact other rfl
  mark _ _ := trivial
  peek _ _ _ := trivial
  since _ := trivial
instance : PermitsUse UntaggedOp .sample where
  get _ _ := trivial
  set _ family _ same := by
    subst same
    cases family

variable {config : SFConfig}

instance : PermitsLog config UntaggedOp where
  log _ _ _ := trivial
instance : PermitsOctets UntaggedOp where
  take _ := trivial
instance : PermitsIteration UntaggedOp where
  note := trivial
instance : PermitsHeader UntaggedOp where
  note _ := trivial
  exit _ := trivial
instance : PermitsReport UntaggedOp where
  survey := trivial
  report _ _ _ _ _ := trivial
instance : PermitsPrint UntaggedOp where
  print _ _ := trivial
instance : PermitsJump UntaggedOp where
  jump _ := trivial
instance : PermitsFlexible UntaggedOp where
  peekText _ _ := trivial
  write _ _ _ _ := trivial
  writeObject _ _ _ _ _ := trivial
  read _ _ _ := trivial
instance : PermitsNetFlow UntaggedOp where
  tick _ := trivial
  netFlow _ _ := trivial
  netFlowSpoofed _ _ _ := trivial
instance : PermitsRecords config UntaggedOp where
  record event record other := by
    cases event with
    | opentsdb lines =>
        cases format : config.outputFormat with
        | full => exact absurd format other
        | _ => rw [format] at record; cases record
    | _ => exact fun _ => trivial

/-- A program that tags its metrics. -/
abbrev TagsMetrics {α : Type} (program : Decode α) : Prop := Labels agentTagging program

theorem sumMetrics_tags (tags : Line) (counters : String → UInt64)
    (rows : List (String × List String)) :
    ∀ line ∈ sumMetrics config tags counters rows, line.tags = tags := by
  intro line member
  obtain ⟨row, _, rfl⟩ := List.mem_map.mp member
  rfl

theorem metric_tags (name : String) (tags : Line) (value : UInt64) :
    ∀ line ∈ [metric config name tags value], line.tags = tags := by
  intro line member
  rw [List.mem_singleton.mp member]
  rfl

/-- Metrics with tags that name the agent. -/
theorem tagged_metrics {agent : UInt32} {tags : Line} (named : tags.agentArg = some (.word agent))
    (buffer : Buffer) (lines : List Metric) (sample : SFSample)
    (here : agentTagging.of sample = agent) (same : ∀ line ∈ lines, line.tags = tags) :
    (run buffer (@Decoder.emit collector (.opentsdb lines)) sample).Labelled agentTagging agent := by
  refine ⟨here, fun sent member => ?_⟩
  rw [List.mem_singleton.mp member]
  intro line listed
  unfold Metric.OfAgent
  rw [same line listed]
  exact named

/-- The tags of a device name the agent. -/
theorem tagged_device {agent : UInt32} (buffer : Buffer) (next : Line → Decode Unit)
    (sample : SFSample) (here : agentTagging.of sample = agent)
    (rest : ∀ tags : Line, tags.agentArg = some (.word agent) →
      (run buffer (next tags) sample).Labelled agentTagging agent) :
    (run buffer (agentTags >>= next) sample).Labelled agentTagging agent := by
  subst here
  exact rest ⟨"agent=%08x\n", [.word (agentTagging.of sample)]⟩ rfl

/-- The tags of an entry name the agent, wherever its columns put it. -/
theorem tagged_entry {agent : UInt32} (buffer : Buffer) (member : DdosMember)
    (columns columns6 : String) (args : List Arg) (next : Line → Decode Unit)
    (sample : SFSample) (here : agentTagging.of sample = agent)
    (rest : ∀ tags : Line, tags.agentArg = some (.word agent) →
      (run buffer (next tags) sample).Labelled agentTagging agent) :
    (run buffer (entryTags member columns columns6 args >>= next) sample).Labelled agentTagging
      agent := by
  subst here
  have read : run buffer (entryTags member columns columns6 args >>= next) sample = run buffer
      ((if (sample.store (.common member) : DdosCommon).ipType = 1 then
        (return ⟨"ip=%08x prefix=%d" ++ columns ++ " agent=%08x type=%x\n",
          [.word (UInt32.ofNat (beNat (sample.store (.common member) : DdosCommon).ip)),
            .word (sample.store (.common member) : DdosCommon).subnetMask] ++ args ++
            [.word (agentTagging.of sample),
              .word (sample.store (.common member) : DdosCommon).ipType]⟩ : Decode Line)
      else
        return ⟨"ip=%02x%02x%02x%02x%02x%02x%02x%02x%02x%02x%02x%02x%02x%02x%02x%02x prefix=%d" ++
            columns6 ++ " agent=%08x\n",
          [.bytes (sample.store (.common member) : DdosCommon).ip,
            .word (sample.store (.common member) : DdosCommon).subnetMask] ++ args ++
            [.word (agentTagging.of sample)]⟩) >>= next) sample := rfl
  rw [read]
  split
  · refine rest _ ?_
    rw [List.cons_append, List.cons_append, List.cons_append, List.cons_append,
      agentArg_ipV4, ← List.cons_append, ← List.cons_append]
    exact List.getLast?_concat
  · refine rest _ ?_
    rw [List.cons_append, List.cons_append, List.cons_append, List.cons_append,
      agentArg_ipV6, ← List.cons_append, ← List.cons_append]
    exact List.getLast?_concat

end Tags

/-! Counted once for each way it is handed on, as before. -/
set_option synthInstance.maxSize 1000000000000

section Decoders
variable {config : SFConfig}

/-- Tagged metrics, and then a program that sends what it sends with tags. -/
theorem tagged_metrics_before {agent : UInt32} {tags : Line}
    (named : tags.agentArg = some (.word agent)) (buffer : Buffer) (lines : List Metric)
    (same : ∀ line ∈ lines, line.tags = tags) (next : Decode Unit) (sample : SFSample)
    (here : agentTagging.of sample = agent) [rest : TagsMetrics next] :
    (run buffer (@Decoder.emit collector (.opentsdb lines) >>= fun _ => next) sample).Labelled
      agentTagging agent := by
  rw [run_seq]
  refine (tagged_metrics named buffer lines sample here same).bind fun _ kept => ?_
  rw [← kept]
  exact rest.labels buffer _

instance (member : DdosMember) (fields : List String) (labels : List (String × String))
    (rows : List (String × List String)) :
    TagsMetrics (readExportedU64 config member fields labels rows) where
  labels buffer sample := by
    refine tagged_device buffer _ sample rfl fun tags named => ?_
    refine labelled_after buffer _ _ sample inferInstance rfl fun _ middle here => ?_
    refine labelled_after buffer _ _ middle inferInstance here fun counters middle here => ?_
    exact tagged_metrics_before named buffer _ (sumMetrics_tags _ _ _) _ middle here

instance : TagsMetrics (readCountersDdosHttpCounter config) := by
  unfold readCountersDdosHttpCounter; infer_instance
instance : TagsMetrics (readCountersDdosDnsCounter config) := by
  unfold readCountersDdosDnsCounter; infer_instance
instance : TagsMetrics (readCountersDdosSslL4Counter config) := by
  unfold readCountersDdosSslL4Counter; infer_instance
instance : TagsMetrics (readCountersDdosL4TcpCounter config) := by
  unfold readCountersDdosL4TcpCounter; infer_instance

instance : TagsMetrics (readCountersDdosFpgaAnomalyCounter config) where
  labels buffer sample := by
    refine tagged_device buffer _ sample rfl fun tags named => ?_
    refine labelled_after buffer _ _ sample inferInstance rfl fun _ middle here => ?_
    refine labelled_after buffer _ _ middle inferInstance here fun counters middle here => ?_
    refine labelled_after buffer _ _ middle inferInstance here fun _ middle here => ?_
    exact tagged_metrics_before named buffer _ (metric_tags _ _ _) _ middle here

instance : TagsMetrics (readCountersDdosBriefStatsCounter config) where
  labels buffer sample := by
    refine tagged_device buffer _ sample rfl fun tags named => ?_
    refine labelled_after buffer _ _ sample inferInstance rfl fun _ middle here => ?_
    refine labelled_after buffer _ _ middle inferInstance here fun counters middle here => ?_
    refine labelled_after buffer _ _ middle inferInstance here fun dropped middle here => ?_
    refine labelled_after buffer _ _ middle inferInstance here fun _ middle here => ?_
    refine tagged_metrics_before named buffer _ ?_ _ middle here
    exact List.forall_mem_append.mpr ⟨sumMetrics_tags _ _ _, metric_tags _ _ _⟩

instance : TagsMetrics (readCountersDdosHttpT2Counter config) where
  labels buffer sample := by
    refine labelled_after buffer _ _ sample inferInstance rfl fun _ middle here => ?_
    refine labelled_after buffer _ _ middle inferInstance here fun counters middle here => ?_
    refine tagged_entry buffer _ _ _ _ _ middle here fun tags named => ?_
    refine labelled_after buffer _ _ middle inferInstance here fun _ middle here => ?_
    refine labelled_after buffer _ _ middle inferInstance here fun _ middle here => ?_
    refine labelled_after buffer _ _ middle inferInstance here fun _ middle here => ?_
    refine labelled_after buffer _ _ middle inferInstance here fun _ middle here => ?_
    refine labelled_after buffer _ _ middle inferInstance here fun _ middle here => ?_
    exact tagged_metrics named buffer _ middle here (sumMetrics_tags _ _ _)

instance : TagsMetrics (readCountersDdosSslL4T2Counter config) where
  labels buffer sample := by
    refine labelled_after buffer _ _ sample inferInstance rfl fun _ middle here => ?_
    refine labelled_after buffer _ _ middle inferInstance here fun counters middle here => ?_
    refine tagged_entry buffer _ _ _ _ _ middle here fun tags named => ?_
    refine labelled_after buffer _ _ middle inferInstance here fun _ middle here => ?_
    exact tagged_metrics named buffer _ middle here (sumMetrics_tags _ _ _)

instance : TagsMetrics (readCountersDdosDnsCounterT2 config) where
  labels buffer sample := by
    refine labelled_after buffer _ _ sample inferInstance rfl fun _ middle here => ?_
    refine labelled_after buffer _ _ middle inferInstance here fun counters middle here => ?_
    refine tagged_entry buffer _ _ _ _ _ middle here fun tags named => ?_
    refine labelled_after buffer _ _ middle inferInstance here fun _ middle here => ?_
    refine labelled_after buffer _ _ middle inferInstance here fun _ middle here => ?_
    refine labelled_after buffer _ _ middle inferInstance here fun dropped middle here => ?_
    refine tagged_metrics named buffer _ middle here ?_
    exact List.forall_mem_append.mpr ⟨sumMetrics_tags _ _ _, metric_tags _ _ _⟩

instance : TagsMetrics (readCountersDdosIcmpCounterT2 config) where
  labels buffer sample := by
    refine labelled_after buffer _ _ sample inferInstance rfl fun _ middle here => ?_
    refine labelled_after buffer _ _ middle inferInstance here fun counters middle here => ?_
    refine tagged_entry buffer _ _ _ _ _ middle here fun tags named => ?_
    refine labelled_after buffer _ _ middle inferInstance here fun _ middle here => ?_
    exact tagged_metrics_before named buffer _ (sumMetrics_tags _ _ _) _ middle here

instance : TagsMetrics (readCountersDdosL4IpCounterT2 config) where
  labels buffer sample := by
    refine labelled_after buffer _ _ sample inferInstance rfl fun _ middle here => ?_
    refine labelled_after buffer _ _ middle inferInstance here fun counters middle here => ?_
    refine tagged_entry buffer _ _ _ _ _ middle here fun tags named => ?_
    refine labelled_after buffer _ _ middle inferInstance here fun _ middle here => ?_
    refine labelled_after buffer _ _ middle inferInstance here fun _ middle here => ?_
    refine labelled_after buffer _ _ middle inferInstance here fun _ middle here => ?_
    refine labelled_after buffer _ _ middle inferInstance here fun _ middle here => ?_
    refine labelled_after buffer _ _ middle inferInstance here fun _ middle here => ?_
    refine labelled_after buffer _ _ middle inferInstance here fun _ middle here => ?_
    refine tagged_metrics_before named buffer _ ?_ _ middle here
    simp only [List.forall_mem_append]
    exact ⟨⟨⟨⟨⟨sumMetrics_tags _ _ _, sumMetrics_tags _ _ _⟩, metric_tags _ _ _⟩,
      sumMetrics_tags _ _ _⟩, metric_tags _ _ _⟩, sumMetrics_tags _ _ _⟩

instance : TagsMetrics (readCountersDdosL4ExtIpCounterT2 config) where
  labels buffer sample := by
    refine labelled_after buffer _ _ sample inferInstance rfl fun _ middle here => ?_
    refine labelled_after buffer _ _ middle inferInstance here fun counters middle here => ?_
    refine tagged_entry buffer _ _ _ _ _ middle here fun tags named => ?_
    exact tagged_metrics_before named buffer _ (sumMetrics_tags _ _ _) _ middle here

instance (description : String) (decoder : Decode Unit) [tags : TagsMetrics decoder] :
    TagsMetrics (described description decoder) := by
  unfold described; infer_instance
instance (member : DdosMember) (description : String) (readPort readStats : Decode Unit)
    [port : TagsMetrics readPort] [stats : TagsMetrics readStats] :
    TagsMetrics (readPortEntry config member description readPort readStats) := by
  unfold readPortEntry; infer_instance
instance (member : DdosMember) (description : String) (readStats : Decode Unit)
    [stats : TagsMetrics readStats] :
    TagsMetrics (readPlainEntry config member description readStats) := by
  unfold readPlainEntry; infer_instance

theorem counterDecoders_tag (length : UInt32) (entry : UInt32 × Decode Unit)
    (member : entry ∈ counterDecoders config length) : TagsMetrics entry.2 := by
  revert entry
  simp only [counterDecoders, plainCounterDecoders, flexCounterDecoders, ddosCounterDecoders,
    List.forall_mem_append, List.forall_mem_cons, List.not_mem_nil, false_implies, implies_true,
    and_true]
  and_intros <;> infer_instance

end Decoders

section Samples
variable {config : SFConfig}

instance (tag length : UInt32) : TagsMetrics (readCounterElementBody config tag length) := by
  unfold readCounterElementBody
  split
  · next decoder found => exact counterDecoders_tag length _ (lookup_mem found)
  · infer_instance

instance (name : Mark) : Uses UntaggedOp (@Decoder.mark collector name) := uses_single _ trivial
instance (mark : Note) : Uses UntaggedOp (@Decoder.note collector mark) := uses_single _ trivial
instance : Uses UntaggedOp (@Decoder.survey collector) := uses_single _ trivial
instance (var : WordVar) (value : UInt32) : Uses UntaggedOp (setWord var value) :=
  uses_single _ nofun

instance : TagsMetrics (readCounterElement config) := by
  unfold readCounterElement
  infer_instance
instance (remaining : Nat) : TagsMetrics (readCounterElements config remaining) := by
  induction remaining with
  | zero => exact labels_pure ()
  | succ remaining ih =>
      unfold readCounterElements
      infer_instance
instance (expanded : Bool) : TagsMetrics (readCountersSample config expanded) := by
  unfold readCountersSample
  infer_instance
instance : TagsMetrics (readCountersSampleV2v4 config) := by
  unfold readCountersSampleV2v4
  infer_instance
instance : TagsMetrics (readFlowElement config) := by
  unfold readFlowElement
  infer_instance
instance (remaining : Nat) : TagsMetrics (readFlowElements config remaining) := by
  induction remaining with
  | zero => exact labels_pure ()
  | succ remaining ih =>
      unfold readFlowElements
      infer_instance
instance (expanded : Bool) : TagsMetrics (readFlowSample config expanded) := by
  unfold readFlowSample
  infer_instance
instance : TagsMetrics (readFlowSampleV2v4 config) := by
  unfold readFlowSampleV2v4
  infer_instance
instance : TagsMetrics (readSample config) := by
  unfold readSample readSampleV5 readSampleV2v4
  infer_instance
instance (samplesInPacket : UInt32) (remaining : Nat) (samp : UInt32) :
    TagsMetrics (readSamples config samplesInPacket remaining samp) := by
  induction remaining generalizing samp with
  | zero => exact labels_pure ()
  | succ remaining ih =>
      unfold readSamples checkMoreData
      infer_instance

end Samples

end SflowTool
