import SflowTool.CounterReports

/-! The two metrics of a protected entry that are differences of its counters. They are taken
in 64-bit arithmetic without a sign, so that they are the saturating differences they are
meant to be only where the counters that are taken off do not exceed the others. -/
namespace SflowTool
open Decoding Decoding.Decoder

section Wrapping

/-- The difference of two numbers comes out right in 64 bits: it is not negative and has room,
or what is missing is a multiple of the range. -/
def ExactDifference (minuend subtrahend : Nat) : Prop :=
  subtrahend ≤ minuend ∧ minuend - subtrahend < 2 ^ 64 ∨
    minuend < subtrahend ∧ 2 ^ 64 ∣ subtrahend - minuend

/-- A value that is known up to the range is the saturating difference exactly there. -/
theorem saturates_iff (value : UInt64) (minuend subtrahend : Nat)
    (wrapped : (value.toNat + subtrahend) % 2 ^ 64 = minuend % 2 ^ 64) :
    value.toNat = minuend - subtrahend ↔ ExactDifference minuend subtrahend := by
  have bound := value.toNat_lt
  unfold ExactDifference
  omega

/-- The integer sum of some counters. -/
def total (counters : String → UInt64) (fields : List String) : Nat :=
  (fields.map fun field => (counters field).toNat).sum

theorem total_cons (counters : String → UInt64) (field : String) (rest : List String) :
    total counters (field :: rest) = (counters field).toNat + total counters rest := by
  simp [total]

theorem sum_wraps (counters : String → UInt64) (fields : List String) (start : UInt64) :
    (fields.foldl (fun sum field => sum + counters field) start).toNat =
      (start.toNat + total counters fields) % 2 ^ 64 := by
  induction fields generalizing start with
  | nil => exact (Nat.mod_eq_of_lt start.toNat_lt).symm
  | cons field rest ih =>
      rw [List.foldl_cons, ih, UInt64.toNat_add, total_cons]
      omega

theorem difference_wraps (counters : String → UInt64) (fields : List String) (start : UInt64) :
    ((fields.foldl (fun left field => left - counters field) start).toNat +
      total counters fields) % 2 ^ 64 = start.toNat % 2 ^ 64 := by
  induction fields generalizing start with
  | nil => rfl
  | cons field rest ih =>
      have step := ih (start - counters field)
      have taken := UInt64.toNat_sub start (counters field)
      have bound := (counters field).toNat_lt
      rw [List.foldl_cons, total_cons]
      omega

theorem portCm_wraps (counters : String → UInt64) :
    ((portCmDroppedOf counters).toNat + total counters portCmSubtrahend) % 2 ^ 64 =
      total counters portCmMinuend % 2 ^ 64 := by
  have minuend := sum_wraps counters portCmMinuend 0
  have subtrahend := sum_wraps counters portCmSubtrahend 0
  have zero : (0 : UInt64).toNat = 0 := rfl
  rw [zero, Nat.zero_add] at minuend subtrahend
  unfold portCmDroppedOf sumOf
  rw [UInt64.toNat_sub, minuend, subtrahend]
  omega

end Wrapping

section Metrics

variable {config : SFConfig} {buffer : Buffer} {sample : SFSample}

/-- The run sends a value under a name. -/
def Sends {α : Type} (performed : Run collector α) (name : String) (value : UInt64) : Prop :=
  ∃ lines, .opentsdb lines ∈ performed.trace.map Stamped.event ∧
    ∃ line ∈ lines, line.name = name ∧ line.value = value

theorem logEvents_unsent (line : Line) (lines : List Metric) :
    Event.opentsdb lines ∉ logEvents config line := by
  unfold logEvents
  split <;> simp

theorem counterLines_unsent (counters : String → UInt64) (labels : List (String × String))
    (lines : List Metric) : Event.opentsdb lines ∉ counterLines config counters labels := by
  intro member
  obtain ⟨label, _, logged⟩ := List.mem_flatMap.mp member
  exact logEvents_unsent _ lines logged

theorem mismatchEvents_unsent (fields : List String) (lines : List Metric) :
    Event.opentsdb lines ∉ mismatchEvents config fields sample := by
  unfold mismatchEvents
  split
  · exact logEvents_unsent _ lines
  · exact List.not_mem_nil

theorem invalidEvents_unsent (lines : List Metric) :
    Event.opentsdb lines ∉ invalidEvents config sample := by
  unfold invalidEvents
  split
  · exact logEvents_unsent _ lines
  · exact List.not_mem_nil

theorem portCm_named (tags : Line) (counters : String → UInt64) (value : UInt64) :
    (∃ line ∈ l4T2Metrics config tags counters,
      line.name = "port_cm_dropped" ∧ line.value = value) ↔ value = portCmDroppedOf counters := by
  simp [l4T2Metrics, sumMetrics, l4EntryMetrics, metric, or_and_right, exists_or, eq_comm]

theorem ipProto_named (tags : Line) (counters : String → UInt64) (value : UInt64) :
    (∃ line ∈ l4T2Metrics config tags counters,
      line.name = "ip_proto_dropped" ∧ line.value = value) ↔ value = ipProtoDroppedOf counters := by
  simp [l4T2Metrics, sumMetrics, l4EntryMetrics, metric, or_and_right, exists_or, eq_comm]

/-- The counters of an entry as its record is reported. -/
def entryCounters (buffer : Buffer) (sample : SFSample) : String → UInt64 :=
  countersOf (behindU64 buffer .l4Perip sflowDdosIpCounterL4T2DataFields sample) .l4Perip

/-- An entry that is copied sends these metrics and no others. -/
theorem entry_sends (copyable : Copyable buffer 8 sflowDdosIpCounterL4T2DataFields sample)
    (name : String) (value : UInt64) :
    Sends (run buffer (readCountersDdosL4IpCounterT2 config) sample) name value ↔
      ∃ line ∈ l4T2Metrics config
        (sentTags (behindU64 buffer .l4Perip sflowDdosIpCounterL4T2DataFields sample)
          .l4Perip "" "" []) (entryCounters buffer sample),
        line.name = name ∧ line.value = value := by
  obtain ⟨_, _, shown⟩ := l4T2_reports.copied config buffer sample copyable
  have events : (run buffer (readCountersDdosL4IpCounterT2 config) sample).trace.map
      Stamped.event = _ := shown.events
  unfold Sends
  rw [events]
  constructor
  · rintro ⟨lines, member, named⟩
    rcases List.mem_append.mp member with early | later
    · exact absurd early (mismatchEvents_unsent _ lines)
    · rcases List.mem_append.mp later with sent | logged
      · cases List.mem_singleton.mp sent
        exact named
      · exact absurd logged (counterLines_unsent _ _ lines)
  · intro named
    exact ⟨_, List.mem_append_right _ (List.mem_append_left _ (List.mem_singleton_self _)), named⟩

/-- A record that is not copied sends nothing. -/
theorem blocked_entry_silent (blocked : ¬Copyable buffer 8 sflowDdosIpCounterL4T2DataFields sample)
    (name : String) (value : UInt64) :
    ¬Sends (run buffer (readCountersDdosL4IpCounterT2 config) sample) name value := by
  obtain ⟨-, events⟩ := l4T2_reports.stopped config buffer sample blocked
  rintro ⟨lines, member, -⟩
  have silent : (run buffer (readCountersDdosL4IpCounterT2 config) sample).trace.map
      Stamped.event = invalidEvents config sample := events
  rw [silent] at member
  exact invalidEvents_unsent lines member

/-- What is sent as the two differences saturates at zero, over the integers. -/
structure SaturatingDrops {α : Type} (counters : String → UInt64)
    (performed : Run collector α) : Prop where
  portCm : ∀ value, Sends performed "port_cm_dropped" value →
    value.toNat = total counters portCmMinuend - total counters portCmSubtrahend
  ipProto : ∀ value, Sends performed "ip_proto_dropped" value →
    value.toNat = (counters "dst_other_drop").toNat - total counters ipProtoSubtrahend

theorem drops_saturate_iff (config : SFConfig) (buffer : Buffer) (sample : SFSample) :
    SaturatingDrops (entryCounters buffer sample)
        (run buffer (readCountersDdosL4IpCounterT2 config) sample) ↔
      (Copyable buffer 8 sflowDdosIpCounterL4T2DataFields sample →
        ExactDifference (total (entryCounters buffer sample) portCmMinuend)
          (total (entryCounters buffer sample) portCmSubtrahend) ∧
        ExactDifference (entryCounters buffer sample "dst_other_drop").toNat
          (total (entryCounters buffer sample) ipProtoSubtrahend)) := by
  have portCm := saturates_iff _ _ _ (portCm_wraps (entryCounters buffer sample))
  have ipProto := saturates_iff _ _ _ (difference_wraps (entryCounters buffer sample)
    ipProtoSubtrahend (entryCounters buffer sample "dst_other_drop"))
  constructor
  · rintro ⟨first, second⟩ copyable
    constructor
    · apply portCm.mp
      apply first
      exact (entry_sends copyable _ _).mpr ((portCm_named _ _ _).mpr rfl)
    · apply ipProto.mp
      apply second
      exact (entry_sends copyable _ _).mpr ((ipProto_named _ _ _).mpr rfl)
  · intro exact_when
    by_cases copyable : Copyable buffer 8 sflowDdosIpCounterL4T2DataFields sample
    · obtain ⟨ports, protocols⟩ := exact_when copyable
      constructor
      · intro value sent
        rw [(portCm_named _ _ _).mp ((entry_sends copyable _ _).mp sent)]
        exact portCm.mpr ports
      · intro value sent
        rw [(ipProto_named _ _ _).mp ((entry_sends copyable _ _).mp sent)]
        exact ipProto.mpr protocols
    · constructor
      · intro value sent
        exact absurd sent (blocked_entry_silent copyable _ _)
      · intro value sent
        exact absurd sent (blocked_entry_silent copyable _ _)

/-- A record of ten counters: no drops, and one packet above the rate of its destination. -/
def excessRecord : Buffer := datagramOf (List.replicate 19 0 ++ [1])

theorem excess_drops_wrap :
    ¬∀ (config : SFConfig) (buffer : Buffer) (sample : SFSample),
      SaturatingDrops (entryCounters buffer sample)
        (run buffer (readCountersDdosL4IpCounterT2 config) sample) := by
  intro saturates
  obtain ⟨portCm, -⟩ := saturates (defaultConfig .full) excessRecord
    (holding firstSample .currentContextLength 80)
  have copyable : Copyable excessRecord 8 sflowDdosIpCounterL4T2DataFields
      (holding firstSample .currentContextLength 80) :=
    ⟨by decide, by decide, fun _ => by decide⟩
  have sent := portCm _ ((entry_sends copyable _ _).mpr ((portCm_named _ _ _).mpr rfl))
  exact absurd sent (by decide +kernel)

end Metrics

end SflowTool
