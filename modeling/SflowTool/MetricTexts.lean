import SflowTool.AgentMetrics
import SflowTool.Printing

/-! The texts of the metrics. Each record that sends some writes its tags into one array and the
lines of all its metrics, one behind the other, into a second; nothing tests how much of either is
taken. -/
namespace SflowTool
open Decoding Decoding.Decoder Printing

variable {config : SFConfig}

section Texts

/-- The next octet of an address among the arguments of a conversion. -/
def nextOctet : List Arg → UInt8 × List Arg
  | .bytes (octet :: rest) :: args => (octet, .bytes rest :: args)
  | args => (0, args)

/-- The next word; an address that was printed lies before it. -/
def nextWord : List Arg → UInt32 × List Arg
  | .word value :: args => (value, args)
  | _ :: args => nextWord args
  | [] => (0, [])

/-- What `sprintf` writes for the conversions of the tags. -/
def tagOctets : List Char → List Arg → Text
  | '%' :: '0' :: '2' :: 'x' :: rest, args =>
      padded 2 (hexadecimal (nextOctet args).1.toNat) ++ tagOctets rest (nextOctet args).2
  | '%' :: '0' :: '8' :: 'x' :: rest, args =>
      padded 8 (hexadecimal (nextWord args).1.toNat) ++ tagOctets rest (nextWord args).2
  | '%' :: 'd' :: rest, args =>
      signedDecimal (nextWord args).1 ++ tagOctets rest (nextWord args).2
  | '%' :: 'x' :: rest, args =>
      hexadecimal (nextWord args).1.toNat ++ tagOctets rest (nextWord args).2
  | char :: rest, args => UInt8.ofNat char.toNat :: tagOctets rest args
  | [], _ => []

/-- The text of a metric's tags. -/
def Metric.tagText (metric : Metric) : Text := tagOctets metric.tags.fmt.toList metric.tags.args

/-- The line of a metric: "put %s %lu %lu %s" of its name, the clock, its value and its tags. -/
def Metric.line (metric : Metric) : Text :=
  octets ("put " ++ metric.name ++ " ").toList ++ decimal metric.time.toNat ++ [32] ++
    decimal metric.value.toNat ++ [32] ++ metric.tagText

/-- What a record has written when it hands its metrics on. -/
def metricsText (lines : List Metric) : Text := lines.flatMap Metric.line

def tsdbBuffSize : Nat := 5000
def tbufSize : Nat := 200

/-- The texts of metrics and their terminators stay within the arrays they are written to. -/
def TextsFit (lines : List Metric) : Prop :=
  (metricsText lines).length + 1 ≤ tsdbBuffSize ∧
    ∀ metric ∈ lines, metric.tagText.length + 1 ≤ tbufSize

/-- The most octets that a format of tags comes to. -/
def widest : List Char → Nat
  | '%' :: '0' :: '2' :: 'x' :: rest => 2 + widest rest
  | '%' :: '0' :: '8' :: 'x' :: rest => 8 + widest rest
  | '%' :: 'd' :: rest => 11 + widest rest
  | '%' :: 'x' :: rest => 8 + widest rest
  | _ :: rest => 1 + widest rest
  | [] => 0

theorem tagOctets_length (format : List Char) (args : List Arg) :
    (tagOctets format args).length ≤ widest format := by
  fun_induction tagOctets format args with
  | case1 rest args ih =>
    have octet := (nextOctet args).1.toNat_lt
    have digits := padded_length (@hexadecimal_length _ 2 (by decide) octet)
    rw [List.length_append, digits, widest]
    exact Nat.add_le_add_left ih 2
  | case2 rest args ih =>
    rw [List.length_append, padded_length (word_length _), widest]
    exact Nat.add_le_add_left ih 8
  | case3 rest args ih =>
    rw [List.length_append, widest]
    exact Nat.add_le_add (signedDecimal_length _) ih
  | case4 rest args ih =>
    rw [List.length_append, widest]
    exact Nat.add_le_add (word_length _) ih
  | case5 char rest args noOctet noWord noNumber noHex ih =>
    rw [List.length_cons, widest]
    · omega
    all_goals assumption
  | case6 => exact Nat.le_refl 0

theorem line_length {metric : Metric} {width : Nat} (tagged : metric.tagText.length ≤ width) :
    metric.line.length ≤ ("put " ++ metric.name ++ " ").toList.length + 42 + width := by
  have time := dword_length metric.time
  have value := dword_length metric.value
  simp only [Metric.line, List.length_append, octets_length, List.length_singleton]
  omega

/-- The most octets that metrics of some names with tags of a width come to. -/
def widestLines (width : Nat) (names : List String) : Nat :=
  (names.map fun name => ("put " ++ name ++ " ").toList.length + 42 + width).sum

theorem metricsText_length {width : Nat} (lines : List Metric)
    (tagged : ∀ metric ∈ lines, metric.tagText.length ≤ width) :
    (metricsText lines).length ≤ widestLines width (lines.map Metric.name) := by
  induction lines with
  | nil => exact Nat.le_refl 0
  | cons metric lines ih =>
    have first := line_length (tagged metric List.mem_cons_self)
    have rest := ih fun other member => tagged other (List.mem_cons_of_mem _ member)
    rw [metricsText, List.flatMap_cons, List.length_append, List.map_cons, widestLines,
      List.map_cons, List.sum_cons]
    exact Nat.add_le_add first rest

/-- Metrics that all have the same tags fit where their names are short enough. -/
theorem texts_fit {width : Nat} {tags : Line} {lines : List Metric}
    (same : ∀ metric ∈ lines, metric.tags = tags) (within : widest tags.fmt.toList ≤ width)
    (narrow : width < tbufSize) (room : widestLines width (lines.map Metric.name) < tsdbBuffSize) :
    TextsFit lines := by
  have tagged (metric : Metric) (member : metric ∈ lines) : metric.tagText.length ≤ width := by
    unfold Metric.tagText
    rw [same metric member]
    exact (tagOctets_length _ _).trans within
  refine ⟨?_, fun metric member => ?_⟩
  · exact Nat.lt_of_le_of_lt (metricsText_length lines tagged) room
  · exact Nat.lt_of_le_of_lt (tagged metric member) narrow

end Texts

section Handlers

/-- Operations that send no metrics but such as fit. -/
def FittingOp : Op collector → Prop
  | .emit (.opentsdb lines) => TextsFit lines
  | _ => True

instance : Permits FittingOp where
  take _ _ := trivial
  skip _ := trivial
  errout _ := trivial
  note _ _ _ _ _ := trivial
  abort _ _ := trivial
instance : PermitsNames FittingOp where
  lookup _ _ := trivial
instance : PermitsFilter FittingOp where
  lookup _ := trivial
instance : PermitsState FittingOp where
  get _ := trivial
  set _ _ := trivial
  mark _ _ := trivial
  peek _ _ _ := trivial
  since _ := trivial
instance : PermitsLog config FittingOp where
  log _ _ := trivial
instance : PermitsOctets FittingOp where
  take _ := trivial
instance : PermitsIteration FittingOp where
  note := trivial
instance : PermitsPrint FittingOp where
  print _ := trivial
instance : PermitsJump FittingOp where
  jump _ := trivial

theorem uses_behind {α β : Type} {program : Decode α} {next : α → Decode β}
    [first : Uses FittingOp program] (rest : ∀ value, Uses FittingOp (next value)) :
    Uses FittingOp (program >>= next) := first.bind rest

theorem uses_before {α β : Type} {program : Decode α} {next : α → Decode β}
    (first : Uses FittingOp program) [rest : ∀ value, Uses FittingOp (next value)] :
    Uses FittingOp (program >>= next) := first.bind rest

theorem sumMetrics_names (tags : Line) (counters : String → UInt64)
    (rows : List (String × List String)) :
    (sumMetrics config tags counters rows).map Metric.name = rows.map Prod.fst := by
  rw [sumMetrics, List.map_map]
  rfl

/-- The tags of a device and of an entry come in a few formats only. -/
theorem uses_agentTags {next : Line → Decode Unit}
    (rest : ∀ tags : Line, tags.fmt = "agent=%08x\n" → Uses FittingOp (next tags)) :
    Uses FittingOp (agentTags >>= next) :=
  .act _ _ trivial fun _ => rest _ rfl

theorem uses_entryTags {member : DdosMember} {columns columns6 : String} {args : List Arg}
    {next : Line → Decode Unit} (width : Nat)
    (ipV4 : widest ("ip=%08x prefix=%d" ++ columns ++ " agent=%08x type=%x\n").toList ≤ width)
    (ipV6 : widest ("ip=%02x%02x%02x%02x%02x%02x%02x%02x%02x%02x%02x%02x%02x%02x%02x%02x prefix=%d" ++
      columns6 ++ " agent=%08x\n").toList ≤ width)
    (rest : ∀ tags : Line, widest tags.fmt.toList ≤ width → Uses FittingOp (next tags)) :
    Uses FittingOp (entryTags member columns columns6 args >>= next) := by
  refine .act _ _ trivial fun common => .act _ _ trivial fun agentAddr => ?_
  show Uses FittingOp ((if _ then _ else _ : Decode Line) >>= next)
  split
  · exact rest _ ipV4
  · exact rest _ ipV6

/-- The metrics of a record whose tags are known fit where their names are short enough. -/
theorem uses_metrics {width : Nat} {tags : Line} {lines : List Metric}
    (same : ∀ metric ∈ lines, metric.tags = tags) (within : widest tags.fmt.toList ≤ width)
    (narrow : width < tbufSize) (room : widestLines width (lines.map Metric.name) < tsdbBuffSize) :
    Uses FittingOp (@Decoder.emit collector (.opentsdb lines)) :=
  uses_single _ (texts_fit same within narrow room)

theorem agent_width {tags : Line} (format : tags.fmt = "agent=%08x\n") :
    widest tags.fmt.toList ≤ 15 := by
  rw [format]
  decide +kernel

theorem exported_fits {member : DdosMember} {fields : List String} {labels : List (String × String)}
    {rows : List (String × List String)}
    (room : widestLines 15 (rows.map Prod.fst) < tsdbBuffSize) :
    Uses FittingOp (readExportedU64 config member fields labels rows) := by
  refine uses_agentTags fun tags format => uses_behind fun _ => uses_behind fun counters => ?_
  refine uses_before (uses_metrics (sumMetrics_tags tags counters rows) (agent_width format)
    (by decide) ?_)
  rw [sumMetrics_names]
  exact room

instance : Uses FittingOp (readCountersDdosHttpCounter config) :=
  exported_fits (by decide +kernel)
instance : Uses FittingOp (readCountersDdosDnsCounter config) :=
  exported_fits (by decide +kernel)
instance : Uses FittingOp (readCountersDdosSslL4Counter config) :=
  exported_fits (by decide +kernel)
instance : Uses FittingOp (readCountersDdosL4TcpCounter config) :=
  exported_fits (by decide +kernel)

instance : Uses FittingOp (readCountersDdosFpgaAnomalyCounter config) := by
  refine uses_agentTags fun tags format => uses_behind fun _ => uses_behind fun counters =>
    uses_behind fun _ => uses_before (uses_metrics ?_ (agent_width format) (by decide) ?_)
  · exact metric_tags _ tags _
  · show widestLines 15 ["packet_anomaly_dropped"] < tsdbBuffSize
    decide +kernel

instance : Uses FittingOp (readCountersDdosBriefStatsCounter config) := by
  refine uses_agentTags fun tags format => uses_behind fun _ => uses_behind fun counters =>
    uses_behind fun _ => uses_behind fun _ =>
      uses_before (uses_metrics ?_ (agent_width format) (by decide) ?_)
  · rw [List.forall_mem_append]
    exact ⟨sumMetrics_tags tags counters _, metric_tags _ tags _⟩
  · rw [List.map_append, sumMetrics_names]
    show widestLines 15 (_ ++ ["packet_anomaly_passed"]) < tsdbBuffSize
    decide +kernel

instance : Uses FittingOp (readCountersDdosHttpT2Counter config) := by
  refine uses_behind fun _ => uses_behind fun counters =>
    uses_entryTags 90 (by decide +kernel) (by decide +kernel) fun tags within => ?_
  refine uses_behind fun _ => uses_behind fun _ => uses_behind fun _ => uses_behind fun _ =>
    uses_behind fun _ => uses_metrics (sumMetrics_tags tags counters _) within (by decide) ?_
  rw [sumMetrics_names]
  decide +kernel

instance : Uses FittingOp (readCountersDdosSslL4T2Counter config) := by
  refine uses_behind fun _ => uses_behind fun counters =>
    uses_entryTags 90 (by decide +kernel) (by decide +kernel) fun tags within =>
      uses_behind fun _ => uses_metrics (sumMetrics_tags tags counters _) within (by decide) ?_
  rw [sumMetrics_names]
  decide +kernel

instance : Uses FittingOp (readCountersDdosDnsCounterT2 config) := by
  refine uses_behind fun _ => uses_behind fun counters =>
    uses_entryTags 110 (by decide +kernel) (by decide +kernel) fun tags within => ?_
  refine uses_behind fun _ => uses_behind fun _ => uses_behind fun dnsExclSrcDropped =>
    uses_metrics ?_ within (by decide) ?_
  · rw [List.forall_mem_append]
    exact ⟨sumMetrics_tags tags counters _, metric_tags _ tags _⟩
  · rw [List.map_append, sumMetrics_names]
    show widestLines 110 (_ ++ ["dns_excl_src_dropped"]) < tsdbBuffSize
    decide +kernel

instance : Uses FittingOp (readCountersDdosIcmpCounterT2 config) := by
  refine uses_behind fun _ => uses_behind fun counters =>
    uses_entryTags 70 (by decide +kernel) (by decide +kernel) fun tags within =>
      uses_behind fun _ =>
        uses_before (uses_metrics (sumMetrics_tags tags counters _) within (by decide) ?_)
  rw [sumMetrics_names]
  decide +kernel

/-- The longest text: thirty-one metrics of an entry. -/
instance : Uses FittingOp (readCountersDdosL4IpCounterT2 config) := by
  refine uses_behind fun _ => uses_behind fun counters =>
    uses_entryTags 70 (by decide +kernel) (by decide +kernel) fun tags within => ?_
  refine uses_behind fun _ => uses_behind fun _ => uses_behind fun _ => uses_behind fun _ =>
    uses_behind fun _ => uses_behind fun _ =>
      uses_before (uses_metrics ?_ within (by decide) ?_)
  · simp only [List.forall_mem_append]
    refine ⟨⟨⟨⟨⟨?_, ?_⟩, ?_⟩, ?_⟩, ?_⟩, ?_⟩
    · exact sumMetrics_tags tags counters _
    · exact sumMetrics_tags tags counters _
    · exact metric_tags _ tags _
    · exact sumMetrics_tags tags counters _
    · exact metric_tags _ tags _
    · exact sumMetrics_tags tags counters _
  · simp only [List.map_append, sumMetrics_names]
    show widestLines 70 (_ ++ _ ++ ["port_cm_dropped"] ++ _ ++ ["ip_proto_dropped"] ++ _) < tsdbBuffSize
    decide +kernel

instance : Uses FittingOp (readCountersDdosL4ExtIpCounterT2 config) := by
  refine uses_behind fun _ => uses_behind fun counters =>
    uses_entryTags 70 (by decide +kernel) (by decide +kernel) fun tags within =>
      uses_before (uses_metrics (sumMetrics_tags tags counters _) within (by decide) ?_)
  rw [sumMetrics_names]
  decide +kernel

theorem ddosDecoders_fit (entry : UInt32 × Decode Unit)
    (member : entry ∈ ddosCounterDecoders config) : Uses FittingOp entry.2 := by
  revert entry
  simp only [ddosCounterDecoders, List.forall_mem_cons, List.not_mem_nil, false_implies,
    implies_true, and_true]
  and_intros <;> infer_instance

/-- Whatever a record holds, the text of the metrics it sends and the text of its tags stay within
their arrays; so do the tags of a device, which are written before a record can be refused. -/
theorem metric_texts_fit (config : SFConfig) (buffer : Buffer) (sample : SFSample) :
    (∀ entry ∈ ddosCounterDecoders config, ∀ sent ∈ (run buffer entry.2 sample).trace,
      ∀ lines, sent.event = .opentsdb lines → TextsFit lines) ∧
    ∀ tags, (run buffer agentTags sample).outcome = .ok tags →
      (tagOctets tags.fmt.toList tags.args).length + 1 ≤ tbufSize := by
  refine ⟨?_, ?_⟩
  · intro entry listed sent member lines sends
    have allowed := uses_events (ddosDecoders_fit entry listed) buffer sample sent member
    rw [sends] at allowed
    exact allowed
  · intro tags built
    have format : tags.fmt = "agent=%08x\n" := by
      cases built
      rfl
    have within := (tagOctets_length tags.fmt.toList tags.args).trans (agent_width format)
    exact Nat.lt_of_le_of_lt within (by decide)

end Handlers

end SflowTool
