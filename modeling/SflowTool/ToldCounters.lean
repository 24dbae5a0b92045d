import SflowTool.RecordHistories

/-! Which counters a copied record tells: it prints those it has a label for, and sends sums of
some. What it reports is settled by these, by the tags of its metrics and, for the brief record, by
what the last anomaly record left. -/
namespace SflowTool
open Decoding Decoding.Decoder

section Sums

/-- One counter, counted on by one. -/
def bumped (counters : String → UInt64) (field : String) : String → UInt64 :=
  Function.update counters field (counters field + 1)

theorem bumped_self (counters : String → UInt64) (field : String) :
    bumped counters field field = counters field + 1 := Function.update_self ..

theorem bumped_other (counters : String → UInt64) {field other : String} (different : other ≠ field) :
    bumped counters field other = counters other := Function.update_of_ne different ..

theorem add_one_ne (value : UInt64) : value + 1 ≠ value := by
  intro same
  have number := congrArg UInt64.toNat same
  rw [UInt64.toNat_add] at number
  have bound := value.toNat_lt
  simp only [UInt64.reduceToNat] at number
  omega

/-- A sum grows by the times the counter is in it. -/
theorem sum_bumped (counters : String → UInt64) (field : String) (fields : List String)
    (sum more : UInt64) :
    fields.foldl (fun sum other => sum + bumped counters field other) (sum + more) =
      fields.foldl (fun sum other => sum + counters other) sum +
        (more + UInt64.ofNat (fields.count field)) := by
  induction fields generalizing sum more with
  | nil =>
      rw [List.foldl_nil, List.foldl_nil, List.count_nil]
      exact congrArg (sum + ·) (UInt64.add_zero more).symm
  | cons head tail ih =>
      rw [List.foldl_cons, List.foldl_cons]
      by_cases here : head = field
      · subst here
        rw [bumped_self, List.count_cons_self, UInt64.ofNat_add,
          show sum + more + (counters head + 1) = sum + counters head + (more + 1) by grind, ih]
        grind
      · rw [bumped_other counters here, List.count_cons_of_ne here,
          show sum + more + counters head = sum + counters head + more by grind, ih]

theorem sumOf_bumped (counters : String → UInt64) (field : String) (fields : List String) :
    sumOf (bumped counters field) fields =
      sumOf counters fields + UInt64.ofNat (fields.count field) := by
  have sum := sum_bumped counters field fields 0 0
  rw [UInt64.add_zero, UInt64.zero_add] at sum
  exact sum

theorem sumOf_apart (counters : String → UInt64) {field : String} {fields : List String}
    (summed : field ∈ fields) (short : fields.length < 2 ^ 64) :
    sumOf (bumped counters field) fields ≠ sumOf counters fields := by
  intro same
  have times := List.count_pos_iff.mpr summed
  have most : fields.count field ≤ fields.length := List.count_le_length
  have number := congrArg UInt64.toNat ((sumOf_bumped counters field fields).symm.trans same)
  rw [UInt64.toNat_add, UInt64.toNat_ofNat_of_lt' (Nat.lt_of_le_of_lt most short)] at number
  have bound := (sumOf counters fields).toNat_lt
  omega

theorem sumOf_alike {counters counters' : String → UInt64} {fields : List String}
    (same : ∀ field ∈ fields, counters' field = counters field) :
    sumOf counters' fields = sumOf counters fields := by
  unfold sumOf
  generalize (0 : UInt64) = sum
  induction fields generalizing sum with
  | nil => rfl
  | cons head tail ih =>
      rw [List.foldl_cons, List.foldl_cons, same head List.mem_cons_self]
      exact ih (fun field member => same field (List.mem_cons_of_mem _ member)) _

variable {config : SFConfig}

theorem sumMetrics_alike (tags : Line) {counters counters' : String → UInt64}
    {rows : List (String × List String)}
    (same : ∀ field ∈ rows.flatMap Prod.snd, counters' field = counters field) :
    sumMetrics config tags counters' rows = sumMetrics config tags counters rows := by
  unfold sumMetrics
  refine List.map_congr_left fun row member => ?_
  exact congrArg (metric config row.1 tags) (sumOf_alike fun field summed =>
    same field (List.mem_flatMap.mpr ⟨row, member, summed⟩))

theorem sumMetrics_apart {tags tags' : Line} (counters : String → UInt64) {field : String}
    {rows : List (String × List String)} (summed : field ∈ rows.flatMap Prod.snd)
    (short : ∀ row ∈ rows, row.2.length < 2 ^ 64) :
    sumMetrics config tags' (bumped counters field) rows ≠ sumMetrics config tags counters rows := by
  intro same
  obtain ⟨row, member, summed⟩ := List.mem_flatMap.mp summed
  obtain ⟨index, bound, rfl⟩ := List.getElem_of_mem member
  have entry := congrArg (fun metrics => metrics[index]?) same
  simp only [sumMetrics, List.getElem?_map, List.getElem?_eq_getElem bound, Option.map_some,
    Option.some_inj] at entry
  exact sumOf_apart counters summed (short _ member) (congrArg Metric.value entry)

end Sums

section Lines

variable {config : SFConfig} {counters counters' : String → UInt64}
  {labels : List (String × String)}

/-- Lines of one counter each, for any way they are written. -/
def labelLines (config : SFConfig) (write : UInt64 → String → Line) (counters : String → UInt64)
    (labels : List (String × String)) : List Event :=
  labels.flatMap fun label => logEvents config (write (counters label.1) label.2)

/-- The lines as the 64-bit and as the 32-bit records write them. -/
def wideLine (value : UInt64) (label : String) : Line :=
  ⟨"%-35s %-20u\n", [.name label, .dword value]⟩

def narrowLine (value : UInt64) (label : String) : Line :=
  ⟨"%-35s %-20u\n", [.name label, .word value.toUInt32]⟩

theorem labelLines_alike (write : UInt64 → String → Line)
    (same : config.outputFormat = .full → ∀ field ∈ labels.map Prod.fst,
      counters' field = counters field) :
    labelLines config write counters' labels = labelLines config write counters labels := by
  unfold labelLines logEvents
  by_cases full : config.outputFormat = .full
  · simp only [if_pos full]
    refine List.flatMap_congr fun label member => ?_
    rw [same full label.1 (List.mem_map_of_mem member)]
  · simp only [if_neg full]

/-- In the full format the lines tell each counter that has a label. -/
theorem labelLines_apart (full : config.outputFormat = .full) {write : UInt64 → String → Line}
    (tells : ∀ value label, write (value + 1) label ≠ write value label) {field : String}
    (labelled : field ∈ labels.map Prod.fst) :
    labelLines config write (bumped counters field) labels ≠
      labelLines config write counters labels := by
  have single (counters : String → UInt64) : labelLines config write counters labels =
      labels.map fun label => .log (write (counters label.1) label.2) := by
    unfold labelLines logEvents
    simp only [if_pos full]
    exact List.map_eq_flatMap.symm
  rw [single, single]
  intro same
  obtain ⟨label, member, rfl⟩ := List.mem_map.mp labelled
  have entry := List.map_inj_left.mp same label member
  rw [bumped_self] at entry
  exact tells _ _ (Event.log.inj entry)

theorem labelLines_length (write : UInt64 → String → Line) :
    (labelLines config write counters' labels).length =
      (labelLines config write counters labels).length := by
  unfold labelLines logEvents
  rw [List.length_flatMap, List.length_flatMap]
  refine congrArg List.sum (List.map_congr_left fun label _ => ?_)
  split <;> rfl

theorem wideLine_tells (value : UInt64) (label : String) :
    wideLine (value + 1) label ≠ wideLine value label := by
  intro same
  have args : [Arg.name label, .dword (value + 1)] = [.name label, .dword value] :=
    congrArg Line.args same
  simp only [List.cons.injEq, Arg.dword.injEq, true_and, and_true] at args
  exact add_one_ne value args

theorem narrowLine_tells (value : UInt64) (label : String) :
    narrowLine (value + 1) label ≠ narrowLine value label := by
  intro same
  have args : [Arg.name label, .word (value + 1).toUInt32] = [.name label, .word value.toUInt32] :=
    congrArg Line.args same
  simp only [List.cons.injEq, Arg.word.injEq, true_and, and_true] at args
  have number := congrArg UInt32.toNat args
  rw [UInt64.toNat_toUInt32, UInt64.toNat_toUInt32, UInt64.toNat_add] at number
  simp only [UInt64.reduceToNat] at number
  omega

end Lines

section Records

/-- The tags of what a record sends, which its prelude and its datagram settle. -/
structure Prelude.Same (prelude : Prelude) (member : DdosMember) (one two : SFSample) : Prop where
  agent : addressOf two .agentAddr = addressOf one .agentAddr
  excluded : dwordOf two .dnsExclSrcDropped = dwordOf one .dnsExclSrcDropped
  common : prelude ≠ .bare → commonOf two member = commonOf one member
  port : ∀ title, prelude = .port title →
    countersOf two member "port" = countersOf one member "port" ∧
      countersOf two member "app_type" = countersOf one member "app_type"

/-- The notice that a record is longer than its struct. -/
def Event.isNotice : Event → Bool
  | .log line => line.fmt = "Counter Length mismatch detected for %s, continuing...\n" ∨
      line.fmt = "Counter Length mismatch detected for %s, continuing..."
  | _ => false

/-- A record that is copied into a struct: where its decoder is found, the struct, what it reports
of the sample behind the copy, and the fields this tells, printed or summed. One record also
sends what the last anomaly record left. -/
structure CopiedRecord where
  tag : UInt32
  description : String
  prelude : Prelude
  member : DdosMember
  width : Nat
  fields : List String
  read : SFConfig → Decode Unit
  report : SFConfig → SFSample → List Event
  printed : List String
  summed : List String
  recalls : Bool

namespace CopiedRecord

/-- The counters a record tells. -/
def told (record : CopiedRecord) (config : SFConfig) : List String :=
  (if config.outputFormat = .full then record.printed else []) ++ record.summed

/-- The sample behind the copy. -/
def behind (record : CopiedRecord) (buffer : Buffer) (sample : SFSample) : SFSample :=
  behindRecord buffer record.width record.member record.fields
    (record.width * record.fields.length) sample

/-- One counter of the record's struct, counted on by one. -/
def bump (record : CopiedRecord) (sample : SFSample) (field : String) : SFSample :=
  holdingCounters sample record.member (bumped (countersOf sample record.member) field)

/-- What the decoder of a record does, and what its report tells. -/
structure Tells (record : CopiedRecord) : Prop where
  dispatched : ∀ config length, readCounterElementBody config record.tag length =
    (record.prelude.program config record.member record.description >>= fun _ => record.read config)
  copied : ∀ config buffer sample, Copyable buffer record.width record.fields sample →
    ∃ notices, (∀ event ∈ notices, event.isNotice = true) ∧
      (run buffer (record.read config) sample).Displays
        (notices ++ record.report config (record.behind buffer sample))
  stopped : ∀ config buffer sample, ¬Copyable buffer record.width record.fields sample →
    ∃ reason, (run buffer (record.read config) sample).outcome = .error reason
  plain : ∀ config sample, ∀ event ∈ record.report config sample, event.isNotice = false
  alike : ∀ config one two, record.prelude.Same record.member one two →
    (record.recalls = true → dwordOf two .packetAnomalyDropped = dwordOf one .packetAnomalyDropped) →
    (∀ field ∈ record.told config,
      countersOf two record.member field = countersOf one record.member field) →
    record.report config two = record.report config one
  apart : ∀ config sample, ∀ field ∈ record.told config,
    record.report config (record.bump sample field) ≠ record.report config sample
  recalled : record.recalls = true → ∀ config sample, record.report config (holdingDword sample
    .packetAnomalyDropped (dwordOf sample .packetAnomalyDropped + 1)) ≠ record.report config sample
  unported : ∀ config, ∀ field ∈ record.fields ++ record.told config,
    field ≠ "port" ∧ field ≠ "app_type"

end CopiedRecord

/-- What the record sends tells these fields. -/
structure StructRecord.Sends (record : StructRecord) (prelude : Prelude) (summed : List String)
    (recalls : Bool) : Prop where
  alike : ∀ config one two, prelude.Same record.member one two →
    (recalls = true → dwordOf two .packetAnomalyDropped = dwordOf one .packetAnomalyDropped) →
    (∀ field ∈ summed, countersOf two record.member field = countersOf one record.member field) →
    record.sends config two = record.sends config one
  apart : ∀ config sample, ∀ field ∈ summed, record.sends config (holdingCounters sample
    record.member (bumped (countersOf sample record.member) field)) ≠ record.sends config sample
  recalled : recalls = true → ∀ config sample, record.sends config (holdingDword sample
    .packetAnomalyDropped (dwordOf sample .packetAnomalyDropped + 1)) ≠ record.sends config sample

/-- A record over 64-bit words as the dispatch knows it. -/
def StructRecord.announced (record : StructRecord) (tag : UInt32) (description : String)
    (prelude : Prelude) (summed : List String) (recalls : Bool) : CopiedRecord where
  tag
  description
  prelude
  member := record.member
  width := 8
  fields := record.fields
  read := record.read
  report := record.report
  printed := record.labels.map Prod.fst
  summed
  recalls

theorem lines_eq (record : StructRecord) (config : SFConfig) (sample : SFSample) :
    record.lines config sample =
      labelLines config wideLine (countersOf sample record.member) record.labels := rfl

theorem report_alike {record : StructRecord} {config : SFConfig} {one two : SFSample}
    (lines : record.lines config two = record.lines config one)
    (sends : record.sends config two = record.sends config one) :
    record.report config two = record.report config one := by
  unfold StructRecord.report
  rw [lines, sends]

/-- The two parts of a report can be told from it. -/
theorem report_parts {record : StructRecord} {config : SFConfig} {one two : SFSample}
    (same : record.report config two = record.report config one) :
    record.lines config two = record.lines config one ∧
      record.sends config two = record.sends config one := by
  have length : (record.lines config two).length = (record.lines config one).length :=
    labelLines_length wideLine
  have sent : Function.Injective Event.opentsdb := fun _ _ same => Event.opentsdb.inj same
  unfold StructRecord.report at same
  split at same
  · obtain ⟨lines, sends⟩ := List.append_inj same length
    exact ⟨lines, List.map_injective_iff.mpr sent sends⟩
  · obtain ⟨sends, lines⟩ := List.append_inj' same length
    exact ⟨lines, List.map_injective_iff.mpr sent sends⟩

theorem mismatch_isNotice (config : SFConfig) (fields : List String) (sample : SFSample) :
    ∀ event ∈ mismatchEvents config fields sample, event.isNotice = true := by
  intro event member
  unfold mismatchEvents logEvents at member
  split at member
  · split at member
    · cases List.mem_singleton.mp member
      rfl
    · cases member
  · cases member

theorem labelLines_plain {config : SFConfig} {write : UInt64 → String → Line}
    (plain : ∀ value label, (Event.log (write value label)).isNotice = false)
    (counters : String → UInt64) (labels : List (String × String)) :
    ∀ event ∈ labelLines config write counters labels, event.isNotice = false := by
  intro event member
  obtain ⟨label, _, member⟩ := List.mem_flatMap.mp member
  unfold logEvents at member
  split at member
  · cases List.mem_singleton.mp member
    exact plain _ _
  · cases member

theorem announced_tells {record : StructRecord} {tag : UInt32} {description : String}
    {prelude : Prelude} {summed : List String} {recalls : Bool} (reports : record.Reports)
    (sends : record.Sends prelude summed recalls)
    (dispatched : ∀ config length, readCounterElementBody config tag length =
      (prelude.program config record.member description >>= fun _ => record.read config))
    (unported : ∀ field ∈ record.fields ++ (record.labels.map Prod.fst ++ summed),
      field ≠ "port" ∧ field ≠ "app_type") :
    (record.announced tag description prelude summed recalls).Tells where
  dispatched
  copied config buffer sample copyable :=
    ⟨_, mismatch_isNotice config record.fields sample, reports.copied config buffer sample copyable⟩
  stopped config buffer sample blocked := (reports.stopped config buffer sample blocked).1
  plain config sample event member := by
    have lines := @labelLines_plain config wideLine (fun _ _ => rfl)
      (countersOf sample record.member) record.labels event
    have sent : event ∈ (record.sends config sample).map Event.opentsdb → event.isNotice = false := by
      intro member
      obtain ⟨metrics, _, rfl⟩ := List.mem_map.mp member
      rfl
    have parts : event ∈ record.report config sample := member
    unfold StructRecord.report at parts
    split at parts
    · exact (List.mem_append.mp parts).elim lines sent
    · exact (List.mem_append.mp parts).elim sent lines
  alike config one two same recalled told := by
    refine report_alike ?_ (sends.alike config one two same recalled fun field member =>
      told field (List.mem_append_right _ member))
    refine labelLines_alike wideLine fun full field member => told field ?_
    exact List.mem_append_left _ ((if_pos full).symm ▸ member)
  apart config sample field member := by
    intro same
    obtain ⟨lines, sent⟩ := report_parts same
    rcases List.mem_append.mp member with printed | summed
    · by_cases full : config.outputFormat = .full
      · rw [if_pos full] at printed
        have counted : countersOf ((record.announced tag description prelude summed recalls).bump
            sample field) record.member = bumped (countersOf sample record.member) field :=
          countersOf_holding ..
        rw [lines_eq, lines_eq, counted] at lines
        exact labelLines_apart full wideLine_tells printed lines
      · rw [if_neg full] at printed
        cases printed
    · exact sends.apart config sample field summed sent
  recalled recalls config sample same :=
    sends.recalled recalls config sample (report_parts same).2
  unported config field known := by
    rcases List.mem_append.mp known with own | told
    · exact unported field (List.mem_append_left _ own)
    rcases List.mem_append.mp told with printed | summed
    · split at printed
      · exact unported field (List.mem_append_right _ (List.mem_append_left _ printed))
      · cases printed
    · exact unported field (List.mem_append_right _ (List.mem_append_right _ summed))

end Records

section Sends

variable {prelude : Prelude} {member : DdosMember}

theorem labelled_sends (read : SFConfig → Decode Unit) (fields : List String)
    (labels : List (String × String)) :
    (labelledRecord read member fields labels).Sends prelude [] false where
  alike _ _ _ _ _ _ := rfl
  apart _ _ _ member := absurd member List.not_mem_nil
  recalled impossible := absurd impossible Bool.false_ne_true

theorem sentTags_alike {one two : SFSample} (same : prelude.Same member one two)
    (entry : prelude ≠ .bare) (columns columns6 : String) (args : List Arg) :
    sentTags two member columns columns6 args = sentTags one member columns columns6 args := by
  unfold sentTags
  rw [same.common entry, same.agent]

/-- A record that sends the sums of some rows, and behind them what its counters do not settle. -/
theorem sums_sends (record : StructRecord) (tags : SFSample → Line)
    (rows : List (String × List String)) (extra : SFConfig → SFSample → List Metric)
    (sent : ∀ config sample, record.sends config sample =
      [sumMetrics config (tags sample) (countersOf sample record.member) rows ++
        extra config sample])
    (tagged : ∀ one two, prelude.Same record.member one two → tags two = tags one)
    (added : ∀ config one two, prelude.Same record.member one two →
      extra config two = extra config one)
    (short : ∀ row ∈ rows, row.2.length < 2 ^ 64) :
    record.Sends prelude (rows.flatMap Prod.snd) false where
  alike config one two same _ told := by
    rw [sent, sent, tagged one two same, added config one two same, sumMetrics_alike _ told]
  apart config sample field summed same := by
    rw [sent, sent, countersOf_holding] at same
    have length : (sumMetrics config (tags (holdingCounters sample record.member
        (bumped (countersOf sample record.member) field)))
        (bumped (countersOf sample record.member) field) rows).length =
          (sumMetrics config (tags sample) (countersOf sample record.member) rows).length := by
      unfold sumMetrics
      rw [List.length_map, List.length_map]
    have sums := (List.append_inj (List.cons.inj same).1 length).1
    exact sumMetrics_apart _ summed short sums
  recalled impossible := absurd impossible Bool.false_ne_true

theorem deviceTags_alike {one two : SFSample} (same : prelude.Same member one two) :
    deviceTagsOf two = deviceTagsOf one := by
  unfold deviceTagsOf
  rw [same.agent]

theorem exported_sends (read : SFConfig → Decode Unit) (fields : List String)
    (labels : List (String × String)) (rows : List (String × List String))
    (short : ∀ row ∈ rows, row.2.length < 2 ^ 64) :
    (exportedRecord read member fields labels rows).Sends prelude (rows.flatMap Prod.snd) false :=
  sums_sends _ deviceTagsOf rows (fun _ _ => []) (fun _ _ => by rw [List.append_nil]; rfl)
    (fun _ _ same => deviceTags_alike same) (fun _ _ _ _ => rfl) short

theorem portTags_alike {title columns columns6 : String} {one two : SFSample}
    (same : (Prelude.port title).Same member one two) :
    sentTags two member columns columns6 [portArg (countersOf two member)] =
      sentTags one member columns columns6 [portArg (countersOf one member)] := by
  rw [sentTags_alike same nofun]
  unfold portArg
  rw [(same.port title rfl).1]

theorem httpT2_sends (title : String) :
    httpT2Record.Sends (.port title) (httpT2Metrics.flatMap Prod.snd) false :=
  sums_sends httpT2Record _ httpT2Metrics (fun _ _ => []) (fun _ _ => by rw [List.append_nil]; rfl)
    (fun _ _ same => portTags_alike same) (fun _ _ _ _ => rfl) (by decide)

theorem sslL4T2_sends (title : String) : sslL4T2Record.Sends (.port title)
    ["src_ssll4_drop_packet", "src_ssll4_policy_reset", "ssll4_drop_packet", "ssll4_policy_reset"]
    false :=
  sums_sends sslL4T2Record _
    [("ssl_dropped", ["src_ssll4_drop_packet", "src_ssll4_policy_reset"]),
      ("dst_ssl_dropped", ["ssll4_drop_packet", "ssll4_policy_reset"])]
    (fun _ _ => []) (fun _ _ => by rw [List.append_nil]; rfl)
    (fun _ _ same => portTags_alike same) (fun _ _ _ _ => rfl) (by decide)

theorem icmpT2_sends :
    icmpT2Record.Sends .entry (sflowDdosIpCounterIcmpT2Data.map Prod.fst) false := by
  have sends := @sums_sends .entry icmpT2Record (fun sample => sentTags sample .icmpPerip "" "" [])
    [("icmp_dropped", sflowDdosIpCounterIcmpT2Data.map Prod.fst)] (fun _ _ => [])
    (fun _ _ => by rw [List.append_nil]; rfl) (fun _ _ same => sentTags_alike same nofun _ _ _)
    (fun _ _ _ _ => rfl) (by decide)
  exact sends

theorem l4ExtT2_sends :
    l4ExtT2Record.Sends .entry (sflowDdosIpCounterL4ExtT2Data.map Prod.fst) false := by
  have sends := @sums_sends .entry l4ExtT2Record (fun sample => sentTags sample .l4ExtPerip "" "" [])
    (sflowDdosIpCounterL4ExtT2Data.map fun label => (label.1, [label.1])) (fun _ _ => [])
    (fun _ _ => by rw [List.append_nil]; rfl) (fun _ _ same => sentTags_alike same nofun _ _ _)
    (fun _ _ _ _ => rfl) (by decide)
  exact sends

/-- The DNS record also sends a static that nothing counts. -/
theorem dnsT2_sends (title : String) : dnsT2Record.Sends (.port title)
    (dnsDroppedFields ++ ["force_tcp_auth", "force_tcp_auth", "src_force_tcp_auth"]) false := by
  have tagged (one two : SFSample) (same : (Prelude.port title).Same .dnsPerip one two) :
      sentTags two .dnsPerip " port=%d app-type=%d" " port=%d app-type=%d"
          [portArg (countersOf two .dnsPerip), appTypeArg (countersOf two .dnsPerip)] =
        sentTags one .dnsPerip " port=%d app-type=%d" " port=%d app-type=%d"
          [portArg (countersOf one .dnsPerip), appTypeArg (countersOf one .dnsPerip)] := by
    rw [sentTags_alike same nofun]
    unfold portArg appTypeArg
    rw [(same.port title rfl).1, (same.port title rfl).2]
  refine sums_sends dnsT2Record _ [("dns_dropped", dnsDroppedFields),
    ("dst_force_tcp", ["force_tcp_auth"]), ("force_tcp", ["force_tcp_auth", "src_force_tcp_auth"])]
    (fun config sample => [metric config "dns_excl_src_dropped" _
      (dwordOf sample .dnsExclSrcDropped)]) (fun _ _ => rfl) tagged ?_ (by decide)
  intro config one two same
  rw [tagged one two same, same.excluded]

/-- Two sums that have no field in common. -/
theorem difference_apart (counters : String → UInt64) {field : String} {first second : List String}
    (summed : field ∈ first ++ second) (disjoint : ∀ field ∈ first, field ∉ second)
    (short : first.length < 2 ^ 64 ∧ second.length < 2 ^ 64) :
    sumOf (bumped counters field) first - sumOf (bumped counters field) second ≠
      sumOf counters first - sumOf counters second := by
  intro same
  rcases List.mem_append.mp summed with minuend | subtrahend
  · have kept : sumOf (bumped counters field) second = sumOf counters second :=
      sumOf_alike fun other member => bumped_other counters fun here =>
        disjoint field minuend (here ▸ member)
    rw [kept] at same
    exact sumOf_apart counters minuend short.1 (by grind)
  · have kept : sumOf (bumped counters field) first = sumOf counters first :=
      sumOf_alike fun other member => bumped_other counters fun here =>
        disjoint other member (here ▸ subtrahend)
    rw [kept] at same
    exact sumOf_apart counters subtrahend short.2 (by grind)

theorem ipProto_difference (counters : String → UInt64) : ipProtoDroppedOf counters =
    sumOf counters ["dst_other_drop"] - sumOf counters ipProtoSubtrahend := by
  unfold ipProtoDroppedOf sumOf ipProtoSubtrahend
  simp only [List.foldl_cons, List.foldl_nil]
  grind

/-- The rows between the two differences. -/
def rateRows : List (String × List String) :=
  [("dst_rates_dropped", dstRatesDroppedFields), ("port_wildcards_dropped", portWildcardsDroppedFields),
    ("src_rates_dropped", srcRatesDroppedFields)]

def authRows : List (String × List String) := [("src_auth_dropped", srcAuthDroppedFields)]

def routeRows : List (String × List String) := [("out_no_route", ["dst_out_no_route"])]

/-- The fields the metrics of an entry are made of. -/
def l4T2Summed : List String :=
  l4EntryMetrics.flatMap Prod.snd ++ (rateRows.flatMap Prod.snd ++
    ((portCmMinuend ++ portCmSubtrahend) ++ (authRows.flatMap Prod.snd ++
      ((["dst_other_drop"] ++ ipProtoSubtrahend) ++ routeRows.flatMap Prod.snd))))

theorem l4T2Metrics_eq (config : SFConfig) (tags : Line) (counters : String → UInt64) :
    l4T2Metrics config tags counters = sumMetrics config tags counters l4EntryMetrics ++
      (sumMetrics config tags counters rateRows ++
        metric config "port_cm_dropped" tags (portCmDroppedOf counters) ::
          (sumMetrics config tags counters authRows ++
            metric config "ip_proto_dropped" tags (ipProtoDroppedOf counters) ::
              sumMetrics config tags counters routeRows)) := rfl

theorem sumMetrics_length (config : SFConfig) (tags : Line) (counters : String → UInt64)
    (rows : List (String × List String)) :
    (sumMetrics config tags counters rows).length = rows.length := List.length_map _

theorem l4T2Metrics_alike (config : SFConfig) (tags : Line) {counters counters' : String → UInt64}
    (told : ∀ field ∈ l4T2Summed, counters' field = counters field) :
    l4T2Metrics config tags counters' = l4T2Metrics config tags counters := by
  unfold l4T2Summed at told
  simp only [List.forall_mem_append] at told
  obtain ⟨entry, rates, ⟨minuend, subtrahend⟩, auth, ⟨other, proto⟩, route⟩ := told
  rw [l4T2Metrics_eq, l4T2Metrics_eq, sumMetrics_alike tags entry, sumMetrics_alike tags rates,
    sumMetrics_alike tags auth, sumMetrics_alike tags route, ipProto_difference, ipProto_difference,
    sumOf_alike other, sumOf_alike proto]
  unfold portCmDroppedOf
  rw [sumOf_alike minuend, sumOf_alike subtrahend]

theorem l4T2Metrics_apart (config : SFConfig) {tags tags' : Line} (counters : String → UInt64)
    {field : String} (summed : field ∈ l4T2Summed) :
    l4T2Metrics config tags' (bumped counters field) ≠ l4T2Metrics config tags counters := by
  intro same
  rw [l4T2Metrics_eq, l4T2Metrics_eq] at same
  have length (rows : List (String × List String)) :
      (sumMetrics config tags' (bumped counters field) rows).length =
        (sumMetrics config tags counters rows).length := by
    rw [sumMetrics_length, sumMetrics_length]
  obtain ⟨entry, same⟩ := List.append_inj same (length l4EntryMetrics)
  obtain ⟨rates, same⟩ := List.append_inj same (length rateRows)
  obtain ⟨portCm, same⟩ := List.cons.inj same
  obtain ⟨auth, same⟩ := List.append_inj same (length authRows)
  obtain ⟨proto, route⟩ := List.cons.inj same
  have port := congrArg Metric.value portCm
  have other := congrArg Metric.value proto
  simp only [metric, ipProto_difference] at port other
  unfold l4T2Summed at summed
  rcases List.mem_append.mp summed with inEntry | summed
  · exact sumMetrics_apart counters inEntry (by decide) entry
  rcases List.mem_append.mp summed with inRates | summed
  · exact sumMetrics_apart counters inRates (by decide) rates
  rcases List.mem_append.mp summed with inPort | summed
  · exact difference_apart counters inPort (by decide +kernel) (by decide) port
  rcases List.mem_append.mp summed with inAuth | summed
  · exact sumMetrics_apart counters inAuth (by decide) auth
  rcases List.mem_append.mp summed with inProto | inRoute
  · exact difference_apart counters inProto (by decide +kernel) (by decide) other
  · exact sumMetrics_apart counters inRoute (by decide) route

theorem l4T2_sends : l4T2Record.Sends .entry l4T2Summed false where
  alike config one two same _ told := by
    have tags := sentTags_alike same nofun "" "" []
    have metrics := l4T2Metrics_alike config (sentTags one .l4Perip "" "" []) told
    exact congrArg (fun metrics => [metrics]) ((congrArg (fun tags => l4T2Metrics config tags
      (countersOf two .l4Perip)) tags).trans metrics)
  apart config sample field summed same := by
    have sent : l4T2Metrics config _ (countersOf (holdingCounters sample .l4Perip
        (bumped (countersOf sample .l4Perip) field)) .l4Perip) = _ := (List.cons.inj same).1
    rw [countersOf_holding] at sent
    exact l4T2Metrics_apart config _ summed sent
  recalled impossible := absurd impossible Bool.false_ne_true

/-- The fields the metrics of the brief record are made of. -/
def briefSummed : List String := briefMetrics.flatMap Prod.snd ++ ["ip_rcvd", "ipv6_rcvd"]

/-- What is left of the received packets by an anomaly record. -/
def anomalyPassed (config : SFConfig) (tags : Line) (counters : String → UInt64)
    (dropped : UInt64) : Metric :=
  metric config "packet_anomaly_passed" tags (counters "ip_rcvd" + counters "ipv6_rcvd" - dropped)

theorem brief_sends_eq (config : SFConfig) (sample : SFSample) : briefRecord.sends config sample =
    [sumMetrics config (deviceTagsOf sample) (countersOf sample .ddosBriefStats) briefMetrics ++
      [anomalyPassed config (deviceTagsOf sample) (countersOf sample .ddosBriefStats)
        (dwordOf sample .packetAnomalyDropped)]] := rfl

theorem received_apart (counters : String → UInt64) {field : String}
    (received : field ∈ ["ip_rcvd", "ipv6_rcvd"]) (dropped : UInt64) :
    bumped counters field "ip_rcvd" + bumped counters field "ipv6_rcvd" - dropped ≠
      counters "ip_rcvd" + counters "ipv6_rcvd" - dropped := by
  intro same
  have more := add_one_ne (counters "ip_rcvd" + counters "ipv6_rcvd" - dropped)
  rcases List.mem_cons.mp received with rfl | other
  · rw [bumped_self, bumped_other counters (by decide)] at same
    exact more (by grind)
  · cases List.mem_singleton.mp other
    rw [bumped_self, bumped_other counters (by decide)] at same
    exact more (by grind)

theorem brief_sends : briefRecord.Sends .bare briefSummed true where
  alike config one two same recalled told := by
    have counters : ∀ field ∈ briefSummed,
        countersOf two .ddosBriefStats field = countersOf one .ddosBriefStats field := told
    have sums := fun field member => counters field (List.mem_append_left _ member)
    rw [brief_sends_eq, brief_sends_eq, deviceTags_alike same, sumMetrics_alike _ sums, recalled rfl]
    unfold anomalyPassed
    rw [counters "ip_rcvd" (by decide), counters "ipv6_rcvd" (by decide)]
  apart config sample field summed same := by
    rw [brief_sends_eq, brief_sends_eq] at same
    have counted : countersOf (holdingCounters sample briefRecord.member
        (bumped (countersOf sample briefRecord.member) field)) .ddosBriefStats =
        bumped (countersOf sample .ddosBriefStats) field := countersOf_holding ..
    rw [counted] at same
    obtain ⟨sums, passed⟩ := List.append_inj' (List.cons.inj same).1 rfl
    rcases List.mem_append.mp summed with inRows | received
    · exact sumMetrics_apart _ inRows (by decide) sums
    · exact received_apart _ received _ (congrArg Metric.value (List.cons.inj passed).1)
  recalled _ config sample same := by
    rw [brief_sends_eq, brief_sends_eq] at same
    obtain ⟨-, passed⟩ := List.append_inj' (List.cons.inj same).1 rfl
    have value := congrArg Metric.value (List.cons.inj passed).1
    have held : dwordOf (holdingDword sample .packetAnomalyDropped
        (dwordOf sample .packetAnomalyDropped + 1)) .packetAnomalyDropped =
        dwordOf sample .packetAnomalyDropped + 1 := @State.assigned_store collector _ _ _
    simp only [anomalyPassed, metric, held, countersOf_holdingDword] at value
    exact add_one_ne (dwordOf sample .packetAnomalyDropped) (by grind)

end Sends

section Narrow

/-- The lines of a record over 32-bit words, in parts with a heading. -/
def partLines (config : SFConfig) (parts : List (List Line × List (String × String)))
    (counters : String → UInt64) : List Event :=
  parts.flatMap fun part =>
    part.1.flatMap (logEvents config) ++ labelLines config narrowLine counters part.2

variable {config : SFConfig} {buffer : Buffer} {sample : SFSample} {member : DdosMember}

theorem partLines_alike {parts : List (List Line × List (String × String))}
    {counters counters' : String → UInt64}
    (same : config.outputFormat = .full → ∀ field ∈ parts.flatMap fun part => part.2.map Prod.fst,
      counters' field = counters field) :
    partLines config parts counters' = partLines config parts counters := by
  unfold partLines
  refine List.flatMap_congr fun part known => ?_
  refine congrArg (part.1.flatMap (logEvents config) ++ ·) (labelLines_alike narrowLine ?_)
  exact fun full field labelled => same full field (List.mem_flatMap.mpr ⟨part, known, labelled⟩)

theorem partLines_apart (full : config.outputFormat = .full)
    {parts : List (List Line × List (String × String))} (counters : String → UInt64) {field : String}
    (labelled : field ∈ parts.flatMap fun part => part.2.map Prod.fst) :
    partLines config parts (bumped counters field) ≠ partLines config parts counters := by
  induction parts with
  | nil => cases labelled
  | cons part rest ih =>
      intro same
      have split (counters : String → UInt64) : partLines config (part :: rest) counters =
          part.1.flatMap (logEvents config) ++ labelLines config narrowLine counters part.2 ++
            partLines config rest counters := List.flatMap_cons
      rw [split, split] at same
      have length : (part.1.flatMap (logEvents config) ++
          labelLines config narrowLine (bumped counters field) part.2).length =
          (part.1.flatMap (logEvents config) ++
            labelLines config narrowLine counters part.2).length := by
        rw [List.length_append, List.length_append, labelLines_length]
      obtain ⟨here, later⟩ := List.append_inj same length
      rcases List.mem_append.mp (List.flatMap_cons ▸ labelled) with inPart | inRest
      · exact labelLines_apart full narrowLine_tells inPart (List.append_cancel_left here)
      · exact ih inRest later

theorem emits_logCountersU32 (labels : List (String × String)) :
    (run buffer (logCountersU32 config member labels) sample).Emits () sample
      (labelLines config narrowLine (countersOf sample member) labels) := by
  unfold logCountersU32
  refine emits_behind buffer _ _ (@emits_get collector buffer (.counters member) sample) ?_
  exact emits_forM buffer _ _ (fun _ => emits_sfLog _ _) labels

theorem emits_sfLogString (text : String) :
    (run buffer (sfLogString config text) sample).Emits () sample
      (logEvents config ⟨"%s", [.name text]⟩) := emits_sfLog _ _

/-- What the copy of a record longer than its struct reports. -/
def noticesU32 (config : SFConfig) (fields : List String) (sample : SFSample) : List Event :=
  (mismatchTrace config ⟨"Counter Length mismatch detected for %s, continuing...", []⟩
    (4 * fields.length) sample).map Stamped.event

theorem emits_populateU32 {fields : List String} (copyable : Copyable buffer 4 fields sample) :
    (run buffer (populateSflowStructU32 config member fields) sample).Emits ()
      (behindRecord buffer 4 member fields (4 * fields.length) sample)
      (noticesU32 config fields sample) := by
  have copy : run buffer (populateSflowStructU32 config member fields) sample = _ :=
    run_populateStruct reads_getData32 copyable
  rw [copy]
  exact ⟨⟨rfl, rfl⟩, rfl⟩

/-- A record over 32-bit words as the dispatch knows it. -/
def narrowRecord (tag : UInt32) (description : String) (member : DdosMember)
    (fields : List String) (read : SFConfig → Decode Unit)
    (parts : List (List Line × List (String × String))) : CopiedRecord where
  tag
  description
  prelude := .bare
  member
  width := 4
  fields
  read
  report config sample := partLines config parts (countersOf sample member)
  printed := parts.flatMap fun part => part.2.map Prod.fst
  summed := []
  recalls := false

theorem narrow_tells {tag : UInt32} {description : String} {fields : List String}
    {read rest : SFConfig → Decode Unit} {parts : List (List Line × List (String × String))}
    (reads : ∀ config, read config =
      (populateSflowStructU32 config member fields >>= fun _ => rest config))
    (shown : ∀ config buffer sample, (run buffer (rest config) sample).Displays
      (partLines config parts (countersOf sample member)))
    (dispatched : ∀ config length, readCounterElementBody config tag length =
      (sflDdosDescription description >>= fun _ => read config))
    (plain : ∀ part ∈ parts, ∀ line ∈ part.1, (Event.log line).isNotice = false)
    (unported : ∀ field ∈ fields ++ parts.flatMap fun part => part.2.map Prod.fst,
      field ≠ "port" ∧ field ≠ "app_type") :
    (narrowRecord tag description member fields read parts).Tells where
  dispatched
  copied config buffer sample copyable := by
    refine ⟨noticesU32 config fields sample, ?_, ?_⟩
    · intro event member
      unfold noticesU32 mismatchTrace at member
      split at member
      · rw [logTrace_events] at member
        unfold logEvents at member
        split at member
        · cases List.mem_singleton.mp member
          rfl
        · cases member
      · cases member
    · show (run buffer (read config) sample).Displays _
      rw [reads]
      exact displays_bind buffer _ _ (emits_populateU32 copyable) (shown config buffer _)
  stopped config buffer sample blocked := by
    obtain ⟨reason, final, stopped⟩ := populateStruct_stops config
      ⟨"Counter Length mismatch detected for %s, continuing...", []⟩
      ⟨"[%s-%d] Invalid parse length detected.\n", [.name "populate_sflow_struct_u32", .word 4250]⟩
      member (4 * fields.length) reads_getData32 blocked
    have copy : run buffer (populateSflowStructU32 config member fields) sample = _ := stopped
    refine ⟨reason, ?_⟩
    show (run buffer (read config) sample).outcome = _
    rw [reads, run_seq, copy]
    rfl
  plain config sample event known := by
    obtain ⟨part, inParts, known⟩ := List.mem_flatMap.mp known
    rcases List.mem_append.mp known with heading | line
    · obtain ⟨line, inPart, logged⟩ := List.mem_flatMap.mp heading
      unfold logEvents at logged
      split at logged
      · cases List.mem_singleton.mp logged
        exact plain part inParts line inPart
      · cases logged
    · exact labelLines_plain (fun _ _ => rfl) _ _ event line
  alike config one two same _ told :=
    partLines_alike fun full field known => told field
      (List.mem_append_left _ ((if_pos full).symm ▸ known))
  apart config sample field known same := by
    have printed := (List.mem_append.mp known).resolve_right List.not_mem_nil
    by_cases full : config.outputFormat = .full
    · rw [if_pos full] at printed
      refine partLines_apart full (countersOf sample member) printed (Eq.trans ?_ same)
      exact congrArg (partLines config parts) (countersOf_holding ..).symm
    · rw [if_neg full] at printed
      cases printed
  recalled impossible := absurd impossible Bool.false_ne_true
  unported config field known := by
    rcases List.mem_append.mp known with own | told
    · exact unported field (List.mem_append_left _ own)
    have printed := (List.mem_append.mp told).resolve_right List.not_mem_nil
    split at printed
    · exact unported field (List.mem_append_right _ printed)
    · cases printed

end Narrow

section Dispatch

theorem readPortEntry_eq (config : SFConfig) (member : DdosMember) (description title : String)
    (readStats : Decode Unit) :
    readPortEntry config member description (readCountersIpCounterPort config member title)
        readStats =
      ((Prelude.port title).program config member description >>= fun _ => readStats) := by
  unfold readPortEntry described Prelude.program
  simp only [LawfulMonad.bind_assoc]

theorem readPlainEntry_eq (config : SFConfig) (member : DdosMember) (description : String)
    (readStats : Decode Unit) :
    readPlainEntry config member description readStats =
      (Prelude.entry.program config member description >>= fun _ => readStats) := by
  unfold readPlainEntry described Prelude.program
  simp only [LawfulMonad.bind_assoc]

/-- Where the decoder of a record is found, what it reads first, and what it sends. -/
structure Announcement where
  tag : UInt32
  description : String
  prelude : Prelude
  summed : List String
  recalls : Bool

def globalAnnouncements : List Announcement :=
  [⟨enterpriseA10 1, "Sflow DDoS generic Global Ctrs", .bare, [], false⟩,
   ⟨enterpriseA10 3, "Sflow DDoS HTTP Global Ctrs", .bare,
     ["ddos_policy_violation", "challenge_ud_sent", "challenge_js_sent"], false⟩,
   ⟨enterpriseA10 4, "Sflow DDoS DNS Global Ctrs", .bare, ["force_tcp_auth"], false⟩,
   ⟨enterpriseA10 9, "Sflow DDoS Anomaly Global Ctrs", .bare,
     sflowDdosAnomalyCounters.map Prod.fst, false⟩,
   ⟨enterpriseA10 64, "Sflow DDoS Polling Packet Ctrs", .bare, [], false⟩,
   ⟨enterpriseA10 10, "Sflow DDoS SSL-L4 Global Ctrs", .bare,
     ["ssll4_policy_reset", "ssll4_drop_packet"], false⟩,
   ⟨enterpriseA10 21, "Sflow DDoS L4 TCP Global Ctrs", .bare,
     ["tcp_syncookie_sent", "tcp_syncookie_sent_fail", "tcp_invalid_syn_rcvd"], false⟩,
   ⟨enterpriseA10 22, "Sflow DDoS L4 UDP Global Ctrs", .bare, [], false⟩,
   ⟨enterpriseA10 24, "Sflow DDoS L4 Other Global Ctrs", .bare, [], false⟩,
   ⟨enterpriseA10 23, "Sflow DDoS L4 ICMP Global Ctrs", .bare, [], false⟩,
   ⟨enterpriseA10 25, "Sflow DDoS Switch Global Ctrs", .bare, [], false⟩,
   ⟨enterpriseA10 28, "Sflow DDoS session Global Ctrs", .bare, [], false⟩,
   ⟨enterpriseA10 26, "Sflow DDoS Sync Global Ctrs", .bare, [], false⟩,
   ⟨enterpriseA10 27, "Sflow DDoS Tunnel Global Ctrs", .bare, [], false⟩,
   ⟨enterpriseA10 29, "Sflow DDoS Table Global Ctrs", .bare, [], false⟩,
   ⟨enterpriseA10 31, "Sflow DDoS Detailed Global Ctrs", .bare, [], false⟩]

def entryAnnouncements : List Announcement :=
  [⟨enterpriseA10 5, "Sflow DDoS HTTP Per-entry Ctrs", .port "Port:",
     httpT2Metrics.flatMap Prod.snd, false⟩,
   ⟨enterpriseA10 11, "Sflow DDoS SSL-L4 Per-entry Ctrs", .port "Port:",
     ["src_ssll4_drop_packet", "src_ssll4_policy_reset", "ssll4_drop_packet", "ssll4_policy_reset"],
     false⟩,
   ⟨enterpriseA10 6, "Sflow DDoS DNS Per-entry Ctrs", .port "Port:",
     dnsDroppedFields ++ ["force_tcp_auth", "force_tcp_auth", "src_force_tcp_auth"], false⟩,
   ⟨enterpriseA10 12, "Sflow DDoS ICMP Per-entry Ctrs", .entry,
     sflowDdosIpCounterIcmpT2Data.map Prod.fst, false⟩,
   ⟨enterpriseA10 7, "Sflow DDoS General Per-entry Ctrs", .entry, l4T2Summed, false⟩,
   ⟨enterpriseA10 16, "Sflow DDoS Extended Per-entry Ctrs", .entry,
     sflowDdosIpCounterL4ExtT2Data.map Prod.fst, false⟩,
   ⟨enterpriseA10 13, "Sflow DDoS UDP Per-entry Ctrs", .port "Port:", [], false⟩,
   ⟨enterpriseA10 14, "Sflow DDoS TCP Per-entry Ctrs", .port "Port:", [], false⟩,
   ⟨enterpriseA10 15, "Sflow DDoS OTHER Per-entry Ctrs", .port "IP-Proto:", [], false⟩]

def StructRecord.announcedBy (record : StructRecord) (row : Announcement) : CopiedRecord :=
  record.announced row.tag row.description row.prelude row.summed row.recalls

def pollingL4Record : CopiedRecord :=
  narrowRecord (enterpriseA10 65) "Sflow DDoS Polling L4 protocol Ctrs" .pollingL4
    (sflowDdosL4Counters.map Prod.fst) readCountersDdosPollingL4Protocol [([], sflowDdosL4Counters)]

def pollingTcpBasicRecord : CopiedRecord :=
  narrowRecord (enterpriseA10 66) "Sflow DDoS Polling TCP basic Ctrs" .pollingTcpBasic
    ((sflowDdosTcpBasicCounterDir "rcvd" ++ sflowDdosTcpBasicCounterDir "sent").map Prod.fst)
    readCountersDdosPollingTcpBasic
    [([⟨"%s", [.name "RECEIVED:\n"]⟩], sflowDdosTcpBasicCounterDir "rcvd"),
     ([⟨"%s", [.name "SENT:\n"]⟩], sflowDdosTcpBasicCounterDir "sent")]

/-- The DDoS records that are copied. -/
def copiedRecords : List CopiedRecord :=
  briefRecord.announced (enterpriseA10 30) "Sflow DDoS Brief Global Ctrs" .bare briefSummed true ::
    pollingL4Record :: pollingTcpBasicRecord ::
    (List.zipWith StructRecord.announcedBy globalRecords globalAnnouncements ++
      List.zipWith StructRecord.announcedBy entryRecords entryAnnouncements)

theorem brief_tells : (briefRecord.announced (enterpriseA10 30) "Sflow DDoS Brief Global Ctrs" .bare
    briefSummed true).Tells :=
  announced_tells brief_reports brief_sends (fun _ _ => rfl) (by decide +kernel)

theorem pollingL4_tells : pollingL4Record.Tells := by
  refine narrow_tells (fun _ => rfl) (fun config buffer sample => ?_) (fun _ _ => rfl)
    (by decide) (by decide +kernel)
  have parts : partLines config [([], sflowDdosL4Counters)] (countersOf sample .pollingL4) =
      labelLines config narrowLine (countersOf sample .pollingL4) sflowDdosL4Counters := by
    unfold partLines
    simp only [List.flatMap_cons, List.flatMap_nil, List.nil_append, List.append_nil]
  rw [parts]
  exact (emits_logCountersU32 sflowDdosL4Counters).displays

theorem pollingTcpBasic_tells : pollingTcpBasicRecord.Tells := by
  refine narrow_tells (fun _ => rfl) (fun config buffer sample => ?_) (fun _ _ => rfl)
    (by decide) (by decide +kernel)
  have parts : partLines config
      [([⟨"%s", [.name "RECEIVED:\n"]⟩], sflowDdosTcpBasicCounterDir "rcvd"),
       ([⟨"%s", [.name "SENT:\n"]⟩], sflowDdosTcpBasicCounterDir "sent")]
      (countersOf sample .pollingTcpBasic) =
      logEvents config ⟨"%s", [.name "RECEIVED:\n"]⟩ ++
        (labelLines config narrowLine (countersOf sample .pollingTcpBasic)
          (sflowDdosTcpBasicCounterDir "rcvd") ++
        (logEvents config ⟨"%s", [.name "SENT:\n"]⟩ ++
          labelLines config narrowLine (countersOf sample .pollingTcpBasic)
            (sflowDdosTcpBasicCounterDir "sent"))) := by
    unfold partLines
    simp only [List.flatMap_cons, List.flatMap_nil, List.append_nil, List.append_assoc]
  rw [parts]
  refine displays_bind buffer _ _ (emits_sfLogString "RECEIVED:\n") ?_
  refine displays_bind buffer _ _ (emits_logCountersU32 _) ?_
  refine displays_bind buffer _ _ (emits_sfLogString "SENT:\n") ?_
  exact (emits_logCountersU32 _).displays

theorem globalRecords_tell : ∀ record ∈ List.zipWith StructRecord.announcedBy globalRecords
    globalAnnouncements, record.Tells := by
  unfold globalRecords globalAnnouncements
  simp only [List.zipWith_cons_cons, List.zipWith_nil_left, List.forall_mem_cons, List.not_mem_nil,
    false_imp_iff, implies_true, and_true]
  refine ⟨?_, ?_, ?_, ?_, ?_, ?_, ?_, ?_, ?_, ?_, ?_, ?_, ?_, ?_, ?_, ?_⟩
  · exact announced_tells (labelled_reports .l4 _ _) (labelled_sends _ _ _) (fun _ _ => rfl)
      (by decide +kernel)
  · exact announced_tells (exported_reports .http _ _ _) (exported_sends _ _ _ _ (by decide))
      (fun _ _ => rfl) (by decide +kernel)
  · exact announced_tells (exported_reports .dns _ _ _) (exported_sends _ _ _ _ (by decide))
      (fun _ _ => rfl) (by decide +kernel)
  · exact announced_tells anomaly_reports (exported_sends _ _ _ _ (by decide))
      (fun _ _ => rfl) (by decide +kernel)
  · exact announced_tells (labelled_reports .pollingPackets _ _) (labelled_sends _ _ _)
      (fun _ _ => rfl) (by decide +kernel)
  · exact announced_tells (exported_reports .sslL4 _ _ _) (exported_sends _ _ _ _ (by decide))
      (fun _ _ => rfl) (by decide +kernel)
  · exact announced_tells (exported_reports .l4Tcp _ _ _) (exported_sends _ _ _ _ (by decide))
      (fun _ _ => rfl) (by decide +kernel)
  · exact announced_tells (labelled_reports .l4Udp _ _) (labelled_sends _ _ _) (fun _ _ => rfl)
      (by decide +kernel)
  · exact announced_tells (labelled_reports .l4Other _ _) (labelled_sends _ _ _) (fun _ _ => rfl)
      (by decide +kernel)
  · exact announced_tells (labelled_reports .l4Icmp _ _) (labelled_sends _ _ _) (fun _ _ => rfl)
      (by decide +kernel)
  · exact announced_tells (labelled_reports .l4Switch _ _) (labelled_sends _ _ _) (fun _ _ => rfl)
      (by decide +kernel)
  · exact announced_tells (labelled_reports .l4Session _ _) (labelled_sends _ _ _) (fun _ _ => rfl)
      (by decide +kernel)
  · exact announced_tells (labelled_reports .l4Sync _ _) (labelled_sends _ _ _) (fun _ _ => rfl)
      (by decide +kernel)
  · exact announced_tells (labelled_reports .l4Tunnel _ _) (labelled_sends _ _ _) (fun _ _ => rfl)
      (by decide +kernel)
  · exact announced_tells (labelled_reports .entryTable _ _) (labelled_sends _ _ _)
      (fun _ _ => rfl) (by decide +kernel)
  · exact announced_tells (labelled_reports .ddosLongStats _ _) (labelled_sends _ _ _)
      (fun _ _ => rfl) (by decide +kernel)

theorem entryRecords_tell : ∀ record ∈ List.zipWith StructRecord.announcedBy entryRecords
    entryAnnouncements, record.Tells := by
  unfold entryRecords entryAnnouncements
  simp only [List.zipWith_cons_cons, List.zipWith_nil_left, List.forall_mem_cons, List.not_mem_nil,
    false_imp_iff, implies_true, and_true]
  refine ⟨?_, ?_, ?_, ?_, ?_, ?_, ?_, ?_, ?_⟩
  · exact announced_tells httpT2_reports (httpT2_sends "Port:")
      (fun config _ => readPortEntry_eq config _ _ _ _) (by decide +kernel)
  · exact announced_tells sslL4T2_reports (sslL4T2_sends "Port:")
      (fun config _ => readPortEntry_eq config _ _ _ _) (by decide +kernel)
  · exact announced_tells dnsT2_reports (dnsT2_sends "Port:")
      (fun config _ => readPortEntry_eq config _ _ _ _) (by decide +kernel)
  · exact announced_tells icmpT2_reports icmpT2_sends
      (fun config _ => readPlainEntry_eq config _ _ _) (by decide +kernel)
  · exact announced_tells l4T2_reports l4T2_sends
      (fun config _ => readPlainEntry_eq config _ _ _) (by decide +kernel)
  · exact announced_tells l4ExtT2_reports l4ExtT2_sends
      (fun config _ => readPlainEntry_eq config _ _ _) (by decide +kernel)
  · exact announced_tells (labelled_reports .udpPerip _ _) (labelled_sends _ _ _)
      (fun config _ => readPortEntry_eq config _ _ _ _) (by decide +kernel)
  · exact announced_tells (labelled_reports .tcpPerip _ _) (labelled_sends _ _ _)
      (fun config _ => readPortEntry_eq config _ _ _ _) (by decide +kernel)
  · exact announced_tells (labelled_reports .otherPerip _ _) (labelled_sends _ _ _)
      (fun config _ => readPortEntry_eq config _ _ _ _) (by decide +kernel)

theorem copiedRecords_tell : ∀ record ∈ copiedRecords, record.Tells := by
  intro record known
  rcases List.mem_cons.mp known with rfl | known
  · exact brief_tells
  rcases List.mem_cons.mp known with rfl | known
  · exact pollingL4_tells
  rcases List.mem_cons.mp known with rfl | known
  · exact pollingTcpBasic_tells
  rcases List.mem_append.mp known with global | entry
  · exact globalRecords_tell record global
  · exact entryRecords_tell record entry

end Dispatch

end SflowTool
