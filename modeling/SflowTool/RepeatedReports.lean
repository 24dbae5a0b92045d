import SflowTool.ToldCounters
import SflowTool.RejectedCounters
import SflowTool.SampleEncodings
import SflowTool.GenericCounters

/-! The report of a DDoS record, whatever came before it in the datagram. It is the same after
anything just where all that the record tells is on the wire: a counter that a short record does
not carry is told as an earlier record of its kind left it, and the brief record always sends what
the last anomaly record left. -/
namespace SflowTool
open Decoding Decoding.Decoder

section Wire

variable {config : SFConfig} {buffer other : Buffer} {left right : Nat}

/-- What was received from one place in both buffers, by its place behind it. -/
theorem wordFrom_same (same : buffer.SameRest other left right) (offset : Nat)
    (room : left + offset + 4 ≤ buffer.length) :
    wordFrom other (right + offset) = wordFrom buffer (left + offset) := by
  unfold wordFrom
  rw [same.slice offset 4 room]

theorem halfFrom_same (same : buffer.SameRest other left right) (offset : Nat)
    (room : left + offset + 2 ≤ buffer.length) :
    halfFrom other (right + offset) = halfFrom buffer (left + offset) := by
  unfold halfFrom
  rw [same.slice offset 2 room]

theorem addressFrom_same (same : buffer.SameRest other left right) (ipType : UInt32) (offset : Nat)
    (room : left + offset + 16 ≤ buffer.length) :
    addressFrom other ipType (right + offset) = addressFrom buffer ipType (left + offset) := by
  unfold addressFrom
  rw [same.slice offset 4 (by omega), same.slice offset 16 room]

theorem commonFrom_same (same : buffer.SameRest other left right) (offset : Nat)
    (room : left + offset + 48 ≤ buffer.length) :
    commonFrom config other (right + offset) = commonFrom config buffer (left + offset) := by
  unfold commonFrom
  simp only [Nat.add_assoc]
  rw [wordFrom_same same offset (by omega), wordFrom_same same (offset + 4) (by omega),
    wordFrom_same same (offset + 8) (by omega), addressFrom_same same _ (offset + 12) (by omega),
    addressFrom_same same _ (offset + 28) (by omega), halfFrom_same same (offset + 44) (by omega),
    halfFrom_same same (offset + 46) (by omega)]

/-- The words of a struct that are copied are the same whatever it held. -/
theorem copied_same (same : buffer.SameRest other left right) {width : Nat} {field : String}
    (fields : List String) (known : field ∈ fields) (offset : Nat)
    (room : left + offset + width * fields.length ≤ buffer.length)
    (counters counters' : String → UInt64) :
    copied other width fields (right + offset) counters' field =
      copied buffer width fields (left + offset) counters field := by
  induction fields generalizing offset counters counters' with
  | nil => cases known
  | cons head tail ih =>
      rw [List.length_cons, Nat.mul_succ] at room
      unfold copied
      rw [Nat.add_assoc right, Nat.add_assoc left]
      by_cases later : field ∈ tail
      · exact ih later (offset + width) (by omega) _ _
      · have here : field = head := (List.mem_cons.mp known).resolve_right later
        subst here
        rw [copied_other _ _ _ _ later, copied_other _ _ _ _ later, Function.update_self,
          Function.update_self]
        unfold bigEndian
        rw [same.slice offset width (by omega)]

theorem sameRest_moved (same : buffer.SameRest other left right) (count : Nat)
    (room : left + count ≤ buffer.length) :
    buffer.SameRest other (left + count) (right + count) := by
  obtain ⟨rest, here, there, bytes⟩ := same.received
  refine ⟨⟨rest - count, by omega, by omega, fun index bound => ?_⟩, same.small⟩
  rw [Nat.add_assoc, Nat.add_assoc]
  exact bytes (count + index) (by omega)

theorem holds_same (same : buffer.SameRest other left right) {bytes : List UInt8}
    (holds : buffer.Holds left bytes) : other.Holds right bytes := by
  obtain ⟨rest, here, there, _⟩ := same.received
  have room := holds.room
  refine ⟨by omega, ?_⟩
  exact (same.slice 0 bytes.length room).trans holds.2

/-- Nothing is behind a place in a buffer but what is behind it. -/
theorem sameRest_refl (small : buffer.length < 2 ^ 32 - 3) (room : left ≤ buffer.length) :
    buffer.SameRest buffer left left :=
  ⟨⟨buffer.length - left, by omega, by omega, fun _ _ => rfl⟩, small, small⟩

end Wire

section Accepted

namespace CopiedRecord

variable (record : CopiedRecord)

/-- The length that is left for the counters, as the copy takes it. -/
def leftover (length : UInt32) : Nat := (length - record.prelude.size).toNat % 65536

/-- The counters a record of a length carries. -/
def carried (length : UInt32) : List String :=
  record.fields.take (record.leftover length / record.width)

/-- The decoder accepts a record of a length: its prelude was received and leaves something of
it, and that is of whole words, which were received as far as the struct has room. -/
structure Accepts (buffer : Buffer) (start : Nat) (length : UInt32) : Prop where
  leaves : record.prelude.Leaves length
  prelude : record.prelude.size = 0 ∨ start + record.prelude.size.toNat ≤ buffer.length
  words : record.leftover length ≠ 0 ∧ record.leftover length % record.width = 0
  received : record.carried length ≠ [] → start + record.prelude.size.toNat +
    record.width * (record.carried length).length ≤ buffer.length

/-- All that the record tells is on the wire. -/
structure Carries (config : SFConfig) (length : UInt32) : Prop where
  nothing : record.recalls = false
  counters : ∀ field ∈ record.told config, field ∈ record.carried length

end CopiedRecord

/-- All that is shown of a record but the notice that it is longer than its struct. -/
def shownOf (events : List Event) : List Event := events.filter fun event => !event.isNotice

theorem shownOf_notices {notices : List Event} (all : ∀ event ∈ notices, event.isNotice = true) :
    shownOf notices = [] := by
  refine List.filter_eq_nil_iff.mpr fun event member shown => ?_
  rw [all event member] at shown
  cases shown

theorem shownOf_plain {events : List Event} (none : ∀ event ∈ events, event.isNotice = false) :
    shownOf events = events := by
  refine List.filter_eq_self.mpr fun event member => ?_
  rw [none event member]
  rfl

variable {config : SFConfig} {buffer : Buffer} {sample middle : SFSample} {record : CopiedRecord}
  {length : UInt32}

/-- What the prelude leaves is what the copy starts with. -/
theorem copyable_behind
    (read : Prelude.Read config buffer record.member record.prelude sample middle)
    (context : wordOf sample .currentContextLength = length) :
    Copyable buffer record.width record.fields middle ↔
      (record.leftover length ≠ 0 ∧ record.leftover length % record.width = 0) ∧
        (record.carried length ≠ [] → sample.cursor + record.prelude.size.toNat +
          record.width * (record.carried length).length ≤ buffer.length) := by
  have parse : parseLengthOf middle = record.leftover length := by
    unfold parseLengthOf CopiedRecord.leftover
    rw [read.context, context]
  unfold Copyable carriedFields CopiedRecord.carried
  rw [parse, read.cursor, and_assoc]

/-- A record whose decoder returns was accepted. -/
theorem accepts_of_returned (tells : record.Tells)
    (context : wordOf sample .currentContextLength = length)
    (returned : (run buffer (readCounterElementBody config record.tag length) sample).outcome =
      .ok ()) : record.Accepts buffer sample.cursor length := by
  rw [tells.dispatched] at returned
  obtain ⟨_, middle, prelude, later⟩ := returned_bind buffer _ _ returned
  obtain ⟨header, leaves⟩ := prelude_returned record.description record.prelude prelude.outcome
  obtain ⟨final, yields, read⟩ := prelude_reads record.description record.prelude header leaves
  cases yields_reach yields prelude
  have copyable : Copyable buffer record.width record.fields middle := by
    by_contra blocked
    obtain ⟨reason, stopped⟩ := tells.stopped config buffer middle blocked
    cases stopped.symm.trans later
  obtain ⟨words, received⟩ := (copyable_behind read context).mp copyable
  exact ⟨context ▸ leaves, header, words, received⟩

/-- A record that is accepted is reported as it stands behind its copy. -/
theorem accepted_reports (tells : record.Tells)
    (context : wordOf sample .currentContextLength = length)
    (accepts : record.Accepts buffer sample.cursor length) :
    ∃ middle, Prelude.Read config buffer record.member record.prelude sample middle ∧
      (run buffer (readCounterElementBody config record.tag length) sample).outcome = .ok () ∧
      shownOf (eventsOf (run buffer (readCounterElementBody config record.tag length) sample)) =
        shownOf (eventsOf (run buffer
          (record.prelude.program config record.member record.description) sample)) ++
          record.report config (record.behind buffer middle) := by
  obtain ⟨middle, yields, read⟩ := prelude_reads record.description record.prelude accepts.prelude
    (context ▸ accepts.leaves)
  have copyable := (copyable_behind read context).mpr ⟨accepts.words, accepts.received⟩
  obtain ⟨notices, all, value, final, ended, shown⟩ := tells.copied config buffer middle copyable
  refine ⟨middle, read, ?_⟩
  have prelude : (run buffer (record.prelude.program config record.member record.description)
      sample).Emits () middle (eventsOf (run buffer
        (record.prelude.program config record.member record.description) sample)) := ⟨yields, rfl⟩
  obtain ⟨whole, events⟩ := emits_bind buffer _ (fun _ => record.read config) prelude ⟨ended, shown⟩
  rw [tells.dispatched]
  refine ⟨whole.outcome, ?_⟩
  refine (congrArg shownOf events).trans ?_
  unfold shownOf
  rw [List.filter_append, List.filter_append, ← shownOf, ← shownOf, ← shownOf,
    shownOf_notices all, shownOf_plain (tells.plain config _), List.nil_append]

end Accepted

section Behind

variable {config : SFConfig} {buffer other : Buffer} {one two middle middle' : SFSample}
  {record : CopiedRecord} {length : UInt32}

/-- The copy changes the struct of the record and nothing else. -/
theorem behind_store (var : Var) (foreign : var ≠ .counters record.member) :
    (record.behind buffer middle).store var = middle.store var := Function.update_of_ne foreign _ _

theorem behind_kept (read : Prelude.Read config buffer record.member record.prelude one middle)
    (var : Var) (kept : ¬Prelude.sets record.member var) :
    (record.behind buffer middle).store var = one.store var :=
  (behind_store var (unset_by kept).2.1).trans (read.other var kept)

theorem behind_counters
    (read : Prelude.Read config buffer record.member record.prelude one middle)
    (context : wordOf one .currentContextLength = length) :
    countersOf (record.behind buffer middle) record.member =
      copied buffer record.width (record.carried length) (one.cursor + record.prelude.size.toNat)
        (countersOf middle record.member) := by
  have parse : parseLengthOf middle = record.leftover length := by
    unfold parseLengthOf CopiedRecord.leftover
    rw [read.context, context]
  rw [CopiedRecord.behind, countersOf_behindRecord, read.cursor, carriedFields, parse]
  rfl

/-- A counter the record does not carry is the one that was there before. -/
theorem behind_uncarried (tells : record.Tells)
    (read : Prelude.Read config buffer record.member record.prelude one middle)
    (context : wordOf one .currentContextLength = length) {field : String}
    (known : field ∈ record.told config) (uncarried : field ∉ record.carried length) :
    countersOf (record.behind buffer middle) record.member field =
      countersOf one record.member field := by
  obtain ⟨notPort, notType⟩ := tells.unported config field (List.mem_append_right _ known)
  rw [behind_counters read context, copied_other _ _ _ _ uncarried]
  exact read.counters field notPort notType

theorem behind_unported (tells : record.Tells)
    (read : Prelude.Read config buffer record.member record.prelude one middle)
    (context : wordOf one .currentContextLength = length) {field : String}
    (ported : field = "port" ∨ field = "app_type") :
    countersOf (record.behind buffer middle) record.member field =
      countersOf middle record.member field := by
  rw [behind_counters read context]
  refine copied_other _ _ _ _ fun known => ?_
  have own := tells.unported config field (List.mem_append_left _ (List.mem_of_mem_take known))
  exact ported.elim own.1 own.2

/-- A counter it does carry is on the wire. -/
theorem behind_carried (same : buffer.SameRest other one.cursor two.cursor)
    (accepts : record.Accepts buffer one.cursor length)
    (read : Prelude.Read config buffer record.member record.prelude one middle)
    (read' : Prelude.Read config other record.member record.prelude two middle')
    (context : wordOf one .currentContextLength = length)
    (context' : wordOf two .currentContextLength = length) {field : String}
    (carried : field ∈ record.carried length) :
    countersOf (record.behind other middle') record.member field =
      countersOf (record.behind buffer middle) record.member field := by
  rw [behind_counters read context, behind_counters read' context']
  exact copied_same same _ carried _ (accepts.received (List.ne_nil_of_mem carried)) _ _

/-- What is the same of the datagram in both runs. -/
structure SameDatagram (one two : SFSample) : Prop where
  agent : addressOf two .agentAddr = addressOf one .agentAddr
  excluded : dwordOf two .dnsExclSrcDropped = dwordOf one .dnsExclSrcDropped

theorem prelude_room (accepts : record.Accepts buffer one.cursor length)
    (entry : record.prelude ≠ .bare) : one.cursor + 48 ≤ buffer.length := by
  have room := accepts.prelude
  cases prelude : record.prelude with
  | bare => exact absurd prelude entry
  | entry =>
      rw [prelude] at room
      exact room.resolve_left (by decide)
  | port title =>
      rw [prelude] at room
      have received : one.cursor + 52 ≤ buffer.length :=
        room.resolve_left (show commonSize + 4 ≠ 0 by decide)
      omega

theorem port_room (accepts : record.Accepts buffer one.cursor length) {title : String}
    (isPort : record.prelude = .port title) : one.cursor + 52 ≤ buffer.length := by
  have room := accepts.prelude
  rw [isPort] at room
  exact room.resolve_left (show commonSize + 4 ≠ 0 by decide)

/-- The tags of what is sent are on the wire. -/
theorem behind_tags (tells : record.Tells) (same : buffer.SameRest other one.cursor two.cursor)
    (datagram : SameDatagram one two) (accepts : record.Accepts buffer one.cursor length)
    (read : Prelude.Read config buffer record.member record.prelude one middle)
    (read' : Prelude.Read config other record.member record.prelude two middle')
    (context : wordOf one .currentContextLength = length)
    (context' : wordOf two .currentContextLength = length) :
    record.prelude.Same record.member (record.behind buffer middle)
      (record.behind other middle') where
  agent := by
    have kept : ¬Prelude.sets record.member (.address .agentAddr) := by simp [Prelude.sets]
    exact (behind_kept read' _ kept).trans (datagram.agent.trans (behind_kept read _ kept).symm)
  excluded := by
    have kept : ¬Prelude.sets record.member (.dword .dnsExclSrcDropped) := by simp [Prelude.sets]
    exact (behind_kept read' _ kept).trans (datagram.excluded.trans (behind_kept read _ kept).symm)
  common entry := by
    have first : commonOf (record.behind buffer middle) record.member =
        commonOf middle record.member := behind_store (.common record.member) nofun
    have second : commonOf (record.behind other middle') record.member =
        commonOf middle' record.member := behind_store (.common record.member) nofun
    rw [first, second, read.common entry, read'.common entry]
    exact commonFrom_same same 0 (prelude_room accepts entry)
  port title isPort := by
    have room := port_room accepts isPort
    obtain ⟨port, appType⟩ := read.port title isPort
    obtain ⟨port', appType'⟩ := read'.port title isPort
    rw [behind_unported tells read context (.inl rfl), behind_unported tells read' context' (.inl rfl),
      behind_unported tells read context (.inr rfl), behind_unported tells read' context' (.inr rfl),
      port, port', appType, appType', halfFrom_same same 48 (by omega),
      halfFrom_same same 50 (by omega)]
    exact ⟨rfl, rfl⟩

theorem accepts_same (same : buffer.SameRest other one.cursor two.cursor)
    (accepts : record.Accepts buffer one.cursor length) :
    record.Accepts other two.cursor length where
  leaves := accepts.leaves
  prelude := by
    obtain ⟨rest, here, there, _⟩ := same.received
    exact accepts.prelude.imp_right fun room => by omega
  words := accepts.words
  received more := by
    obtain ⟨rest, here, there, _⟩ := same.received
    have room := accepts.received more
    omega

theorem abreast_own (datagram : SameDatagram one two)
    (context : wordOf one .currentContextLength = length)
    (context' : wordOf two .currentContextLength = length) :
    Abreast Own one.cursor two.cursor one two := by
  refine ⟨⟨0, rfl, rfl⟩, ?_⟩
  intro var known
  unfold Own at known
  split at known
  · exact context'.trans context.symm
  · exact datagram.agent
  · exact datagram.excluded
  · exact known.elim

/-- The prelude shows the same whatever came before. -/
theorem preludes_alike (same : buffer.SameRest other one.cursor two.cursor)
    (datagram : SameDatagram one two) (context : wordOf one .currentContextLength = length)
    (context' : wordOf two .currentContextLength = length) :
    eventsOf (run other (record.prelude.program config record.member record.description) two) =
      eventsOf (run buffer (record.prelude.program config record.member record.description) one) := by
  exact (run_oblivious same _ one two (abreast_own datagram context context')).events

/-- A record whose told counters are on the wire is reported the same after anything. -/
theorem body_repeats (tells : record.Tells) (same : buffer.SameRest other one.cursor two.cursor)
    (datagram : SameDatagram one two) (context : wordOf one .currentContextLength = length)
    (context' : wordOf two .currentContextLength = length) (carries : record.Carries config length)
    (accepts : record.Accepts buffer one.cursor length) :
    shownOf (eventsOf (run other (readCounterElementBody config record.tag length) two)) =
      shownOf (eventsOf (run buffer (readCounterElementBody config record.tag length) one)) := by
  obtain ⟨middle, read, -, shown⟩ := @accepted_reports config _ _ _ _ tells context accepts
  obtain ⟨middle', read', -, shown'⟩ :=
    @accepted_reports config _ _ _ _ tells context' (accepts_same same accepts)
  have tags := behind_tags tells same datagram accepts read read' context context'
  have report : record.report config (record.behind other middle') =
      record.report config (record.behind buffer middle) := by
    refine tells.alike config _ _ tags (fun recalls => ?_) fun field told => ?_
    · cases carries.nothing.symm.trans recalls
    · exact behind_carried same accepts read read' context context' (carries.counters field told)
  rw [shown, shown', preludes_alike same datagram context context', report]

/-- The state before a record from which it is reported otherwise: a counter it tells but does not
carry, or what the brief record recalls, is counted on by one. -/
inductive Distinguishes (record : CopiedRecord) (config : SFConfig) (length : UInt32)
    (one two : SFSample) : Prop where
  | recalled (recalls : record.recalls = true)
      (dropped : dwordOf two .packetAnomalyDropped = dwordOf one .packetAnomalyDropped + 1)
      (counters : countersOf two record.member = countersOf one record.member)
  | uncarried (field : String) (told : field ∈ record.told config)
      (lacks : field ∉ record.carried length)
      (dropped : dwordOf two .packetAnomalyDropped = dwordOf one .packetAnomalyDropped)
      (counters : countersOf two record.member = bumped (countersOf one record.member) field)

/-- Of what is told, the counters that are not carried are as before. -/
theorem told_counters (tells : record.Tells) (same : buffer.SameRest other one.cursor two.cursor)
    (accepts : record.Accepts buffer one.cursor length)
    (read : Prelude.Read config buffer record.member record.prelude one middle)
    (read' : Prelude.Read config other record.member record.prelude two middle')
    (context : wordOf one .currentContextLength = length)
    (context' : wordOf two .currentContextLength = length) {field : String}
    (told : field ∈ record.told config) :
    countersOf (record.behind other middle') record.member field =
      if field ∈ record.carried length then
        countersOf (record.behind buffer middle) record.member field
      else countersOf two record.member field := by
  split
  · next carried => exact behind_carried same accepts read read' context context' carried
  · next uncarried => exact behind_uncarried tells read' context' told uncarried

theorem body_differs (tells : record.Tells) (same : buffer.SameRest other one.cursor two.cursor)
    (datagram : SameDatagram one two) (context : wordOf one .currentContextLength = length)
    (context' : wordOf two .currentContextLength = length)
    (distinguishes : Distinguishes record config length one two)
    (accepts : record.Accepts buffer one.cursor length) :
    shownOf (eventsOf (run other (readCounterElementBody config record.tag length) two)) ≠
      shownOf (eventsOf (run buffer (readCounterElementBody config record.tag length) one)) := by
  obtain ⟨middle, read, -, shown⟩ := @accepted_reports config _ _ _ _ tells context accepts
  obtain ⟨middle', read', -, shown'⟩ :=
    @accepted_reports config _ _ _ _ tells context' (accepts_same same accepts)
  have tags := behind_tags tells same datagram accepts read read' context context'
  have kept : ¬Prelude.sets record.member (.dword .packetAnomalyDropped) := by simp [Prelude.sets]
  have dropped : dwordOf (record.behind buffer middle) .packetAnomalyDropped =
      dwordOf one .packetAnomalyDropped := behind_kept read _ kept
  have dropped' : dwordOf (record.behind other middle') .packetAnomalyDropped =
      dwordOf two .packetAnomalyDropped := behind_kept read' _ kept
  intro repeats
  rw [shown, shown', preludes_alike same datagram context context'] at repeats
  have report := List.append_cancel_left repeats
  cases distinguishes with
  | recalled recalls more counters =>
      -- the second run reports as if the first one had recalled one more
      refine tells.recalled recalls config (record.behind buffer middle) (Eq.trans ?_ report)
      have tags' : record.prelude.Same record.member (holdingDword (record.behind buffer middle)
          .packetAnomalyDropped (dwordOf (record.behind buffer middle) .packetAnomalyDropped + 1))
          (record.behind other middle') := ⟨tags.agent, tags.excluded, tags.common, tags.port⟩
      refine (tells.alike config _ _ tags' (fun _ => ?_) fun field told => ?_).symm
      · have held : dwordOf (holdingDword (record.behind buffer middle) .packetAnomalyDropped
            (dwordOf (record.behind buffer middle) .packetAnomalyDropped + 1))
            .packetAnomalyDropped = dwordOf (record.behind buffer middle) .packetAnomalyDropped + 1 :=
          @State.assigned_store collector _ _ _
        rw [held, dropped, dropped', more]
      · rw [told_counters tells same accepts read read' context context' told,
          countersOf_holdingDword]
        split
        · rfl
        · next lacks => rw [counters, behind_uncarried tells read context told lacks]
  | uncarried field told lacks equal counters =>
      -- or as if one more had been counted
      have held : countersOf (record.bump (record.behind buffer middle) field) record.member =
          bumped (countersOf (record.behind buffer middle) record.member) field :=
        countersOf_holding ..
      obtain ⟨notPort, notType⟩ := tells.unported config field (List.mem_append_right _ told)
      refine tells.apart config (record.behind buffer middle) field told (Eq.trans ?_ report)
      have tags' : record.prelude.Same record.member (record.bump (record.behind buffer middle) field)
          (record.behind other middle') := by
        refine ⟨tags.agent, tags.excluded, tags.common, fun title isPort => ?_⟩
        rw [held, bumped_other _ notPort.symm, bumped_other _ notType.symm]
        exact tags.port title isPort
      refine (tells.alike config _ _ tags' (fun _ => ?_) fun other told => ?_).symm
      · exact dropped'.trans (equal.trans dropped.symm)
      · rw [told_counters tells same accepts read read' context context' told, held]
        split
        · next carried =>
            refine (bumped_other _ ?_).symm
            rintro rfl
            exact lacks carried
        · next uncarried =>
            have before := behind_uncarried tells read context told uncarried
            rw [counters]
            by_cases here : other = field
            · subst here
              rw [bumped_self, bumped_self, before]
            · rw [bumped_other _ here, bumped_other _ here, before]

end Behind

section Elements

variable {config : SFConfig} {buffer other : Buffer} {one two : SFSample} {tag length : UInt32}

/-- The sample where the decoder of a record is called: behind its tag and its length. -/
def enteredRecord (sample : SFSample) (length : UInt32) : SFSample :=
  State.marked (holding (State.moved (State.moved sample 4) 4) .currentContextLength length) .start

/-- What is shown of a record before its decoder is called. -/
def elementOpening (config : SFConfig) (tag : UInt32) : List Event :=
  logEvents config ⟨"%-35s %s\n", [.name "counterBlock_tag", .tag tag]⟩ ++
    [.print ⟨"format %lu == id ==%lu \n", [.word (htonl tag &&& 0xfff), .word (htonl tag >>> 12)]⟩,
     .print ⟨"format %lu == id ==%lu \n", [.word (tag &&& 0xfff), .word (tag >>> 12)]⟩,
     .print ⟨"!!!!!!!!!!!tag == %lu; tag1 = %lu\n", [.word tag, .word (htonl tag)]⟩]

/-- A part that returns, and what it has shown. -/
theorem events_behind {α β : Type} {program : Decode α} {next : α → Decode β} {value : α}
    {sample middle : SFSample} {before : List Event}
    (emitted : (run buffer program sample).Emits value middle before) :
    eventsOf (run buffer (program >>= next) sample) =
        before ++ eventsOf (run buffer (next value) middle) ∧
      (run buffer (program >>= next) sample).outcome = (run buffer (next value) middle).outcome := by
  rw [run_seq]
  generalize run buffer program sample = first at emitted ⊢
  obtain ⟨outcome, reached, trace, notes⟩ := first
  obtain ⟨⟨returned, ended⟩, shown⟩ := emitted
  cases returned
  cases ended
  refine ⟨?_, rfl⟩
  unfold eventsOf
  simp only [Run.bind, Run.after, List.map_append]
  exact congrArg (· ++ _) shown

theorem shown_behind {α β : Type} {program : Decode α} {next : α → Decode β} {value : α}
    {sample middle : SFSample} {performed : Run collector β} {before after : List Event}
    (emitted : (run buffer program sample).Emits value middle before)
    (rest : eventsOf (run buffer (next value) middle) = after ++ eventsOf performed ∧
      (run buffer (next value) middle).outcome = performed.outcome) :
    eventsOf (run buffer (program >>= next) sample) = before ++ after ++ eventsOf performed ∧
      (run buffer (program >>= next) sample).outcome = performed.outcome := by
  obtain ⟨events, outcome⟩ := @events_behind buffer _ _ _ next _ _ _ _ emitted
  rw [events, rest.1, List.append_assoc]
  exact ⟨rfl, outcome.trans rest.2⟩

theorem note_behind (program : Decode Unit) (mark : Note) (sample : SFSample) :
    eventsOf (run buffer (program >>= fun _ => Decoder.note mark) sample) =
        eventsOf (run buffer program sample) ∧
      (run buffer (program >>= fun _ => Decoder.note mark) sample).outcome =
        (run buffer program sample).outcome := by
  rw [run_seq]
  generalize run buffer program sample = first
  obtain ⟨outcome, reached, trace, notes⟩ := first
  cases outcome with
  | error reason => exact ⟨rfl, rfl⟩
  | ok value =>
      refine ⟨?_, rfl⟩
      show List.map Stamped.event (trace ++ []) = _
      rw [List.append_nil]
      rfl

/-- A record is shown by what comes before its decoder, and by that. -/
theorem element_shown (wire : buffer.Holds one.cursor ([tag, length].flatMap be32)) :
    eventsOf (run buffer (readCounterElement config) one) = elementOpening config tag ++
        eventsOf (run buffer (readCounterElementBody config tag length) (enteredRecord one length)) ∧
      (run buffer (readCounterElement config) one).outcome =
        (run buffer (readCounterElementBody config tag length) (enteredRecord one length)).outcome := by
  have printed (line : Line) (sample : SFSample) :
      (run buffer (@Decoder.emit collector (.print line)) sample).Emits () sample [.print line] :=
    ⟨⟨rfl, rfl⟩, rfl⟩
  obtain ⟨first, wire⟩ := run_word buffer tag [length] _ one wire
  unfold readCounterElement elementOpening
  rw [first]
  refine shown_behind (emits_sfLog _ _) ?_
  rw [(run_word buffer length [] _ _ wire).1]
  refine @shown_behind _ _ _ _ _ _ _ _ _ [] _ (emits_setWord .currentContextLength length) ?_
  refine @shown_behind _ _ _ _ _ _ _ _ _ [] _ ⟨⟨rfl, rfl⟩, rfl⟩ ?_
  refine @shown_behind _ _ _ _ _ _ _ _ _ [] _ ⟨⟨rfl, rfl⟩, rfl⟩ ?_
  refine shown_behind (printed _ _) (shown_behind (printed _ _) (shown_behind (printed _ _) ?_))
  exact note_behind _ _ _

/-- The tags of the DDoS counter records: those that first set the description, and the
indicators of a destination. -/
def ddosTags (config : SFConfig) : List UInt32 :=
  (ddosCounterDecoders config).map Prod.fst ++ [80, 81, 82, 83, 84].map enterpriseA10

/-- The formats of the records that are copied. -/
def copiedFormats : List UInt32 :=
  [30, 65, 66, 1, 3, 4, 9, 64, 10, 21, 22, 24, 23, 25, 28, 26, 27, 29, 31, 5, 11, 6, 12, 7, 16, 13,
    14, 15]

theorem copiedRecords_tags :
    copiedRecords.map CopiedRecord.tag = copiedFormats.map enterpriseA10 := rfl

/-- The formats of the DDoS counter records. -/
def ddosFormats : List UInt32 :=
  [1, 2, 3, 4, 9, 5, 6, 7, 16, 8, 60, 64, 65, 66, 67, 68, 10, 11, 12, 13, 14, 15, 21, 22, 23, 24,
    25, 26, 27, 28, 29, 30, 31, 80, 81, 82, 83, 84]

theorem formats_known (format : UInt32) (known : format ∈ ddosFormats) :
    format ∈ [2, 8, 60, 67, 68, 80, 81, 82, 83, 84] ∨ format ∈ copiedFormats := by
  have covered : (ddosFormats.all fun format =>
      [2, 8, 60, 67, 68, 80, 81, 82, 83, 84].contains format || copiedFormats.contains format) =
        true := by decide +kernel
  have here := List.all_eq_true.mp covered format known
  rw [Bool.or_eq_true, List.contains_iff_mem, List.contains_iff_mem] at here
  exact here

theorem ddosTags_known (ddos : tag ∈ ddosTags config) :
    tag ∈ fieldwiseTags ∨ tag ∈ copiedRecords.map CopiedRecord.tag := by
  have formats : ddosTags config = ddosFormats.map enterpriseA10 := rfl
  rw [formats] at ddos
  obtain ⟨format, known, rfl⟩ := List.mem_map.mp ddos
  rw [copiedRecords_tags]
  exact (formats_known format known).imp List.mem_map_of_mem List.mem_map_of_mem

/-- A record is reported the same, whatever datagram of the agent it comes in and whatever was
decoded there before it. -/
def Repeats (config : SFConfig) (buffer : Buffer) (start : Nat) : Prop :=
  ∀ (other : Buffer) (one two : SFSample), one.cursor = start →
    buffer.SameRest other start two.cursor → SameDatagram one two →
    (run buffer (readCounterElement config) one).outcome = .ok () →
    shownOf (eventsOf (run other (readCounterElement config) two)) =
      shownOf (eventsOf (run buffer (readCounterElement config) one))

/-- If the record is copied and accepted, all that it tells is on the wire. -/
def CarriesTold (config : SFConfig) (buffer : Buffer) (start : Nat) (tag length : UInt32) : Prop :=
  ∀ record ∈ copiedRecords, record.tag = tag → record.Accepts buffer (start + 8) length →
    record.Carries config length

theorem shownOf_append (before after : List Event) :
    shownOf (before ++ after) = shownOf before ++ shownOf after := List.filter_append ..

/-- Where something that is told is not on the wire, two samples before the record tell it. -/
theorem distinguished {record : CopiedRecord} (one : SFSample)
    (lacks : ¬record.Carries config length) : ∃ two : SFSample, two.cursor = one.cursor ∧
      Distinguishes record config length (enteredRecord one length) (enteredRecord two length) ∧
      SameDatagram one two := by
  by_cases recalls : record.recalls = true
  · refine ⟨holdingDword one .packetAnomalyDropped (dwordOf one .packetAnomalyDropped + 1), rfl,
      .recalled recalls ?_ rfl, ⟨rfl, rfl⟩⟩
    exact @State.assigned_store collector one (.dword .packetAnomalyDropped) _
  · have uncarried : ∃ field ∈ record.told config, field ∉ record.carried length := by
      by_contra all
      have all : ∀ field ∈ record.told config, field ∈ record.carried length := fun field told =>
        not_not.mp fun absent => all ⟨field, told, absent⟩
      exact lacks ⟨Bool.eq_false_iff.mpr recalls, all⟩
    obtain ⟨field, told, absent⟩ := uncarried
    refine ⟨record.bump one field, rfl, .uncarried field told absent rfl ?_, ⟨rfl, rfl⟩⟩
    exact countersOf_holding one record.member _

theorem entered_context (sample : SFSample) (length : UInt32) :
    wordOf (enteredRecord sample length) .currentContextLength = length :=
  wordOf_holding_self (State.moved (State.moved sample 4) 4) .currentContextLength length

theorem entered_datagram (datagram : SameDatagram one two) :
    SameDatagram (enteredRecord one length) (enteredRecord two length) :=
  ⟨datagram.agent, datagram.excluded⟩

/-- Two records that open alike are shown alike just if their decoders show the same. -/
theorem elements_shown (wire : buffer.Holds one.cursor ([tag, length].flatMap be32))
    (rest : buffer.SameRest other one.cursor two.cursor) :
    shownOf (eventsOf (run other (readCounterElement config) two)) =
        shownOf (eventsOf (run buffer (readCounterElement config) one)) ↔
      shownOf (eventsOf (run other (readCounterElementBody config tag length)
          (enteredRecord two length))) =
        shownOf (eventsOf (run buffer (readCounterElementBody config tag length)
          (enteredRecord one length))) := by
  rw [(@element_shown config buffer one tag length wire).1,
    (@element_shown config other two tag length (holds_same rest wire)).1, shownOf_append,
    shownOf_append]
  exact List.append_right_inj _

/-- A DDoS counter record is reported the same after anything just if it carries what it tells. -/
theorem reports_repeat_iff (config : SFConfig) (buffer : Buffer) (start : Nat) (tag length : UInt32)
    (ddos : tag ∈ ddosTags config) (small : buffer.length < 2 ^ 32 - 3)
    (wire : buffer.Holds start ([tag, length].flatMap be32)) :
    Repeats config buffer start ↔ CarriesTold config buffer start tag length := by
  have room : start + 8 ≤ buffer.length := wire.room
  constructor
  · intro repeats record known isTag accepts
    have tells := copiedRecords_tell record known
    by_contra lacks
    -- a sample as it may stand before the record, and one from which that is told apart
    obtain ⟨one, at_start⟩ : ∃ one : SFSample, one.cursor = start :=
      ⟨{ firstSample with cursor := start }, rfl⟩
    subst at_start isTag
    obtain ⟨two, place, distinguishes, datagram⟩ := distinguished one lacks
    have same : buffer.SameRest buffer one.cursor two.cursor := by
      rw [place]
      exact sameRest_refl small (by omega)
    obtain ⟨_, _, returned, _⟩ := @accepted_reports config buffer (enteredRecord one length) record
      length tells (entered_context one length) accepts
    have outcome := (@element_shown config buffer one record.tag length wire).2.trans returned
    refine body_differs tells (sameRest_moved same 8 room) (entered_datagram datagram)
      (entered_context one length) (entered_context two length) distinguishes accepts ?_
    exact (elements_shown wire same).mp (repeats buffer one two rfl same datagram outcome)
  · intro carries other one two place rest datagram returned
    subst place
    have behind := sameRest_moved rest 8 room
    have entered : SameDatagram (enteredRecord one length) (enteredRecord two length) :=
      entered_datagram datagram
    refine (elements_shown wire rest).mpr ?_
    rcases ddosTags_known ddos with fieldwise | copied
    · have unmindful := @fieldwise_unmindful config tag length fieldwise
      exact congrArg shownOf (@run_oblivious collector _ buffer other _ _ behind Own _ unmindful
        (enteredRecord one length) (enteredRecord two length) (abreast_own entered
          (entered_context one length) (entered_context two length))).events
    · obtain ⟨record, known, rfl⟩ := List.mem_map.mp copied
      have tells := copiedRecords_tell record known
      have accepts : record.Accepts buffer (one.cursor + 8) length :=
        accepts_of_returned tells (entered_context one length)
          ((@element_shown config buffer one record.tag length wire).2.symm.trans returned)
      exact body_repeats tells behind entered (entered_context one length)
        (entered_context two length) (carries record known rfl accepts) accepts

/-- An entry with ICMP counters of one each, all seven of them or only the first. -/
def icmpRecord (counters : Nat) : List UInt32 :=
  [enterpriseA10 12, 48 + 8 * UInt32.ofNat counters] ++ List.replicate 12 0 ++
    (List.replicate counters [0, 1]).flatten

/-- An entry with all of them, and behind it one with a single counter. -/
def icmpRecords : Buffer := datagramOf (icmpRecord 7 ++ icmpRecord 1)

/-- The sample behind the first of the two. -/
def behindIcmpRecord : SFSample :=
  (run icmpRecords (readCounterElement (defaultConfig .full)) firstSample).state

theorem behindIcmpRecord_cursor : behindIcmpRecord.cursor = 112 := by decide +kernel

theorem icmpRecords_rest : (datagramOf (icmpRecord 1)).SameRest icmpRecords 0 112 where
  received := ⟨64, by decide +kernel, by decide +kernel, by decide +kernel⟩
  small := ⟨by decide +kernel, by decide +kernel⟩

/-- The values of the metrics that are sent. -/
def sentValues (events : List Event) : List UInt64 :=
  events.flatMap fun event =>
    match event with
    | .opentsdb lines => lines.map Metric.value
    | _ => []

/-- The other six counters are sent and printed as the record before left them. -/
theorem short_record_recalls : ¬Repeats (defaultConfig .full) (datagramOf (icmpRecord 1)) 0 := by
  intro repeats
  have same : (datagramOf (icmpRecord 1)).SameRest icmpRecords 0 behindIcmpRecord.cursor := by
    rw [behindIcmpRecord_cursor]
    exact icmpRecords_rest
  have datagram : SameDatagram firstSample behindIcmpRecord :=
    ⟨by decide +kernel, by decide +kernel⟩
  have returned : (run (datagramOf (icmpRecord 1)) (readCounterElement (defaultConfig .full))
    firstSample).outcome = .ok () := by decide +kernel
  have repeated := repeats icmpRecords firstSample behindIcmpRecord rfl same datagram returned
  have sent : sentValues (shownOf (eventsOf (run icmpRecords
      (readCounterElement (defaultConfig .full)) behindIcmpRecord))) = [7] := by decide +kernel
  have alone : sentValues (shownOf (eventsOf (run (datagramOf (icmpRecord 1))
      (readCounterElement (defaultConfig .full)) firstSample))) = [1] := by decide +kernel
  rw [repeated, alone] at sent
  exact absurd sent (by decide)

theorem full_icmp_carries : (copiedRecords.all fun record =>
    !(record.tag == enterpriseA10 12) || (!record.recalls &&
      (record.told (defaultConfig .full)).all (record.carried 104).contains)) = true := by
  decide +kernel

/-- An entry with all of its counters is reported the same after anything. -/
theorem full_record_repeats : Repeats (defaultConfig .full) (datagramOf (icmpRecord 7)) 0 := by
  have known : enterpriseA10 12 ∈ ddosTags (defaultConfig .full) := by decide +kernel
  have small : (datagramOf (icmpRecord 7)).length < 2 ^ 32 - 3 := by decide +kernel
  have wire : (datagramOf (icmpRecord 7)).Holds 0 ([enterpriseA10 12, 104].flatMap be32) :=
    ⟨by decide +kernel, by decide +kernel⟩
  refine (reports_repeat_iff (defaultConfig .full) (datagramOf (icmpRecord 7)) 0 (enterpriseA10 12)
    104 known small wire).mpr fun record copied isTag _ => ?_
  have carries := List.all_eq_true.mp full_icmp_carries record copied
  rw [isTag, beq_self_eq_true, Bool.not_true, Bool.false_or, Bool.and_eq_true,
    Bool.not_eq_true'] at carries
  refine ⟨carries.1, fun field told => ?_⟩
  exact List.contains_iff_mem.mp (List.all_eq_true.mp carries.2 field told)

end Elements

end SflowTool
