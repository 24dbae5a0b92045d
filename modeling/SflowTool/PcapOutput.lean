import SflowTool.FlowSequence
import SflowTool.PcapByteOrder
import SflowTool.StandardOutput

/-! The pcap file that the pcap format writes to standard output: a file header and a record for
each flow sample the filter lets through, over all datagrams. Read again it gives back what was
sampled, packet by packet. A packet of which nothing was captured is written as well, and ends
the reading: an item of no bytes does not count as read. -/
namespace SflowTool
open Decoding Decoding.Decoder

section Writing

/-- The file header, in the byte order of the host. -/
def writePcapHeader : List UInt8 :=
  le32 tcpdumpMagic ++ le16 2 ++ le16 4 ++ le32 0 ++ le32 0 ++ le32 128 ++ le32 1

namespace PcapPacket

def header (packet : PcapPacket) : List UInt8 :=
  le32 packet.tsSec ++ le32 0 ++ le32 packet.caplen ++ le32 packet.len

def padding (packet : PcapPacket) : List UInt8 := List.replicate packet.pad.toNat 0

def octets (packet : PcapPacket) : List UInt8 :=
  packet.header ++ packet.padding ++ packet.captured

def zeroPadSize : Nat := 100

/-- The record is put together in a buffer of 2048 bytes, and padded from an array of zeros.
Neither size is checked. -/
structure Fits (packet : PcapPacket) : Prop where
  room : pcapPkthdrSize + packet.pad.toNat + packet.caplen.toNat ≤ pcapBufSize
  zeros : packet.pad.toNat ≤ zeroPadSize

/-- As many bytes are captured as the record says, and it is padded as the options say. -/
structure Shaped (pad : UInt32) (packet : PcapPacket) : Prop where
  captured : packet.captured.length = packet.caplen.toNat
  pad : packet.pad = pad

end PcapPacket

/-- What an event puts on standard output. How a line of text looks is left open. -/
def Event.written (text : Event → List UInt8) : Event → List UInt8
  | .pcapPacket packet => packet.octets
  | event => if event.onStdout then text event else []

def Event.packet : Event → Option PcapPacket
  | .pcapPacket packet => some packet
  | _ => none

/-- The packets of a run, in their order. -/
def packetsOf {α : Type} (decoded : Run collector α) : List PcapPacket :=
  (eventsOf decoded).filterMap Event.packet

/-- Standard output of a session: the file header is written before the first datagram. -/
def pcapOutput (config : SFConfig) (text : Event → List UInt8)
    (decodes : List (Run collector Unit)) : List UInt8 :=
  writePcapHeader ++ decodes.flatMap fun decoded =>
    (receivedEvents config decoded).flatMap (Event.written text)

end Writing

section Shapes
variable {config : SFConfig}

/-- Operations that write no packet. -/
def PacketlessOp : Op collector → Prop
  | .emit (.pcapPacket _) => False
  | _ => True

instance : Permits PacketlessOp where
  take _ _ := trivial
  skip _ := trivial
  errout _ := trivial
  note _ _ _ _ _ := trivial
  abort _ _ := trivial
instance : PermitsNames PacketlessOp where
  lookup _ _ := trivial
instance : PermitsFilter PacketlessOp where
  lookup _ := trivial
instance : PermitsState PacketlessOp where
  get _ := trivial
  set _ _ := trivial
  mark _ _ := trivial
  peek _ _ _ := trivial
  since _ := trivial
instance : PermitsLog config PacketlessOp where
  log _ _ := trivial
instance : PermitsOctets PacketlessOp where
  take _ := trivial
instance : PermitsIteration PacketlessOp where
  note := trivial
instance : PermitsHeader PacketlessOp where
  note _ := trivial
  exit _ := trivial
instance : PermitsReport PacketlessOp where
  survey := trivial
  report _ _ _ _ := trivial
instance : PermitsPrint PacketlessOp where
  print _ := trivial
instance : PermitsMetrics PacketlessOp where
  opentsdb _ := trivial
instance : PermitsJump PacketlessOp where
  jump _ := trivial
instance : PermitsFlexible PacketlessOp where
  peekText _ _ := trivial
  write _ _ _ := trivial
  writeObject _ _ _ _ := trivial
  read _ _ := trivial
instance : PermitsNetFlow PacketlessOp where
  tick _ := trivial
  netFlow _ := trivial
  netFlowSpoofed _ _ := trivial

/-- Every packet that is written is in shape. -/
def AllShaped (config : SFConfig) (shown : Shown collector) : Prop :=
  ∀ packet, Event.pcapPacket packet ∈ shown.events → packet.Shaped config.tcpdumpHdrPad

instance : Sequential (AllShaped config) where
  nothing _ member := absurd member List.not_mem_nil
  append first second _ earlier later packet member :=
    (List.mem_append.mp member).elim (earlier packet) (later packet)

instance : Harmless (AllShaped config) PacketlessOp where
  single op allow buffer state packet member := by
    cases op with
    | take count => simp only [perform] at member; split at member <;> cases member
    | skip count => simp only [perform] at member; split at member <;> cases member
    | emit event =>
        have written : Event.pcapPacket packet = event := List.mem_singleton.mp member
        subst written
        exact allow.elim
    | _ => cases member

/-! Counted once for each way it is handed on, as before. -/
set_option synthInstance.maxSize 1000000000000

instance (name : Mark) : Uses PacketlessOp (@Decoder.mark collector name) := uses_single _ trivial
instance (mark : Note) : Uses PacketlessOp (@Decoder.note collector mark) := uses_single _ trivial
instance : Uses PacketlessOp (@Decoder.survey collector) := uses_single _ trivial

instance : Uses PacketlessOp writeFlowLine := by
  have emitted (row : FlowLine) : Uses PacketlessOp (@Decoder.emit collector (.flowLine row)) :=
    uses_single _ trivial
  unfold writeFlowLine
  infer_instance

instance : Uses PacketlessOp writeCountersLine := by
  have emitted (row : CountersLine) :
      Uses PacketlessOp (@Decoder.emit collector (.countersLine row)) := uses_single _ trivial
  unfold writeCountersLine
  infer_instance

instance : Uses PacketlessOp (readFlowElement config) := by
  unfold readFlowElement
  infer_instance

instance (remaining : Nat) : Uses PacketlessOp (readFlowElements config remaining) := by
  induction remaining with
  | zero => exact .pure ()
  | succ remaining ih =>
      unfold readFlowElements
      infer_instance

instance : Uses PacketlessOp (readCounterElement config) := by
  have printed (tag : UInt32) : Uses PacketlessOp (printEnterprise tag) := by
    unfold printEnterprise
    infer_instance
  unfold readCounterElement
  infer_instance

instance (remaining : Nat) : Uses PacketlessOp (readCounterElements config remaining) := by
  induction remaining with
  | zero => exact .pure ()
  | succ remaining ih =>
      unfold readCounterElements
      infer_instance

instance (expanded : Bool) : Uses PacketlessOp (readCountersSample config expanded) := by
  unfold readCountersSample
  infer_instance
instance : Uses PacketlessOp (readCountersSampleV2v4 config) := by
  unfold readCountersSampleV2v4
  infer_instance
instance (expanded : Bool) : Uses PacketlessOp (decodeFlowSample config expanded) := by
  unfold decodeFlowSample
  infer_instance
instance : Uses PacketlessOp (decodeFlowSampleV2v4 config) := by
  unfold decodeFlowSampleV2v4
  infer_instance

/-- The one place where a packet is written. -/
instance : Always (AllShaped config) (writePcapPacket config) where
  all buffer sample packet member := by
    rw [run_writePcapPacket] at member
    cases List.mem_singleton.mp member
    exact ⟨Buffer.length_slice _ _ _, rfl⟩

instance : Always (AllShaped config) (emitFlowSample config) := by
  unfold emitFlowSample
  refine @always_bind _ _ _ _ _ _ _ _ fun accepted => ?_
  refine @always_when _ _ _ _ _ _ ?_
  split
  · infer_instance
  · infer_instance
  · infer_instance
  · have logged (client : Text) (httpLog : Var.clfHttpLog.type) :
        Uses PacketlessOp (@Decoder.emit collector (.clfLine client httpLog)) :=
      uses_single _ trivial
    have got : Uses PacketlessOp (@Decoder.get collector .clfHttpLog) := uses_single _ trivial
    infer_instance
  · infer_instance

instance : Always (AllShaped config) (emitFlowSampleV2v4 config) := by
  unfold emitFlowSampleV2v4
  refine @always_bind _ _ _ _ _ _ _ _ fun accepted => ?_
  refine @always_when _ _ _ _ _ _ ?_
  split <;> infer_instance

instance (expanded : Bool) : Always (AllShaped config) (readFlowSample config expanded) := by
  rw [readFlowSample_split]
  infer_instance

instance : Always (AllShaped config) (readFlowSampleV2v4 config) := by
  rw [readFlowSampleV2v4_split]
  infer_instance

instance : Always (AllShaped config) (readSample config) := by
  unfold readSample readSampleV5 readSampleV2v4
  infer_instance

instance (samplesInPacket : UInt32) (remaining : Nat) (samp : UInt32) :
    Always (AllShaped config) (readSamples config samplesInPacket remaining samp) := by
  induction remaining generalizing samp with
  | zero => exact always_pure ()
  | succ remaining ih =>
      unfold readSamples checkMoreData
      infer_instance

instance : Always (AllShaped config) (readSFlowDatagram config) := by
  unfold readSFlowDatagram readDatagramHeader
  infer_instance

end Shapes

section Sessions
variable {config : SFConfig} {text : Event → List UInt8}

/-- A datagram that reaches no element of a counters sample writes its packets and nothing else. -/
theorem written_packets (pcap : config.outputFormat = .pcap) (decoded : Run collector Unit)
    (only : OnlyRecords config decoded) :
    (receivedEvents config decoded).flatMap (Event.written text) =
      (packetsOf decoded).flatMap PcapPacket.octets := by
  have unframed (fmt : String) : frameLine config fmt = [] := if_neg (by rw [pcap]; decide)
  have records (events : List Event) (clean : ∀ event ∈ events, event.Clean config) :
      events.flatMap (Event.written text) =
        (events.filterMap Event.packet).flatMap PcapPacket.octets := by
    induction events with
    | nil => rfl
    | cons event events ih =>
        have later := ih fun other member => clean other (List.mem_cons_of_mem _ member)
        have first := clean event List.mem_cons_self
        unfold Event.Clean at first
        rw [pcap] at first
        rw [List.flatMap_cons, later]
        -- an event of another kind is a record of another format, or not on standard output
        cases event with
        | pcapPacket packet => rfl
        | errout _ | receiveError _ _ _ _ | netFlow _ | netFlowSpoofed _ _ | opentsdb _
        | leveldbWrite _ _ _ | leveldbWriteObject _ _ _ _ => rfl
        | log _ | print _ | flowLine _ | countersLine _ | clfLine _ _ | leveldbRead _ _ =>
            cases first rfl
  have same : (receivedEvents config decoded).filterMap Event.packet = packetsOf decoded := by
    unfold receivedEvents packetsOf eventsOf
    rw [unframed, List.nil_append, List.filterMap_append]
    refine (congrArg (_ ++ ·) ?_).trans (List.append_nil _)
    split
    · rw [unframed]
      rfl
    · rw [unframed]
      rfl
    · rfl
  rw [records _ only, same]

/-- What is asked of a datagram of the session: it reaches no element of a counters sample. -/
def Plain (decoded : Run collector Unit) : Prop :=
  ∀ met ∈ decoded.notes, met.1.ofCounterElement = false

theorem plain_onlyRecords (format : config.outputFormat ≠ .full) (buffer : Buffer)
    (sample : SFSample) (plain : Plain (receiveSFlowDatagram config buffer sample)) :
    OnlyRecords config (receiveSFlowDatagram config buffer sample) := by
  have tidy : Always (Tidy config) (readSFlowDatagram config) := inferInstance
  have written := tidy.all buffer sample format
  apply (onlyRecords_iff config format _).mpr
  intro event shown
  by_contra unclean
  obtain ⟨mark, noted, counters⟩ := written.mp ⟨event, shown, unclean⟩
  obtain ⟨met, member, rfl⟩ := List.mem_map.mp noted
  have plainly : met.1.ofCounterElement = false := plain met member
  rw [counters] at plainly
  cases plainly

theorem shaped_packets (buffer : Buffer) (sample : SFSample) :
    ∀ packet ∈ packetsOf (receiveSFlowDatagram config buffer sample),
      packet.Shaped config.tcpdumpHdrPad := by
  have shapes : Always (AllShaped config) (readSFlowDatagram config) := inferInstance
  intro packet member
  obtain ⟨event, shown, same⟩ := List.mem_filterMap.mp member
  refine shapes.all buffer sample packet ?_
  cases event with
  | pcapPacket other =>
      cases same
      exact shown
  | _ => cases same

/-- What a session writes is a pcap file of its packets, each in shape. -/
theorem pcapOutput_packets (pcap : config.outputFormat = .pcap) (arrivals : List Arrival)
    (process : SFSample) (plain : ∀ decoded ∈ receiveAll config arrivals process, Plain decoded) :
    pcapOutput config text (receiveAll config arrivals process) = writePcapHeader ++
        ((receiveAll config arrivals process).flatMap packetsOf).flatMap PcapPacket.octets ∧
      ∀ packet ∈ (receiveAll config arrivals process).flatMap packetsOf,
        packet.Shaped config.tcpdumpHdrPad := by
  have each := receiveAll_induct config (fun _ decodes => (∀ decoded ∈ decodes, Plain decoded) →
      (decodes.flatMap fun decoded => (receivedEvents config decoded).flatMap
        (Event.written text)) = (decodes.flatMap packetsOf).flatMap PcapPacket.octets ∧
      ∀ packet ∈ decodes.flatMap packetsOf, packet.Shaped config.tcpdumpHdrPad)
    (fun _ _ => ⟨rfl, nofun⟩) ?_ arrivals process plain
  · unfold pcapOutput
    rw [each.1]
    exact ⟨rfl, each.2⟩
  · intro arrival process rest later plain
    obtain ⟨written, shaped⟩ := later fun decoded member =>
      plain decoded (List.mem_cons_of_mem _ member)
    have other : (config.during arrival).outputFormat ≠ .full := by
      rw [show (config.during arrival).outputFormat = .pcap from pcap]
      decide
    have only : OnlyRecords config (receiveArrival config arrival process) :=
      plain_onlyRecords other arrival.buffer
        (freshSample arrival.sourceIP arrival.pcapTimestamp process) (plain _ List.mem_cons_self)
    rw [List.flatMap_cons, List.flatMap_cons, List.flatMap_append, written,
      written_packets pcap _ only]
    refine ⟨rfl, fun packet member => ?_⟩
    rcases List.mem_append.mp member with first | next
    · exact @shaped_packets (config.during arrival) _ _ packet first
    · exact shaped packet next

end Sessions

section Reading
variable {reader : SFConfig} {readPcapFileName strerror : Text}

theorem leWord_le32 (value : UInt32) : leWord (le32 value) = value := word_be32 value

theorem PcapPacket.header_read (packet : PcapPacket) :
    pcapPkthdr false packet.header = ⟨packet.tsSec, 0, packet.caplen, packet.len⟩ := by
  have word (value : UInt32) {offset : Nat}
      (field : (packet.header.drop offset).take 4 = le32 value) :
      pcapWord false packet.header offset = value := by
    unfold pcapWord
    rw [field]
    exact leWord_le32 value
  unfold pcapPkthdr
  rw [word packet.tsSec rfl, word 0 rfl, word packet.caplen rfl, word packet.len rfl]

/-- The record as the reader finds it. -/
def PcapPacket.record (packet : PcapPacket) : PcapRecord :=
  ⟨packet.header, packet.padding, packet.captured⟩

theorem PcapPacket.Shaped.begins {pad : UInt32} {packet : PcapPacket} (shaped : packet.Shaped pad)
    (rest : List UInt8) : packet.record.Begins pad false (packet.octets ++ rest) rest where
  laid := by
    unfold PcapPacket.octets PcapPacket.record
    simp only [List.append_assoc]
  header := rfl
  padding := by
    rw [← shaped.pad]
    exact List.length_replicate
  captured := by
    show packet.captured.length = (pcapPkthdr false packet.header).caplen.toNat
    rw [packet.header_read]
    exact shaped.captured

/-- What is handed on of a packet that was captured whole. -/
def PcapPacket.datagram (around : PcapSurroundings) (packet : PcapPacket) : PcapDatagram :=
  pcapDatagram (packet.record.buf around) ⟨packet.tsSec, 0, packet.caplen, packet.len⟩

/-- What the call that reads a packet comes to, apart from the place in the file. -/
def PcapPacket.call (readPcapFileName : Text) (around : PcapSurroundings) (packet : PcapPacket) :
    PcapRead :=
  if packet.captured = [] then
    .exited ⟨⟨"unable to read pcap packet from %s : %s\n",
      [.text readPcapFileName, .text around.strerror]⟩, -34⟩
  else if packet.caplen < packet.len then
    .skipped ⟨"incomplete datagram (pcap snaplen too short)\n", []⟩ []
  else .handed (packet.datagram around) []

theorem PcapPacket.Shaped.call {packet : PcapPacket} (shaped : packet.Shaped reader.tcpdumpHdrPad)
    (fits : packet.Fits) (around : PcapSurroundings) (rest : List UInt8) :
    (readPcapPacket reader readPcapFileName false around (packet.octets ++ rest)).seen =
        packet.call readPcapFileName around ∧
      (packet.captured ≠ [] → (readPcapPacket reader readPcapFileName false around
        (packet.octets ++ rest)).left = rest) := by
  have room := fits.room
  have size := shaped.captured
  have wide : ¬pcapBufSize < reader.tcpdumpHdrPad.toNat := by
    rw [← shaped.pad]
    omega
  have large : ¬pcapBufSize < packet.record.captured.length := by
    show ¬pcapBufSize < packet.captured.length
    omega
  have header : packet.record.hdr false = ⟨packet.tsSec, 0, packet.caplen, packet.len⟩ :=
    packet.header_read
  rw [readPcapPacket_begins (shaped.begins rest), if_neg wide, if_neg large, header]
  unfold PcapPacket.call
  by_cases empty : packet.captured = []
  · have none : packet.record.captured = [] := empty
    rw [if_pos empty, if_pos none]
    exact ⟨rfl, fun some => absurd empty some⟩
  · have some : ¬packet.record.captured = [] := empty
    rw [if_neg empty, if_neg some]
    split
    · exact ⟨rfl, fun _ => rfl⟩
    · exact ⟨rfl, fun _ => rfl⟩

/-- What the calls come to while packets are left, and then that of the end of the file; nothing is
read behind a packet of which nothing was captured. -/
def pcapCalls (readPcapFileName : Text) : List PcapSurroundings → List PcapPacket → List PcapRead
  | [], _ => []
  | _ :: _, [] => [.ended]
  | around :: later, packet :: packets => packet.call readPcapFileName around ::
      if packet.captured = [] then [] else pcapCalls readPcapFileName later packets

/-- The calls of a run are these, or these up to one whose datagram made the process exit. -/
def PcapRun.Reads (reader : SFConfig) (run : PcapRun) (calls : List PcapRead) : Prop :=
  run.seen = calls ∨ ∃ before datagram after, calls = before ++ .handed datagram [] :: after ∧
    run.seen = before ++ [.handed datagram []] ∧ ∃ around process,
      Exits (received (receiveArrival reader (datagram.arrival around) process).outcome) = true

/-- A run that has ended stays as it is. -/
theorem pcapRounds_ended (surroundings : List PcapSurroundings) {run : PcapRun}
    (ended : run.going = false) :
    pcapRounds reader readPcapFileName surroundings run = run := by
  induction surroundings with
  | nil => rfl
  | cons around later ih =>
      have stays : pcapStep reader readPcapFileName around run = run := by
        unfold pcapStep
        rw [ended]
        rfl
      unfold pcapRounds at ih ⊢
      rw [List.foldl_cons, stays, ih]

/-- How a run is left behind a call, by what the call came to. -/
def PcapRun.Onward (reader : SFConfig) (around : PcapSurroundings) (run next : PcapRun)
    (rest : List UInt8) : PcapRead → Prop
  | .handed datagram _ => next.file = rest ∧ next.going =
      !Exits (received (receiveArrival reader (datagram.arrival around) run.process).outcome)
  | .skipped _ _ => next.file = rest ∧ next.going = true
  | _ => next.going = false

theorem pcapStep_seen (around : PcapSurroundings) {run : PcapRun} (going : run.going = true)
    {call : PcapRead} (same : (readPcapPacket reader readPcapFileName run.pcapSwap around
      run.file).seen = call) :
    let next := pcapStep reader readPcapFileName around run
    next.seen = run.seen ++ [call] ∧ next.pcapSwap = run.pcapSwap ∧
      run.Onward reader around next (readPcapPacket reader readPcapFileName run.pcapSwap around
        run.file).left call := by
  subst same
  obtain ⟨reads, order⟩ := pcapStep_reads reader readPcapFileName around run going
  refine ⟨?_, order, ?_⟩
  · unfold PcapRun.seen
    rw [reads, seen_concat]
  · unfold pcapStep
    rw [if_pos going]
    cases readPcapPacket reader readPcapFileName run.pcapSwap around run.file with
    | handed datagram rest => exact ⟨rfl, rfl⟩
    | skipped message rest => exact ⟨rfl, going⟩
    | _ => rfl

/-- The calls over a file of packets that fit. -/
theorem pcapRounds_packets (surroundings : List PcapSurroundings) (packets : List PcapPacket)
    (shaped : ∀ packet ∈ packets, packet.Shaped reader.tcpdumpHdrPad)
    (fits : ∀ packet ∈ packets, packet.Fits) {run : PcapRun} (going : run.going = true)
    (native : run.pcapSwap = false) (file : run.file = packets.flatMap PcapPacket.octets) :
    (pcapRounds reader readPcapFileName surroundings run).Reads reader
      (run.seen ++ pcapCalls readPcapFileName surroundings packets) := by
  induction surroundings generalizing packets run with
  | nil => exact .inl (List.append_nil _).symm
  | cons around later ih =>
      have rounds : pcapRounds reader readPcapFileName (around :: later) run =
          pcapRounds reader readPcapFileName later
            (pcapStep reader readPcapFileName around run) := rfl
      rw [rounds]
      cases packets with
      | nil =>
          have last : (readPcapPacket reader readPcapFileName run.pcapSwap around run.file).seen =
              .ended := by
            rw [file]
            rfl
          obtain ⟨seen, -, ended⟩ := pcapStep_seen around going last
          rw [pcapRounds_ended later ended]
          exact .inl seen
      | cons packet packets =>
          obtain ⟨first, others⟩ := List.forall_mem_cons.mp shaped
          obtain ⟨small, smaller⟩ := List.forall_mem_cons.mp fits
          obtain ⟨call, left⟩ := @PcapPacket.Shaped.call reader readPcapFileName packet first small
            around (packets.flatMap PcapPacket.octets)
          rw [← List.flatMap_cons, ← file, ← native] at call left
          obtain ⟨seen, order, onward⟩ := pcapStep_seen around going call
          generalize pcapStep reader readPcapFileName around run = next at seen order onward ⊢
          have goes (on : next.going = true) (rest : next.file = packets.flatMap PcapPacket.octets)
              (some : packet.captured ≠ []) :
              (pcapRounds reader readPcapFileName later next).Reads reader
                (run.seen ++ pcapCalls readPcapFileName (around :: later) (packet :: packets)) := by
            have reads := ih packets others smaller on (order.trans native) rest
            unfold pcapCalls
            rw [if_neg some, List.append_cons, ← seen]
            exact reads
          unfold PcapPacket.call at seen onward
          by_cases empty : packet.captured = []
          · -- nothing is read behind it
            rw [if_pos empty] at seen onward
            rw [pcapRounds_ended later onward]
            unfold pcapCalls PcapPacket.call
            rw [if_pos empty, if_pos empty]
            exact .inl seen
          · rw [if_neg empty] at seen onward
            by_cases cut : packet.caplen < packet.len
            · rw [if_pos cut] at seen onward
              exact goes onward.2 (onward.1.trans (left empty)) empty
            · rw [if_neg cut] at seen onward
              cases exits : Exits (received (receiveArrival reader
                  ((packet.datagram around).arrival around) run.process).outcome) with
              | false =>
                  exact goes (onward.2.trans (by rw [exits]; rfl)) (onward.1.trans (left empty)) empty
              | true =>
                  rw [pcapRounds_ended later (onward.2.trans (by rw [exits]; rfl))]
                  unfold pcapCalls PcapPacket.call
                  rw [if_neg empty, if_neg cut, if_neg empty]
                  exact .inr ⟨run.seen, _, _, rfl, seen, around, run.process, exits⟩

end Reading

section RoundTrip

theorem PcapPacket.Shaped.datagram_part {pad : UInt32} {packet : PcapPacket}
    (shaped : packet.Shaped pad) (fits : packet.Fits) (around : PcapSurroundings) {offset : Nat}
    (found : packet.record.offset = some offset) :
    (packet.datagram around).PartOf packet.record := by
  have begins : packet.record.Begins ({ defaultConfig .full with tcpdumpHdrPad := pad }).tcpdumpHdrPad
      false (packet.octets ++ []) [] := shaped.begins []
  have size := shaped.captured
  have room := fits.room
  have part : (pcapDatagram (packet.record.buf around) (packet.record.hdr false)).PartOf
      packet.record := pcapDatagram_part begins (by
    show packet.captured.length ≤ pcapBufSize
    omega) found
  rwa [show packet.record.hdr false = _ from packet.header_read] at part

instance (packet : PcapPacket) : Decidable packet.Fits :=
  decidable_of_iff (pcapPkthdrSize + packet.pad.toNat + packet.caplen.toNat ≤ pcapBufSize ∧
    packet.pad.toNat ≤ PcapPacket.zeroPadSize) ⟨fun both => ⟨both.1, both.2⟩, fun fits => ⟨fits.1, fits.2⟩⟩

end RoundTrip

end SflowTool
