import SflowTool.CommandLine
import SflowTool.PcapFile

/-! The two loops of the collector, over its sockets and over a file. Where targets have been
given, a datagram goes out to each of them as it came in and is not looked into; where none have,
it is decoded. -/
namespace SflowTool
open Decoding

section Model

/-- Where a packet came from. -/
inductive Peer where
  | sockaddrIn (sinAddr : List UInt8)
  | sockaddrIn6 (sin6Addr : List UInt8)
deriving DecidableEq

def mappedPrefix : List UInt8 := [0, 0, 0, 0, 0, 0, 0, 0, 0, 0, 0xFF, 0xFF]
def compatPrefix : List UInt8 := [0, 0, 0, 0, 0, 0, 0, 0, 0, 0, 0, 0]

def ipv4MappedAddress (ipv6addr : List UInt8) : Option (List UInt8) :=
  if ipv6addr.take 12 = mappedPrefix ∨ ipv6addr.take 12 = compatPrefix then
    some ((ipv6addr.drop 12).take 4)
  else none

def Peer.sourceIP : Peer → Address
  | .sockaddrIn sinAddr => .ipV4 sinAddr
  | .sockaddrIn6 sin6Addr =>
      match ipv4MappedAddress sin6Addr with
      | some v4src => .ipV4 v4src
      | none => .ipV6 sin6Addr

/-- What a call of `recvfrom` leaves, and what else the process meets before the next one: the
count and the text of the error for each socket it sends on, and the surroundings of a decode. -/
structure Reception where
  failed : Bool
  strerror : Text
  buf : Buffer
  peer : Peer
  sendto : Nat → UInt32 × Text
  time : UInt64
  leveldbError : Option Text
  stackOctets : List UInt8

def Reception.cc (reception : Reception) : Int :=
  if reception.failed then -1 else reception.buf.length

def Reception.arrival (reception : Reception) : Arrival where
  buffer := reception.buf
  sourceIP := reception.peer.sourceIP
  pcapTimestamp := 0
  time := reception.time
  leveldbError := reception.leveldbError
  stackOctets := reception.stackOctets

/-- What the collector does: a datagram is sent, a failed call is reported, or the decode does
something. -/
inductive Effect where
  | sendto (tgt : SFForwardingTarget) (rawSample : List UInt8)
  | report (line : Line)
  | decode (event : Event)

/-- What the process holds, what it has done, and the code it has exited with. -/
structure Collector where
  process : SFSample
  effects : List Effect
  exited : Option Int

def startedCollector : Collector := ⟨startedProcess, [], none⟩

def forwardTo (buffer : Buffer) (sendto : Nat → UInt32 × Text) (tgt : SFForwardingTarget) :
    List Effect :=
  let rawSampleLen := UInt32.ofNat buffer.length
  let (bytesSent, strerror) := sendto tgt.sock
  .sendto tgt buffer.received ::
    if bytesSent ≠ rawSampleLen then
      [.report ⟨"sendto returned %d (expected %d): %s\n",
        [.word bytesSent, .word rawSampleLen, .text strerror]⟩]
    else []

/-- `receiveSFlowDatagram`: if there are targets, nothing else is done. -/
def receiveOrForward (options : SFOptions) (arrival : Arrival) (sendto : Nat → UInt32 × Text)
    (collector : Collector) : Collector :=
  match options.forwardingTargets with
  | [] =>
      let decoded := receiveArrival options.config arrival collector.process
      { process := decoded.state
        effects := collector.effects ++
          (receivedEvents (options.config.during arrival) decoded).map .decode
        exited :=
          match received decoded.outcome with
          | .exited code => some code
          | _ => none }
  | targets => { collector with
      effects := collector.effects ++ targets.flatMap (forwardTo arrival.buffer sendto) }

def Collector.report (collector : Collector) (line : Line) : Collector :=
  { collector with effects := collector.effects ++ [.report line] }

def readPacket (options : SFOptions) (reception : Reception) (collector : Collector) : Collector :=
  if reception.cc ≤ 0 then
    collector.report ⟨"recvfrom() failed, %s\n", [.text reception.strerror]⟩
  else receiveOrForward options reception.arrival reception.sendto collector

/-- The sockets that are open. -/
structure Sockets where
  soc4 : Bool
  soc6 : Bool

/-- What opening a socket comes to: it is bound, it cannot be bound, or there is none. -/
inductive Opening where
  | bound
  | unbound
  | missing
deriving DecidableEq

/-- A missing IPv6 socket ends the process at once. -/
def openInputUDP6Socket : Opening → Except Int Bool
  | .missing => .error (-6)
  | opening => .ok (opening = .bound)

/-- The sockets of the collector. -/
def openSockets (options : SFOptions) (six four : Opening) : Except Int Sockets :=
  (if options.listen6 then openInputUDP6Socket six else .ok false) >>= fun soc6 =>
    let soc4 := (options.listen4 || (!soc6 && !options.listenControlled)) && four = .bound
    if !soc4 && !soc6 then .error (-7) else .ok ⟨soc4, soc6⟩

/-- A call of `select`, and the packet of each socket that is ready. -/
structure Round where
  nfds : Int
  interrupted : Bool
  ready4 : Option Reception
  ready6 : Option Reception

def Round.fails (round : Round) : Bool := round.nfds < 0 && !round.interrupted

/-- A packet is read where its socket is open and ready, unless the process has exited. -/
def readReady (options : SFOptions) (soc : Bool) (ready : Option Reception)
    (collector : Collector) : Collector :=
  match soc, ready, collector.exited with
  | true, some reception, none => readPacket options reception collector
  | _, _, _ => collector

def mainRound (options : SFOptions) (sockets : Sockets) (collector : Collector) (round : Round) :
    Collector :=
  match collector.exited with
  | some _ => collector
  | none =>
      if round.fails then
        { collector.report ⟨"select() returned %d\n", [.word (UInt32.ofInt round.nfds)]⟩ with
          exited := some (-9) }
      else if round.nfds > 0 then
        readReady options sockets.soc6 round.ready6
          (readReady options sockets.soc4 round.ready4 collector)
      else collector

def mainRounds (options : SFOptions) (sockets : Sockets) (rounds : List Round) : Collector :=
  rounds.foldl (mainRound options sockets) startedCollector

/-- The loop over a file: where this is read next, and whether it is. -/
structure FileRun where
  file : List UInt8
  going : Bool
  collector : Collector

/-- What the process meets while it reads a record, and while it sends it on. -/
structure FileRound where
  around : PcapSurroundings
  sendto : Nat → UInt32 × Text

def fileRound (options : SFOptions) (readPcapFileName : Text) (pcapSwap : Bool) (run : FileRun)
    (round : FileRound) : FileRun :=
  if run.going then
    match readPcapPacket options.config readPcapFileName pcapSwap round.around run.file with
    | .handed datagram rest =>
        let collector := receiveOrForward options (datagram.arrival round.around) round.sendto
          run.collector
        ⟨rest, collector.exited.isNone, collector⟩
    | .skipped message rest => { run with file := rest, collector := run.collector.report message }
    | .exited fatal => { run with
        going := false
        collector := { run.collector.report fatal.line with exited := some fatal.code } }
    | .ended | .overran => { run with going := false }
  else run

def fileRounds (options : SFOptions) (readPcapFileName : Text) (pcapSwap : Bool)
    (rounds : List FileRound) (file : List UInt8) : FileRun :=
  rounds.foldl (fileRound options readPcapFileName pcapSwap) ⟨file, true, startedCollector⟩

end Model

section Serving

/-! What either loop reads, taken by itself: the datagrams, and the calls that failed. -/

inductive Input where
  | datagram (arrival : Arrival) (sendto : Nat → UInt32 × Text)
  | failure (line : Line)

def Input.arrival? : Input → Option Arrival
  | .datagram arrival _ => some arrival
  | .failure _ => none

def serve (options : SFOptions) (collector : Collector) (input : Input) : Collector :=
  match collector.exited, input with
  | none, .datagram arrival sendto => receiveOrForward options arrival sendto collector
  | none, .failure line => collector.report line
  | some _, _ => collector

def serveAll (options : SFOptions) (inputs : List Input) (collector : Collector) : Collector :=
  inputs.foldl (serve options) collector

def Effect.sent? : Effect → Option (SFForwardingTarget × List UInt8)
  | .sendto tgt rawSample => some (tgt, rawSample)
  | _ => none

def Effect.decoded? : Effect → Option Event
  | .decode event => some event
  | _ => none

/-- What has been sent, and to whom. -/
def Collector.sent (collector : Collector) : List (SFForwardingTarget × List UInt8) :=
  collector.effects.filterMap Effect.sent?

/-- What the decodes have done. -/
def Collector.decoded (collector : Collector) : List Event :=
  collector.effects.filterMap Effect.decoded?

/-- All datagrams went to all targets, and that was all that was done with them. -/
structure Forwards (options : SFOptions) (inputs : List Input) (before after : Collector) :
    Prop where
  sent : after.sent = before.sent ++ (inputs.filterMap Input.arrival?).flatMap fun arrival =>
    options.forwardingTargets.map fun tgt => (tgt, arrival.buffer.received)
  decoded : after.decoded = before.decoded
  process : after.process = before.process

/-- All datagrams were decoded, up to one that made the process exit, and none was sent on. -/
structure Decodes (options : SFOptions) (inputs : List Input) (before after : Collector) :
    Prop where
  sent : after.sent = before.sent
  decoded : after.decoded = before.decoded ++
    (receiveAll options.config (inputs.filterMap Input.arrival?) before.process).flatMap
      (receivedEvents options.config)

variable {options : SFOptions} {before : Collector}

theorem report_sent (collector : Collector) (line : Line) :
    (collector.report line).sent = collector.sent := by
  unfold Collector.report Collector.sent
  rw [List.filterMap_append]
  exact List.append_nil _

theorem report_decoded (collector : Collector) (line : Line) :
    (collector.report line).decoded = collector.decoded := by
  unfold Collector.report Collector.decoded
  rw [List.filterMap_append]
  exact List.append_nil _

theorem forwardTo_sent (buffer : Buffer) (sendto : Nat → UInt32 × Text)
    (targets : List SFForwardingTarget) :
    (targets.flatMap (forwardTo buffer sendto)).filterMap Effect.sent? =
      targets.map fun tgt => (tgt, buffer.received) := by
  induction targets with
  | nil => rfl
  | cons tgt targets ih =>
      have one : (forwardTo buffer sendto tgt).filterMap Effect.sent? = [(tgt, buffer.received)] := by
        unfold forwardTo
        dsimp only
        split <;> rfl
      rw [List.flatMap_cons, List.filterMap_append, one, ih]
      rfl

theorem forwardTo_decoded (buffer : Buffer) (sendto : Nat → UInt32 × Text)
    (targets : List SFForwardingTarget) :
    (targets.flatMap (forwardTo buffer sendto)).filterMap Effect.decoded? = [] := by
  rw [List.filterMap_flatMap]
  apply List.flatMap_eq_nil_iff.mpr
  intro tgt _
  unfold forwardTo
  dsimp only
  split <;> rfl

theorem forwarded (targets : options.forwardingTargets ≠ []) (arrival : Arrival)
    (sendto : Nat → UInt32 × Text) (collector : Collector) :
    receiveOrForward options arrival sendto collector =
      { collector with effects := collector.effects ++
          options.forwardingTargets.flatMap (forwardTo arrival.buffer sendto) } := by
  unfold receiveOrForward
  split
  · contradiction
  · rfl

theorem serve_datagram (going : before.exited = none) (arrival : Arrival)
    (sendto : Nat → UInt32 × Text) : serve options before (.datagram arrival sendto) =
      receiveOrForward options arrival sendto before := by
  unfold serve
  rw [going]

theorem serve_failure (going : before.exited = none) (line : Line) :
    serve options before (.failure line) = before.report line := by
  unfold serve
  rw [going]

theorem serve_forwards (targets : options.forwardingTargets ≠ []) (going : before.exited = none)
    (input : Input) : Forwards options [input] before (serve options before input) ∧
      (serve options before input).exited = none := by
  cases input with
  | datagram arrival sendto =>
      rw [serve_datagram going, forwarded targets]
      refine ⟨⟨?_, ?_, rfl⟩, going⟩
      · unfold Collector.sent
        rw [List.filterMap_append, forwardTo_sent]
        simp [Input.arrival?]
      · unfold Collector.decoded
        rw [List.filterMap_append, forwardTo_decoded, List.append_nil]
  | failure line =>
      rw [serve_failure going]
      refine ⟨⟨?_, report_decoded before line, rfl⟩, going⟩
      rw [report_sent]
      exact (List.append_nil _).symm

theorem serveAll_cons (input : Input) (inputs : List Input) (collector : Collector) :
    serveAll options (input :: inputs) collector =
      serveAll options inputs (serve options collector input) := rfl

theorem serveAll_forwards (targets : options.forwardingTargets ≠ []) (inputs : List Input)
    (going : before.exited = none) : Forwards options inputs before (serveAll options inputs before) := by
  induction inputs generalizing before with
  | nil => exact ⟨(List.append_nil _).symm, rfl, rfl⟩
  | cons input inputs ih =>
      obtain ⟨first, goesOn⟩ := serve_forwards targets going input
      have later := ih goesOn
      rw [serveAll_cons]
      refine ⟨?_, later.decoded.trans first.decoded, later.process.trans first.process⟩
      rw [later.sent, first.sent, List.append_assoc, ← List.flatMap_append, ← List.filterMap_append]
      rfl

theorem serveAll_exited {collector : Collector} {code : Int} (exited : collector.exited = some code)
    (inputs : List Input) : serveAll options inputs collector = collector := by
  induction inputs with
  | nil => rfl
  | cons input inputs ih =>
      have stays : serve options collector input = collector := by
        unfold serve
        rw [exited]
      rw [serveAll_cons, stays]
      exact ih

theorem decode_sent (events : List Event) :
    (events.map Effect.decode).filterMap Effect.sent? = [] := by
  induction events with
  | nil => rfl
  | cons event events ih => exact ih

theorem decode_decoded (events : List Event) :
    (events.map Effect.decode).filterMap Effect.decoded? = events := by
  induction events with
  | nil => rfl
  | cons event events ih => exact congrArg (event :: ·) ih

/-- A datagram that is not sent on does what its decode does. -/
theorem received_decodes (targets : options.forwardingTargets = []) (arrival : Arrival)
    (sendto : Nat → UInt32 × Text) :
    let decoded := receiveArrival options.config arrival before.process
    let after := receiveOrForward options arrival sendto before
    after.sent = before.sent ∧
      after.decoded = before.decoded ++ receivedEvents options.config decoded ∧
      after.process = decoded.state ∧ after.exited =
        match received decoded.outcome with
        | .exited code => some code
        | _ => none := by
  intro decoded after
  have same : after = ⟨decoded.state,
      before.effects ++ (receivedEvents options.config decoded).map .decode,
      match received decoded.outcome with
      | .exited code => some code
      | _ => none⟩ := by
    show receiveOrForward options arrival sendto before = _
    unfold receiveOrForward
    rw [targets]
    rfl
  rw [same]
  refine ⟨?_, ?_, rfl, rfl⟩
  · unfold Collector.sent
    rw [List.filterMap_append, decode_sent, List.append_nil]
  · unfold Collector.decoded
    rw [List.filterMap_append, decode_decoded]

theorem serveAll_decodes (targets : options.forwardingTargets = []) (inputs : List Input)
    (going : before.exited = none) : Decodes options inputs before (serveAll options inputs before) := by
  induction inputs generalizing before with
  | nil => exact ⟨rfl, (List.append_nil _).symm⟩
  | cons input inputs ih =>
      rw [serveAll_cons]
      cases input with
      | failure line =>
          have later := @ih (before.report line) going
          rw [serve_failure going]
          refine ⟨later.sent.trans (report_sent ..), ?_⟩
          rw [later.decoded, report_decoded]
          rfl
      | datagram arrival sendto =>
          obtain ⟨sent, decoded, process, exited⟩ := received_decodes targets arrival sendto
          rw [serve_datagram going]
          show Decodes options (.datagram arrival sendto :: inputs) before
            (serveAll options inputs (receiveOrForward options arrival sendto before))
          cases ended : received (receiveArrival options.config arrival before.process).outcome with
          | exited code =>
              -- an exit of the decode ends the process, and what is left is not read
              rw [ended] at exited
              rw [serveAll_exited exited]
              refine ⟨sent, decoded.trans ?_⟩
              simp [Input.arrival?, receiveAll, ended]
          | _ =>
              rw [ended] at exited
              have later := ih exited
              refine ⟨later.sent.trans sent, ?_⟩
              rw [later.decoded, decoded, process]
              simp [Input.arrival?, receiveAll, ended]

end Serving

section Loops

variable {options : SFOptions} {sockets : Sockets}

/-- What a packet that is read comes to. -/
def Reception.input (reception : Reception) : Input :=
  if reception.cc ≤ 0 then .failure ⟨"recvfrom() failed, %s\n", [.text reception.strerror]⟩
  else .datagram reception.arrival reception.sendto

/-- What is read in a round. -/
def Round.heard (sockets : Sockets) (round : Round) : List Input :=
  if round.nfds > 0 then
    ((if sockets.soc4 then round.ready4.toList else []) ++
      (if sockets.soc6 then round.ready6.toList else [])).map Reception.input
  else []

/-- What is read at the sockets, as long as `select` does not fail. -/
def heard (sockets : Sockets) (rounds : List Round) : List Input :=
  (rounds.takeWhile fun round => !round.fails).flatMap (Round.heard sockets)

/-- What is read of a file. -/
def fileInputs (config : SFConfig) (readPcapFileName : Text) (pcapSwap : Bool) :
    List FileRound → List UInt8 → List Input
  | [], _ => []
  | round :: rounds, file =>
      match readPcapPacket config readPcapFileName pcapSwap round.around file with
      | .handed datagram rest => .datagram (datagram.arrival round.around) round.sendto ::
          fileInputs config readPcapFileName pcapSwap rounds rest
      | .skipped message rest => .failure message ::
          fileInputs config readPcapFileName pcapSwap rounds rest
      | _ => []

/-- Two collectors that did the same with the datagrams. -/
structure Collector.Agrees (one two : Collector) : Prop where
  sent : one.sent = two.sent
  decoded : one.decoded = two.decoded
  process : one.process = two.process

theorem Collector.Agrees.reported (collector : Collector) (line : Line) (exited : Option Int) :
    Agrees { collector.report line with exited } collector where
  sent := report_sent collector line
  decoded := report_decoded collector line
  process := rfl

theorem readPacket_serves (reception : Reception) {collector : Collector}
    (going : collector.exited = none) :
    readPacket options reception collector = serve options collector reception.input := by
  unfold readPacket Reception.input serve
  rw [going]
  split <;> rfl

theorem readReady_serves (soc : Bool) (ready : Option Reception) (collector : Collector) :
    readReady options soc ready collector =
      serveAll options ((if soc then ready.toList else []).map Reception.input) collector := by
  cases going : collector.exited with
  | some code =>
      rw [serveAll_exited going]
      unfold readReady
      split
      · rename_i absent
        rw [going] at absent
        cases absent
      · rfl
  | none =>
      unfold readReady
      rw [going]
      -- a socket that is not open is not asked
      cases soc with
      | false => rfl
      | true =>
          cases ready with
          | none => rfl
          | some reception => exact readPacket_serves reception going

theorem mainRound_serves {round : Round} (polled : round.fails = false) (collector : Collector) :
    mainRound options sockets collector round =
      serveAll options (round.heard sockets) collector := by
  cases going : collector.exited with
  | some code =>
      rw [serveAll_exited going]
      unfold mainRound
      rw [going]
  | none =>
      unfold mainRound Round.heard
      rw [going, polled]
      simp only [Bool.false_eq_true, if_false]
      split
      · rw [readReady_serves, readReady_serves, List.map_append]
        exact (List.foldl_append ..).symm
      · rfl

theorem mainRound_exited {collector : Collector} {code : Int} (exited : collector.exited = some code)
    (rounds : List Round) : rounds.foldl (mainRound options sockets) collector = collector := by
  induction rounds with
  | nil => rfl
  | cons round rounds ih =>
      have stays : mainRound options sockets collector round = collector := by
        unfold mainRound
        rw [exited]
      rw [List.foldl_cons, stays]
      exact ih

/-- The loop over the sockets serves what it reads, by induction on its rounds. -/
theorem mainRounds_serves (rounds : List Round) (collector : Collector) :
    (rounds.foldl (mainRound options sockets) collector).Agrees
      (serveAll options (heard sockets rounds) collector) := by
  induction rounds generalizing collector with
  | nil => exact ⟨rfl, rfl, rfl⟩
  | cons round rounds ih =>
      cases going : collector.exited with
      | some code =>
          rw [mainRound_exited going, serveAll_exited going]
          exact ⟨rfl, rfl, rfl⟩
      | none =>
          cases polled : round.fails with
          | true =>
              -- a failure of `select` is reported, and nothing is read behind it
              have fails : mainRound options sockets collector round =
                  { collector.report ⟨"select() returned %d\n",
                    [.word (UInt32.ofInt round.nfds)]⟩ with exited := some (-9) } := by
                unfold mainRound
                rw [going, polled]
                rfl
              have unheard : heard sockets (round :: rounds) = [] := by
                unfold heard
                rw [List.takeWhile_cons_of_neg (by simp [polled])]
                rfl
              rw [List.foldl_cons, fails, mainRound_exited rfl, unheard]
              exact Collector.Agrees.reported ..
          | false =>
              have further : heard sockets (round :: rounds) =
                  round.heard sockets ++ heard sockets rounds := by
                unfold heard
                rw [List.takeWhile_cons_of_pos (by simp [polled])]
                rfl
              rw [List.foldl_cons, mainRound_serves polled, further]
              unfold serveAll
              rw [List.foldl_append]
              exact ih _

theorem fileRound_stopped {run : FileRun} (stopped : run.going = false) (readPcapFileName : Text)
    (pcapSwap : Bool) (rounds : List FileRound) :
    rounds.foldl (fileRound options readPcapFileName pcapSwap) run = run := by
  induction rounds with
  | nil => rfl
  | cons round rounds ih =>
      have stays : fileRound options readPcapFileName pcapSwap run round = run := by
        unfold fileRound
        rw [stopped]
        rfl
      rw [List.foldl_cons, stays]
      exact ih

theorem fileRound_going (readPcapFileName : Text) (pcapSwap : Bool) (round : FileRound)
    (file : List UInt8) (collector : Collector) :
    fileRound options readPcapFileName pcapSwap ⟨file, true, collector⟩ round =
      match readPcapPacket options.config readPcapFileName pcapSwap round.around file with
      | .handed datagram rest =>
          let next := receiveOrForward options (datagram.arrival round.around) round.sendto collector
          ⟨rest, next.exited.isNone, next⟩
      | .skipped message rest => ⟨rest, true, collector.report message⟩
      | .exited fatal => ⟨file, false, { collector.report fatal.line with exited := some fatal.code }⟩
      | .ended | .overran => ⟨file, false, collector⟩ := rfl

/-- The loop over a file serves what it reads of it. -/
theorem fileRounds_serves (readPcapFileName : Text) (pcapSwap : Bool) (rounds : List FileRound)
    (file : List UInt8) (collector : Collector) (going : collector.exited = none) :
    (rounds.foldl (fileRound options readPcapFileName pcapSwap)
      ⟨file, true, collector⟩).collector.Agrees
        (serveAll options (fileInputs options.config readPcapFileName pcapSwap rounds file) collector) := by
  induction rounds generalizing file collector with
  | nil => exact ⟨rfl, rfl, rfl⟩
  | cons round rounds ih =>
      rw [List.foldl_cons, fileRound_going]
      unfold fileInputs
      cases readPcapPacket options.config readPcapFileName pcapSwap round.around file with
      | handed datagram rest =>
          simp only [serveAll_cons, serve_datagram going]
          generalize receiveOrForward options (datagram.arrival round.around) round.sendto
            collector = next
          -- the file is read on unless the decode has made the process exit
          cases exited : next.exited with
          | none => exact ih rest next exited
          | some code =>
              rw [serveAll_exited exited, fileRound_stopped rfl]
              exact ⟨rfl, rfl, rfl⟩
      | skipped message rest =>
          simp only [serveAll_cons, serve_failure going]
          exact ih rest (collector.report message) going
      | exited fatal =>
          simp only
          rw [fileRound_stopped rfl]
          exact Collector.Agrees.reported ..
      | ended | overran =>
          simp only
          rw [fileRound_stopped rfl]
          exact ⟨rfl, rfl, rfl⟩

/-- What a collector has come to, and what it has read for that, at its sockets or of a file. -/
inductive Ran (options : SFOptions) : List Input → Collector → Prop where
  | sockets (sockets : Sockets) (rounds : List Round) :
      Ran options (heard sockets rounds) (mainRounds options sockets rounds)
  | file (readPcapFileName : Text) (pcapSwap : Bool) (rounds : List FileRound) (file : List UInt8) :
      Ran options (fileInputs options.config readPcapFileName pcapSwap rounds file)
        (fileRounds options readPcapFileName pcapSwap rounds file).collector

variable {inputs : List Input} {after : Collector}

theorem Ran.agrees (ran : Ran options inputs after) :
    after.Agrees (serveAll options inputs startedCollector) := by
  cases ran with
  | sockets sockets rounds => exact mainRounds_serves rounds startedCollector
  | file readPcapFileName pcapSwap rounds file =>
      exact fileRounds_serves readPcapFileName pcapSwap rounds file startedCollector rfl

theorem Ran.forwards (ran : Ran options inputs after) (targets : options.forwardingTargets ≠ []) :
    Forwards options inputs startedCollector after := by
  obtain ⟨sent, decoded, process⟩ := ran.agrees
  have served := @serveAll_forwards options startedCollector targets inputs rfl
  exact ⟨sent.trans served.sent, decoded.trans served.decoded, process.trans served.process⟩

theorem Ran.decodes (ran : Ran options inputs after) (targets : options.forwardingTargets = []) :
    Decodes options inputs startedCollector after := by
  obtain ⟨sent, decoded, -⟩ := ran.agrees
  have served := @serveAll_decodes options startedCollector targets inputs rfl
  exact ⟨sent.trans served.sent, decoded.trans served.decoded⟩

end Loops

section Options

variable {around : Surroundings} {settings : List Setting}

/-- There is a target where an option asked for one. -/
theorem targetsOf_nil (granted : Granted around settings) :
    targetsOf around settings = [] ↔ ¬∃ hostandport, Setting.forward hostandport ∈ settings := by
  have empty : targetsOf around settings = [] ↔ settings.filterMap (Setting.target? around) = [] := by
    unfold targetsOf
    rw [List.reverse_eq_nil_iff, List.map_eq_nil_iff, List.zipIdx_eq_nil_iff]
  rw [empty, List.filterMap_eq_nil_iff]
  constructor
  · rintro untargeted ⟨hostandport, asked⟩
    have known : (hostAndPort around hostandport).isSome := granted.resolves _ asked
    have unknown : hostAndPort around hostandport = none := untargeted _ asked
    rw [unknown] at known
    cases known
  · intro unasked setting member
    cases setting with
    | forward hostandport => exact absurd ⟨hostandport, member⟩ unasked
    | _ => rfl

/-- Where no option names the sockets, IPv4 is listened on. -/
theorem uncontrolled_listens4 {options : SFOptions} {argv : List (List Char)}
    (accepted : processCommandLine around argv = .ok options)
    (uncontrolled : options.listenControlled = false) : options.listen4 = true := by
  obtain ⟨settings, -, applied⟩ := (processWords_written ..).mp accepted
  obtain ⟨-, filter, -, rfl⟩ := (applyAll_settled ..).mp applied
  have none : settings.filterMap Setting.listen? = [] := by
    apply List.filterMap_eq_nil_iff.mpr
    intro setting member
    have unnamed : (settings.any fun setting => setting.listen?.isSome) = false := uncontrolled
    have absent := List.any_eq_false.mp unnamed setting member
    exact Option.not_isSome_iff_eq_none.mp absent
  show (lastOf Setting.listen? settings (true, false)).1 = true
  unfold lastOf
  rw [none]
  rfl

/-- So the IPv4 socket that would stand in for an IPv6 socket that is not bound is never tried:
the sockets that the options name are all there are. -/
theorem openSockets_named {options : SFOptions} {argv : List (List Char)}
    (accepted : processCommandLine around argv = .ok options) (six four : Opening)
    {sockets : Sockets} (opened : openSockets options six four = .ok sockets) :
    sockets.soc4 = (options.listen4 && four = .bound) ∧
      sockets.soc6 = (options.listen6 && six = .bound) := by
  have standsIn (soc6 : Bool) :
      (options.listen4 || (!soc6 && !options.listenControlled)) = options.listen4 := by
    cases controlled : options.listenControlled with
    | true => simp
    | false => simp [uncontrolled_listens4 accepted controlled]
  unfold openSockets at opened
  obtain ⟨soc6, opening, chosen⟩ := bind_ok_iff.mp opened
  have bound6 : soc6 = (options.listen6 && six = .bound) := by
    cases named : options.listen6 with
    | false =>
        rw [named] at opening
        exact (Except.ok.inj opening).symm
    | true =>
        rw [named, if_pos rfl] at opening
        cases six with
        | missing => cases opening
        | _ => exact (Except.ok.inj opening).symm
  simp only [standsIn] at chosen
  split at chosen
  · cases chosen
  · cases chosen
    exact ⟨rfl, bound6⟩

/-- Whatever else is on the command line: if an option asks for a target, each datagram that is
read goes out to all of them as it came in, the one that was given last before the others, and
none is decoded; if none does, each datagram is decoded. -/
theorem datagrams_forwarded_or_decoded {argv : List (List Char)} {options : SFOptions}
    (accepted : processCommandLine around argv = .ok options) :
    ∃ settings, Written argv settings ∧ options.forwardingTargets = targetsOf around settings ∧
      ∀ inputs after, Ran options inputs after →
        ((∃ hostandport, Setting.forward hostandport ∈ settings) →
          Forwards options inputs startedCollector after) ∧
        ((¬∃ hostandport, Setting.forward hostandport ∈ settings) →
          Decodes options inputs startedCollector after) := by
  obtain ⟨settings, written, applied⟩ := (processWords_written ..).mp accepted
  obtain ⟨granted, filter, -, rfl⟩ := (applyAll_settled ..).mp applied
  refine ⟨settings, written, rfl, fun inputs after ran => ⟨fun asked => ?_, fun unasked => ?_⟩⟩
  · apply ran.forwards
    exact fun absent => (targetsOf_nil granted).mp absent asked
  · apply ran.decodes
    exact (targetsOf_nil granted).mpr unasked

/-- Every host has one address, and sockets are numbered. -/
def oneHost : Surroundings := ⟨fun _ => some [10, 0, 0, 1], fun index => .ok index⟩

def targetThenLine : List (List Char) := ["-f".toList, "collector/6343".toList, "-l".toList]

def targetThenLineOptions : SFOptions :=
  { defaultOptions with
    forwardingTargets := [⟨[10, 0, 0, 1], 6343, 0⟩]
    config := defaultConfig .line }

theorem targetThenLine_accepted :
    processCommandLine oneHost targetThenLine = .ok targetThenLineOptions := by
  have written : Written targetThenLine [.forward "collector/6343".toList, .format .line] :=
    .argument ⟨false, 'f', []⟩ _ _ rfl rfl (.flag ⟨false, 'l', []⟩ _ rfl rfl .nil)
  have known : hostAndPort oneHost "collector/6343".toList = some ([10, 0, 0, 1], 6343) := by
    decide +kernel
  have added : addForwardingTarget oneHost "collector/6343".toList defaultOptions =
      .ok { defaultOptions with forwardingTargets := [⟨[10, 0, 0, 1], 6343, 0⟩] } :=
    (addForwardingTarget_ok ..).mpr ⟨_, _, _, known, rfl, rfl⟩
  have forwards : (Setting.forward "collector/6343".toList).apply oneHost defaultOptions =
      .ok (SFOptions.formatted
        { defaultOptions with forwardingTargets := [⟨[10, 0, 0, 1], 6343, 0⟩] } .fwd) :=
    bind_ok_iff.mpr ⟨_, added, rfl⟩
  apply (processWords_written ..).mpr
  refine ⟨_, written, ?_⟩
  rw [applyAll_cons]
  exact bind_ok_iff.mpr ⟨_, forwards, rfl⟩

/-- The format that is asked for behind a target changes nothing. -/
theorem target_then_line_forwarded :
    ∃ settings, Written targetThenLine settings ∧
      targetThenLineOptions.forwardingTargets = targetsOf oneHost settings ∧
      ∀ inputs after, Ran targetThenLineOptions inputs after →
        ((∃ hostandport, Setting.forward hostandport ∈ settings) →
          Forwards targetThenLineOptions inputs startedCollector after) ∧
        ((¬∃ hostandport, Setting.forward hostandport ∈ settings) →
          Decodes targetThenLineOptions inputs startedCollector after) :=
  datagrams_forwarded_or_decoded targetThenLine_accepted

end Options

end SflowTool
