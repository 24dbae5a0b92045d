import SflowTool.Discipline
import SflowTool.Datagram

/-! The collector over many datagrams. Every datagram is decoded from a cleared sample;
the statics and the counters go on from where the last one left them, whether it
returned or was aborted. Nothing is decoded after an exit. -/
namespace SflowTool
open Decoding

/-- A datagram as it arrives: what was received and from where, and what the process
finds in its surroundings while it decodes it. -/
structure Arrival where
  buffer : Buffer
  sourceIP : Address
  pcapTimestamp : UInt32
  time : UInt64
  leveldbError : Option Text
  stackOctets : List UInt8

/-- The options with the surroundings of a datagram. -/
def SFConfig.during (config : SFConfig) (arrival : Arrival) : SFConfig :=
  { config with
    time := arrival.time
    leveldbError := arrival.leveldbError
    stackOctets := arrival.stackOctets }

def receiveArrival (config : SFConfig) (arrival : Arrival) (process : SFSample) :
    Run collector Unit :=
  receiveSFlowDatagram (config.during arrival) arrival.buffer
    (freshSample arrival.sourceIP arrival.pcapTimestamp process)

/-- The decodes of a sequence of datagrams, from what the process holds before it. -/
def receiveAll (config : SFConfig) : List Arrival → SFSample → List (Run collector Unit)
  | [], _ => []
  | arrival :: rest, process =>
      let decoded := receiveArrival config arrival process
      decoded :: match received decoded.outcome with
        | .exited _ => []
        | _ => receiveAll config rest decoded.state

/-- What the process holds when it starts. -/
def startedProcess : SFSample := ⟨0, fun _ => 0, clearedStore, fun _ => 0⟩

/-- The events of all decodes in their order. -/
def sessionTrace (decodes : List (Run collector Unit)) : List (Stamped collector) :=
  decodes.flatMap Run.trace

/-- What every decode hands on holds along a whole sequence of datagrams. -/
theorem receiveAll_induct (config : SFConfig)
    (holds : SFSample → List (Run collector Unit) → Prop) (none : ∀ process, holds process [])
    (more : ∀ arrival process rest, holds (receiveArrival config arrival process).state rest →
      holds process (receiveArrival config arrival process :: rest))
    (arrivals : List Arrival) (process : SFSample) :
    holds process (receiveAll config arrivals process) := by
  induction arrivals generalizing process with
  | nil => exact none process
  | cons arrival rest ih =>
      simp only [receiveAll]
      split
      · exact more arrival process [] (none _)
      · exact more arrival process _ (ih _)

end SflowTool
