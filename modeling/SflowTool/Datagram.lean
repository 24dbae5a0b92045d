import SflowTool.CountersSample

/-! A whole datagram: the header, the dispatch of its samples by version and tag, and
the place where an abort is caught. The sample is cleared for every datagram; the
metrics' statics, the sequence numbers and the databases are not. -/
namespace SflowTool
open Decoding Decoding.Decoder

variable (config : SFConfig)

/-- A version 5 sample. -/
def readSampleV5 (sampleType : UInt32) : Decode Unit :=
  if sampleType = 1 then
    readFlowSample config false
  else if sampleType = 2 then
    readCountersSample config false
  else if sampleType = 3 then
    readFlowSample config true
  else if sampleType = 4 then
    readCountersSample config true
  else do
    let len ← getData32
    skipTLVRecord config sampleType len "sample"

/-- A sample of version 2 or 4. -/
def readSampleV2v4 (sampleType : UInt32) : Decode Unit :=
  if sampleType = 1 then
    readFlowSampleV2v4 config
  else if sampleType = 2 then
    readCountersSampleV2v4 config
  else
    receiveError "unexpected sample type"

/-- The datagram has to go on where a sample is still announced. -/
def checkMoreData (samp samplesInPacket : UInt32) : Decode Unit := do
  let (received, cursor) ← survey
  when (received.length ≤ cursor) do
    fprintfErr "unexpected end of datagram after sample %d of %d\n"
      [.word samp, .word samplesInPacket]
    sfAbort .eos

def readSample : Decode Unit := do
  let sampleType ← getData32
  setWord .sampleType sampleType
  sfLog config "==================== StartSample ======================\n" []
  sfLog config "%-35s %s\n" [.name "sampleType_tag", .tag sampleType]
  let version ← getWord .datagramVersion
  (if version ≥ 5 then readSampleV5 config sampleType else readSampleV2v4 config sampleType)
  sfLog config "==================== EndSample ========================\n" []

def readSamples (samplesInPacket : UInt32) : Nat → UInt32 → Decode Unit
  | 0, _ => return ()
  | remaining + 1, samp => do
      checkMoreData samp samplesInPacket
      readSample config
      note .iteration
      readSamples samplesInPacket remaining (samp + 1)

/-- The datagram header; returns the number of samples. -/
def readDatagramHeader : Decode UInt32 := do
  let sourceIP ← getAddressVar .sourceIP
  sfLog config "%-35s %s\n" [.name "datagramSourceIP", .address sourceIP]
  let (received, _) ← survey
  sfLog config "%-35s %u\n" [.name "datagramSize", .word (UInt32.ofNat received.length)]
  sfLog config "%-35s %u\n" [.name "unixSecondsUTC", .word config.now]
  let pcapTimestamp ← getWord .pcapTimestamp
  when (pcapTimestamp ≠ 0) (sfLog config "pcapTimestamp %s\n" [.word pcapTimestamp])
  let version ← getData32
  setWord .datagramVersion version
  sfLog config "%-35s %d\n" [.name "datagramVersion", .word version]
  when (version ≠ 2 ∧ version ≠ 4 ∧ version ≠ 5)
    (receiveError "unexpected datagram version number\n")
  let _ ← getAddress .agentAddr
  when (version ≥ 5) do
    let agentSubId ← getData32
    setWord .agentSubId agentSubId
    sfLog config "%-35s %u\n" [.name "AgentSubId", .word agentSubId]
  let sequenceNo ← getData32
  setWord .sequenceNo sequenceNo
  let sysUpTime ← getData32
  setWord .sysUpTime sysUpTime
  let samplesInPacket ← getData32
  let agentAddr ← getAddressVar .agentAddr
  sfLog config "%-35s %s\n" [.name "Agent", .address agentAddr]
  sfLog config "%-35s %u\n" [.name "PacketSequenceNo", .word sequenceNo]
  sfLog config "%-35s %u\n" [.name "SysUpTime", .word sysUpTime]
  sfLog config "%-35s %u\n" [.name "samplesInPacket", .word samplesInPacket]
  return samplesInPacket

def readSFlowDatagram : Decode Unit := do
  let samplesInPacket ← readDatagramHeader config
  readSamples config samplesInPacket samplesInPacket.toNat 0

/-- How a datagram ends for its caller. -/
inductive Received where
  | returned
  | caught (exceptionVal : UInt32)
  | exited (code : Int)
deriving DecidableEq

/-- An abort is caught as its number; an exit is not caught. -/
def received : Except Stop Unit → Received
  | .ok () => .returned
  | .error (.exit code) => .exited code
  | .error .eos => .caught 1
  | .error .decodeError => .caught 2
  | .error .lengthError => .caught 3

theorem received_returned (outcome : Except Stop Unit) :
    received outcome = .returned ↔ outcome = .ok () := by
  cases outcome with
  | ok value => simp [received]
  | error reason => cases reason <;> simp [received]

/-- The log lines around a datagram. -/
def frameLine (config : SFConfig) (fmt : String) : List Event :=
  if config.outputFormat = .full then [.log ⟨fmt, []⟩] else []

/-- What the decode of a datagram does to the outside: the events of the decode, with
those of the catch, between the two frame lines. Nothing follows an exit. -/
def receivedEvents (decoded : Run collector Unit) : List Event :=
  frameLine config "==================== StartDatagram ====================\n\n" ++
  decoded.trace.map Stamped.event ++
  (match received decoded.outcome with
   | .returned => frameLine config "==================== EndDatagram ======================\n\n"
   | .caught value => .errout ⟨"caught exception: %d\n", [.word value]⟩ ::
       frameLine config "==================== EndDatagram ======================\n\n"
   | .exited _ => [])

/-- The cleared `SFSample` of a new datagram, with the statics as they stand. -/
def clearedAddress : Address := ⟨0, List.replicate 16 0⟩

def clearedCommon : DdosCommon := ⟨0, 0, 0, List.replicate 16 0, List.replicate 16 0, 0, 0⟩

def clearedHttpLog : HttpLog := ⟨[], 0, 0, [], 0, 0, 0, [], []⟩

def clearedStore : (var : Var) → var.type
  | .word _ => (0 : UInt32)
  | .dword _ => (0 : UInt64)
  | .address _ => clearedAddress
  | .text _ => ([] : Text)
  | .clfHttpLog => clearedHttpLog
  | .common _ => clearedCommon
  | .counters _ => fun _ => (0 : UInt64)

/-- The variables that outlive a datagram: the metrics' statics and the common log. -/
def Var.static : Var → Bool
  | .dword .ifSpeed | .dword .ifInOctets | .dword .ifOutOctets => false
  | .dword _ => true
  | .clfHttpLog => true
  | .word .clfValid => true
  | .text .clfClient => true
  | _ => false

/-- The state a datagram is decoded from: `statics` is the state the last one left. -/
def freshSample (sourceIP : Address) (pcapTimestamp : UInt32) (statics : SFSample) : SFSample where
  cursor := 0
  marks _ := 0
  store
    | .address .sourceIP => sourceIP
    | .word .pcapTimestamp => pcapTimestamp
    | var => if var.static then statics.store var else clearedStore var
  ticks := statics.ticks

/-- `receiveSFlowDatagram` where nothing is forwarded: the run of the decode on the
received buffer. -/
def receiveSFlowDatagram (buffer : Buffer) (sample : SFSample) : Run collector Unit :=
  run buffer (readSFlowDatagram config) sample

end SflowTool
