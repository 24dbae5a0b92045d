import SflowTool.Sample

/-! The read functions every record decoder is made of, the logging calls that go
with them, and the helpers that print a tag or an address. A read of more than one
byte is checked as a whole; the source reads first and checks then, but what it read
past the end is dropped with the sample. -/
namespace SflowTool
open Decoding Decoding.Decoder

variable (config : SFConfig)

def getWord (var : WordVar) : Decode UInt32 := @Decoder.get collector (.word var)
def setWord (var : WordVar) (value : UInt32) : Decode Unit := @Decoder.set collector (.word var) value
def getDword (var : DwordVar) : Decode UInt64 := @Decoder.get collector (.dword var)
def setDword (var : DwordVar) (value : UInt64) : Decode Unit :=
  @Decoder.set collector (.dword var) value
def getAddressVar (var : AddressVar) : Decode Address := @Decoder.get collector (.address var)
def setAddressVar (var : AddressVar) (value : Address) : Decode Unit :=
  @Decoder.set collector (.address var) value
def getText (var : TextVar) : Decode Text := @Decoder.get collector (.text var)
def setText (var : TextVar) (value : Text) : Decode Unit := @Decoder.set collector (.text var) value
def getCommon (member : DdosMember) : Decode DdosCommon := @Decoder.get collector (.common member)
def setCommon (member : DdosMember) (value : DdosCommon) : Decode Unit :=
  @Decoder.set collector (.common member) value
def getCounters (member : DdosMember) : Decode (String → UInt64) :=
  @Decoder.get collector (.counters member)
def setCounters (member : DdosMember) (value : String → UInt64) : Decode Unit :=
  @Decoder.set collector (.counters member) value

def setCounter (member : DdosMember) (field : String) (value : UInt64) : Decode Unit := do
  let counters ← getCounters member
  setCounters member (Function.update counters field value)

def sfLog (fmt : String) (args : List Arg) : Decode Unit :=
  when (config.outputFormat = .full) (emit (.log ⟨fmt, args⟩))

/-- A `printf` that the output format does not gate. -/
def printf (fmt : String) (args : List Arg) : Decode Unit := emit (.print ⟨fmt, args⟩)

def fprintfErr (fmt : String) (args : List Arg) : Decode Unit := emit (.errout ⟨fmt, args⟩)

def sfAbort {α : Type} (reason : Stop) : Decode α := stop reason

def customExit {α : Type} (code : Int) : Decode α := stop (.exit code)

def beNat (octets : List UInt8) : Nat := octets.foldl (fun value octet => value * 256 + octet.toNat) 0

def getData32Nobswap : Decode (List UInt8) := take 4

def getData32 : Decode UInt32 := do
  let octets ← getData32Nobswap
  return UInt32.ofNat (beNat octets)

def getData64 : Decode UInt64 := do
  let high ← getData32
  let low ← getData32
  return (high.toUInt64 <<< 32) + low.toUInt64

def getFloat : Decode UInt32 := getData32

def skipBytes (count : UInt32) : Decode (List UInt8) := skip count

def getData16 : Decode UInt32 := do
  let octets ← take 2
  return UInt32.ofNat (beNat octets)

def getDataU8 : Decode UInt32 := do
  let octets ← take 1
  return UInt32.ofNat (beNat octets)

/-- The text a character array holds: the bytes before its first zero. -/
def cString (octets : List UInt8) : Text := octets.takeWhile fun octet => octet != 0

def getData8 (len : Nat) : Decode Text := do
  let octets ← take len
  return cString (octets.take (len - 1))

def sfLogString (buffer : String) : Decode Unit := sfLog config "%s" [.name buffer]

def sfLogU32 (val : UInt32) (fieldName : String) : Decode Unit :=
  sfLog config "%-35s %-20u\n" [.name fieldName, .word val]

def sfLogU64 (val : UInt64) (fieldName : String) : Decode Unit :=
  sfLog config "%-35s %-20u\n" [.name fieldName, .dword val]

def sfLogNext8 (fieldName : String) (len : Nat) : Decode Unit := do
  let buffer ← getData8 len
  sfLog config "%-35s %-20s\n" [.name fieldName, .text buffer]

def sfLogNext16 (fieldName : String) : Decode UInt32 := do
  let val ← getData16
  sfLog config "%-35s %-20u\n" [.name fieldName, .word val]
  return val

def sfLogNext32 (fieldName : String) : Decode UInt32 := do
  let val ← getData32
  sfLog config "%-35s %-20u\n" [.name fieldName, .word val]
  return val

def sfLogNext64 (fieldName : String) : Decode UInt64 := do
  let val64 ← getData64
  sfLog config "%-35s %-20llu\n" [.name fieldName, .dword val64]
  return val64

def sfLogPercentage (fieldName : String) : Decode Unit := do
  let hundredths ← getData32
  if hundredths = 0xffffffff then
    sfLog config "%s unknown\n" [.name fieldName]
  else
    sfLog config "%s %.2f\n" [.name fieldName, .percent hundredths]

def sfLogNextFloat (fieldName : String) : Decode Unit := do
  let val ← getFloat
  sfLog config "%s %.3f\n" [.name fieldName, .float val]

def sfLogNextMAC (fieldName : String) : Decode Unit := do
  mark .ptr
  let mac ← peek .ptr 0 6
  sfLog config "%s %02x%02x%02x%02x%02x%02x\n" [.name fieldName, .bytes mac]
  let _ ← skipBytes 6

/-- A counted string into a buffer of `bufLen` characters: what was copied and the
length that was announced. The copy ends at a zero byte when it is used as text. -/
def getString (bufLen : UInt32) : Decode (UInt32 × Text) := do
  let len ← getData32
  let readLen := if len ≥ bufLen then bufLen - 1 else len
  let octets ← skipBytes len
  return (len, cString (octets.take readLen.toNat))

/-- A counted string that is only logged, and only when it is announced as non-empty. -/
def logNextString (fmt : String) (bufLen : UInt32) : Decode Text := do
  let (len, text) ← getString bufLen
  when (len > 0) (sfLog config fmt [.text text])
  return text

def getAddress (var : AddressVar) : Decode UInt32 := do
  let type ← getData32
  if type = 1 then
    let octets ← getData32Nobswap
    setAddressVar var ⟨type, octets⟩
  else
    let octets ← skipBytes 16
    setAddressVar var ⟨type, octets⟩
  return type

def skipTLVRecord (tag len : UInt32) (description : String) : Decode Unit := do
  sfLog config "skipping unknown %s: %s len=%d\n" [.name description, .tag tag, .word len]
  let _ ← skipBytes len

end SflowTool
