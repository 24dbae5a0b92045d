import SflowTool.CounterRecords

/-! The flexible counter record: a packed header of 45 bytes with a UUID text, an
object id and a partition id, and behind it pairs of a key and a value. The header
is laid over the datagram and moved over without a check; the pairs are read before
the rest of the record is skipped. Keys and values go to two databases. A database
that opens is taken to read and write; what a read prints is the database's. -/
namespace SflowTool
open Decoding Decoding.Decoder

variable (config : SFConfig)

/-- The size of the packed `sfl_a10_custom_info`. -/
def customInfoSize : Nat := 45

/-- The size of the packed `sflow_flex_kv`. -/
def flexKvSize : Nat := 12

/-- Whether the write got as far as the database. -/
def leveldbSimpleWriteData (write : Event) : Decode Unit :=
  match config.leveldbError with
  | some err => fprintfErr "Open fail: %s.\n" [.text err]
  | none => emit write

/-- Returns whether the key could be looked up, found or not. -/
def leveldbSimpleReadData (key : Line) (database : Database) : Decode Bool :=
  match config.leveldbError with
  | some _ => do
      fprintfErr "Open fail.\n" []
      return false
  | none => do
      emit (.leveldbRead key database)
      return true

def writeObjectId (objId : Line) (oid : UInt32) (uuid : Text) : Decode Unit := do
  let read ← leveldbSimpleReadData config objId .objDb
  when (read = true) (leveldbSimpleWriteData config (.leveldbWriteObject objId oid uuid .objDb))

/-- The big-endian value of a pair. -/
def ntohll (octets : List UInt8) : UInt64 := UInt64.ofNat (beNat octets)

/-- The pairs from number `index` on, each printed as it is read. -/
def readFlexKv : Nat → Nat → Decode (List (UInt32 × UInt64))
  | 0, _ => return []
  | remaining + 1, index => do
      let kv ← peek .ptr (customInfoSize + flexKvSize * index) flexKvSize
      let key := wordAt kv 0
      let value := ntohll (kv.drop 4)
      printf "key = %d value  = %ld\n" [.word key, .dword value]
      let rest ← readFlexKv remaining (index + 1)
      return (key, value) :: rest

/-- The header pointer of the last sampled header, as a text. -/
def printHeader : Decode Unit := do
  let gotHeader ← getWord .gotHeader
  if gotHeader = 0 then
    printf "smaple-> datap = %s\n" [.name "(null)"]
  else do
    let header ← peekText .header 0
    printf "smaple-> datap = %s\n" [.text header]

def readCountersA10_4_1_n_generic : Decode Unit := do
  mark .ptr
  jump customInfoSize
  let uuid ← peekText .ptr 0
  printf "uuid = %s\n" [.text uuid]
  let schemaOid ← peek .ptr 37 4
  let oid := wordAt schemaOid 0
  printf "obj_stats_oid = %d \n" [.word oid]
  printf "schema oid = %d\n" [.word oid]
  let vnpId ← peek .ptr 41 4
  printf "vnp_id of ctr = %d\n" [.word (wordAt vnpId 0)]
  let contextLength ← getWord .currentContextLength
  let remaining := contextLength - 45
  setWord .currentContextLength remaining
  let numberOfCounters := remaining / 12
  printf "Number of counters = %d\n" [.word numberOfCounters]
  -- the early return leaves the cursor behind the header, whatever length was announced
  if uuid.length ≠ 36 then
    return ()
  printHeader
  let data ← readFlexKv numberOfCounters.toNat 0
  let objKey : Line := ⟨".obj.%d.%s", [.word oid, .text uuid]⟩
  let key : Line := ⟨".time.%d.%s.%lu", [.word oid, .text uuid, .dword config.time]⟩
  let _ ← skipBytes remaining
  leveldbSimpleWriteData config (.leveldbWrite key data .rawDb)
  printf ("Test for obj key = " ++ objKey.fmt ++ "\n") objKey.args
  writeObjectId config objKey oid uuid
  printf ("Test for key = " ++ key.fmt ++ "\n") key.args
  let _ ← leveldbSimpleReadData config key .rawDb

end SflowTool
