import SflowTool.StoredCounters
import SflowTool.NetFlowExport
import SflowTool.StructCopies

/-! The JSON object of a flexible counter record. Its names are the keys as signed numbers, its
values signed 64-bit integers; read as unsigned numbers they are what stands in the record in
network order. -/
namespace SflowTool
open Decoding Decoding.Decoder Printing

section Swaps

/-- Eight octets of memory as a little-endian host reads them. -/
def leDword (octets : List UInt8) : UInt64 := UInt64.ofNat (beNat octets.reverse)

/-- `ntohll`: each half of the value is swapped and put in the place of the other. -/
def ntohllSwap (val : UInt64) : UInt64 :=
  ((htonl val.toUInt32).toUInt64 <<< 32) + (htonl (val >>> 32).toUInt32).toUInt64

/-- The key and the value of a `sflow_flex_kv` as the loop takes them. -/
def flexKey (kv : List UInt8) : UInt32 := htonl (leWord (kv.take 4))
def flexValue (kv : List UInt8) : UInt64 := ntohllSwap (leDword (kv.drop 4))

theorem ntohllSwap_leDword (octets : List UInt8) (dword : octets.length = 8) :
    ntohllSwap (leDword octets) = ntohll octets := by
  have first : (octets.take 4).length = 4 := List.length_take_of_le (by omega)
  have second : (octets.drop 4).length = 4 := by
    rw [List.length_drop, dword]
  have low := beNat_lt (octets.take 4)
  have high := beNat_lt (octets.drop 4)
  have lowTurned := beNat_lt (octets.take 4).reverse
  have highTurned := beNat_lt (octets.drop 4).reverse
  rw [List.length_reverse] at lowTurned highTurned
  rw [first] at low lowTurned
  rw [second] at high highTurned
  have whole : beNat octets = beNat (octets.take 4) * 256 ^ 4 + beNat (octets.drop 4) := by
    have parts := beNat_append (octets.take 4) (octets.drop 4)
    rwa [List.take_append_drop, second] at parts
  have turned : (leDword octets).toNat =
      beNat (octets.drop 4).reverse * 256 ^ 4 + beNat (octets.take 4).reverse := by
    have parts : octets.reverse = (octets.drop 4).reverse ++ (octets.take 4).reverse := by
      rw [← List.reverse_append, List.take_append_drop]
    unfold leDword
    rw [parts, beNat_append, List.length_reverse, first, UInt64.toNat_ofNat']
    omega
  have lower : (leDword octets).toUInt32 = leWord (octets.take 4) := by
    apply UInt32.toNat_inj.mp
    rw [UInt64.toNat_toUInt32, turned, leWord, UInt32.toNat_ofNat']
    omega
  have upper : (leDword octets >>> 32).toUInt32 = leWord (octets.drop 4) := by
    apply UInt32.toNat_inj.mp
    rw [UInt64.toNat_toUInt32, UInt64.toNat_shiftRight, turned, leWord, UInt32.toNat_ofNat',
      Nat.shiftRight_eq_div_pow]
    show _ / 2 ^ 32 % 2 ^ 32 = _
    omega
  unfold ntohllSwap ntohll
  rw [lower, upper, htonl_leWord _ first, htonl_leWord _ second]
  apply UInt64.toNat_inj.mp
  rw [UInt64.toNat_add, UInt64.toNat_shiftLeft, UInt32.toNat_toUInt64, UInt32.toNat_toUInt64,
    UInt32.toNat_ofNat', UInt32.toNat_ofNat', UInt64.toNat_ofNat', whole, Nat.shiftLeft_eq]
  show (_ * 2 ^ 32 % 2 ^ 64 + _) % 2 ^ 64 = _
  omega

end Swaps

section Objects

/-- A JSON object by its members. -/
abbrev JsonObject := List (Text × Int64)

/-- `json_object_object_add`: the value of a member that is there is replaced. -/
def JsonObject.add (object : JsonObject) (name : Text) (value : Int64) : JsonObject :=
  match object with
  | [] => [(name, value)]
  | member :: rest =>
      if member.1 = name then (name, value) :: rest else member :: JsonObject.add rest name value

/-- The members read back: each name and each value as an unsigned number. -/
def readBack (object : JsonObject) : List (Nat × Nat) :=
  object.map fun member => ((readUnsigned member.1).toNat, member.2.toUInt64.toNat)

/-- The object that is written for a list of pairs. -/
def counterObject (pairs : List (UInt32 × UInt64)) : JsonObject :=
  pairs.foldl (fun object pair => object.add (signedDecimal pair.1) pair.2.toInt64) []

/-- The loop over the pairs behind a header, from number `index` on. -/
def addCounters (buffer : Buffer) (start : Nat) : Nat → Nat → JsonObject → JsonObject
  | 0, _, data => data
  | remaining + 1, index, data =>
      let kv := buffer.slice (start + (customInfoSize + flexKvSize * index)) flexKvSize
      let tmp := signedDecimal (flexKey kv)
      addCounters buffer start remaining (index + 1) (data.add tmp (flexValue kv).toInt64)

theorem add_fresh (object : JsonObject) (name : Text) (value : Int64)
    (fresh : ∀ member ∈ object, member.1 ≠ name) : object.add name value = object ++ [(name, value)] := by
  induction object with
  | nil => rfl
  | cons member rest ih =>
      obtain ⟨other, fresh⟩ := List.forall_mem_cons.mp fresh
      rw [JsonObject.add, if_neg other, ih fresh]
      rfl

/-- Distinct keys have distinct names. -/
theorem counterObject_members (pairs : List (UInt32 × UInt64))
    (distinct : (pairs.map Prod.fst).Nodup) : counterObject pairs =
      pairs.map fun pair => (signedDecimal pair.1, pair.2.toInt64) := by
  induction pairs using List.reverseRecOn with
  | nil => rfl
  | append_singleton pairs pair ih =>
      rw [List.map_append, List.map_singleton, List.nodup_append] at distinct
      obtain ⟨before, -, apart⟩ := distinct
      have fresh : ∀ member ∈ counterObject pairs, member.1 ≠ signedDecimal pair.1 := by
        rw [ih before]
        rintro member among
        obtain ⟨other, known, rfl⟩ := List.mem_map.mp among
        intro same
        exact apart other.1 (List.mem_map_of_mem known) pair.1 (List.mem_singleton_self _)
          (signedDecimal_inj same)
      have last : counterObject (pairs ++ [pair]) =
          (counterObject pairs).add (signedDecimal pair.1) pair.2.toInt64 := List.foldl_concat ..
      rw [last, add_fresh _ _ _ fresh, ih before, List.map_append]
      rfl

/-- What is read back of an object is the pairs it was made of. -/
theorem readBack_counterObject (pairs : List (UInt32 × UInt64))
    (distinct : (pairs.map Prod.fst).Nodup) : readBack (counterObject pairs) =
      pairs.map fun pair => (pair.1.toNat, pair.2.toNat) := by
  unfold readBack
  rw [counterObject_members pairs distinct, List.map_map]
  refine List.map_congr_left fun pair _ => ?_
  exact congrArg (·, pair.2.toNat) (congrArg UInt32.toNat (readUnsigned_signedDecimal pair.1))

end Objects

section Records

/-- The pair with a number behind a header, as it stands in the record: a key of four octets
and a value of eight, both big-endian. -/
def wireCounter (buffer : Buffer) (start index : Nat) : Nat × Nat :=
  let place := start + (customInfoSize + flexKvSize * index)
  (beNat (buffer.slice place 4), beNat (buffer.slice (place + 4) 8))

theorem kv_parts (buffer : Buffer) (place : Nat) :
    (buffer.slice place flexKvSize).take 4 = buffer.slice place 4 ∧
      (buffer.slice place flexKvSize).drop 4 = buffer.slice (place + 4) 8 := by
  have split : buffer.slice place flexKvSize = buffer.slice place 4 ++ buffer.slice (place + 4) 8 :=
    buffer.slice_append place 4 8
  rw [split]
  exact ⟨List.take_left' (buffer.length_slice place 4),
    List.drop_left' (buffer.length_slice place 4)⟩

/-- The two swaps give the pair that is stored. -/
theorem flexKv_swapped (buffer : Buffer) (place : Nat) :
    flexKey (buffer.slice place flexKvSize) = wordAt (buffer.slice place flexKvSize) 0 ∧
      flexValue (buffer.slice place flexKvSize) =
        ntohll ((buffer.slice place flexKvSize).drop 4) := by
  obtain ⟨key, value⟩ := kv_parts buffer place
  constructor
  · unfold flexKey wordAt
    rw [key, List.drop_zero, key]
    exact htonl_leWord _ (buffer.length_slice place 4)
  · unfold flexValue
    rw [value]
    exact ntohllSwap_leDword _ (buffer.length_slice (place + 4) 8)

theorem addCounters_pairs (buffer : Buffer) (start remaining index : Nat) (data : JsonObject) :
    addCounters buffer start remaining index data =
      (flexPairs buffer start remaining index).foldl
        (fun object pair => object.add (signedDecimal pair.1) pair.2.toInt64) data := by
  induction remaining generalizing index data with
  | zero => rfl
  | succ remaining ih =>
      obtain ⟨key, value⟩ := flexKv_swapped buffer
        (start + (customInfoSize + flexKvSize * index))
      rw [addCounters, ih, key, value]
      rfl

theorem flexPairs_wire (buffer : Buffer) (start remaining index : Nat) :
    ((flexPairs buffer start remaining index).map fun pair => (pair.1.toNat, pair.2.toNat)) =
      (List.range' index remaining).map (wireCounter buffer start) := by
  induction remaining generalizing index with
  | zero => rfl
  | succ remaining ih =>
      have place := kv_parts buffer (start + (customInfoSize + flexKvSize * index))
      have key := beNat_lt (buffer.slice (start + (customInfoSize + flexKvSize * index)) 4)
      have value := beNat_lt (buffer.slice (start + (customInfoSize + flexKvSize * index) + 4) 8)
      rw [buffer.length_slice] at key value
      rw [flexPairs, List.map_cons, ih, List.range'_succ, List.map_cons]
      refine congrArg (· :: _) (Prod.ext ?_ ?_)
      · show (wordAt _ 0).toNat = _
        unfold wordAt
        rw [List.drop_zero, place.1]
        exact UInt32.toNat_ofNat_of_lt' key
      · show (ntohll _).toNat = _
        unfold ntohll
        rw [place.2]
        exact UInt64.toNat_ofNat_of_lt' value

namespace GenericRecord

/-- The number of pairs of a record. -/
def count (record : GenericRecord) : Nat :=
  ((wordOf record.sample .currentContextLength - 45) / 12).toNat

/-- The pairs as they stand in the record. -/
def wire (record : GenericRecord) : List (Nat × Nat) :=
  (List.range' 0 record.count).map (wireCounter record.buffer record.sample.cursor)

/-- The object the loop fills. -/
def object (record : GenericRecord) : JsonObject :=
  addCounters record.buffer record.sample.cursor record.count 0 []

theorem object_counters (record : GenericRecord) : record.object = counterObject record.counters :=
  addCounters_pairs ..

theorem counters_wire (record : GenericRecord) :
    (record.counters.map fun pair => (pair.1.toNat, pair.2.toNat)) = record.wire :=
  flexPairs_wire ..

end GenericRecord

/-- The object that is written for a record with distinct keys, read back as unsigned numbers,
is the pairs of the record. -/
theorem generic_object_read_back (record : GenericRecord)
    (distinct : (record.wire.map Prod.fst).Nodup) :
    ((.rawDb, record.key), .counters record.counters) ∈ putsOf (eventsOf record.decoded) ∧
      record.object = counterObject record.counters ∧ readBack record.object = record.wire := by
  refine ⟨?_, record.object_counters, ?_⟩
  · rw [record.decoded_puts]
    exact List.mem_cons_self
  · have keys : (record.counters.map Prod.fst).Nodup := by
      rw [← record.counters_wire, List.map_map] at distinct
      apply List.Nodup.of_map UInt32.toNat
      rw [List.map_map]
      exact distinct
    rw [record.object_counters, readBack_counterObject _ keys, record.counters_wire]

theorem default_opens (format : OutputFormat) : (defaultConfig format).leveldbError = none := rfl

/-- A record whose key is negative as a signed number, and its value too. -/
def negativePolled : GenericRecord where
  config := defaultConfig .full
  buffer := .ofBytes (List.replicate 36 0x61 ++ [0] ++ be32 7 ++ be32 0 ++ be32 0x80000000 ++
    be64 0xffffffffffffffff)
  sample := polledSample
  opens := default_opens .full
  known := by decide +kernel
  returned := (received_returned _).mp (by decide +kernel)

theorem negative_object_read_back :
    ((.rawDb, negativePolled.key), .counters negativePolled.counters) ∈
        putsOf (eventsOf negativePolled.decoded) ∧
      negativePolled.object = counterObject negativePolled.counters ∧
      readBack negativePolled.object = negativePolled.wire :=
  generic_object_read_back negativePolled (by decide +kernel)

end Records

end SflowTool
