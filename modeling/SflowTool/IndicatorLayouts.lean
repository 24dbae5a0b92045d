import SflowTool.CounterReports

/-! The indicator records against the packed structs they are laid out as. The decoders
read one field after the other and know no offsets, so that a field which a decoder leaves
out moves all fields behind it. -/
namespace SflowTool
open Decoding Decoding.Decoder

section Layouts

/-- The fields of a packed struct in their order, with their widths. -/
abbrev PackedStruct := List (String × Nat)

def sizeOfPacked (struct : PackedStruct) : Nat := (struct.map Prod.snd).sum

/-- A field with the offset it lies at. -/
structure Placed where
  field : String
  offset : Nat
  width : Nat

/-- The fields of a struct that begins at `offset`. -/
def placedFrom : Nat → PackedStruct → List Placed
  | _, [] => []
  | offset, (field, width) :: rest => ⟨field, offset, width⟩ :: placedFrom (offset + width) rest

def sflowDdosIndValue (path : String) : PackedStruct :=
  [(path ++ ".mean_x100", 4), (path ++ ".variance_x100", 4), (path ++ ".min_x100", 4),
   (path ++ ".nonzero_min_x100", 4), (path ++ ".max_x100", 4)]

/-- What every struct of indicators begins with. -/
def packedHeader (group : String) : PackedStruct :=
  [(group ++ "seq_num", 4), (group ++ "num_data_points", 2), (group ++ "elapsed_sec", 2)]

def packedIndicators (group : String) (values : List String) : PackedStruct :=
  packedHeader group ++ values.flatMap fun value => sflowDdosIndValue (group ++ value)

def sflowDdosDstUdpIndicators (group : String) : PackedStruct :=
  packedIndicators group
    ["in_pkt_rate", "small_payload_rate", "in_byte_over_out_byte", "concurrent_conns",
     "pkt_drop_rate", "pkt_drop_recv_ratio"]

def sflowDdosDstTcpIndicators (group : String) : PackedStruct :=
  packedIndicators group
    ["in_pkt_rate", "in_syn_rate", "in_fin_rate", "in_rst_rate", "small_window_ack_rate",
     "empty_ack_rate", "small_payload_rate", "in_byte_over_out_byte", "syn_over_fin",
     "conn_miss_rate", "concurrent_conns", "pkt_drop_rate", "pkt_drop_recv_ratio"]

def sflowDdosDstIcmpIndicators (group : String) : PackedStruct :=
  packedIndicators group
    ["in_pkt_rate", "in_byte_over_out_byte", "pkt_drop_rate", "pkt_drop_recv_ratio"]

def sflowDdosDstOtherIndicators (group : String) : PackedStruct :=
  packedIndicators group
    ["in_pkt_rate", "in_frag_rate", "in_byte_over_out_byte", "pkt_drop_rate",
     "pkt_drop_recv_ratio"]

def sflowDdosDstIndicators : PackedStruct :=
  sflowDdosDstTcpIndicators "tcp." ++ sflowDdosDstUdpIndicators "udp." ++
    sflowDdosDstIcmpIndicators "icmp." ++ sflowDdosDstOtherIndicators "other."

/-- The records of indicators. -/
inductive IndicatorRecord where
  | dst
  | tcp
  | udp
  | icmp
  | other
deriving DecidableEq

namespace IndicatorRecord

def struct : IndicatorRecord → PackedStruct
  | dst => sflowDdosDstIndicators
  | tcp => sflowDdosDstTcpIndicators ""
  | udp => sflowDdosDstUdpIndicators ""
  | icmp => sflowDdosDstIcmpIndicators ""
  | other => sflowDdosDstOtherIndicators ""

def member : IndicatorRecord → DdosMember
  | dst => .ddosDstIndicators
  | tcp => .ddosDstTcpIndicators
  | udp => .ddosDstUdpIndicators
  | icmp => .ddosDstIcmpIndicators
  | other => .ddosDstOtherIndicators

/-- The fields its decoder reads. -/
def fields : IndicatorRecord → List (String × Field)
  | dst => dstIndicators
  | tcp => tcpIndicators "" ""
  | udp => dstUdpIndicators
  | icmp => icmpIndicators "" ""
  | other => otherIndicators "" ""

def read (config : SFConfig) : IndicatorRecord → Decode Unit
  | dst => readCountersDdosDstIndicators config
  | tcp => readCountersDdosDstTcpIndicators config
  | udp => readCountersDdosDstUdpIndicators config
  | icmp => readCountersDdosDstIcmpIndicators config
  | other => readCountersDdosDstOtherIndicators config

theorem read_eq (config : SFConfig) (record : IndicatorRecord) :
    record.read config = storeFields config record.member record.fields := by
  cases record <;> rfl

end IndicatorRecord

end Layouts

section Reading

variable {config : SFConfig} {buffer : Buffer} {sample : SFSample}

/-- The counters once the fields of a packed struct have been read into them. -/
def unpacked (buffer : Buffer) :
    PackedStruct → Nat → (String → UInt64) → String → UInt64
  | [], _, counters => counters
  | (field, width) :: rest, start, counters =>
      unpacked buffer rest (start + width)
        (Function.update counters field (bigEndian buffer start width))

theorem unpacked_other (struct : PackedStruct) (start : Nat) (counters : String → UInt64)
    (field : String) (absent : field ∉ struct.map Prod.fst) :
    unpacked buffer struct start counters field = counters field := by
  induction struct generalizing start counters with
  | nil => rfl
  | cons first rest ih =>
      rw [List.map_cons, List.mem_cons, not_or] at absent
      rw [unpacked, ih _ _ absent.2, Function.update_of_ne absent.1]

/-- Fields that are told apart by their names end with what lies at their own offsets. -/
theorem unpacked_placed (struct : PackedStruct) (distinct : (struct.map Prod.fst).Nodup)
    (start offset : Nat) (counters : String → UInt64) (placed : Placed)
    (known : placed ∈ placedFrom offset struct) :
    unpacked buffer struct (start + offset) counters placed.field =
      bigEndian buffer (start + placed.offset) placed.width := by
  induction struct generalizing offset counters with
  | nil => cases known
  | cons first rest ih =>
      rw [List.map_cons, List.nodup_cons] at distinct
      rcases List.mem_cons.mp known with rfl | later
      · rw [unpacked, unpacked_other rest _ _ _ distinct.1, Function.update_self]
      · rw [unpacked, Nat.add_assoc]
        exact ih distinct.2 _ _ later

/-- The fields that hold a number. -/
def Numeric (field : Field) : Prop := field matches .next16 _ | .next32 _ | .next64 _

instance (field : Field) : Decidable (Numeric field) := by
  unfold Numeric
  infer_instance

theorem yields_setCounter (member : DdosMember) (field : String) (value : UInt64) :
    (run buffer (setCounter member field value) sample).Yields () (holdingCounters sample member
      (Function.update (countersOf sample member) field value)) := ⟨rfl, rfl⟩

theorem yields_sfLogNext16 (fieldName : String) (room : sample.cursor + 2 ≤ buffer.length) :
    (run buffer (sfLogNext16 config fieldName) sample).Yields
      (UInt32.ofNat (beNat (buffer.slice sample.cursor 2))) (State.moved sample 2) :=
  yields_bind buffer _ _ (yields_bind buffer _ _ (yields_take buffer 2 sample room)
    (yields_pure buffer _ _)) (yields_logged buffer _ _ _ (yields_pure buffer _ _))

theorem yields_sfLogNext32 (fieldName : String) (room : sample.cursor + 4 ≤ buffer.length) :
    (run buffer (sfLogNext32 config fieldName) sample).Yields
      (UInt32.ofNat (beNat (buffer.slice sample.cursor 4))) (State.moved sample 4) :=
  yields_bind buffer _ _ ⟨congrArg Run.outcome (run_getData32 room),
    congrArg Run.state (run_getData32 room)⟩ (yields_logged buffer _ _ _ (yields_pure buffer _ _))

theorem yields_sfLogNext64 (fieldName : String) (room : sample.cursor + 8 ≤ buffer.length) :
    (run buffer (sfLogNext64 config fieldName) sample).Yields
      (bigEndian buffer sample.cursor 8) (State.moved sample 8) :=
  have read := reads_getData64.takes buffer sample room
  yields_bind buffer _ _ ⟨congrArg Run.outcome read, congrArg Run.state read⟩
    (yields_logged buffer _ _ _ (yields_pure buffer _ _))

/-- A number is stored under its field's name, and the cursor is behind it. -/
theorem yields_storeField (member : DdosMember) (field : String × Field)
    (numeric : Numeric field.2) (room : sample.cursor + field.2.width ≤ buffer.length) :
    (run buffer (storeField config member field) sample).Yields ()
      (holdingCounters (State.moved sample field.2.width) member
        (Function.update (countersOf sample member) field.1
          (bigEndian buffer sample.cursor field.2.width))) := by
  obtain ⟨name, kind⟩ := field
  cases kind with
  | next16 fieldName =>
      apply yields_bind buffer _ _ (yields_sfLogNext16 fieldName room)
      simp only [Field.width]
      rw [← bigEndian_small sample.cursor 2 (by decide)]
      exact yields_setCounter member name _
  | next32 fieldName =>
      apply yields_bind buffer _ _ (yields_sfLogNext32 fieldName room)
      simp only [Field.width]
      rw [← bigEndian_small sample.cursor 4 (by decide)]
      exact yields_setCounter member name _
  | next64 fieldName =>
      apply yields_bind buffer _ _ (yields_sfLogNext64 fieldName room)
      exact yields_setCounter member name _
  | percentage fieldName => cases numeric
  | nextFloat fieldName => cases numeric

def widthsOf (fields : List (String × Field)) : PackedStruct :=
  fields.map fun field => (field.1, field.2.width)

/-- The sample behind the fields of a packed struct. -/
def behindPacked (buffer : Buffer) (member : DdosMember) (struct : PackedStruct)
    (sample : SFSample) : SFSample :=
  State.moved (holdingCounters sample member
    (unpacked buffer struct sample.cursor (countersOf sample member))) (sizeOfPacked struct)

theorem behindPacked_cons (member : DdosMember) (field : String) (width : Nat)
    (rest : PackedStruct) :
    behindPacked buffer member rest (holdingCounters (State.moved sample width) member
      (Function.update (countersOf sample member) field (bigEndian buffer sample.cursor width))) =
    behindPacked buffer member ((field, width) :: rest) sample := by
  have place : sample.cursor + width + sizeOfPacked rest =
      sample.cursor + sizeOfPacked ((field, width) :: rest) := by
    simp [sizeOfPacked, Nat.add_assoc]
  unfold behindPacked
  rw [countersOf_holding, holdingCounters_twice]
  simp only [State.moved, holdingCounters, State.assigned, unpacked, place]

/-- The fields are stored one after the other, if all of them were received. -/
theorem yields_storeFields (member : DdosMember) (fields : List (String × Field))
    (numeric : ∀ field ∈ fields, Numeric field.2) (sample : SFSample)
    (room : sample.cursor + sizeOfPacked (widthsOf fields) ≤ buffer.length) :
    (run buffer (storeFields config member fields) sample).Yields ()
      (behindPacked buffer member (widthsOf fields) sample) := by
  induction fields generalizing sample with
  | nil =>
      have same : behindPacked buffer member [] sample = sample := holdingCounters_self sample member
      show (run buffer (storeFields config member []) sample).Yields () (behindPacked buffer member [] sample)
      rw [same]
      exact yields_pure buffer () sample
  | cons field rest ih =>
      simp only [widthsOf, sizeOfPacked, List.map_cons, List.sum_cons] at room ih ⊢
      rw [← behindPacked_cons]
      apply yields_bind buffer _ _
        (yields_storeField member field (numeric field List.mem_cons_self) (by omega))
      apply ih
      · intro other later
        exact numeric other (List.mem_cons_of_mem _ later)
      · rw [holdingCounters_cursor, State.moved_cursor]
        omega

end Reading

section Records

variable {config : SFConfig} {buffer : Buffer} {sample : SFSample}

/-- The record has been unpacked: each field of the struct holds what lies at its own offset,
and the cursor is behind the struct. -/
structure Unpacked (buffer : Buffer) (record : IndicatorRecord) (sample final : SFSample) :
    Prop where
  fields : ∀ placed ∈ placedFrom 0 record.struct,
    countersOf final record.member placed.field =
      bigEndian buffer (sample.cursor + placed.offset) placed.width
  consumed : final.cursor = sample.cursor + sizeOfPacked record.struct

theorem indicators_numeric (record : IndicatorRecord) :
    ∀ field ∈ record.fields, Numeric field.2 := by
  cases record <;> decide +kernel

/-- The struct has no part of UDP: only that of UDP is read without one of its fields. -/
def WithoutUdp (record : IndicatorRecord) : Prop := record ≠ .dst ∧ record ≠ .udp

theorem widths_without_udp (record : IndicatorRecord) (without : WithoutUdp record) :
    widthsOf record.fields = record.struct := by
  obtain ⟨dst, udp⟩ := without
  cases record with
  | dst => exact absurd rfl dst
  | tcp => decide +kernel
  | udp => exact absurd rfl udp
  | icmp => decide +kernel
  | other => decide +kernel

/-- With it, the decoder stops twenty bytes short of the struct. -/
theorem widths_with_udp (record : IndicatorRecord) (part : ¬WithoutUdp record) :
    sizeOfPacked (widthsOf record.fields) + 20 = sizeOfPacked record.struct := by
  cases record with
  | dst => decide +kernel
  | tcp => exact absurd (by unfold WithoutUdp; decide) part
  | udp => decide +kernel
  | icmp => exact absurd (by unfold WithoutUdp; decide) part
  | other => exact absurd (by unfold WithoutUdp; decide) part

theorem struct_distinct (record : IndicatorRecord) (without : WithoutUdp record) :
    (record.struct.map Prod.fst).Nodup := by
  apply distinct_of_fresh
  obtain ⟨dst, udp⟩ := without
  cases record with
  | dst => exact absurd rfl dst
  | tcp => decide +kernel
  | udp => exact absurd rfl udp
  | icmp => decide +kernel
  | other => decide +kernel

theorem decoder_received (record : IndicatorRecord)
    (received : sample.cursor + sizeOfPacked record.struct ≤ buffer.length) :
    (run buffer (record.read config) sample).Yields ()
      (behindPacked buffer record.member (widthsOf record.fields) sample) := by
  have sizes : sizeOfPacked (widthsOf record.fields) ≤ sizeOfPacked record.struct := by
    by_cases without : WithoutUdp record
    · rw [widths_without_udp record without]
    · have short := widths_with_udp record without
      omega
  rw [record.read_eq]
  exact yields_storeFields record.member record.fields (indicators_numeric record) sample (by omega)

theorem unpacked_without_udp (record : IndicatorRecord) (without : WithoutUdp record) :
    Unpacked buffer record sample
      (behindPacked buffer record.member (widthsOf record.fields) sample) := by
  rw [widths_without_udp record without]
  constructor
  · intro placed known
    rw [behindPacked, countersOf_moved, countersOf_holding]
    exact unpacked_placed _ (struct_distinct record without) sample.cursor 0 _ placed known
  · rfl

theorem not_unpacked_with_udp (record : IndicatorRecord) (part : ¬WithoutUdp record) :
    ¬Unpacked buffer record sample
      (behindPacked buffer record.member (widthsOf record.fields) sample) := by
  intro unpacked
  have consumed := unpacked.consumed
  have short := widths_with_udp record part
  rw [behindPacked, State.moved_cursor, holdingCounters_cursor] at consumed
  omega

/-- An indicator record that was received in whole is unpacked exactly if its struct has no
part of UDP. -/
theorem indicators_unpacked_iff (config : SFConfig) (buffer : Buffer) (sample : SFSample)
    (record : IndicatorRecord)
    (received : sample.cursor + sizeOfPacked record.struct ≤ buffer.length) :
    (∃ final, (run buffer (record.read config) sample).Yields () final ∧
        Unpacked buffer record sample final) ↔ WithoutUdp record := by
  have yields : (run buffer (record.read config) sample).Yields () _ :=
    decoder_received record received
  constructor
  · rintro ⟨final, ended, unpacked⟩
    by_contra part
    apply not_unpacked_with_udp record part
    rw [← yields.state, ended.state]
    exact unpacked
  · intro without
    exact ⟨_, yields, unpacked_without_udp record without⟩

theorem icmp_indicators_unpacked :
    ∃ final, (run (datagramOf (List.replicate 22 0))
        (IndicatorRecord.icmp.read (defaultConfig .full)) firstSample).Yields () final ∧
      Unpacked (datagramOf (List.replicate 22 0)) .icmp firstSample final :=
  (indicators_unpacked_iff (defaultConfig .full) _ firstSample .icmp (by decide +kernel)).mpr
    (by unfold WithoutUdp; decide)

/-- A record of UDP indicators in its 128 bytes. -/
theorem udp_indicators_shifted :
    ¬∀ (config : SFConfig) (buffer : Buffer) (sample : SFSample) (record : IndicatorRecord),
      sample.cursor + sizeOfPacked record.struct ≤ buffer.length →
      ∃ final, (run buffer (record.read config) sample).Yields () final ∧
        Unpacked buffer record sample final := by
  intro unpacks
  have received : firstSample.cursor + sizeOfPacked IndicatorRecord.udp.struct ≤
      (datagramOf (List.replicate 32 0)).length := by decide +kernel
  obtain ⟨final, ended, unpacked⟩ := unpacks (defaultConfig .full) _ firstSample .udp received
  apply not_unpacked_with_udp .udp (by unfold WithoutUdp; decide)
  rw [← (decoder_received .udp received).state, ended.state]
  exact unpacked

end Records

end SflowTool
