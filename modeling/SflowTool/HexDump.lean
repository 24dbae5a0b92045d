import SflowTool.FlowSample
import SflowTool.DdosRecords

/-! The dump that is printed of a datagram which cannot be decoded. An octet takes seven
characters at most, with a marker before it and a separator behind it, and the dump is cut off
where fewer than ten are left of its buffer. -/
namespace SflowTool

section Dump

/-- The output of the dump: the place of the next character and the memory behind the pointer that
was passed. Of the writes and of the iterations it also keeps the places. -/
structure HexOutput where
  b : Int
  buf : Int → UInt8
  touched : List Int
  starts : List Int

/-- `buf[b++] = char`. -/
def HexOutput.put (out : HexOutput) (char : UInt8) : HexOutput :=
  { out with
    b := out.b + 1
    buf := Function.update out.buf out.b char
    touched := out.touched ++ [out.b] }

/-- Whether a line ends behind an octet. There is no remainder by zero. -/
def endsLine (i bytesPerOutputLine : Int) : Option Bool :=
  if i > 0 then
    if bytesPerOutputLine = 0 then none else some (i.tmod bytesPerOutputLine == 0)
  else some false

/-- One octet, behind the marker if it stands there, and with what separates it from the next. -/
def printHexByte (a : Nat → UInt8) (len marker bytesPerOutputLine : Int) (i : Nat)
    (out : HexOutput) : Option HexOutput := do
  let out := if marker > 0 ∧ i = marker then (((out.put 60).put 42).put 62).put 45 else out
  let byte := a i
  let out := out.put (bin2hex (byte >>> 4).toNat)
  let out := out.put (bin2hex (byte &&& 0x0f).toNat)
  if ← endsLine i bytesPerOutputLine then return out.put 10
  else if i < len - 1 then return out.put 45
  else return out

/-- The loop over the octets. No `int` of it overflows: the places stay below `bufLen`, and the
octets below `len`. -/
def printHexFrom (a : Nat → UInt8) (len bufLen marker bytesPerOutputLine : Int) :
    Nat → Nat → HexOutput → Option HexOutput
  | 0, _, out => some out
  | remaining + 1, i, out =>
      let out := { out with starts := out.starts ++ [out.b] }
      if out.b > bufLen - 10 then some out
      else do
        let out ← printHexByte a len marker bytesPerOutputLine i out
        printHexFrom a len bufLen marker bytesPerOutputLine remaining (i + 1) out

def printHex (a : Nat → UInt8) (len : Int) (buf : Int → UInt8)
    (bufLen marker bytesPerOutputLine : Int) : Option HexOutput := do
  let out ← printHexFrom a len bufLen marker bytesPerOutputLine len.toNat 0 ⟨0, buf, [], []⟩
  return { out with
    buf := Function.update out.buf out.b 0
    touched := out.touched ++ [out.b] }

end Dump

section Texts

/-- The digits of an octet, by their names. -/
def upperHex (octet : UInt8) : Text :=
  let digits := asciiText "0123456789ABCDEF"
  [digits.getD (octet.toNat / 16) 0, digits.getD (octet.toNat % 16) 0]

/-- A dump without its separators, line breaks and marker. -/
def undecorated (text : Text) : Text := text.filter fun char => char ∉ asciiText "-\n<*>"

/-- What was written before the place of the next character. -/
def HexOutput.text (out : HexOutput) : Text := (List.range out.b.toNat).map fun k : Nat => out.buf k

theorem put_text (out : HexOutput) (char : UInt8) (start : 0 ≤ out.b) :
    (out.put char).text = out.text ++ [char] := by
  have next : (out.b + 1).toNat = out.b.toNat + 1 := by omega
  have here : (out.b.toNat : Int) = out.b := Int.toNat_of_nonneg start
  show (List.range (out.b + 1).toNat).map (fun k : Nat => Function.update out.buf out.b char k) = _
  unfold HexOutput.text
  rw [next, List.range_succ, List.map_append, List.map_singleton, here, Function.update_self]
  refine congrArg (· ++ [char]) (List.map_congr_left fun k member => ?_)
  have before := List.mem_range.mp member
  exact Function.update_of_ne (by omega) _ _

/-- Characters that are written one behind the other. -/
def HexOutput.puts (out : HexOutput) (chars : Text) : HexOutput := chars.foldl HexOutput.put out

theorem puts_b (out : HexOutput) (chars : Text) : (out.puts chars).b = out.b + chars.length := by
  induction chars generalizing out with
  | nil => exact (Int.add_zero _).symm
  | cons char rest ih =>
      have later := ih (out.put char)
      have next : (out.put char).b = out.b + 1 := rfl
      rw [List.length_cons]
      unfold HexOutput.puts at later ⊢
      rw [List.foldl_cons, later, next]
      omega

theorem puts_starts (out : HexOutput) (chars : Text) : (out.puts chars).starts = out.starts := by
  induction chars generalizing out with
  | nil => rfl
  | cons char rest ih => exact ih (out.put char)

theorem puts_text (out : HexOutput) (chars : Text) (start : 0 ≤ out.b) :
    (out.puts chars).text = out.text ++ chars := by
  induction chars generalizing out with
  | nil => exact (List.append_nil _).symm
  | cons char rest ih =>
      have later := ih (out.put char) (by show 0 ≤ out.b + 1; omega)
      rw [put_text out char start, List.append_assoc] at later
      exact later

theorem puts_touched (out : HexOutput) (chars : Text) (index : Int)
    (touched : index ∈ (out.puts chars).touched) :
    index ∈ out.touched ∨ out.b ≤ index ∧ index < out.b + chars.length := by
  induction chars generalizing out with
  | nil => exact .inl touched
  | cons char rest ih =>
      have next : (out.put char).b = out.b + 1 := rfl
      rw [List.length_cons]
      rcases ih (out.put char) touched with before | ⟨low, high⟩
      · rcases List.mem_append.mp before with before | here
        · exact .inl before
        · have place := List.mem_singleton.mp here
          exact .inr ⟨by omega, by omega⟩
      · exact .inr ⟨by omega, by omega⟩

end Texts

section Cells

/-- What stands in the dump for one octet. -/
def hexCell (a : Nat → UInt8) (len marker bytesPerOutputLine : Int) (i : Nat) : Text :=
  (if marker > 0 ∧ i = marker then [60, 42, 62, 45] else []) ++ upperHex (a i) ++
    (if (i : Int) > 0 ∧ (i : Int).tmod bytesPerOutputLine = 0 then [10]
      else if i < len - 1 then [45] else [])

theorem bin2hex_upperHex (octet : UInt8) :
    [bin2hex (octet >>> 4).toNat, bin2hex (octet &&& 0x0f).toNat] = upperHex octet := by
  revert octet
  decide +kernel

/-- A line width that is not zero has a remainder. -/
theorem printHexByte_puts (a : Nat → UInt8) (len marker : Int) {bytesPerOutputLine : Int}
    (width : 0 < bytesPerOutputLine) (i : Nat) (out : HexOutput) :
    printHexByte a len marker bytesPerOutputLine i out =
      some (out.puts (hexCell a len marker bytesPerOutputLine i)) := by
  have ends : endsLine i bytesPerOutputLine =
      some (decide ((i : Int) > 0 ∧ (i : Int).tmod bytesPerOutputLine = 0)) := by
    unfold endsLine
    by_cases behind : (i : Int) > 0
    · rw [if_pos behind, if_neg (by omega)]
      refine congrArg some (Bool.eq_iff_iff.mpr ?_)
      rw [beq_iff_eq, decide_eq_true_iff]
      exact ⟨fun whole => ⟨behind, whole⟩, And.right⟩
    · rw [if_neg behind]
      exact congrArg some (decide_eq_false fun ends => behind ends.1).symm
  have marked (chars : Text) : (if marker > 0 ∧ i = marker then
      (((out.put 60).put 42).put 62).put 45 else out).puts chars =
      out.puts ((if marker > 0 ∧ i = marker then [60, 42, 62, 45] else []) ++ chars) := by
    split <;> rfl
  unfold printHexByte hexCell
  rw [ends, List.append_assoc, ← marked, ← bin2hex_upperHex]
  simp only [Option.bind_eq_bind, Option.bind_some, decide_eq_true_eq]
  split
  · rfl
  · split <;> rfl

/-- An octet takes seven characters at most. -/
theorem hexCell_length (a : Nat → UInt8) (len marker bytesPerOutputLine : Int) (i : Nat) :
    (hexCell a len marker bytesPerOutputLine i).length ≤ 7 := by
  have digits : (upperHex (a i)).length = 2 := rfl
  unfold hexCell
  rw [List.length_append, List.length_append, digits]
  split <;> split <;> (try split) <;> simp

theorem undecorated_append (first second : Text) :
    undecorated (first ++ second) = undecorated first ++ undecorated second := List.filter_append ..

theorem undecorated_upperHex (octet : UInt8) : undecorated (upperHex octet) = upperHex octet := by
  revert octet
  decide +kernel

/-- Of what stands there for an octet only its digits are left. -/
theorem undecorated_hexCell (a : Nat → UInt8) (len marker bytesPerOutputLine : Int) (i : Nat) :
    undecorated (hexCell a len marker bytesPerOutputLine i) = upperHex (a i) := by
  have before (guard : Prop) [Decidable guard] :
      undecorated (if guard then [60, 42, 62, 45] else []) = [] := by
    split
    · decide
    · rfl
  have behind : undecorated (if (i : Int) > 0 ∧ (i : Int).tmod bytesPerOutputLine = 0 then [10]
      else if i < len - 1 then [45] else []) = [] := by
    split
    · decide
    · split
      · decide
      · rfl
  unfold hexCell
  rw [undecorated_append, undecorated_append, before, behind, undecorated_upperHex, List.nil_append,
    List.append_nil]

end Cells

section Runs

variable {a : Nat → UInt8} {len bufLen marker bytesPerOutputLine : Int}

/-- The octets of an array up to a place. -/
def octetsTo (a : Nat → UInt8) (count : Nat) : List UInt8 := (List.range count).map a

theorem octetsTo_prefix (a : Nat → UInt8) {count whole : Nat} (most : count ≤ whole) :
    octetsTo a count <+: octetsTo a whole := by
  have front : octetsTo a count = (octetsTo a whole).take count := by
    unfold octetsTo
    rw [← List.map_take, List.take_range, Nat.min_eq_left most]
  rw [front]
  exact List.take_prefix _ _

/-- A dump of so many octets, at least three characters short of the end of its buffer. -/
structure Dumping (a : Nat → UInt8) (bufLen : Int) (count : Nat) (out : HexOutput) : Prop where
  start : 0 ≤ out.b
  room : out.b ≤ bufLen - 3
  inside : ∀ index ∈ out.touched, 0 ≤ index ∧ index < bufLen
  digits : undecorated out.text = (octetsTo a count).flatMap upperHex

/-- An iteration that starts with ten characters left dumps its octet. -/
theorem hexCell_dumps {i : Nat} {out : HexOutput} (dumping : Dumping a bufLen i out)
    (free : out.b ≤ bufLen - 10) :
    Dumping a bufLen (i + 1) (out.puts (hexCell a len marker bytesPerOutputLine i)) where
  start := by
    have start := dumping.start
    rw [puts_b]
    omega
  room := by
    have most := hexCell_length a len marker bytesPerOutputLine i
    rw [puts_b]
    omega
  inside index touched := by
    have start := dumping.start
    have most := hexCell_length a len marker bytesPerOutputLine i
    rcases puts_touched out _ index touched with before | ⟨low, high⟩
    · exact dumping.inside index before
    · omega
  digits := by
    unfold octetsTo
    rw [puts_text out _ dumping.start, undecorated_append, undecorated_hexCell, List.range_succ,
      List.map_append, List.flatMap_append, dumping.digits]
    rfl

theorem printHexFrom_dumps (width : 0 < bytesPerOutputLine) (remaining i : Nat) (out : HexOutput)
    (dumping : Dumping a bufLen i out) : ∃ final count,
      printHexFrom a len bufLen marker bytesPerOutputLine remaining i out = some final ∧
      Dumping a bufLen count final ∧ count ≤ i + remaining ∧
      (∀ start ∈ out.starts, start ∈ final.starts) ∧
      ((∀ start ∈ final.starts, 10 ≤ bufLen - start) → count = i + remaining) := by
  induction remaining generalizing i out with
  | zero => exact ⟨out, i, rfl, dumping, Nat.le_refl i, fun _ known => known, fun _ => rfl⟩
  | succ remaining ih =>
      unfold printHexFrom
      by_cases full : out.b > bufLen - 10
      · -- the dump is cut off before this octet
        rw [if_pos full]
        refine ⟨_, i, rfl, ⟨dumping.start, dumping.room, dumping.inside, dumping.digits⟩,
          Nat.le_add_right i _, fun _ known => List.mem_append_left _ known, fun free => ?_⟩
        have here := free out.b (List.mem_append_right _ List.mem_cons_self)
        omega
      · rw [if_neg full, printHexByte_puts a len marker width]
        have entered : Dumping a bufLen i { out with starts := out.starts ++ [out.b] } :=
          ⟨dumping.start, dumping.room, dumping.inside, dumping.digits⟩
        obtain ⟨final, count, returned, dumped, most, kept, whole⟩ :=
          ih (i + 1) _ (hexCell_dumps entered (Int.not_lt.mp full))
        refine ⟨final, count, returned, dumped, by omega, fun start known => kept start ?_,
          fun free => ?_⟩
        · rw [puts_starts]
          exact List.mem_append_left _ known
        · have all := whole free
          omega

/-- Four octets as a decode error dumps them, with the marker before the third. -/
def fourOctets : Nat → UInt8 := fun i => [0xde, 0xad, 0xbe, 0xef].getD i 0

end Runs

end SflowTool
