import SflowTool.Yielding
import SflowTool.Progress

/-! The looks of the header dissection as functions of the bytes of the sampled header,
and its logging calls and stores as steps that yield nothing else. -/
namespace SflowTool
open Decoding Decoding.Decoder

variable {config : SFConfig}

/-- A sample with a word of it set. -/
def holding (sample : SFSample) (var : WordVar) (value : UInt32) : SFSample :=
  @State.assigned collector sample (.word var) value

def holdingText (sample : SFSample) (var : TextVar) (value : Text) : SFSample :=
  @State.assigned collector sample (.text var) value

def holdingAddress (sample : SFSample) (var : AddressVar) (value : Address) : SFSample :=
  @State.assigned collector sample (.address var) value

@[simp] theorem wordOf_holding_self (sample : SFSample) (var : WordVar) (value : UInt32) :
    wordOf (holding sample var value) var = value := Function.update_self ..

theorem wordOf_holding_other (sample : SFSample) {var other : WordVar} (differ : other ≠ var)
    (value : UInt32) : wordOf (holding sample var value) other = wordOf sample other :=
  Function.update_of_ne (by simpa using differ) ..

@[simp] theorem wordOf_holdingText (sample : SFSample) (var : TextVar) (value : Text)
    (other : WordVar) : wordOf (holdingText sample var value) other = wordOf sample other := rfl

@[simp] theorem wordOf_holdingAddress (sample : SFSample) (var : AddressVar) (value : Address)
    (other : WordVar) : wordOf (holdingAddress sample var value) other = wordOf sample other := rfl

@[simp] theorem holding_marks (sample : SFSample) (var : WordVar) (value : UInt32) :
    (holding sample var value).marks = sample.marks := rfl

@[simp] theorem holdingText_marks (sample : SFSample) (var : TextVar) (value : Text) :
    (holdingText sample var value).marks = sample.marks := rfl

@[simp] theorem holdingAddress_marks (sample : SFSample) (var : AddressVar) (value : Address) :
    (holdingAddress sample var value).marks = sample.marks := rfl

/-- Some bytes of the sampled header. -/
def headerOctets (buffer : Buffer) (sample : SFSample) (offset count : Nat) : List UInt8 :=
  buffer.slice (sample.marks .header + offset) count

def headerHalfOf (buffer : Buffer) (sample : SFSample) (offset : Nat) : UInt32 :=
  UInt32.ofNat (beNat (headerOctets buffer sample offset 2))

theorem yields_getWord (buffer : Buffer) (var : WordVar) (sample : SFSample) :
    (run buffer (getWord var) sample).Yields (wordOf sample var) sample := ⟨rfl, rfl⟩

theorem yields_setWord (buffer : Buffer) (var : WordVar) (value : UInt32) (sample : SFSample) :
    (run buffer (setWord var value) sample).Yields () (holding sample var value) :=
  ⟨rfl, rfl⟩

theorem yields_setText (buffer : Buffer) (var : TextVar) (value : Text) (sample : SFSample) :
    (run buffer (setText var value) sample).Yields () (holdingText sample var value) :=
  ⟨rfl, rfl⟩

theorem yields_setAddressVar (buffer : Buffer) (var : AddressVar) (value : Address)
    (sample : SFSample) : (run buffer (setAddressVar var value) sample).Yields ()
      (holdingAddress sample var value) := ⟨rfl, rfl⟩

theorem yields_headerHalf (buffer : Buffer) (offset : Nat) (sample : SFSample) :
    (run buffer (headerHalf offset) sample).Yields (headerHalfOf buffer sample offset) sample :=
  ⟨rfl, rfl⟩

theorem yields_headerOctets (buffer : Buffer) (offset count : Nat) (sample : SFSample) :
    (run buffer (@Decoder.peek collector .header offset count) sample).Yields
      (headerOctets buffer sample offset count) sample := ⟨rfl, rfl⟩

/-- A value that is logged and then stored. -/
theorem yields_logged {α : Type} (buffer : Buffer) (fmt : String) (args : List Arg)
    (next : Decode α) {sample final : SFSample} {result : α}
    (rest : (run buffer next sample).Yields result final) :
    (run buffer (do
      sfLog config fmt args
      next) sample).Yields result final :=
  yields_bind buffer _ _ (yields_sfLog buffer fmt args sample) rest

theorem headerByteOf_toNat (buffer : Buffer) (sample : SFSample) (offset : Nat) :
    (headerByteOf buffer sample offset).toNat =
      (buffer.byte (sample.marks .header + offset)).toNat := by
  have octet := (buffer.byte (sample.marks .header + offset)).toNat_lt
  simp only [headerByteOf, Buffer.slice, List.range_one, List.map_cons, List.map_nil, beNat,
    List.foldl_cons, List.foldl_nil, UInt32.toNat_ofNat', Nat.add_zero]
  omega

/-- A part of the bytes that were copied from a place. -/
theorem slice_part (buffer : Buffer) (start count index part : Nat) (inside : index + part ≤ count) :
    ((buffer.slice start count).drop index).take part = buffer.slice (start + index) part := by
  obtain ⟨rest, rfl⟩ : ∃ rest, count = index + (part + rest) := ⟨count - index - part, by omega⟩
  rw [Buffer.slice_append, Buffer.slice_append]
  have front : index = (buffer.slice start index).length := (Buffer.length_slice ..).symm
  have middle : part = (buffer.slice (start + index) part).length := (Buffer.length_slice ..).symm
  rw [List.drop_left' front.symm, List.take_left' middle.symm]

theorem halfAt_headerOctets (buffer : Buffer) (sample : SFSample) (offset count index : Nat)
    (inside : index + 2 ≤ count) : halfAt (headerOctets buffer sample offset count) index =
      headerHalfOf buffer sample (offset + index) := by
  rw [halfAt, headerOctets, slice_part _ _ _ _ _ inside, headerHalfOf, headerOctets, Nat.add_assoc]

end SflowTool
