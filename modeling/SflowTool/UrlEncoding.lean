import SflowTool.FlowSample
import SflowTool.DdosRecords

/-! The key of a memcached operation is printed URL-encoded. The nibbles of an octet from 0x80
on are those of a negative character, and its first digit is none: such a text is not read
back, every other one is. -/
namespace SflowTool

section Buffers

/-- What the encoder writes to its output: the text and the end of it. -/
def urlEncodeWrites (text : Text) : List UInt8 := urlEncode text ++ [0]

/-- What a call returns. It writes nothing where the output is too small. -/
def urlEncodeCall (text : Text) (outlen : Nat) : Text × List UInt8 :=
  if outlen < text.length * 3 + 1 then (asciiText "URLEncode: not enough space", [])
  else (urlEncode text, urlEncodeWrites text)

def urlEncodeOctet (octet : UInt8) : List UInt8 :=
  if isAlnum octet then [octet]
  else if isSpace octet then [43]
  else [37, bin2hex (octet.toInt8.toInt >>> 4), bin2hex (octet &&& 0x0f).toNat]

theorem urlEncode_cons (octet : UInt8) (text : Text) :
    urlEncode (octet :: text) = urlEncodeOctet octet ++ urlEncode text := List.flatMap_cons

theorem urlEncodeOctet_length (octet : UInt8) : (urlEncodeOctet octet).length ≤ 3 := by
  unfold urlEncodeOctet
  split
  · exact Nat.le_add_left 1 2
  · split
    · exact Nat.le_add_left 1 2
    · exact Nat.le_refl 3

/-- An octet takes three at most. -/
theorem urlEncode_length (text : Text) : (urlEncode text).length ≤ text.length * 3 := by
  induction text with
  | nil => exact Nat.le_refl 0
  | cons octet text ih =>
      have first := urlEncodeOctet_length octet
      rw [urlEncode_cons, List.length_append, List.length_cons]
      omega

end Buffers

section Decoding

/-- The value of a hexadecimal digit of either case. -/
def hexValue (octet : UInt8) : Option UInt8 :=
  if 48 ≤ octet ∧ octet ≤ 57 then some (octet - 48)
  else if 65 ≤ octet ∧ octet ≤ 70 then some (octet - 55)
  else if 97 ≤ octet ∧ octet ≤ 102 then some (octet - 87)
  else none

/-- Standard URL decoding: a plus is a space, a percent sign with two digits their octet. -/
def urlDecode : Text → Text
  | 37 :: high :: low :: rest =>
      match hexValue high, hexValue low with
      | some first, some second => (16 * first + second) :: urlDecode rest
      | _, _ => 37 :: urlDecode (high :: low :: rest)
  | octet :: rest => (if octet = 43 then 32 else octet) :: urlDecode rest
  | [] => []

theorem urlDecode_plain (octet : UInt8) (rest : Text) (percent : octet ≠ 37) :
    urlDecode (octet :: rest) = (if octet = 43 then 32 else octet) :: urlDecode rest := by
  exact urlDecode.eq_2 octet rest fun _ _ _ same => absurd same percent

theorem urlDecode_percent (high low first second : UInt8) (rest : Text)
    (upper : hexValue high = some first) (lower : hexValue low = some second) :
    urlDecode (37 :: high :: low :: rest) = (16 * first + second) :: urlDecode rest := by
  rw [urlDecode, upper, lower]

theorem hexValue_bin2hex : ∀ nib < 16, hexValue (bin2hex (nib : Nat)) = some (UInt8.ofNat nib) := by
  decide

end Decoding

section RoundTrips

/-- What may stand in an encoded text; the hexadecimal digits are among the first two. -/
def UrlAlphabet (octet : UInt8) : Prop := isAlnum octet = true ∨ octet = 43 ∨ octet = 37

instance (octet : UInt8) : Decidable (UrlAlphabet octet) := inferInstanceAs (Decidable (_ ∨ _))

/-- The nibbles of an octet below 0x80 are its halves. -/
theorem nibbles {octet : UInt8} (ascii : octet < 0x80) :
    octet.toInt8.toInt >>> 4 = ((octet.toNat / 16 : Nat) : Int) ∧
      (octet &&& 0x0f).toNat = octet.toNat % 16 := by
  have small : octet.toNat < 2 ^ 7 := UInt8.lt_iff_toNat_lt.mp ascii
  have signed : octet.toInt8.toInt = (octet.toNat : Int) := by
    rw [Int8.toInt, UInt8.toBitVec_toInt8, BitVec.toInt_eq_toNat_of_lt]
    · rfl
    · exact Nat.mul_lt_mul_of_pos_left small (by decide)
  constructor
  · rw [signed]
    exact congrArg Int.ofNat (Nat.shiftRight_eq_div_pow octet.toNat 4)
  · rw [UInt8.toNat_and]
    exact Nat.and_two_pow_sub_one_eq_mod octet.toNat 4

/-- Those of another one are from -8 to -1 for the first. -/
theorem negative_nibble {octet : UInt8} (high : ¬octet < 0x80) :
    ∃ nib < 8, octet.toInt8.toInt >>> 4 = -((nib + 1 : Nat) : Int) := by
  have large : 128 ≤ octet.toNat := UInt8.le_iff_toNat_le.mp (UInt8.not_lt.mp high)
  have bound := octet.toNat_lt
  have signed : octet.toInt8.toInt = (octet.toNat : Int) - 256 := by
    rw [Int8.toInt, UInt8.toBitVec_toInt8, BitVec.toInt_eq_toNat_cond, if_neg]
    · rfl
    · exact Nat.not_lt.mpr (Nat.mul_le_mul_left 2 large)
  refine ⟨(255 - octet.toNat) / 16, by omega, ?_⟩
  have half : ((octet.toNat : Int) - 256) >>> (4 : Int) = ((octet.toNat : Int) - 256) / 2 ^ 4 :=
    (Int.shiftRight_natCast_right _ 4).trans (Int.shiftRight_eq_div_pow _ 4)
  rw [signed, half]
  omega

/-- The digit of such a nibble is one of the signs before the digits. -/
theorem bin2hex_negative : ∀ nib < 8, hexValue (bin2hex (-((nib + 1 : Nat) : Int))) = none := by
  decide

theorem bin2hex_alphabet : ∀ nib < 16, UrlAlphabet (bin2hex (nib : Nat)) := by
  decide

theorem alnum_range {octet : UInt8} (alnum : isAlnum octet = true) :
    octet < 0x80 ∧ octet ≠ 37 ∧ octet ≠ 43 := by
  have ranges : (48 ≤ octet.toNat ∧ octet.toNat ≤ 57 ∨ 65 ≤ octet.toNat ∧ octet.toNat ≤ 90) ∨
      97 ≤ octet.toNat ∧ octet.toNat ≤ 122 := by
    simpa only [isAlnum, Bool.or_eq_true, Bool.and_eq_true, decide_eq_true_eq,
      UInt8.le_iff_toNat_le, UInt8.reduceToNat] using alnum
  refine ⟨UInt8.lt_iff_toNat_lt.mpr (show octet.toNat < 128 by omega), ?_, ?_⟩
  · rintro rfl
    exact absurd ranges (by decide)
  · rintro rfl
    exact absurd ranges (by decide)

/-- An octet below 0x80 is encoded in the alphabet and read back. -/
theorem urlEncodeOctet_ascii {octet : UInt8} (ascii : octet < 0x80)
    (spaced : isSpace octet = true → octet = 32) (rest : Text) :
    (∀ written ∈ urlEncodeOctet octet, UrlAlphabet written) ∧
      urlDecode (urlEncodeOctet octet ++ rest) = octet :: urlDecode rest := by
  unfold urlEncodeOctet
  by_cases alnum : isAlnum octet = true
  · obtain ⟨-, percent, plus⟩ := alnum_range alnum
    rw [if_pos alnum, List.singleton_append, urlDecode_plain _ _ percent, if_neg plus]
    refine ⟨?_, rfl⟩
    intro written member
    rw [List.mem_singleton.mp member]
    exact .inl alnum
  · rw [if_neg alnum]
    by_cases space : isSpace octet = true
    · rw [if_pos space, spaced space]
      refine ⟨?_, urlDecode_plain 43 rest (by decide)⟩
      intro written member
      exact .inr (.inl (List.mem_singleton.mp member))
    · obtain ⟨high, low⟩ := nibbles ascii
      have bound := octet.toNat_lt
      have first : octet.toNat / 16 < 16 := by omega
      have second : octet.toNat % 16 < 16 := Nat.mod_lt _ (by decide)
      rw [if_neg space, high, low]
      constructor
      · intro written member
        simp only [List.mem_cons, List.not_mem_nil, or_false] at member
        rcases member with rfl | rfl | rfl
        · exact .inr (.inr rfl)
        · exact bin2hex_alphabet _ first
        · exact bin2hex_alphabet _ second
      · have whole : 16 * UInt8.ofNat (octet.toNat / 16) + UInt8.ofNat (octet.toNat % 16) =
            octet := by
          apply UInt8.toNat_inj.mp
          simp only [UInt8.toNat_add, UInt8.toNat_mul, UInt8.toNat_ofNat']
          rw [show (16 : UInt8).toNat = 16 from rfl]
          omega
        exact (urlDecode_percent _ _ _ _ rest (hexValue_bin2hex _ first)
          (hexValue_bin2hex _ second)).trans (congrArg (· :: urlDecode rest) whole)

/-- An octet from 0x80 on is read back as the percent sign. -/
theorem urlEncodeOctet_high {octet : UInt8} (high : ¬octet < 0x80) (rest : Text) :
    ∃ more, urlDecode (urlEncodeOctet octet ++ rest) = 37 :: more := by
  have other : ¬isAlnum octet = true := fun alnum => high (alnum_range alnum).1
  have wide : ¬isSpace octet = true := by
    intro space
    have ranges : octet.toNat = 32 ∨ 9 ≤ octet.toNat ∧ octet.toNat ≤ 13 := by
      simpa only [isSpace, Bool.or_eq_true, Bool.and_eq_true, decide_eq_true_eq, beq_iff_eq,
        UInt8.le_iff_toNat_le, ← UInt8.toNat_inj, UInt8.reduceToNat] using space
    exact high (UInt8.lt_iff_toNat_lt.mpr (show octet.toNat < 128 by omega))
  obtain ⟨nib, small, value⟩ := negative_nibble high
  unfold urlEncodeOctet
  rw [if_neg other, if_neg wide, value]
  simp only [List.cons_append, List.nil_append]
  unfold urlDecode
  simp only [bin2hex_negative nib small]
  exact ⟨_, rfl⟩

/-- Only a text below 0x80 is read back. -/
theorem ascii_of_decoded (text : Text) (spaced : ∀ octet ∈ text, isSpace octet = true → octet = 32)
    (decoded : urlDecode (urlEncode text) = text) : ∀ octet ∈ text, octet < 0x80 := by
  induction text with
  | nil => exact List.forall_mem_nil _
  | cons octet text ih =>
      obtain ⟨space, spaced⟩ := List.forall_mem_cons.mp spaced
      rw [urlEncode_cons] at decoded
      by_cases ascii : octet < 0x80
      · rw [(urlEncodeOctet_ascii ascii space _).2] at decoded
        exact List.forall_mem_cons.mpr ⟨ascii, ih spaced (List.cons.inj decoded).2⟩
      · obtain ⟨more, read⟩ := urlEncodeOctet_high ascii (urlEncode text)
        rw [read] at decoded
        rw [← (List.cons.inj decoded).1] at ascii
        exact absurd (by decide) ascii

/-- What a caller relies on: nothing is written behind the output, the text is one of the
alphabet with its end behind it, and decoding gives back what was encoded. -/
structure UrlRoundTrip (text : Text) (outlen : Nat) : Prop where
  fits : (urlEncodeCall text outlen).2.length ≤ outlen
  written : (urlEncodeCall text outlen).2 = (urlEncodeCall text outlen).1 ++ [0]
  alphabet : ∀ octet ∈ (urlEncodeCall text outlen).1, UrlAlphabet octet
  decoded : urlDecode (urlEncodeCall text outlen).1 = text

theorem urlEncode_ascii (text : Text) (ascii : ∀ octet ∈ text, octet < 0x80)
    (spaced : ∀ octet ∈ text, isSpace octet = true → octet = 32) :
    (∀ octet ∈ urlEncode text, UrlAlphabet octet) ∧ urlDecode (urlEncode text) = text := by
  induction text with
  | nil => exact ⟨List.forall_mem_nil _, rfl⟩
  | cons octet text ih =>
      obtain ⟨small, ascii⟩ := List.forall_mem_cons.mp ascii
      obtain ⟨space, spaced⟩ := List.forall_mem_cons.mp spaced
      obtain ⟨alphabet, decoded⟩ := ih ascii spaced
      obtain ⟨first, read⟩ := urlEncodeOctet_ascii small space (urlEncode text)
      rw [urlEncode_cons, read, decoded]
      refine ⟨?_, rfl⟩
      intro written member
      rcases List.mem_append.mp member with here | later
      · exact first written here
      · exact alphabet written later

/-- With room for three octets each, a text whose only white space is the space is encoded
and read back exactly if it has no octet from 0x80 on. -/
theorem urlEncode_round_trip_iff (text : Text) (outlen : Nat)
    (spaced : ∀ octet ∈ text, isSpace octet = true → octet = 32)
    (room : text.length * 3 + 1 ≤ outlen) :
    UrlRoundTrip text outlen ↔ ∀ octet ∈ text, octet < 0x80 := by
  have call : urlEncodeCall text outlen = (urlEncode text, urlEncodeWrites text) :=
    if_neg (Nat.not_lt.mpr room)
  constructor
  · rintro ⟨-, -, -, decoded⟩
    rw [call] at decoded
    exact ascii_of_decoded text spaced decoded
  · intro ascii
    obtain ⟨alphabet, decoded⟩ := urlEncode_ascii text ascii spaced
    have length := urlEncode_length text
    constructor
    · rw [call]
      show (urlEncode text ++ [0]).length ≤ outlen
      rw [List.length_append]
      simp only [List.length_cons, List.length_nil]
      omega
    · rw [call]
      rfl
    · rw [call]
      exact alphabet
    · rw [call]
      exact decoded

/-- The key `k 1/a`, in the least output it may have. -/
theorem memcache_key_round_trip : UrlRoundTrip [107, 32, 49, 47, 97] 16 ↔
    ∀ octet ∈ ([107, 32, 49, 47, 97] : Text), octet < 0x80 :=
  urlEncode_round_trip_iff [107, 32, 49, 47, 97] 16 (by decide +kernel) (Nat.le_refl 16)

/-- The octet 0xFF is written as a percent sign, a slash and an F. -/
theorem high_octet_garbled : ¬UrlRoundTrip [0xFF] 4 ∧
    (∀ octet ∈ ([0xFF] : Text), octet ≠ 0 ∧ (isSpace octet = true → octet = 32)) ∧
    urlEncode [0xFF] = [37, 47, 70] := by
  refine ⟨?_, by decide +kernel, by decide +kernel⟩
  rintro ⟨-, -, -, decoded⟩
  exact absurd decoded (by decide +kernel)

end RoundTrips

end SflowTool
