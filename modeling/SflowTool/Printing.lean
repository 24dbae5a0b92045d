import Mathlib

/-! Numbers as C prints them, and texts told apart by their fields: a field without the
separator is known from the text it begins. -/
namespace Printing

/-- The octets of a text of ASCII characters. -/
def octets (text : List Char) : List UInt8 := text.map fun char => UInt8.ofNat char.toNat

/-- What `%lu` prints. -/
def decimal (value : Nat) : List UInt8 := octets (Nat.toDigits 10 value)

/-- What `%d` prints of a 32-bit word: its upper half stands for the negative numbers. -/
def signedDecimal (word : UInt32) : List UInt8 :=
  if word.toNat < 2 ^ 31 then decimal word.toNat else 45 :: decimal (2 ^ 32 - word.toNat)

/-- What `%x` prints. -/
def hexadecimal (value : Nat) : List UInt8 := octets (Nat.toDigits 16 value)

/-- A number printed in a field of a width is padded with zeros. -/
def padded (width : Nat) (digits : List UInt8) : List UInt8 :=
  List.replicate (width - digits.length) 48 ++ digits

theorem octets_length (text : List Char) : (octets text).length = text.length := List.length_map _

theorem decimal_length {value count : Nat} (positive : 0 < count) (small : value < 10 ^ count) :
    (decimal value).length ≤ count := by
  rw [decimal, octets_length]
  exact Nat.toDigits_length 10 value count positive small

theorem hexadecimal_length {value count : Nat} (positive : 0 < count) (small : value < 16 ^ count) :
    (hexadecimal value).length ≤ count := by
  rw [hexadecimal, octets_length]
  exact Nat.toDigits_length 16 value count positive small

theorem dword_length (value : UInt64) : (decimal value.toNat).length ≤ 20 := by
  have range := value.toNat_lt
  exact decimal_length (by decide) (by omega)

theorem signedDecimal_length (word : UInt32) : (signedDecimal word).length ≤ 11 := by
  have range := word.toNat_lt
  unfold signedDecimal
  split
  · have digits := @decimal_length word.toNat 10 (by decide) (by omega)
    omega
  · have digits := @decimal_length (2 ^ 32 - word.toNat) 10 (by decide) (by omega)
    rw [List.length_cons]
    omega

theorem word_length (word : UInt32) : (hexadecimal word.toNat).length ≤ 8 :=
  hexadecimal_length (by decide) (by have range := word.toNat_lt; omega)

theorem padded_length {width : Nat} {digits : List UInt8} (short : digits.length ≤ width) :
    (padded width digits).length = width := by
  rw [padded, List.length_append, List.length_replicate]
  omega

theorem isDigit_range {char : Char} (digit : char.isDigit = true) :
    48 ≤ char.toNat ∧ char.toNat ≤ 57 := by
  unfold Char.isDigit at digit
  simp only [Bool.and_eq_true, decide_eq_true_eq] at digit
  exact digit

theorem octets_inj {first second : List Char} (digits : ∀ char ∈ first, char.isDigit = true)
    (others : ∀ char ∈ second, char.isDigit = true) (same : octets first = octets second) :
    first = second := by
  induction first generalizing second with
  | nil => exact (List.map_eq_nil_iff.mp same.symm).symm
  | cons char first ih =>
      cases second with
      | nil => exact absurd same (List.cons_ne_nil _ _)
      | cons other second =>
          obtain ⟨digit, digits⟩ := List.forall_mem_cons.mp digits
          obtain ⟨another, others⟩ := List.forall_mem_cons.mp others
          obtain ⟨head, tail⟩ := List.cons.inj same
          have range := isDigit_range digit
          have bounds := isDigit_range another
          have value : char.toNat = other.toNat := by
            have equal := congrArg UInt8.toNat head
            rw [UInt8.toNat_ofNat', UInt8.toNat_ofNat'] at equal
            omega
          rw [Char.toNat_inj.mp value, ih digits others tail]

theorem toDigits_digits (value : Nat) : ∀ char ∈ Nat.toDigits 10 value, char.isDigit = true :=
  fun _ member => Nat.isDigit_of_mem_toDigits (by decide) (by decide) member

theorem decimal_inj {first second : Nat} (same : decimal first = decimal second) :
    first = second := by
  have digits := octets_inj (toDigits_digits first) (toDigits_digits second) same
  have read := congrArg (fun digits => Nat.ofDigitChars 10 digits 0) digits
  simpa only [Nat.ofDigitChars_ten_toDigits] using read

theorem decimal_range {value : Nat} {octet : UInt8} (member : octet ∈ decimal value) :
    48 ≤ octet.toNat ∧ octet.toNat ≤ 57 := by
  obtain ⟨char, digit, rfl⟩ := List.mem_map.mp member
  have range := isDigit_range (toDigits_digits value char digit)
  rw [UInt8.toNat_ofNat']
  omega

theorem signedDecimal_inj {first second : UInt32}
    (same : signedDecimal first = signedDecimal second) : first = second := by
  have bound := first.toNat_lt
  have limit := second.toNat_lt
  have unsigned (value : Nat) (rest : List UInt8) : decimal value ≠ 45 :: rest := by
    intro equal
    have head : (45 : UInt8) ∈ decimal value := equal ▸ List.mem_cons_self
    exact absurd (decimal_range head).1 (by decide)
  refine UInt32.toNat_inj.mp ?_
  unfold signedDecimal at same
  by_cases positive : first.toNat < 2 ^ 31
  · rw [if_pos positive] at same
    by_cases other : second.toNat < 2 ^ 31
    · rw [if_pos other] at same
      exact decimal_inj same
    · rw [if_neg other] at same
      exact absurd same (unsigned _ _)
  · rw [if_neg positive] at same
    by_cases other : second.toNat < 2 ^ 31
    · rw [if_pos other] at same
      exact absurd same.symm (unsigned _ _)
    · rw [if_neg other] at same
      have value := decimal_inj (List.cons.inj same).2
      omega

/-- The number that decimal digits stand for. -/
def readDecimal (digits : List UInt8) : Nat :=
  Nat.ofDigitChars 10 (digits.map fun octet => Char.ofNat octet.toNat) 0

/-- A printed number read as an unsigned one: a sign turns it around in 32 bits. -/
def readUnsigned : List UInt8 → UInt32
  | 45 :: digits => 0 - UInt32.ofNat (readDecimal digits)
  | digits => UInt32.ofNat (readDecimal digits)

theorem readDecimal_decimal (value : Nat) : readDecimal (decimal value) = value := by
  have chars : (decimal value).map (fun octet => Char.ofNat octet.toNat) = Nat.toDigits 10 value := by
    unfold decimal octets
    rw [List.map_map]
    refine (List.map_congr_left fun char member => ?_).trans (List.map_id _)
    have range := isDigit_range (toDigits_digits value char member)
    have same : (UInt8.ofNat char.toNat).toNat = char.toNat := by
      rw [UInt8.toNat_ofNat']
      omega
    show Char.ofNat (UInt8.ofNat char.toNat).toNat = char
    rw [same, Char.ofNat_toNat]
  unfold readDecimal
  rw [chars, Nat.ofDigitChars_ten_toDigits]

/-- A word that is printed with a sign is read back without one. -/
theorem readUnsigned_signedDecimal (word : UInt32) : readUnsigned (signedDecimal word) = word := by
  have bound := word.toNat_lt
  unfold signedDecimal
  split
  · have unsigned (digits : List UInt8) (plain : (45 : UInt8) ∉ digits) :
        readUnsigned digits = UInt32.ofNat (readDecimal digits) := by
      unfold readUnsigned
      split
      · exact absurd List.mem_cons_self plain
      · rfl
    have plain : (45 : UInt8) ∉ decimal word.toNat := fun member =>
      absurd (decimal_range member).1 (by decide)
    rw [unsigned _ plain, readDecimal_decimal]
    exact UInt32.ofNat_toNat
  · rw [readUnsigned, readDecimal_decimal]
    apply UInt32.toNat_inj.mp
    rw [UInt32.toNat_sub, UInt32.toNat_ofNat']
    simp only [UInt32.toNat_zero]
    omega

/-- No dot stands in a printed number. -/
theorem signedDecimal_undotted (word : UInt32) : (46 : UInt8) ∉ signedDecimal word := by
  have digits (value : Nat) : (46 : UInt8) ∉ decimal value := fun member =>
    absurd (decimal_range member).1 (by decide)
  unfold signedDecimal
  split
  · exact digits _
  · rw [List.mem_cons, not_or]
    exact ⟨by decide, digits _⟩

/-- A first field that lacks the separator ends where the separator stands. -/
theorem separated_inj {α : Type} {separator : α} {field other : List α} {rest more : List α}
    (plain : separator ∉ field) (simple : separator ∉ other)
    (same : field ++ separator :: rest = other ++ separator :: more) :
    field = other ∧ rest = more := by
  induction field generalizing other with
  | nil =>
      cases other with
      | nil => exact ⟨rfl, (List.cons.inj same).2⟩
      | cons head other =>
          exact absurd (List.mem_cons.mpr (.inl (List.cons.inj same).1)) simple
  | cons head field ih =>
      cases other with
      | nil => exact absurd (List.mem_cons.mpr (.inl (List.cons.inj same).1.symm)) plain
      | cons first other =>
          obtain ⟨heads, tails⟩ := List.cons.inj same
          obtain ⟨fields, rests⟩ := ih (fun member => plain (List.mem_cons_of_mem _ member))
            (fun member => simple (List.mem_cons_of_mem _ member)) tails
          exact ⟨by rw [heads, fields], rests⟩

end Printing
