import Mathlib

/-! Numbers in the text of a C program: what `strtol` with base 0 reads from a text that
begins with a digit, and the numerals it reads to their end. -/
namespace Numerals

/-- The value of a digit, or 36 for a character that is a digit of no base. -/
def digitValue (char : Char) : Nat :=
  if '0' ≤ char ∧ char ≤ '9' then char.toNat - 48
  else if 'a' ≤ char ∧ char ≤ 'z' then char.toNat - 87
  else if 'A' ≤ char ∧ char ≤ 'Z' then char.toNat - 55
  else 36

def isDigit (base : Nat) (char : Char) : Bool := decide (digitValue char < base)

def digitsValue (base : Nat) (digits : List Char) : Nat :=
  digits.foldl (fun value digit => value * base + digitValue digit) 0

/-- The base a text announces, and where its digits begin. -/
def numeralBase : List Char → Nat × List Char
  | '0' :: mark :: digit :: rest =>
      if (mark = 'x' ∨ mark = 'X') ∧ isDigit 16 digit then (16, digit :: rest)
      else (8, '0' :: mark :: digit :: rest)
  | '0' :: rest => (8, '0' :: rest)
  | text => (10, text)

/-- The number a text begins with, at most the largest `long`, and what follows it. -/
def strtol (text : List Char) : Nat × List Char :=
  let (base, digits) := numeralBase text
  (min (digitsValue base (digits.takeWhile (isDigit base))) (2 ^ 63 - 1),
    digits.dropWhile (isDigit base))

def isSpaceChar (char : Char) : Bool :=
  decide (char = ' ' ∨ char = '\t' ∨ char = '\n' ∨ char = '\x0b' ∨ char = '\x0c' ∨ char = '\r')

/-- A decimal number with its sign behind any white space: whether it is negative, and its
digits, which may be none. -/
def signedDigits (text : List Char) : Bool × List Char :=
  match text.dropWhile isSpaceChar with
  | '-' :: rest => (true, rest.takeWhile (isDigit 10))
  | '+' :: rest => (false, rest.takeWhile (isDigit 10))
  | rest => (false, rest.takeWhile (isDigit 10))

/-- What `atoi` reads, of which the lower half of the `long` is kept: as it is, or the nearest
`long`. -/
def atoi (text : List Char) : UInt32 :=
  match signedDigits text with
  | (true, digits) => -UInt32.ofNat (min (digitsValue 10 digits) (2 ^ 63))
  | (false, digits) => UInt32.ofNat (min (digitsValue 10 digits) (2 ^ 63 - 1))

/-- What `%u` reads, if it finds a digit: a number that fits no `unsigned long` is the largest. -/
def scanUnsigned (text : List Char) : Option UInt32 :=
  match signedDigits text with
  | (_, []) => none
  | (negative, digits) =>
      if 2 ^ 64 ≤ digitsValue 10 digits then some (UInt32.ofNat (2 ^ 64 - 1))
      else if negative then some (-UInt32.ofNat (digitsValue 10 digits))
      else some (UInt32.ofNat (digitsValue 10 digits))

/-- How a number is written. -/
inductive Form where
  | decimal | octal | hex (mark : Char)

def Form.base : Form → Nat
  | .decimal => 10
  | .octal => 8
  | .hex _ => 16

/-- What stands before the digits. -/
def Form.lead : Form → List Char
  | .decimal => []
  | .octal => ['0']
  | .hex mark => ['0', mark]

/-- The digits a form takes: a decimal number does not begin with a zero, an octal one may
be the zero alone. -/
def Form.Admits : Form → List Char → Prop
  | .decimal, digits => digits ≠ [] ∧ digits.head? ≠ some '0'
  | .octal, _ => True
  | .hex mark, digits => (mark = 'x' ∨ mark = 'X') ∧ digits ≠ []

structure Numeral where
  form : Form
  digits : List Char
  admitted : form.Admits digits
  known : ∀ digit ∈ digits, isDigit form.base digit = true

def Numeral.text (numeral : Numeral) : List Char := numeral.form.lead ++ numeral.digits

def Numeral.value (numeral : Numeral) : Nat := digitsValue numeral.form.base numeral.digits

/-- A text in which no numeral goes on. -/
def Stops (rest : List Char) : Prop :=
  ∀ char, rest.head? = some char → isDigit 16 char = false ∧ char ≠ 'x' ∧ char ≠ 'X'

theorem isDigit_mono {small large : Nat} (le : small ≤ large) {char : Char}
    (digit : isDigit small char = true) : isDigit large char = true :=
  decide_eq_true (Nat.lt_of_lt_of_le (of_decide_eq_true digit) le)

theorem Form.base_le (form : Form) : form.base ≤ 16 := by
  cases form with
  | decimal => exact Nat.le_add_right 10 6
  | octal => exact Nat.le_add_right 8 8
  | hex mark => exact Nat.le_refl 16

/-- Digits are taken to the end of a numeral and no further. -/
theorem span_digits {base : Nat} (small : base ≤ 16) (digits rest : List Char)
    (known : ∀ digit ∈ digits, isDigit base digit = true) (stops : Stops rest) :
    (digits ++ rest).takeWhile (isDigit base) = digits ∧
      (digits ++ rest).dropWhile (isDigit base) = rest := by
  have ends : rest.takeWhile (isDigit base) = [] ∧ rest.dropWhile (isDigit base) = rest := by
    cases rest with
    | nil => exact ⟨rfl, rfl⟩
    | cons char further =>
        have other : ¬isDigit base char = true := by
          intro digit
          have known := isDigit_mono small digit
          rw [(stops char rfl).1] at known
          exact Bool.false_ne_true known
        rw [List.takeWhile_cons_of_neg other, List.dropWhile_cons_of_neg other]
        exact ⟨rfl, rfl⟩
  rw [List.takeWhile_append_of_pos known, List.dropWhile_append_of_pos known, ends.1, ends.2,
    List.append_nil]
  exact ⟨rfl, rfl⟩

theorem digitsValue_zero (base : Nat) (digits : List Char) :
    digitsValue base ('0' :: digits) = digitsValue base digits := by
  have zero : 0 * base + digitValue '0' = 0 := by
    rw [Nat.zero_mul]
    rfl
  rw [digitsValue, List.foldl_cons, zero]
  rfl

/-- The octal and the decimal form are told from the hexadecimal one by their second
character. -/
theorem numeralBase_octal (rest : List Char)
    (second : ∀ char, rest.head? = some char → char ≠ 'x' ∧ char ≠ 'X') :
    numeralBase ('0' :: rest) = (8, '0' :: rest) := by
  rcases rest with _ | ⟨mark, _ | ⟨digit, further⟩⟩
  · rfl
  · rfl
  · have unmarked : ¬((mark = 'x' ∨ mark = 'X') ∧ isDigit 16 digit = true) := by
      rintro ⟨lower | upper, -⟩
      · exact (second mark rfl).1 lower
      · exact (second mark rfl).2 upper
    rw [numeralBase, if_neg unmarked]

theorem numeralBase_decimal (first : Char) (rest : List Char) (some : first ≠ '0') :
    numeralBase (first :: rest) = (10, first :: rest) := by
  unfold numeralBase
  split
  · rename_i same
    cases same
    exact absurd rfl some
  · rename_i same
    cases same
    exact absurd rfl some
  · rfl

theorem digit_unmarked {base : Nat} (small : base ≤ 16) {char : Char}
    (digit : isDigit base char = true) : char ≠ 'x' ∧ char ≠ 'X' := by
  have value : digitValue char < 16 := Nat.lt_of_lt_of_le (of_decide_eq_true digit) small
  constructor
  · rintro rfl
    exact absurd value (by decide)
  · rintro rfl
    exact absurd value (by decide)

/-- A numeral is read to its end. -/
theorem strtol_numeral (numeral : Numeral) (rest : List Char) (stops : Stops rest)
    (fits : numeral.value < 2 ^ 63) : strtol (numeral.text ++ rest) = (numeral.value, rest) := by
  obtain ⟨form, digits, admitted, known⟩ := numeral
  obtain ⟨taken, dropped⟩ := span_digits form.base_le digits rest known stops
  have capped : min (digitsValue form.base digits) (2 ^ 63 - 1) = digitsValue form.base digits :=
    Nat.min_eq_left (Nat.le_pred_of_lt fits)
  cases form with
  | decimal =>
      obtain ⟨first, further, rfl⟩ := List.exists_cons_of_ne_nil admitted.1
      have some : first ≠ '0' := fun same => admitted.2 (congrArg Option.some same)
      have base : numeralBase (first :: further ++ rest) = (10, first :: further ++ rest) :=
        numeralBase_decimal first (further ++ rest) some
      unfold strtol
      simp only [Numeral.text, Form.lead, List.nil_append, base]
      exact Prod.ext ((congrArg (min · (2 ^ 63 - 1)) (congrArg (digitsValue 10) taken)).trans capped)
        dropped
  | octal =>
      have second : ∀ char, (digits ++ rest).head? = some char → char ≠ 'x' ∧ char ≠ 'X' := by
        intro char heads
        cases digits with
        | nil => exact (stops char heads).2
        | cons digit further =>
            cases heads
            exact digit_unmarked (Form.base_le .octal) (known char List.mem_cons_self)
      have zero : isDigit 8 '0' = true := by decide
      unfold strtol
      simp only [Numeral.text, Form.lead, List.cons_append, List.nil_append,
        numeralBase_octal _ second, List.takeWhile_cons_of_pos zero,
        List.dropWhile_cons_of_pos zero, digitsValue_zero]
      exact Prod.ext ((congrArg (min · (2 ^ 63 - 1)) (congrArg (digitsValue 8) taken)).trans capped)
        dropped
  | hex mark =>
      obtain ⟨first, further, rfl⟩ := List.exists_cons_of_ne_nil admitted.2
      have marked : (mark = 'x' ∨ mark = 'X') ∧ isDigit 16 first = true :=
        ⟨admitted.1, known first List.mem_cons_self⟩
      have base : numeralBase ('0' :: mark :: (first :: further ++ rest)) =
          (16, first :: further ++ rest) := if_pos marked
      unfold strtol
      simp only [Numeral.text, Form.lead, List.cons_append, List.nil_append]
      rw [List.cons_append] at base
      simp only [base]
      exact Prod.ext ((congrArg (min · (2 ^ 63 - 1)) (congrArg (digitsValue 16) taken)).trans capped)
        dropped

/-- A numeral begins with a decimal digit. -/
theorem numeral_head (numeral : Numeral) : ∃ first further,
    numeral.text = first :: further ∧ isDigit 10 first = true := by
  obtain ⟨form, digits, admitted, known⟩ := numeral
  cases form with
  | decimal =>
      obtain ⟨first, further, rfl⟩ := List.exists_cons_of_ne_nil admitted.1
      exact ⟨first, further, rfl, known first List.mem_cons_self⟩
  | octal => exact ⟨'0', digits, rfl, by decide⟩
  | hex mark => exact ⟨'0', mark :: digits, rfl, by decide⟩

end Numerals
