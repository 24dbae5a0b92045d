import SflowTool.VlanFilter

/-! What an option of the VLAN filter lists, by its text alone: numbers of any size and ranges
of them, and what the parser makes of such a text. It keeps the low 32 bits of a number and
tests these, so that a number from 2^32 on is taken for a VLAN where they are small. -/
namespace SflowTool
open Decoding Numerals

section Grammar

/-- The number a text begins with, whatever its size, and what follows it. -/
def numberAt (text : List Char) : Nat × List Char :=
  let (base, digits) := numeralBase text
  (digitsValue base (digits.takeWhile (isDigit base)), digits.dropWhile (isDigit base))

/-- The same, where the text begins with a decimal digit. -/
def leadingNumber (text : List Char) : Option (Nat × List Char) :=
  if text.headD '\x00' < '0' ∨ text.headD '\x00' > '9' then none else some (numberAt text)

/-- A number, or a range by its two numbers. -/
structure VlanSpan where
  first : Nat
  last : Option Nat
deriving DecidableEq

def VlanSpan.numbers (span : VlanSpan) : List Nat := span.first :: span.last.toList

/-- What a number lists, and what a range does when it ascends. -/
def VlanSpan.Covers (vlan : Nat) (span : VlanSpan) : Prop :=
  vlan = span.first ∨ ∃ last, span.last = some last ∧ span.first < last ∧
    span.first ≤ vlan ∧ vlan ≤ last

/-- What a number begins: a range where a dash follows it. -/
def spanFrom (first : Nat) : List Char → Option (VlanSpan × List Char)
  | '-' :: rest => (leadingNumber rest).map fun last => (⟨first, some last.1⟩, last.2)
  | rest => some (⟨first, none⟩, rest)

def leadingSpan (text : List Char) : Option (VlanSpan × List Char) :=
  (leadingNumber (text.dropWhile isSeparator)).bind fun number => spanFrom number.1 number.2

/-- The text is a list of numbers and ranges to its end. -/
inductive Listed : List Char → List VlanSpan → Prop where
  | last {text : List Char} {span : VlanSpan} (ends : leadingSpan text = some (span, [])) :
      Listed text [span]
  | more {text rest : List Char} {span : VlanSpan} {spans : List VlanSpan}
      (leads : leadingSpan text = some (span, rest)) (goesOn : rest ≠ [])
      (further : Listed rest spans) : Listed text (span :: spans)

theorem Listed.unique {text : List Char} {spans others : List VlanSpan}
    (listed : Listed text spans) (again : Listed text others) : spans = others := by
  induction listed generalizing others with
  | last ends =>
      cases again with
      | last leads =>
          rw [ends] at leads
          cases leads
          rfl
      | more leads goesOn further =>
          rw [ends] at leads
          cases leads
          exact absurd rfl goesOn
  | more leads goesOn further ih =>
      cases again with
      | last ends =>
          rw [leads] at ends
          cases ends
          exact absurd rfl goesOn
      | more second _ rest =>
          rw [leads] at second
          cases second
          rw [ih rest]

/-- What is left of a number in the 32 bits it is stored in. -/
def lowVlan (number : Nat) : UInt32 := UInt32.ofNat (min number (2 ^ 63 - 1))

/-- A number that passes the test. -/
def PassesTest (number : Nat) : Prop := lowVlan number ≤ filterMaxVlan

instance (number : Nat) : Decidable (PassesTest number) := inferInstanceAs (Decidable (_ ≤ _))

/-- The array with a span set as it is stored. -/
def VlanSpan.set (flag : Bool) (span : VlanSpan) (array : UInt32 → Bool) : UInt32 → Bool :=
  let array := Function.update array (lowVlan span.first) flag
  match span.last with
  | some last => setRange flag (lowVlan span.first) (lowVlan last) array
  | none => array

end Grammar

section Parser

variable {text rest : List Char} {flag : Bool} {array result : UInt32 → Bool}

/-- A number is read as it is stored, where this passes the test. -/
theorem readVlan_number (text : List Char) : readVlan text = do
    peekForNumber text
    testVlan (lowVlan (numberAt text).1)
    return (lowVlan (numberAt text).1, (numberAt text).2) := rfl

theorem readVlan_leading {number : Nat} (leads : leadingNumber text = some (number, rest))
    (passes : PassesTest number) : readVlan text = .ok (lowVlan number, rest) := by
  unfold leadingNumber at leads
  split_ifs at leads with unknown
  cases leads
  have peeked : peekForNumber text = .ok () := if_neg unknown
  have tested : testVlan (lowVlan (numberAt text).1) = .ok () := if_neg (UInt32.not_lt.mpr passes)
  rw [readVlan_number, peeked, tested]
  rfl

theorem readVlan_read {value : UInt32} (read : readVlan text = .ok (value, rest)) :
    ∃ number, leadingNumber text = some (number, rest) ∧ PassesTest number ∧
      value = lowVlan number := by
  rw [readVlan_number] at read
  by_cases unknown : text.headD '\x00' < '0' ∨ text.headD '\x00' > '9'
  · have fails : peekForNumber text = .error _ := if_pos unknown
    rw [fails] at read
    cases read
  · have peeked : peekForNumber text = .ok () := if_neg unknown
    rw [peeked] at read
    by_cases high : lowVlan (numberAt text).1 > filterMaxVlan
    · have fails : testVlan (lowVlan (numberAt text).1) = .error _ := if_pos high
      rw [fails] at read
      cases read
    · have tested : testVlan (lowVlan (numberAt text).1) = .ok () := if_neg high
      rw [tested] at read
      cases read
      exact ⟨(numberAt text).1, if_neg unknown, UInt32.not_lt.mp high, rfl⟩

/-- All numbers of a span pass the test. -/
def VlanSpan.Passes (span : VlanSpan) : Prop := ∀ number ∈ span.numbers, PassesTest number

theorem spanFrom_plain (first : Nat) (plain : ∀ behind, rest ≠ '-' :: behind) :
    spanFrom first rest = some (⟨first, none⟩, rest) := by
  unfold spanFrom
  split
  · exact absurd rfl (plain _)
  · rfl

/-- A round behind its first number. -/
theorem parseVlanEntry_plain {value : UInt32} (plain : ∀ behind, rest ≠ '-' :: behind)
    (read : readVlan (text.dropWhile isSeparator) = .ok (value, rest)) :
    parseVlanEntry flag array text = .ok (Function.update array value flag, rest) := by
  unfold parseVlanEntry
  rw [read]
  show (match rest with | '-' :: _ => _ | _ => _) = _
  split
  · exact absurd rfl (plain _)
  · rfl

theorem parseVlanEntry_range {value : UInt32}
    (read : readVlan (text.dropWhile isSeparator) = .ok (value, '-' :: rest)) :
    parseVlanEntry flag array text = do
      let last ← readVlan rest
      return (setRange flag value last.1 (Function.update array value flag), last.2) := by
  unfold parseVlanEntry
  rw [read]
  rfl

/-- A round reads a span and sets what it is stored as. -/
theorem parseVlanEntry_leading {span : VlanSpan} (leads : leadingSpan text = some (span, rest))
    (passes : span.Passes) : parseVlanEntry flag array text = .ok (span.set flag array, rest) := by
  obtain ⟨⟨first, middle⟩, number, leads⟩ := Option.bind_eq_some_iff.mp leads
  by_cases dashed : ∃ behind, middle = '-' :: behind
  · obtain ⟨behind, rfl⟩ := dashed
    obtain ⟨⟨last, after⟩, second, same⟩ := Option.map_eq_some_iff.mp leads
    cases same
    rw [parseVlanEntry_range (readVlan_leading number (passes first List.mem_cons_self)),
      readVlan_leading second (passes last (List.mem_cons_of_mem _ List.mem_cons_self))]
    rfl
  · have plain := not_exists.mp dashed
    rw [spanFrom_plain _ plain] at leads
    cases leads
    exact parseVlanEntry_plain plain (readVlan_leading number (passes first List.mem_cons_self))

theorem parseVlanEntry_read (read : parseVlanEntry flag array text = .ok (result, rest)) :
    ∃ span, leadingSpan text = some (span, rest) ∧ span.Passes ∧ result = span.set flag array := by
  cases start : readVlan (text.dropWhile isSeparator) with
  | error fatal =>
      unfold parseVlanEntry at read
      rw [start] at read
      cases read
  | ok found =>
      obtain ⟨value, middle⟩ := found
      obtain ⟨first, number, passes, rfl⟩ := readVlan_read start
      by_cases dashed : ∃ behind, middle = '-' :: behind
      · obtain ⟨behind, rfl⟩ := dashed
        rw [parseVlanEntry_range start] at read
        cases further : readVlan behind with
        | error fatal =>
            rw [further] at read
            cases read
        | ok last =>
            obtain ⟨value, after⟩ := last
            obtain ⟨last, second, small, rfl⟩ := readVlan_read further
            rw [further] at read
            cases read
            refine ⟨⟨first, some last⟩, ?_, ?_, rfl⟩
            · unfold leadingSpan
              rw [number, Option.bind_some, spanFrom, second]
              rfl
            · exact List.forall_mem_cons.mpr ⟨passes, List.forall_mem_singleton.mpr small⟩
      · have plain := not_exists.mp dashed
        rw [parseVlanEntry_plain plain start] at read
        cases read
        refine ⟨⟨first, none⟩, ?_, List.forall_mem_singleton.mpr passes, rfl⟩
        unfold leadingSpan
        rw [number, Option.bind_some, spanFrom_plain _ plain]

/-- A number takes a digit at least. -/
theorem numeralBase_digit (digit : Char) (behind : List Char) (decimal : isDigit 10 digit = true) :
    ∃ first more, (numeralBase (digit :: behind)).2 = first :: more ∧
      isDigit (numeralBase (digit :: behind)).1 first = true ∧
      more.length ≤ behind.length := by
  by_cases zero : digit = '0'
  · subst zero
    have octal : isDigit 8 '0' = true := by decide
    rcases behind with _ | ⟨mark, _ | ⟨second, further⟩⟩
    · exact ⟨'0', [], rfl, octal, Nat.le_refl _⟩
    · exact ⟨'0', [mark], rfl, octal, Nat.le_refl _⟩
    · by_cases marked : (mark = 'x' ∨ mark = 'X') ∧ isDigit 16 second = true
      · rw [numeralBase, if_pos marked]
        refine ⟨second, further, rfl, marked.2, ?_⟩
        simp only [List.length_cons]
        omega
      · rw [numeralBase, if_neg marked]
        exact ⟨'0', _, rfl, octal, Nat.le_refl _⟩
  · rw [numeralBase_decimal digit behind zero]
    exact ⟨digit, behind, rfl, decimal, Nat.le_refl _⟩

theorem peeked_digit {digit : Char} (peeked : ¬(digit < '0' ∨ digit > '9')) :
    isDigit 10 digit = true := by
  obtain ⟨low, high⟩ := not_or.mp peeked
  have range : '0' ≤ digit ∧ digit ≤ '9' := ⟨Char.not_lt.mp low, Char.not_lt.mp high⟩
  have upper : digit.toNat ≤ 57 := range.2
  unfold isDigit digitValue
  rw [if_pos range]
  exact decide_eq_true (by omega)

theorem leadingNumber_shorter {number : Nat} (leads : leadingNumber text = some (number, rest)) :
    rest.length < text.length := by
  unfold leadingNumber at leads
  split_ifs at leads with unknown
  have left : rest = (numberAt text).2 := (congrArg Prod.snd (Option.some.inj leads)).symm
  rcases text with _ | ⟨digit, behind⟩
  · exact absurd (.inl (by decide)) unknown
  · have decimal : isDigit 10 digit = true := peeked_digit unknown
    obtain ⟨first, more, digits, known, fits⟩ := numeralBase_digit digit behind decimal
    have dropped := List.length_dropWhile_le (isDigit (numeralBase (digit :: behind)).1) more
    have dropWhile : (numberAt (digit :: behind)).2 = (numeralBase (digit :: behind)).2.dropWhile
        (isDigit (numeralBase (digit :: behind)).1) := rfl
    rw [left, dropWhile, digits, List.dropWhile_cons_of_pos known, List.length_cons]
    omega

/-- A span takes a character at least. -/
theorem leadingSpan_shorter {span : VlanSpan} (leads : leadingSpan text = some (span, rest)) :
    rest.length < text.length := by
  obtain ⟨⟨first, middle⟩, number, leads⟩ := Option.bind_eq_some_iff.mp leads
  have skipped := List.length_dropWhile_le isSeparator text
  have shorter := leadingNumber_shorter number
  by_cases dashed : ∃ behind, middle = '-' :: behind
  · obtain ⟨behind, rfl⟩ := dashed
    obtain ⟨⟨last, after⟩, second, same⟩ := Option.map_eq_some_iff.mp leads
    cases same
    have further := leadingNumber_shorter second
    rw [List.length_cons] at shorter
    show after.length < text.length
    omega
  · rw [spanFrom_plain _ (not_exists.mp dashed)] at leads
    cases leads
    omega

end Parser

section Rounds

/-- The rounds of the loop, one after the other until the text ends or the process exits. -/
inductive Rounds (flag : Bool) :
    (UInt32 → Bool) → List Char → Except Fatal (UInt32 → Bool) → Prop where
  | exits {array : UInt32 → Bool} {text : List Char} {fatal : Fatal}
      (fails : parseVlanEntry flag array text = .error fatal) :
      Rounds flag array text (.error fatal)
  | ends {array result : UInt32 → Bool} {text : List Char}
      (read : parseVlanEntry flag array text = .ok (result, [])) :
      Rounds flag array text (.ok result)
  | again {array middle : UInt32 → Bool} {text rest : List Char}
      {outcome : Except Fatal (UInt32 → Bool)}
      (read : parseVlanEntry flag array text = .ok (middle, rest)) (goesOn : rest ≠ [])
      (further : Rounds flag middle rest outcome) : Rounds flag array text outcome

variable {flag : Bool} {array result : UInt32 → Bool} {text : List Char}

/-- The loop ends, with what the parser returns. -/
theorem rounds_end (fuel : Nat) (enough : text.length < fuel) :
    Rounds flag array text (parseVlanEntries flag fuel array text) := by
  induction fuel generalizing array text with
  | zero => exact absurd enough (Nat.not_lt_zero _)
  | succ fuel ih =>
      unfold parseVlanEntries
      cases read : parseVlanEntry flag array text with
      | error fatal => exact .exits read
      | ok found =>
          obtain ⟨middle, rest⟩ := found
          show Rounds flag array text (if rest = [] then _ else _)
          by_cases ends : rest = []
          · rw [if_pos ends]
            exact .ends (ends ▸ read)
          · obtain ⟨span, leads, -⟩ := parseVlanEntry_read read
            have shorter := leadingSpan_shorter leads
            rw [if_neg ends]
            exact .again read ends (ih (by omega))

def setSpans (flag : Bool) (spans : List VlanSpan) (array : UInt32 → Bool) : UInt32 → Bool :=
  spans.foldl (fun array span => span.set flag array) array

/-- A text that is accepted lists numbers that pass the test, and these are set. -/
theorem rounds_listed {outcome : Except Fatal (UInt32 → Bool)}
    (rounds : Rounds flag array text outcome) (accepted : outcome = .ok result) :
    ∃ spans, Listed text spans ∧ (∀ span ∈ spans, span.Passes) ∧
      result = setSpans flag spans array := by
  induction rounds with
  | exits fails => cases accepted
  | ends read =>
      cases accepted
      obtain ⟨span, leads, passes, rfl⟩ := parseVlanEntry_read read
      exact ⟨[span], .last leads, List.forall_mem_singleton.mpr passes, rfl⟩
  | again read goesOn further ih =>
      obtain ⟨span, leads, passes, rfl⟩ := parseVlanEntry_read read
      obtain ⟨spans, listed, all, rfl⟩ := ih accepted
      exact ⟨span :: spans, .more leads goesOn listed, List.forall_mem_cons.mpr ⟨passes, all⟩, rfl⟩

theorem listed_parses {spans : List VlanSpan} (listed : Listed text spans)
    (passes : ∀ span ∈ spans, span.Passes) (fuel : Nat) (enough : text.length < fuel) :
    parseVlanEntries flag fuel array text = .ok (setSpans flag spans array) := by
  induction listed generalizing fuel array with
  | last ends =>
      obtain ⟨fuel, rfl⟩ := Nat.exists_eq_succ_of_ne_zero (Nat.ne_of_gt (Nat.zero_lt_of_lt enough))
      unfold parseVlanEntries
      rw [parseVlanEntry_leading ends (List.forall_mem_singleton.mp passes)]
      rfl
  | @more text rest span spans leads goesOn further ih =>
      obtain ⟨fuel, rfl⟩ := Nat.exists_eq_succ_of_ne_zero (Nat.ne_of_gt (Nat.zero_lt_of_lt enough))
      obtain ⟨first, passes⟩ := List.forall_mem_cons.mp passes
      have shorter := leadingSpan_shorter leads
      unfold parseVlanEntries
      rw [parseVlanEntry_leading leads first]
      show (if rest = [] then _ else _) = _
      rw [if_neg goesOn, ih passes fuel (by omega)]
      rfl

end Rounds

section Acceptance

/-- All numbers of a span are VLANs. -/
def VlanSpan.Known (span : VlanSpan) : Prop := ∀ number ∈ span.numbers, number ≤ 4096

theorem lowVlan_known {number : Nat} (known : number ≤ 4096) : (lowVlan number).toNat = number := by
  unfold lowVlan
  rw [Nat.min_eq_left (by omega)]
  exact vlan_toNat known

/-- A known span sets what it covers. -/
theorem set_known {span : VlanSpan} (known : span.Known) (flag : Bool) (array : UInt32 → Bool)
    (vlan : UInt32) [Decidable (span.Covers vlan.toNat)] : span.set flag array vlan =
      if span.Covers vlan.toNat then flag else array vlan := by
  obtain ⟨first, last⟩ := span
  obtain ⟨small, others⟩ := List.forall_mem_cons.mp known
  have low : (lowVlan first).toNat = first := lowVlan_known small
  have head : vlan = lowVlan first ↔ vlan.toNat = first := by
    rw [← UInt32.toNat_inj, low]
  have alone (covers : VlanSpan.Covers vlan.toNat ⟨first, last⟩ ↔ vlan.toNat = first) :
      Function.update array (lowVlan first) flag vlan =
        if VlanSpan.Covers vlan.toNat ⟨first, last⟩ then flag else array vlan := by
    rw [Function.update_apply]
    exact if_congr (head.trans covers.symm) rfl rfl
  cases last with
  | none =>
      refine alone ⟨?_, .inl⟩
      rintro (same | ⟨_, none, -⟩)
      · exact same
      · cases none
  | some last =>
      have fits : (lowVlan last).toNat = last := lowVlan_known (others last List.mem_cons_self)
      have covers : VlanSpan.Covers vlan.toNat ⟨first, some last⟩ ↔ vlan.toNat = first ∨
          first < last ∧ first ≤ vlan.toNat ∧ vlan.toNat ≤ last := by
        constructor
        · rintro (same | ⟨_, ⟨⟩, inside⟩)
          · exact .inl same
          · exact .inr inside
        · rintro (same | inside)
          · exact .inl same
          · exact .inr ⟨last, rfl, inside⟩
      by_cases ascends : first ≤ last
      · have set := setRange_apply flag (lowVlan first) (lowVlan last) array vlan
          (by rw [low, fits]; exact ascends)
          (by rw [fits]; exact Nat.lt_of_le_of_lt (others last List.mem_cons_self) (by decide))
        refine set.trans (if_congr ?_ rfl rfl)
        rw [low, fits, covers]
        omega
      · have unset : ¬lowVlan last > lowVlan first := by
          rw [gt_iff_lt, UInt32.lt_iff_toNat_lt, low, fits]
          omega
        show setRange flag (lowVlan first) (lowVlan last) _ vlan = _
        unfold setRange
        rw [if_neg unset]
        refine alone (covers.trans ?_)
        omega

/-- A list of known VLANs sets those it covers and leaves the others. -/
theorem setSpans_known (flag : Bool) (spans : List VlanSpan) (known : ∀ span ∈ spans, span.Known)
    (array : UInt32 → Bool) (vlan : UInt32) :
    ((∃ span ∈ spans, span.Covers vlan.toNat) → setSpans flag spans array vlan = flag) ∧
      ((¬∃ span ∈ spans, span.Covers vlan.toNat) → setSpans flag spans array vlan = array vlan) := by
  classical
  induction spans generalizing array with
  | nil =>
      refine ⟨?_, fun _ => rfl⟩
      rintro ⟨_, absent, -⟩
      exact absurd absent List.not_mem_nil
  | cons span spans ih =>
      obtain ⟨first, known⟩ := List.forall_mem_cons.mp known
      obtain ⟨covered, uncovered⟩ := ih known (span.set flag array)
      have set := set_known first flag array vlan
      simp only [List.mem_cons, exists_eq_or_imp]
      by_cases later : ∃ span ∈ spans, span.Covers vlan.toNat
      · exact ⟨fun _ => covered later, fun none => absurd (.inr later) none⟩
      · have kept : setSpans flag (span :: spans) array vlan = span.set flag array vlan :=
          uncovered later
        rw [kept, set]
        constructor
        · intro either
          exact if_pos (either.resolve_right later)
        · intro neither
          exact if_neg fun here => neither (.inl here)

/-- What the option is for: the loop ends, and where the text is accepted it is a list of
VLANs up to 4096 and just those it covers have the flag set. -/
structure AcceptsListed (flag : Bool) (array : UInt32 → Bool) (text : List Char) : Prop where
  terminates : Rounds flag array text (parseVlanFilter array flag text)
  listed : ∀ result, parseVlanFilter array flag text = .ok result →
    ∃ spans, Listed text spans ∧ (∀ span ∈ spans, span.Known) ∧
      ∀ vlan, ((∃ span ∈ spans, span.Covers vlan.toNat) → result vlan = flag) ∧
        ((¬∃ span ∈ spans, span.Covers vlan.toNat) → result vlan = array vlan)

/-- The text is a list whose numbers pass the test as they are stored, and one of them is
2^32 or more. -/
def TakesLargeNumber (text : List Char) : Prop :=
  ∃ spans, Listed text spans ∧ (∀ span ∈ spans, span.Passes) ∧
    ∃ span ∈ spans, ∃ number ∈ span.numbers, 2 ^ 32 ≤ number

/-- A number below 2^32 is tested as it is. -/
theorem known_of_passes {number : Nat} (passes : PassesTest number) (fits : number < 2 ^ 32) :
    number ≤ 4096 := by
  have low : (lowVlan number).toNat = number := by
    unfold lowVlan
    rw [Nat.min_eq_left (by omega)]
    exact UInt32.toNat_ofNat_of_lt' fits
  have bound : (lowVlan number).toNat ≤ 4096 := UInt32.le_iff_toNat_le.mp passes
  omega

theorem large_unlisted {text : List Char} (large : TakesLargeNumber text) (flag : Bool)
    (array : UInt32 → Bool) : ¬AcceptsListed flag array text := by
  rintro ⟨-, accepted⟩
  obtain ⟨spans, listed, passes, span, member, number, among, size⟩ := large
  obtain ⟨others, again, known, -⟩ :=
    accepted _ (listed_parses listed passes _ (Nat.lt_succ_self _))
  rw [← listed.unique again] at known
  have small := known span member number among
  omega

/-- A text is handled as it should be exactly if it takes no number from 2^32 on for a
VLAN. -/
theorem parseVlanFilter_listed_iff (flag : Bool) (array : UInt32 → Bool) (text : List Char) :
    AcceptsListed flag array text ↔ ¬TakesLargeNumber text := by
  constructor
  · exact fun accepts large => large_unlisted large flag array accepts
  · intro moderate
    have rounds : Rounds flag array text (parseVlanFilter array flag text) :=
      rounds_end _ (Nat.lt_succ_self _)
    refine ⟨rounds, fun result accepted => ?_⟩
    obtain ⟨spans, listed, passes, rfl⟩ := rounds_listed rounds accepted
    have known : ∀ span ∈ spans, span.Known := by
      intro span member number among
      apply known_of_passes (passes span member number among)
      by_contra large
      exact moderate ⟨spans, listed, passes, span, member, number, among, Nat.le_of_not_lt large⟩
    exact ⟨spans, listed, known, fun vlan => setSpans_known flag spans known array vlan⟩

/-- The number 2^32 + 1 sets VLAN 1. -/
theorem large_number_accepted :
    ¬AcceptsListed true (fun _ => false) "4294967297".toList ∧
      ∃ result, parseVlanFilter (fun _ => false) true "4294967297".toList = .ok result ∧
        result 1 = true := by
  have listed : Listed "4294967297".toList [⟨4294967297, none⟩] := .last (by decide)
  have passes : ∀ span ∈ [VlanSpan.mk 4294967297 none], span.Passes := by
    simp only [List.forall_mem_singleton]
    exact List.forall_mem_singleton.mpr (by decide)
  refine ⟨large_unlisted ⟨_, listed, passes, _, List.mem_cons_self, _, List.mem_cons_self,
    by decide⟩ _ _, _, listed_parses listed passes _ (Nat.lt_succ_self _), rfl⟩

end Acceptance

end SflowTool
