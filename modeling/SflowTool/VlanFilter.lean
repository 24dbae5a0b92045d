import SflowTool.Numerals
import SflowTool.Stepping
import SflowTool.HeaderSpecs
import SflowTool.ExportSpecs
import SflowTool.Wire

/-! The VLAN filter as the command line sets it. The options are read one after the other;
where the first is an exclude, all VLANs are allowed before it, all but the last one of the
array that is. -/
namespace SflowTool
open Decoding Numerals

section Parsing

def filterMaxVlan : UInt32 := 4096

/-- The argument of the message is the next character, or the end of the text. -/
def peekForNumber (p : List Char) : Except Fatal Unit :=
  let next := p.headD '\x00'
  if next < '0' ∨ next > '9' then
    .error ⟨⟨"error parsing vlan filter ranges (next char = <%c>)\n",
      [.word (UInt32.ofNat next.toNat)]⟩, -19⟩
  else .ok ()

def testVlan (num : UInt32) : Except Fatal Unit :=
  if num > filterMaxVlan then
    .error ⟨⟨"error parsing vlan filter (vlan = <%d> out of range)\n", [.word num]⟩, -20⟩
  else .ok ()

/-- The loop that sets a stretch of the array. -/
def setVlans (flag : Bool) : Nat → UInt32 → (UInt32 → Bool) → UInt32 → Bool
  | 0, _, array => array
  | count + 1, i, array => setVlans flag count (i + 1) (Function.update array i flag)

def setRange (flag : Bool) (first last : UInt32) (array : UInt32 → Bool) : UInt32 → Bool :=
  if last > first then setVlans flag (last.toNat + 1 - first.toNat) first array else array

def isSeparator (char : Char) : Bool := decide (char = ' ' ∨ char = ',')

def readVlan (p : List Char) : Except Fatal (UInt32 × List Char) := do
  peekForNumber p
  let (value, rest) := strtol p
  testVlan (UInt32.ofNat value)
  return (UInt32.ofNat value, rest)

/-- A round of the loop: a number or a range behind its separators. -/
def parseVlanEntry (flag : Bool) (array : UInt32 → Bool) (p : List Char) :
    Except Fatal ((UInt32 → Bool) × List Char) := do
  let (first, rest) ← readVlan (p.dropWhile isSeparator)
  let array := Function.update array first flag
  match rest with
  | '-' :: rest =>
      let (last, rest) ← readVlan rest
      return (setRange flag first last array, rest)
  | rest => return (array, rest)

/-- A round takes a character at least, so that the rounds end with the text. -/
def parseVlanEntries (flag : Bool) : Nat → (UInt32 → Bool) → List Char →
    Except Fatal (UInt32 → Bool)
  | 0, array, _ => return array
  | fuel + 1, array, p => do
      let (array, rest) ← parseVlanEntry flag array p
      if rest = [] then return array else parseVlanEntries flag fuel array rest

def parseVlanFilter (array : UInt32 → Bool) (flag : Bool) (start : List Char) :
    Except Fatal (UInt32 → Bool) :=
  parseVlanEntries flag (start.length + 1) array start

/-- The case of the option in `process_command_line`. -/
def vlanOption (sfConfig : SFConfig) (plus : Bool) (argument : List Char) :
    Except Fatal SFConfig := do
  if plus then
    let vlanFilter ← parseVlanFilter sfConfig.vlanFilter true argument
    return { sfConfig with gotVlanFilter := true, vlanFilter }
  else
    let started := if sfConfig.gotVlanFilter = false then
      { sfConfig with vlanFilter := setVlans true filterMaxVlan.toNat 0 sfConfig.vlanFilter,
                      gotVlanFilter := true }
      else sfConfig
    let vlanFilter ← parseVlanFilter started.vlanFilter false argument
    return { started with vlanFilter }

def vlanOptions : List (Bool × List Char) → SFConfig → Except Fatal SFConfig
  | [], sfConfig => return sfConfig
  | (plus, argument) :: rest, sfConfig => do
      let sfConfig ← vlanOption sfConfig plus argument
      vlanOptions rest sfConfig

theorem setVlans_apply (flag : Bool) (count : Nat) (i : UInt32) (array : UInt32 → Bool)
    (fits : i.toNat + count < 2 ^ 32) (vlan : UInt32) : setVlans flag count i array vlan =
      if i.toNat ≤ vlan.toNat ∧ vlan.toNat < i.toNat + count then flag else array vlan := by
  induction count generalizing i array with
  | zero => exact (if_neg (by omega)).symm
  | succ count ih =>
      have next : (i + 1).toNat = i.toNat + 1 := by
        rw [UInt32.toNat_add, show (1 : UInt32).toNat = 1 from rfl]
        omega
      rw [setVlans, ih _ _ (by omega), next]
      by_cases same : vlan = i
      · subst same
        rw [if_neg (by omega), if_pos (by omega), Function.update_self]
      · have other : vlan.toNat ≠ i.toNat := fun equal => same (UInt32.toNat_inj.mp equal)
        rw [Function.update_of_ne same]
        by_cases inside : i.toNat + 1 ≤ vlan.toNat ∧ vlan.toNat < i.toNat + 1 + count
        · rw [if_pos inside, if_pos (by omega)]
        · rw [if_neg inside, if_neg (by omega)]

/-- A range whose first VLAN is set has all of its VLANs set. -/
theorem setRange_apply (flag : Bool) (first last : UInt32) (array : UInt32 → Bool) (vlan : UInt32)
    (ordered : first.toNat ≤ last.toNat) (fits : last.toNat < 2 ^ 32 - 1) :
    setRange flag first last (Function.update array first flag) vlan =
      if first.toNat ≤ vlan.toNat ∧ vlan.toNat ≤ last.toNat then flag else array vlan := by
  unfold setRange
  by_cases more : last > first
  · have strict : first.toNat < last.toNat := more
    rw [if_pos more, setVlans_apply _ _ _ _ (by omega)]
    by_cases inside : first.toNat ≤ vlan.toNat ∧ vlan.toNat ≤ last.toNat
    · rw [if_pos inside, if_pos (by omega)]
    · rw [if_neg inside, if_neg (by omega), Function.update_of_ne]
      rintro rfl
      exact inside ⟨Nat.le_refl _, ordered⟩
  · have same : first = last := by
      have : ¬first.toNat < last.toNat := more
      exact UInt32.toNat_inj.mp (by omega)
    rw [if_neg more, Function.update_apply, ← same]
    refine if_congr ?_ rfl rfl
    rw [← UInt32.toNat_inj]
    omega

end Parsing

section Lists

/-- What a list names: a VLAN or a range of them. -/
inductive VlanItem where
  | single (vlan : Numeral)
  | range (first last : Numeral)

def VlanItem.text : VlanItem → List Char
  | .single vlan => vlan.text
  | .range first last => first.text ++ '-' :: last.text

def VlanItem.Valid : VlanItem → Prop
  | .single vlan => vlan.value ≤ 4096
  | .range first last => first.value ≤ last.value ∧ last.value ≤ 4096

def VlanItem.Lists (vlan : UInt32) : VlanItem → Prop
  | .single named => vlan.toNat = named.value
  | .range first last => first.value ≤ vlan.toNat ∧ vlan.toNat ≤ last.value

instance (vlan : UInt32) : DecidablePred (VlanItem.Lists vlan)
  | .single _ => inferInstanceAs (Decidable (_ = _))
  | .range _ _ => inferInstanceAs (Decidable (_ ∧ _))

/-- A VLAN or a range behind separators. -/
structure VlanEntry where
  separators : List Char
  item : VlanItem
  separated : ∀ char ∈ separators, isSeparator char = true
  valid : item.Valid

def VlanEntry.text (entry : VlanEntry) : List Char := entry.separators ++ entry.item.text

/-- A valid list: at least one entry, and separators before each but the first. -/
structure VlanList where
  first : VlanEntry
  others : List VlanEntry
  apart : ∀ entry ∈ others, entry.separators ≠ []

def VlanList.text (list : VlanList) : List Char :=
  list.first.text ++ list.others.flatMap VlanEntry.text

def VlanList.Lists (vlan : UInt32) (list : VlanList) : Prop :=
  list.first.item.Lists vlan ∨ ∃ entry ∈ list.others, entry.item.Lists vlan

instance (vlan : UInt32) : DecidablePred (VlanList.Lists vlan) :=
  fun _ => inferInstanceAs (Decidable (_ ∨ _))

/-- A list ends, or a separator follows. -/
def EntryEnds (rest : List Char) : Prop := ∀ char, rest.head? = some char → isSeparator char = true

theorem EntryEnds.stops {rest : List Char} (ends : EntryEnds rest) : Stops rest := by
  intro char heads
  rcases of_decide_eq_true (ends char heads) with rfl | rfl
  · decide
  · decide

/-- A range's dash ends its first number. -/
theorem dash_stops (rest : List Char) : Stops ('-' :: rest) := by
  rintro char ⟨⟩
  decide

theorem digit_peeked {digit : Char} (decimal : isDigit 10 digit = true) :
    ¬(digit < '0' ∨ digit > '9') := by
  have small : digitValue digit < 10 := of_decide_eq_true decimal
  have range : '0' ≤ digit ∧ digit ≤ '9' := by
    by_contra outside
    rw [digitValue, if_neg outside] at small
    split_ifs at small with lower upper
    · have : 97 ≤ digit.toNat := lower.1
      omega
    · have : 65 ≤ digit.toNat := upper.1
      omega
    · omega
  rintro (below | above)
  · exact Char.not_lt.mpr range.1 below
  · exact Char.not_lt.mpr range.2 above

theorem vlan_toNat {value : Nat} (valid : value ≤ 4096) : (UInt32.ofNat value).toNat = value :=
  UInt32.toNat_ofNat_of_lt' (Nat.lt_of_le_of_lt valid (by decide))

theorem readVlan_numeral (numeral : Numeral) (rest : List Char) (stops : Stops rest)
    (valid : numeral.value ≤ 4096) :
    readVlan (numeral.text ++ rest) = .ok (UInt32.ofNat numeral.value, rest) := by
  obtain ⟨first, further, text, digit⟩ := numeral_head numeral
  have read := strtol_numeral numeral rest stops (by omega)
  have peeked : peekForNumber (numeral.text ++ rest) = .ok () := by
    rw [text]
    exact if_neg (digit_peeked digit)
  have tested : testVlan (UInt32.ofNat numeral.value) = .ok () := by
    have small : ¬UInt32.ofNat numeral.value > filterMaxVlan := by
      rw [gt_iff_lt, UInt32.lt_iff_toNat_lt, vlan_toNat valid]
      exact Nat.not_lt.mpr valid
    exact if_neg small
  unfold readVlan
  rw [peeked, read]
  show (testVlan (UInt32.ofNat numeral.value) >>= fun _ => _) = _
  rw [tested]
  rfl

/-- An entry sets the VLANs it lists and is read to its end. -/
theorem parseVlanEntry_text (flag : Bool) (array : UInt32 → Bool) (entry : VlanEntry)
    (rest : List Char) (ends : EntryEnds rest) :
    parseVlanEntry flag array (entry.text ++ rest) =
      .ok (fun vlan => if entry.item.Lists vlan then flag else array vlan, rest) := by
  obtain ⟨separators, item, separated, valid⟩ := entry
  have skipped (numeral : Numeral) (more : List Char) :
      (separators ++ (numeral.text ++ more)).dropWhile isSeparator = numeral.text ++ more := by
    obtain ⟨first, further, text, digit⟩ := numeral_head numeral
    have apart : ¬isSeparator first = true := by
      intro separator
      rcases of_decide_eq_true separator with rfl | rfl
      · exact absurd digit (by decide)
      · exact absurd digit (by decide)
    rw [List.dropWhile_append_of_pos separated, text, List.cons_append,
      List.dropWhile_cons_of_neg apart]
  cases item with
  | single named =>
      have split : (VlanEntry.mk separators (.single named) separated valid).text ++ rest =
          separators ++ (named.text ++ rest) := List.append_assoc _ _ _
      have listed : Function.update array (UInt32.ofNat named.value) flag =
          fun vlan => if vlan.toNat = named.value then flag else array vlan := by
        funext vlan
        rw [Function.update_apply]
        refine if_congr ?_ rfl rfl
        rw [← UInt32.toNat_inj, vlan_toNat valid]
      have read : parseVlanEntry flag array (separators ++ (named.text ++ rest)) =
          .ok (Function.update array (UInt32.ofNat named.value) flag, rest) := by
        unfold parseVlanEntry
        rw [skipped, readVlan_numeral named rest ends.stops valid]
        rcases rest with _ | ⟨char, further⟩
        · rfl
        · rcases of_decide_eq_true (ends char rfl) with rfl | rfl
          · rfl
          · rfl
      rw [split, read, listed]
      rfl
  | range first last =>
      have fits : first.value ≤ 4096 := Nat.le_trans valid.1 valid.2
      have split : (VlanEntry.mk separators (.range first last) separated valid).text ++ rest =
          separators ++ (first.text ++ '-' :: (last.text ++ rest)) := by
        simp only [VlanEntry.text, VlanItem.text, List.append_assoc, List.cons_append]
      have read : parseVlanEntry flag array
          (separators ++ (first.text ++ '-' :: (last.text ++ rest))) =
          .ok (setRange flag (UInt32.ofNat first.value) (UInt32.ofNat last.value)
            (Function.update array (UInt32.ofNat first.value) flag), rest) := by
        unfold parseVlanEntry
        rw [skipped, readVlan_numeral first _ (dash_stops _) fits]
        show (readVlan (last.text ++ rest) >>= fun _ => _) = _
        rw [readVlan_numeral last rest ends.stops valid.2]
        rfl
      have listed : setRange flag (UInt32.ofNat first.value) (UInt32.ofNat last.value)
          (Function.update array (UInt32.ofNat first.value) flag) = fun vlan =>
            if first.value ≤ vlan.toNat ∧ vlan.toNat ≤ last.value then flag else array vlan := by
        funext vlan
        rw [setRange_apply _ _ _ _ _ (by rw [vlan_toNat fits, vlan_toNat valid.2]; exact valid.1)
          (by rw [vlan_toNat valid.2]; exact Nat.lt_of_le_of_lt valid.2 (by decide)),
          vlan_toNat fits, vlan_toNat valid.2]
      rw [split, read, listed]
      rfl

theorem VlanEntry.text_ne_nil (entry : VlanEntry) : entry.text ≠ [] := by
  obtain ⟨separators, item, separated, valid⟩ := entry
  intro empty
  have none : item.text = [] := (List.append_eq_nil_iff.mp empty).2
  cases item with
  | single named =>
      obtain ⟨first, further, text, -⟩ := numeral_head named
      exact List.cons_ne_nil _ _ (text.symm.trans none)
  | range first last => exact List.cons_ne_nil _ _ (List.append_eq_nil_iff.mp none).2

/-- An entry that is set apart begins with a separator. -/
theorem EntryEnds.before {entry : VlanEntry} (apart : entry.separators ≠ []) (rest : List Char) :
    EntryEnds (entry.text ++ rest) := by
  obtain ⟨separators, item, separated, valid⟩ := entry
  obtain ⟨separator, further, rfl⟩ := List.exists_cons_of_ne_nil apart
  rintro char ⟨⟩
  exact separated _ List.mem_cons_self

/-- The rounds take the entries one after the other. -/
theorem parseVlanEntries_text (flag : Bool) (array : UInt32 → Bool) (first : VlanEntry)
    (others : List VlanEntry) (apart : ∀ entry ∈ others, entry.separators ≠ []) (fuel : Nat)
    (enough : others.length < fuel) :
    parseVlanEntries flag fuel array (first.text ++ others.flatMap VlanEntry.text) =
      .ok fun vlan => if first.item.Lists vlan ∨ ∃ entry ∈ others, entry.item.Lists vlan
        then flag else array vlan := by
  induction others generalizing fuel array first with
  | nil =>
      obtain ⟨fuel, rfl⟩ := Nat.exists_eq_succ_of_ne_zero (Nat.ne_of_gt enough)
      have ends : EntryEnds [] := by
        rintro char ⟨⟩
      unfold parseVlanEntries
      rw [List.flatMap_nil, parseVlanEntry_text flag array first [] ends]
      simp only [List.not_mem_nil, false_and, exists_false, or_false]
      rfl
  | cons second others ih =>
      obtain ⟨fuel, rfl⟩ := Nat.exists_eq_succ_of_ne_zero (Nat.ne_of_gt (Nat.zero_lt_of_lt enough))
      obtain ⟨set, further⟩ := List.forall_mem_cons.mp apart
      have more : second.text ++ others.flatMap VlanEntry.text ≠ [] := fun empty =>
        second.text_ne_nil (List.append_eq_nil_iff.mp empty).1
      have rest := ih (fun vlan => if first.item.Lists vlan then flag else array vlan) second
        further fuel (Nat.lt_of_succ_lt_succ enough)
      unfold parseVlanEntries
      rw [List.flatMap_cons, parseVlanEntry_text flag array first _ (EntryEnds.before set _)]
      show (if _ = [] then _ else parseVlanEntries flag fuel _ _) = _
      rw [if_neg more, rest]
      congr 1
      funext vlan
      simp only [List.mem_cons, exists_eq_or_imp]
      by_cases early : first.item.Lists vlan
      · rw [if_pos early, ite_self, if_pos (.inl early)]
      · rw [if_neg early]
        exact if_congr (or_iff_right early).symm rfl rfl

theorem entries_length (entries : List VlanEntry) :
    entries.length ≤ (entries.flatMap VlanEntry.text).length := by
  induction entries with
  | nil => exact Nat.le_refl 0
  | cons entry entries ih =>
      have some := List.length_pos_of_ne_nil entry.text_ne_nil
      rw [List.flatMap_cons, List.length_append, List.length_cons]
      omega

/-- A valid list sets the VLANs it names and leaves the others. -/
theorem parseVlanFilter_text (flag : Bool) (array : UInt32 → Bool) (list : VlanList) :
    parseVlanFilter array flag list.text =
      .ok fun vlan => if list.Lists vlan then flag else array vlan := by
  have few : list.others.length < list.text.length + 1 := by
    have length := entries_length list.others
    rw [VlanList.text, List.length_append]
    omega
  exact parseVlanEntries_text flag array list.first list.others list.apart _ few

end Lists

section Options

/-- A VLAN option with its list. -/
structure VlanOption where
  plus : Bool
  list : VlanList

def VlanOption.given (option : VlanOption) : Bool × List Char := (option.plus, option.list.text)

/-- What an include adds and an exclude removes. -/
def VlanOption.applied (option : VlanOption) (allowed : Set UInt32) : Set UInt32 :=
  if option.plus then allowed ∪ {vlan | option.list.Lists vlan}
  else allowed \ {vlan | option.list.Lists vlan}

def allowedFrom (start : Set UInt32) (options : List VlanOption) : Set UInt32 :=
  options.foldl (fun allowed option => option.applied allowed) start

def Excludes : List VlanOption → Prop
  | [] => False
  | option :: _ => option.plus = false

/-- The VLANs allowed before the first option. -/
def startingVlans (options : List VlanOption) : Set UInt32 :=
  {vlan | Excludes options ∧ vlan.toNat ≤ 4096}

def allowedVlans (options : List VlanOption) : Set UInt32 :=
  allowedFrom (startingVlans options) options

/-- The options allow all VLANs first and none of them lists the last one. -/
def LastOverlooked (options : List VlanOption) : Prop :=
  Excludes options ∧ ∀ option ∈ options, ¬option.list.Lists filterMaxVlan

theorem mem_applied (option : VlanOption) (allowed : Set UInt32) (vlan : UInt32) :
    vlan ∈ option.applied allowed ↔
      if option.list.Lists vlan then option.plus = true else vlan ∈ allowed := by
  unfold VlanOption.applied
  by_cases plus : option.plus = true
  · rw [if_pos plus]
    by_cases listed : option.list.Lists vlan
    · rw [if_pos listed]
      exact iff_of_true (.inr listed) plus
    · rw [if_neg listed]
      exact or_iff_left listed
  · rw [if_neg plus]
    by_cases listed : option.list.Lists vlan
    · rw [if_pos listed]
      exact iff_of_false (fun kept => kept.2 listed) plus
    · rw [if_neg listed]
      exact and_iff_left listed

/-- Whether a VLAN is allowed at the end depends on the start only where no option lists
it. -/
theorem allowedFrom_congr {start other : Set UInt32} {vlan : UInt32} (options : List VlanOption)
    (same : (∀ option ∈ options, ¬option.list.Lists vlan) → (vlan ∈ start ↔ vlan ∈ other)) :
    vlan ∈ allowedFrom start options ↔ vlan ∈ allowedFrom other options := by
  induction options generalizing start other with
  | nil => exact same (fun option listed => absurd listed List.not_mem_nil)
  | cons option options ih =>
      refine ih fun unlisted => ?_
      rw [mem_applied, mem_applied]
      by_cases listed : option.list.Lists vlan
      · rw [if_pos listed, if_pos listed]
      · rw [if_neg listed, if_neg listed]
        exact same (List.forall_mem_cons.mpr ⟨listed, unlisted⟩)

theorem allowedFrom_unlisted {start : Set UInt32} {vlan : UInt32} (options : List VlanOption)
    (unlisted : ∀ option ∈ options, ¬option.list.Lists vlan) :
    vlan ∈ allowedFrom start options ↔ vlan ∈ start := by
  induction options generalizing start with
  | nil => exact Iff.rfl
  | cons option options ih =>
      obtain ⟨first, rest⟩ := List.forall_mem_cons.mp unlisted
      refine (ih rest).trans ?_
      rw [mem_applied, if_neg first]

/-- The array an option's list is applied to. -/
def arrayBefore (config : SFConfig) (plus : Bool) : UInt32 → Bool :=
  if plus = false ∧ config.gotVlanFilter = false then
    setVlans true filterMaxVlan.toNat 0 config.vlanFilter
  else config.vlanFilter

theorem vlanOption_text (config : SFConfig) (option : VlanOption) :
    vlanOption config option.plus option.list.text = .ok { config with
      gotVlanFilter := true
      vlanFilter := fun vlan =>
        if option.list.Lists vlan then option.plus else arrayBefore config option.plus vlan } := by
  unfold vlanOption arrayBefore
  cases option.plus with
  | true =>
      rw [if_pos rfl, parseVlanFilter_text, if_neg (fun both => Bool.noConfusion both.1)]
      rfl
  | false =>
      rw [if_neg Bool.false_ne_true]
      by_cases off : config.gotVlanFilter = false
      · have started : (false = false ∧ config.gotVlanFilter = false) := ⟨rfl, off⟩
        rw [if_pos started, if_pos off]
        generalize setVlans true filterMaxVlan.toNat 0 config.vlanFilter = array
        simp only [parseVlanFilter_text]
        rfl
      · simp only [if_neg off, parseVlanFilter_text, if_neg (fun both => off (And.right both))]
        show Except.ok _ = Except.ok _
        rw [eq_true_of_ne_false off]

/-- An option does to the array what it does to the set. -/
theorem stepped_mem (option : VlanOption) (array : UInt32 → Bool) (vlan : UInt32) :
    (if option.list.Lists vlan then option.plus else array vlan) = true ↔
      vlan ∈ option.applied {vlan | array vlan = true} := by
  rw [mem_applied]
  by_cases listed : option.list.Lists vlan
  · rw [if_pos listed, if_pos listed]
  · rw [if_neg listed, if_neg listed]
    exact Iff.rfl

/-- Once the filter is on, the array follows the set. -/
theorem vlanOptions_kept (options : List VlanOption) (config : SFConfig)
    (on : config.gotVlanFilter = true) : ∃ array,
    vlanOptions (options.map VlanOption.given) config =
      .ok { config with gotVlanFilter := true, vlanFilter := array } ∧
    ∀ vlan, array vlan = true ↔
      vlan ∈ allowedFrom {vlan | config.vlanFilter vlan = true} options := by
  induction options generalizing config with
  | nil =>
      refine ⟨config.vlanFilter, ?_, fun vlan => Iff.rfl⟩
      rw [← on]
      rfl
  | cons option options ih =>
      have before : arrayBefore config option.plus = config.vlanFilter :=
        if_neg (fun both => Bool.false_ne_true (both.2.symm.trans on))
      have step := vlanOption_text config option
      rw [before] at step
      obtain ⟨array, read, agrees⟩ := ih { config with
        gotVlanFilter := true
        vlanFilter := fun vlan =>
          if option.list.Lists vlan then option.plus else config.vlanFilter vlan } rfl
      refine ⟨array, ?_, fun vlan => (agrees vlan).trans ?_⟩
      · show (vlanOption config option.plus option.list.text >>= fun config =>
          vlanOptions (options.map VlanOption.given) config) = _
        rw [step]
        exact read
      · exact allowedFrom_congr options fun _ => stepped_mem option config.vlanFilter vlan

theorem arrayBefore_clear (config : SFConfig) (plus : Bool) (off : config.gotVlanFilter = false)
    (clear : ∀ vlan, config.vlanFilter vlan = false) (vlan : UInt32) :
    arrayBefore config plus vlan = true ↔ plus = false ∧ vlan.toNat < 4096 := by
  unfold arrayBefore
  by_cases exclude : plus = false
  · have inside : (0 : UInt32).toNat ≤ vlan.toNat ∧
        vlan.toNat < (0 : UInt32).toNat + filterMaxVlan.toNat ↔ vlan.toNat < 4096 :=
      ⟨fun both => both.2, fun less => ⟨Nat.zero_le _, less⟩⟩
    rw [if_pos ⟨exclude, off⟩, setVlans_apply _ _ _ _ (by decide), if_congr inside rfl rfl]
    by_cases less : vlan.toNat < 4096
    · rw [if_pos less]
      exact iff_of_true rfl ⟨exclude, less⟩
    · rw [if_neg less, clear]
      exact iff_of_false Bool.false_ne_true fun both => less both.2
  · rw [if_neg fun both => exclude both.1, clear]
    exact iff_of_false Bool.false_ne_true fun both => exclude both.1

/-- From a filter that is off and allows nothing, the array is that of a set which lacks
the last VLAN where the first option is an exclude. -/
theorem vlanOptions_array (option : VlanOption) (options : List VlanOption) (config : SFConfig)
    (off : config.gotVlanFilter = false) (clear : ∀ vlan, config.vlanFilter vlan = false) :
    ∃ array, vlanOptions ((option :: options).map VlanOption.given) config =
      .ok { config with gotVlanFilter := true, vlanFilter := array } ∧
    ∀ vlan, array vlan = true ↔ vlan ∈ allowedFrom
      {vlan | Excludes (option :: options) ∧ vlan.toNat < 4096} (option :: options) := by
  obtain ⟨array, read, agrees⟩ := vlanOptions_kept options { config with
    gotVlanFilter := true
    vlanFilter := fun vlan =>
      if option.list.Lists vlan then option.plus else arrayBefore config option.plus vlan } rfl
  refine ⟨array, ?_, fun vlan => (agrees vlan).trans ?_⟩
  · show (vlanOption config option.plus option.list.text >>= fun config =>
      vlanOptions (options.map VlanOption.given) config) = _
    rw [vlanOption_text]
    exact read
  · have stepped : vlan ∈ allowedFrom {vlan | (if option.list.Lists vlan then option.plus
          else arrayBefore config option.plus vlan) = true} options ↔
        vlan ∈ allowedFrom {vlan | arrayBefore config option.plus vlan = true}
          (option :: options) :=
      allowedFrom_congr options fun _ => stepped_mem option (arrayBefore config option.plus) vlan
    exact stepped.trans (allowedFrom_congr (option :: options) fun _ =>
      arrayBefore_clear config option.plus off clear vlan)

theorem startingVlans_last (option : VlanOption) (options : List VlanOption) (vlan : UInt32)
    (inside : vlan.toNat ≤ 4096) :
    vlan ∈ allowedFrom {vlan | Excludes (option :: options) ∧ vlan.toNat < 4096}
        (option :: options) ↔
      vlan ∈ allowedVlans (option :: options) ∧
        ¬(LastOverlooked (option :: options) ∧ vlan = filterMaxVlan) := by
  by_cases last : vlan = filterMaxVlan
  · subst last
    by_cases overlooked : LastOverlooked (option :: options)
    · refine iff_of_false (fun kept => ?_) fun both => both.2 ⟨overlooked, rfl⟩
      exact absurd ((allowedFrom_unlisted _ overlooked.2).mp kept).2 (by decide)
    · refine Iff.trans ?_ (and_iff_left fun both => overlooked both.1).symm
      refine allowedFrom_congr _ fun unlisted => ?_
      have included : ¬Excludes (option :: options) := fun excludes =>
        overlooked ⟨excludes, unlisted⟩
      exact iff_of_false (fun start => included start.1) fun start => included start.1
  · refine Iff.trans ?_ (and_iff_left fun both => last both.2).symm
    refine allowedFrom_congr _ fun _ => and_congr_right fun _ => ?_
    have other : vlan.toNat ≠ 4096 := fun same => last (UInt32.toNat_inj.mp same)
    exact ⟨fun less => Nat.le_of_lt less, fun _ => Nat.lt_of_le_of_ne inside other⟩

/-- The options overlook the last VLAN, the sample is in it, and no other VLAN of the
sample is allowed. -/
def LastDecides (options : List VlanOption) (inVlan outVlan : UInt32) : Prop :=
  LastOverlooked options ∧ (inVlan = filterMaxVlan ∨ outVlan = filterMaxVlan) ∧
    ∀ vlan ∈ [inVlan, outVlan], vlan ≠ filterMaxVlan → vlan ∉ allowedVlans options

/-- A set that lacks the last VLAN where it is overlooked decides as the allowed set does, but
where the last VLAN decides. -/
theorem lacking_decides (options : List VlanOption) (inVlan outVlan : UInt32) :
    (inVlan ∈ allowedVlans options ∧ ¬(LastOverlooked options ∧ inVlan = filterMaxVlan) ∨
        outVlan ∈ allowedVlans options ∧ ¬(LastOverlooked options ∧ outVlan = filterMaxVlan) ↔
      inVlan ∈ allowedVlans options ∨ outVlan ∈ allowedVlans options) ↔
    ¬LastDecides options inVlan outVlan := by
  constructor
  · rintro same ⟨overlooked, one, others⟩
    have last : filterMaxVlan ∈ allowedVlans options :=
      (allowedFrom_unlisted _ overlooked.2).mpr ⟨overlooked.1, Nat.le_refl _⟩
    have allowed : inVlan ∈ allowedVlans options ∨ outVlan ∈ allowedVlans options := by
      rcases one with rfl | rfl
      · exact .inl last
      · exact .inr last
    rcases same.mpr allowed with ⟨kept, seen⟩ | ⟨kept, seen⟩
    · exact others inVlan (by simp) (fun is => seen ⟨overlooked, is⟩) kept
    · exact others outVlan (by simp) (fun is => seen ⟨overlooked, is⟩) kept
  · intro undecided
    refine ⟨Or.imp And.left And.left, fun allowed => ?_⟩
    by_contra lacking
    rw [not_or, not_and_not_right, not_and_not_right] at lacking
    have overlooked : LastOverlooked options := allowed.elim
      (fun kept => (lacking.1 kept).1) fun kept => (lacking.2 kept).1
    have one : inVlan = filterMaxVlan ∨ outVlan = filterMaxVlan := allowed.imp
      (fun kept => (lacking.1 kept).2) fun kept => (lacking.2 kept).2
    refine undecided ⟨overlooked, one, fun vlan member other kept => other ?_⟩
    rcases List.mem_pair.mp member with rfl | rfl
    · exact (lacking.1 kept).2
    · exact (lacking.2 kept).2

theorem accepted_iff (config : SFConfig) (buffer : Buffer) (sample : SFSample) :
    (run buffer (sampleFilterOK config) sample).outcome = .ok true ↔
      passesFilter config sample := by
  obtain ⟨notes, filtered⟩ := @run_sampleFilterOK config buffer sample
  rw [filtered]
  constructor
  · intro accepted
    exact of_decide_eq_true (Except.ok.inj accepted)
  · intro passes
    exact congrArg Except.ok (decide_eq_true passes)

/-- A sample is accepted when there is no option or one of its VLANs is in the allowed set. -/
def DecidesAsAllowed (options : List VlanOption) (config : SFConfig) (buffer : Buffer)
    (sample : SFSample) : Prop :=
  (run buffer (sampleFilterOK config) sample).outcome = .ok true ↔
    options = [] ∨ wordOf sample .inVlan ∈ allowedVlans options ∨
      wordOf sample .outVlan ∈ allowedVlans options

/-- The filter set by a list of options decides as the allowed set does, but where the last
VLAN decides. -/
theorem vlan_filter_iff (options : List VlanOption) (config : SFConfig) (buffer : Buffer)
    (sample : SFSample) (off : config.gotVlanFilter = false)
    (clear : ∀ vlan, config.vlanFilter vlan = false)
    (inside : (wordOf sample .inVlan).toNat ≤ 4096 ∧ (wordOf sample .outVlan).toNat ≤ 4096) :
    ∃ final, vlanOptions (options.map VlanOption.given) config = .ok final ∧
      (DecidesAsAllowed options final buffer sample ↔
        ¬LastDecides options (wordOf sample .inVlan) (wordOf sample .outVlan)) := by
  rcases options with _ | ⟨option, options⟩
  · refine ⟨config, rfl, iff_of_true ?_ fun decides => decides.1.1⟩
    exact iff_of_true ((accepted_iff config buffer sample).mpr (.inl off)) (.inl rfl)
  · obtain ⟨array, read, agrees⟩ := vlanOptions_array option options config off clear
    refine ⟨_, read, ?_⟩
    have set (vlan : UInt32) (small : vlan.toNat ≤ 4096) : array vlan = true ↔
        vlan ∈ allowedVlans (option :: options) ∧
          ¬(LastOverlooked (option :: options) ∧ vlan = filterMaxVlan) :=
      (agrees vlan).trans (startingVlans_last option options vlan small)
    have on (final : SFConfig) (gotten : final.gotVlanFilter = true) :
        (run buffer (sampleFilterOK final) sample).outcome = .ok true ↔
          final.vlanFilter (wordOf sample .inVlan) = true ∨
            final.vlanFilter (wordOf sample .outVlan) = true :=
      (accepted_iff final buffer sample).trans (or_iff_right (ne_false_of_eq_true gotten))
    rw [DecidesAsAllowed, on _ rfl, set _ inside.1, set _ inside.2, or_iff_right (List.cons_ne_nil option options)]
    exact lacking_decides (option :: options) _ _

def numeralOne : Numeral where
  form := .decimal
  digits := ['1']
  admitted := ⟨by simp, by simp⟩
  known := by simp [isDigit, digitValue, Form.base]

/-- The exclude `-v 1`. -/
def excludeOne : VlanOption where
  plus := false
  list := {
    first := ⟨[], .single numeralOne, by simp, (by decide : numeralOne.value ≤ 4096)⟩
    others := []
    apart := by simp }

/-- A sample that came in on the last VLAN and goes out on it. -/
def lastVlanSample : SFSample :=
  holding (holding firstSample .inVlan filterMaxVlan) .outVlan filterMaxVlan

theorem vlan_filter_excludes : ∃ final,
    vlanOptions ([excludeOne].map VlanOption.given) (defaultConfig .line) = .ok final ∧
      (DecidesAsAllowed [excludeOne] final (datagramOf []) lastVlanSample ↔
        ¬LastDecides [excludeOne] filterMaxVlan filterMaxVlan) :=
  vlan_filter_iff [excludeOne] (defaultConfig .line) (datagramOf []) lastVlanSample rfl
    (fun _ => rfl) ⟨by decide, by decide⟩

theorem last_vlan_rejected : excludeOne.given = (false, ['1']) ∧ ∃ final,
    vlanOptions ([excludeOne].map VlanOption.given) (defaultConfig .line) = .ok final ∧
      ¬DecidesAsAllowed [excludeOne] final (datagramOf []) lastVlanSample := by
  obtain ⟨array, read, agrees⟩ := vlanOptions_array excludeOne [] (defaultConfig .line) rfl
    fun _ => rfl
  have unlisted : ∀ option ∈ [excludeOne], ¬option.list.Lists filterMaxVlan := by
    intro option only
    rw [List.mem_singleton.mp only]
    decide
  have allowed : filterMaxVlan ∈ allowedVlans [excludeOne] :=
    (allowedFrom_unlisted _ unlisted).mpr ⟨rfl, Nat.le_refl _⟩
  have lacking : ¬array filterMaxVlan = true := fun set =>
    Nat.lt_irrefl _ ((allowedFrom_unlisted _ unlisted).mp ((agrees filterMaxVlan).mp set)).2
  refine ⟨rfl, _, read, fun decides => ?_⟩
  rcases (accepted_iff _ _ _).mp (decides.mpr (.inr (.inl allowed))) with off | inside | outside
  · exact absurd off (Bool.noConfusion)
  · exact lacking inside
  · exact lacking outside

end Options

end SflowTool
