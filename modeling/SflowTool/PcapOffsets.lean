import SflowTool.PcapFile
import SflowTool.Looking

/-! The search for the datagram in a captured frame. What it finds lies behind an Ethernet
header with any number of tags, an 802.2 header if there is one, an IP header and a UDP header;
but a frame of another protocol falls through to the end, where eight bytes are skipped that are
no UDP header. -/
namespace SflowTool
open Decoding Looking

section Looks

variable (buf : Nat → UInt8)

def lookTypeLen (ptr : Nat) : Looked Nat := do
  let high ← look buf ptr
  let low ← look buf (ptr + 1)
  return high.toNat * 256 + low.toNat

/-- The loop over the tags as the source has it: the type behind a tag is read before the end
is tested. -/
def lookVlanTags (fin : Nat) : Nat → Nat → Nat → Looked (Nat × Nat)
  | 0, _, _ => stop
  | fuel + 1, typeLen, ptr =>
      if typeLen = 0x8100 ∨ typeLen = 0x9100 then do
        let typeLen ← lookTypeLen buf (ptr + 2)
        if ptr + 4 ≥ fin then stop else lookVlanTags fin fuel typeLen (ptr + 4)
      else return (typeLen, ptr)

/-- Whether two bytes in a row are these; the second is not looked at where the first is not. -/
def lookPair (ptr : Nat) (first second : UInt8) : Looked Bool := do
  let found ← look buf ptr
  if found = first then do
    let next ← look buf (ptr + 1)
    return decide (next = second)
  else return false

def lookIPX (typeLen ptr : Nat) : Looked Bool := do
  if typeLen = 0x0200 ∨ typeLen = 0x0201 ∨ typeLen = 0x0600 then
    let ipxChecksum ← lookPair buf ptr 0xff 0xff
    let ipxLen ← lookTypeLen buf (ptr + 2)
    return decide (ipxChecksum = true ∧ 30 ≤ ipxLen ∧ ipxLen ≤ 30 + 546)
  else return false

/-- The organisation behind a SNAP header: zero, byte for byte. -/
def lookOUI (ptr : Nat) : Looked Bool := do
  let first ← look buf ptr
  if first ≠ 0 then return false
  else do
    let second ← look buf (ptr + 1)
    if second ≠ 0 then return false
    else do
      let third ← look buf (ptr + 2)
      return decide (third = 0)

/-- Three bytes of an 802.2 header: a pair, and the test of the control byte. -/
def look8022 (ptr : Nat) (sap : UInt8) (control : UInt8 → Bool) : Looked Bool := do
  let saps ← lookPair buf ptr sap sap
  if saps then do
    let byte ← look buf (ptr + 2)
    return control byte
  else return false

def look8023 (typeLen ptr : Nat) : Looked (Nat × Nat) := do
  if typeLen ≤ 1500 then
    let snap ← look8022 buf ptr 0xAA fun control => decide (control = 0x03)
    if snap then
      let ethernet ← lookOUI buf (ptr + 3)
      if ethernet then
        let typeLen ← lookTypeLen buf (ptr + 6)
        return (typeLen, ptr + 8)
      else stop
    else
      let ip ← look8022 buf ptr 0x06 fun control => decide (control &&& 0x01 ≠ 0)
      if ip then return (0x0800, ptr + 3) else stop
  else return (typeLen, ptr)

def lookLinkHeader (fin typeLen ptr : Nat) : Looked (Nat × Nat) := do
  if fin - ptr < nftMinSiz then stop
  else
    let ipx ← lookIPX buf typeLen ptr
    if ipx then stop else look8023 buf typeLen ptr

def lookIPV4 (fin typeLen ptr : Nat) : Looked Nat := do
  if typeLen = 0x0800 then
    if fin - ptr < 20 then stop
    else
      let version ← look buf ptr
      if version >>> 4 ≠ 4 then stop
      else
        let length ← look buf ptr
        if length &&& 15 < 5 then stop
        else
          let skipped ← look buf ptr
          return ptr + ((skipped &&& 15) <<< 2).toNat
  else return ptr

def lookIPV6 (typeLen ptr : Nat) : Looked Nat := do
  if typeLen = 0x86DD then
    let version ← look buf ptr
    if version >>> 4 ≠ 6 then stop else return ptr + 40
  else return ptr

def lookIPHeader (fin typeLen ptr : Nat) : Looked Nat := do
  if ptr ≥ fin then stop
  else
    let ptr ← lookIPV4 buf fin typeLen ptr
    let ptr ← lookIPV6 buf typeLen ptr
    if ptr + 8 ≥ fin then stop else return ptr + 8

/-- The search with the places it looks at. -/
def lookForSFlow (len : Nat) : Looked Nat := do
  if len < nftEthHdrSiz then stop
  else
    let typeLen ← lookTypeLen buf 12
    let tagged ← lookVlanTags buf len len typeLen 14
    let linked ← lookLinkHeader buf len tagged.1 tagged.2
    lookIPHeader buf len linked.1 linked.2

theorem lookTypeLen_value (ptr : Nat) : (lookTypeLen buf ptr).value = some (typeLenAt buf ptr) := rfl

theorem lookTypeLen_looks (ptr : Nat) : (lookTypeLen buf ptr).looks = [ptr, ptr + 1] := rfl

theorem lookVlanTags_value (fin : Nat) : (fuel typeLen ptr : Nat) →
    (lookVlanTags buf fin fuel typeLen ptr).value = skipVlanTags buf fin fuel typeLen ptr
  | 0, _, _ => rfl
  | fuel + 1, typeLen, ptr => by
      rw [lookVlanTags, skipVlanTags]
      by_cases tagged : typeLen = 0x8100 ∨ typeLen = 0x9100
      · rw [if_pos tagged, if_pos tagged, bind_value, lookTypeLen_value, Option.bind_some]
        by_cases ended : ptr + 4 ≥ fin
        · rw [if_pos ended, if_pos ended]
          rfl
        · rw [if_neg ended, if_neg ended]
          exact lookVlanTags_value fin fuel (typeLenAt buf (ptr + 2)) (ptr + 4)
      · rw [if_neg tagged, if_neg tagged]
        rfl

theorem lookPair_value (ptr : Nat) (first second : UInt8) :
    (lookPair buf ptr first second).value = some (decide (buf ptr = first ∧ buf (ptr + 1) = second)) := by
  unfold lookPair
  rw [bind_value, look, Option.bind_some]
  by_cases found : buf ptr = first
  · rw [if_pos found]
    simp only [found, true_and]
    rfl
  · rw [if_neg found]
    simp only [found, false_and, decide_false]
    rfl

theorem lookIPX_value (typeLen ptr : Nat) :
    (lookIPX buf typeLen ptr).value = some (decide (pcapIPX buf typeLen ptr)) := by
  unfold lookIPX pcapIPX
  by_cases known : typeLen = 0x0200 ∨ typeLen = 0x0201 ∨ typeLen = 0x0600
  · rw [if_pos known, bind_value, lookPair_value, Option.bind_some, bind_value, lookTypeLen_value,
      Option.bind_some]
    simp only [known, true_and, decide_eq_true_eq]
    rfl
  · rw [if_neg known]
    simp only [known, false_and, decide_false]
    rfl

theorem lookOUI_value (ptr : Nat) : (lookOUI buf ptr).value =
    some (decide ¬(buf ptr ≠ 0 ∨ buf (ptr + 1) ≠ 0 ∨ buf (ptr + 2) ≠ 0)) := by
  unfold lookOUI
  rw [bind_value, look, Option.bind_some]
  by_cases first : buf ptr = 0
  · rw [if_neg (not_not.mpr first), bind_value, look, Option.bind_some]
    by_cases second : buf (ptr + 1) = 0
    · rw [if_neg (not_not.mpr second)]
      simp only [first, second, ne_eq, not_true, false_or, not_not]
      rfl
    · rw [if_pos second]
      simp only [second, ne_eq, not_false_eq_true, true_or, or_true, not_true, decide_false]
      rfl
  · rw [if_pos first]
    simp only [first, ne_eq, not_false_eq_true, true_or, not_true, decide_false]
    rfl

theorem look8022_value (ptr : Nat) (sap : UInt8) (control : UInt8 → Bool) :
    (look8022 buf ptr sap control).value =
      some (decide (buf ptr = sap ∧ buf (ptr + 1) = sap ∧ control (buf (ptr + 2)) = true)) := by
  unfold look8022
  rw [bind_value, lookPair_value, Option.bind_some]
  by_cases saps : buf ptr = sap ∧ buf (ptr + 1) = sap
  · rw [if_pos (decide_eq_true saps)]
    simp only [saps, true_and, Bool.decide_eq_true]
    rfl
  · rw [if_neg (fun found => saps (of_decide_eq_true found))]
    rw [decide_eq_false fun found => saps ⟨found.1, found.2.1⟩]
    rfl

theorem look8023_value (typeLen ptr : Nat) :
    (look8023 buf typeLen ptr).value = skip8023 buf typeLen ptr := by
  unfold look8023 skip8023
  by_cases short : typeLen ≤ 1500
  · rw [if_pos short, if_pos short, bind_value, look8022_value, Option.bind_some]
    simp only [decide_eq_true_eq]
    by_cases snap : buf ptr = 0xAA ∧ buf (ptr + 1) = 0xAA ∧ buf (ptr + 2) = 0x03
    · rw [if_pos snap, if_pos snap, bind_value, lookOUI_value, Option.bind_some]
      simp only [decide_eq_true_eq]
      by_cases vendor : buf (ptr + 3) ≠ 0 ∨ buf (ptr + 4) ≠ 0 ∨ buf (ptr + 5) ≠ 0
      · rw [if_pos vendor, if_neg (not_not.mpr vendor)]
        rfl
      · rw [if_neg vendor, if_pos vendor]
        rfl
    · rw [if_neg snap, if_neg snap, bind_value, look8022_value, Option.bind_some]
      simp only [decide_eq_true_eq]
      by_cases ip : buf ptr = 0x06 ∧ buf (ptr + 1) = 0x06 ∧ buf (ptr + 2) &&& 0x01 ≠ 0
      · rw [if_pos ip, if_pos ip]
        rfl
      · rw [if_neg ip, if_neg ip]
        rfl
  · rw [if_neg short, if_neg short]
    rfl

theorem lookLinkHeader_value (fin typeLen ptr : Nat) :
    (lookLinkHeader buf fin typeLen ptr).value = skipLinkHeader buf fin typeLen ptr := by
  unfold lookLinkHeader skipLinkHeader
  by_cases short : fin - ptr < nftMinSiz
  · rw [if_pos short, if_pos short]
    rfl
  rw [if_neg short, if_neg short, bind_value, lookIPX_value, Option.bind_some]
  simp only [decide_eq_true_eq]
  by_cases ipx : pcapIPX buf typeLen ptr
  · rw [if_pos ipx, if_pos ipx]
    rfl
  · rw [if_neg ipx, if_neg ipx]
    exact look8023_value buf typeLen ptr

theorem lookIPV4_value (fin typeLen ptr : Nat) :
    (lookIPV4 buf fin typeLen ptr).value = skipIPV4 buf fin typeLen ptr := by
  unfold lookIPV4 skipIPV4
  by_cases ipV4 : typeLen = 0x0800
  · rw [if_pos ipV4, if_pos ipV4]
    by_cases short : fin - ptr < 20
    · rw [if_pos short, if_pos short]
      rfl
    rw [if_neg short, if_neg short, bind_value, look, Option.bind_some]
    by_cases version : buf ptr >>> 4 ≠ 4
    · rw [if_pos version, if_pos version]
      rfl
    rw [if_neg version, if_neg version, bind_value, Option.bind_some]
    by_cases quads : buf ptr &&& 15 < 5
    · rw [if_pos quads, if_pos quads]
      rfl
    · rw [if_neg quads, if_neg quads]
      rfl
  · rw [if_neg ipV4, if_neg ipV4]
    rfl

theorem lookIPV6_value (typeLen ptr : Nat) :
    (lookIPV6 buf typeLen ptr).value = skipIPV6 buf typeLen ptr := by
  unfold lookIPV6 skipIPV6
  by_cases ipV6 : typeLen = 0x86DD
  · rw [if_pos ipV6, if_pos ipV6, bind_value, look, Option.bind_some]
    split <;> rfl
  · rw [if_neg ipV6, if_neg ipV6]
    rfl

theorem lookIPHeader_value (fin typeLen ptr : Nat) :
    (lookIPHeader buf fin typeLen ptr).value = skipIPHeader buf fin typeLen ptr := by
  unfold lookIPHeader skipIPHeader
  by_cases ended : ptr ≥ fin
  · rw [if_pos ended, if_pos ended]
    rfl
  rw [if_neg ended, if_neg ended, bind_value, lookIPV4_value]
  refine congrArg (Option.bind (skipIPV4 buf fin typeLen ptr)) ?_
  funext place
  rw [bind_value, lookIPV6_value]
  refine congrArg (Option.bind (skipIPV6 buf typeLen place)) ?_
  funext behind
  split <;> rfl

/-- Without its looks the search is the one above. -/
theorem lookForSFlow_value (len : Nat) :
    (lookForSFlow buf len).value = pcapOffsetToSFlow buf len := by
  unfold lookForSFlow pcapOffsetToSFlow
  by_cases short : len < nftEthHdrSiz
  · rw [if_pos short, if_pos short]
    rfl
  rw [if_neg short, if_neg short, bind_value, lookTypeLen_value, Option.bind_some, bind_value,
    lookVlanTags_value]
  refine congrArg (Option.bind (skipVlanTags buf len len (typeLenAt buf 12) 14)) ?_
  funext tagged
  rw [bind_value, lookLinkHeader_value]
  refine congrArg (Option.bind (skipLinkHeader buf len tagged.1 tagged.2)) ?_
  funext linked
  exact lookIPHeader_value buf len linked.1 linked.2

variable {limit : Nat}

theorem inside_typeLen {ptr : Nat} (inside : ptr + 1 < limit) : Inside limit (lookTypeLen buf ptr) :=
  inside_bind (inside_look buf (by omega)) fun _ _ =>
    inside_bind (inside_look buf inside) fun _ _ => inside_pure _

theorem inside_vlanTags : (fuel typeLen ptr : Nat) →
    Inside limit (lookVlanTags buf limit fuel typeLen ptr)
  | 0, _, _ => inside_stop
  | fuel + 1, typeLen, ptr => by
      rw [lookVlanTags]
      refine inside_ite (fun _ => ?_) fun _ => inside_pure _
      refine inside_tested ?_ ?_
      · -- the search goes on only where the end lies behind the type that was read
        intro inner _ goesOn place member
        by_cases ended : ptr + 4 ≥ limit
        · rw [if_pos ended] at goesOn
          exact absurd rfl goesOn
        · rw [lookTypeLen_looks] at member
          rcases List.mem_cons.mp member with high | low
          · omega
          · rw [List.mem_singleton] at low
            omega
      · intro inner _
        exact inside_ite (fun _ => inside_stop) fun _ => inside_vlanTags fuel inner (ptr + 4)

theorem inside_pair {ptr : Nat} (first second : UInt8) (inside : ptr + 1 < limit) :
    Inside limit (lookPair buf ptr first second) :=
  inside_bind (inside_look buf (by omega)) fun _ _ =>
    inside_ite (fun _ => inside_bind (inside_look buf inside) fun _ _ => inside_pure _)
      fun _ => inside_pure _

theorem inside_ipx (typeLen : Nat) {ptr : Nat} (inside : ptr + 3 < limit) :
    Inside limit (lookIPX buf typeLen ptr) :=
  inside_ite
    (fun _ => inside_bind (inside_pair buf 0xff 0xff (by omega)) fun _ _ =>
      inside_bind (inside_typeLen buf inside) fun _ _ => inside_pure _)
    fun _ => inside_pure _

theorem inside_oui {ptr : Nat} (inside : ptr + 2 < limit) : Inside limit (lookOUI buf ptr) :=
  inside_bind (inside_look buf (by omega)) fun _ _ =>
    inside_ite (fun _ => inside_pure _) fun _ =>
      inside_bind (inside_look buf (by omega)) fun _ _ =>
        inside_ite (fun _ => inside_pure _) fun _ =>
          inside_bind (inside_look buf inside) fun _ _ => inside_pure _

theorem inside_8022 {ptr : Nat} (sap : UInt8) (control : UInt8 → Bool) (inside : ptr + 2 < limit) :
    Inside limit (look8022 buf ptr sap control) :=
  inside_bind (inside_pair buf sap sap (by omega)) fun _ _ =>
    inside_ite (fun _ => inside_bind (inside_look buf inside) fun _ _ => inside_pure _)
      fun _ => inside_pure _

theorem inside_8023 (typeLen : Nat) {ptr : Nat} (inside : ptr + 7 < limit) :
    Inside limit (look8023 buf typeLen ptr) := by
  refine inside_ite (fun _ => ?_) fun _ => inside_pure _
  refine inside_bind (inside_8022 buf _ _ (by omega)) fun snap _ => inside_ite (fun _ => ?_) fun _ => ?_
  · exact inside_bind (inside_oui buf (by omega)) fun _ _ =>
      inside_ite (fun _ => inside_bind (inside_typeLen buf inside) fun _ _ => inside_pure _)
        fun _ => inside_stop
  · exact inside_bind (inside_8022 buf _ _ (by omega)) fun _ _ =>
      inside_ite (fun _ => inside_pure _) fun _ => inside_stop

theorem inside_linkHeader (typeLen ptr : Nat) :
    Inside limit (lookLinkHeader buf limit typeLen ptr) := by
  refine inside_ite (fun _ => inside_stop) fun long => ?_
  have room : ptr + 34 ≤ limit := by
    have least : nftMinSiz = 34 := rfl
    omega
  exact inside_bind (inside_ipx buf typeLen (by omega)) fun _ _ =>
    inside_ite (fun _ => inside_stop) fun _ => inside_8023 buf typeLen (by omega)

theorem inside_ipV4 (typeLen : Nat) {ptr : Nat} (inside : ptr < limit) :
    Inside limit (lookIPV4 buf limit typeLen ptr) := by
  refine inside_ite (fun _ => inside_ite (fun _ => inside_stop) fun _ => ?_) fun _ => inside_pure _
  refine inside_bind (inside_look buf inside) fun _ _ => inside_ite (fun _ => inside_stop) fun _ => ?_
  refine inside_bind (inside_look buf inside) fun _ _ => inside_ite (fun _ => inside_stop) fun _ => ?_
  exact inside_bind (inside_look buf inside) fun _ _ => inside_pure _

theorem inside_ipHeader (typeLen ptr : Nat) : Inside limit (lookIPHeader buf limit typeLen ptr) := by
  refine inside_ite (fun _ => inside_stop) fun started => ?_
  have inside : ptr < limit := Nat.lt_of_not_ge started
  refine inside_bind (inside_ipV4 buf typeLen inside) fun place behindV4 => ?_
  refine inside_bind (inside_ite (fun ipV6 => ?_) fun _ => inside_pure _) fun _ _ =>
    inside_ite (fun _ => inside_stop) fun _ => inside_pure _
  -- a frame of this type has not been moved on by the test for IPv4
  have kept : place = ptr := by
    rw [lookIPV4_value, skipIPV4, if_neg (by omega)] at behindV4
    exact (Option.some.inj behindV4).symm
  rw [kept]
  exact inside_bind (inside_look buf inside) fun _ _ =>
    inside_ite (fun _ => inside_stop) fun _ => inside_pure _

/-- A search that finds something has looked at no byte behind the frame. -/
theorem inside_forSFlow (len : Nat) : Inside len (lookForSFlow buf len) := by
  refine inside_ite (fun _ => inside_stop) fun long => ?_
  have room : 14 ≤ len := Nat.le_of_not_lt long
  refine inside_bind (inside_typeLen buf (by omega)) fun typeLen _ => ?_
  refine inside_bind (inside_vlanTags buf len typeLen 14) fun tagged _ => ?_
  exact inside_bind (inside_linkHeader buf tagged.1 tagged.2) fun linked _ =>
    inside_ipHeader buf linked.1 linked.2

end Looks

section Frames

variable (buf : Nat → UInt8)

/-- Any number of tags in a row, from a type and the place behind it to the type and the place
behind the last. -/
inductive BehindTags (fin : Nat) : Nat → Nat → Nat → Nat → Prop where
  | untagged {typeLen ptr : Nat} (other : ¬(typeLen = 0x8100 ∨ typeLen = 0x9100)) :
      BehindTags fin typeLen ptr typeLen ptr
  | tag {typeLen ptr inner behind : Nat} (tagged : typeLen = 0x8100 ∨ typeLen = 0x9100)
      (room : ptr + 4 < fin) (rest : BehindTags fin (typeLenAt buf (ptr + 2)) (ptr + 4) inner behind) :
      BehindTags fin typeLen ptr inner behind

/-- What a type or an 802.3 length announces: an Ethernet type itself, SNAP with no organisation,
or IP behind an 802.2 header. -/
inductive Announces (typeLen ptr : Nat) : Nat → Nat → Prop where
  | ethernet (type : 1500 < typeLen) : Announces typeLen ptr typeLen ptr
  | snap (length : typeLen ≤ 1500)
      (saps : buf ptr = 0xAA ∧ buf (ptr + 1) = 0xAA ∧ buf (ptr + 2) = 0x03)
      (oui : buf (ptr + 3) = 0 ∧ buf (ptr + 4) = 0 ∧ buf (ptr + 5) = 0) :
      Announces typeLen ptr (typeLenAt buf (ptr + 6)) (ptr + 8)
  | ip (length : typeLen ≤ 1500)
      (saps : buf ptr = 0x06 ∧ buf (ptr + 1) = 0x06 ∧ buf (ptr + 2) &&& 0x01 ≠ 0) :
      Announces typeLen ptr 0x0800 (ptr + 3)

/-- An Ethernet frame with any number of tags, of a type and with a link header of a length; it
is long enough for an IPv4 header behind the tags, and not IPX. -/
def EthernetFrame (len etherType link : Nat) : Prop :=
  14 ≤ len ∧ ∃ typeLen ptr, BehindTags buf len (typeLenAt buf 12) 14 typeLen ptr ∧
    ptr + 34 ≤ len ∧ ¬pcapIPX buf typeLen ptr ∧ Announces buf typeLen ptr etherType link

/-- An IP header of a length: one of version 4 has its own, one of version 6 forty bytes. -/
inductive CarriesIP (etherType link : Nat) : Nat → Prop where
  | ipV4 (type : etherType = 0x0800) (version : buf link >>> 4 = 4) (quads : 5 ≤ buf link &&& 15) :
      CarriesIP etherType link (4 * (buf link &&& 15).toNat)
  | ipV6 (type : etherType = 0x86DD) (version : buf link >>> 4 = 6) : CarriesIP etherType link 40

variable {buf}

/-- The loop gives what lies behind the tags; it has turns enough for any that fit. -/
theorem skipVlanTags_iff {fin inner behind : Nat} : (fuel typeLen ptr : Nat) → ptr ≤ fin →
    fin < ptr + fuel →
    (skipVlanTags buf fin fuel typeLen ptr = some (inner, behind) ↔
      BehindTags buf fin typeLen ptr inner behind)
  | 0, _, _, inside, turns => absurd turns (Nat.not_lt.mpr inside)
  | fuel + 1, typeLen, ptr, _, turns => by
      rw [skipVlanTags]
      by_cases tagged : typeLen = 0x8100 ∨ typeLen = 0x9100
      · rw [if_pos tagged]
        by_cases ended : ptr + 4 ≥ fin
        · rw [if_pos ended]
          constructor
          · intro none
            cases none
          · intro frame
            cases frame with
            | untagged other => exact absurd tagged other
            | tag _ room _ => omega
        · rw [if_neg ended, skipVlanTags_iff fuel _ (ptr + 4) (by omega) (by omega)]
          constructor
          · exact .tag tagged (by omega)
          · intro frame
            cases frame with
            | untagged other => exact absurd tagged other
            | tag _ _ rest => exact rest
      · rw [if_neg tagged]
        constructor
        · intro same
          cases same
          exact .untagged tagged
        · intro frame
          cases frame with
          | untagged _ => rfl
          | tag tagged' _ _ => exact absurd tagged' tagged

theorem skip8023_iff {typeLen ptr etherType link : Nat} :
    skip8023 buf typeLen ptr = some (etherType, link) ↔ Announces buf typeLen ptr etherType link := by
  unfold skip8023
  constructor
  · intro found
    split at found
    · rename_i length
      split at found
      · rename_i saps
        split at found
        · cases found
        · rename_i oui
          simp only [not_or, not_not] at oui
          cases found
          exact .snap length saps oui
      · split at found
        · rename_i saps
          cases found
          exact .ip length saps
        · cases found
    · rename_i type
      cases found
      exact .ethernet (Nat.lt_of_not_le type)
  · intro announced
    cases announced with
    | ethernet type => rw [if_neg (Nat.not_le.mpr type)]
    | snap length saps oui =>
      rw [if_pos length, if_pos saps, if_neg]
      rintro (first | second | third)
      · exact first oui.1
      · exact second oui.2.1
      · exact third oui.2.2
    | ip length saps =>
      have noSnap : ¬(buf ptr = 0xAA ∧ buf (ptr + 1) = 0xAA ∧ buf (ptr + 2) = 0x03) := by
        rintro ⟨first, -⟩
        rw [saps.1] at first
        exact absurd first (by decide)
      rw [if_pos length, if_neg noSnap, if_pos saps]

theorem Announces.near {typeLen ptr etherType link : Nat}
    (announced : Announces buf typeLen ptr etherType link) : link ≤ ptr + 8 := by
  cases announced with
  | ethernet => omega
  | snap => exact Nat.le_refl _
  | ip => omega

theorem EthernetFrame.room {len etherType link : Nat} (frame : EthernetFrame buf len etherType link) :
    link + 26 ≤ len := by
  obtain ⟨-, typeLen, ptr, -, room, -, announced⟩ := frame
  have near := announced.near
  omega

/-- The search looks for an IP header behind the link header, and nowhere else. -/
theorem pcapOffset_frames {len off : Nat} : pcapOffsetToSFlow buf len = some off ↔
    ∃ etherType link, EthernetFrame buf len etherType link ∧
      skipIPHeader buf len etherType link = some off := by
  unfold pcapOffsetToSFlow
  constructor
  · intro found
    split at found
    · cases found
    rename_i long
    have room : 14 ≤ len := Nat.le_of_not_lt long
    obtain ⟨⟨typeLen, ptr⟩, tags, found⟩ := Option.bind_eq_some_iff.mp found
    obtain ⟨⟨etherType, link⟩, linked, found⟩ := Option.bind_eq_some_iff.mp found
    unfold skipLinkHeader at linked
    split at linked
    · cases linked
    rename_i fits
    split at linked
    · cases linked
    rename_i other
    have least : nftMinSiz = 34 := rfl
    simp only at fits
    exact ⟨etherType, link, ⟨room, typeLen, ptr,
      (skipVlanTags_iff len _ 14 room (by omega)).mp tags, by omega, other,
      skip8023_iff.mp linked⟩, found⟩
  · rintro ⟨etherType, link, ⟨room, typeLen, ptr, tags, fits, other, announced⟩, found⟩
    have least : nftMinSiz = 34 := rfl
    rw [if_neg (show ¬len < nftEthHdrSiz from Nat.not_lt.mpr room), (skipVlanTags_iff len _ 14 room (by omega)).mpr tags]
    show (skipLinkHeader buf len typeLen ptr).bind _ = some off
    rw [skipLinkHeader, if_neg (by omega), if_neg other, skip8023_iff.mpr announced]
    exact found

theorem quads_shifted (octet : UInt8) :
    ((octet &&& 15) <<< 2).toNat = 4 * (octet &&& 15).toNat := by
  have small : (octet &&& 15).toNat ≤ 15 := by
    rw [UInt8.toNat_and]
    exact Nat.and_le_right
  rw [UInt8.toNat_shiftLeft, Nat.shiftLeft_eq]
  show (octet &&& 15).toNat * 4 % 256 = _
  omega

/-- What is found behind a link header: the end of a UDP header behind an IP header, or of one
right behind the link header of any other protocol. -/
theorem skipIPHeader_iff {len etherType link off : Nat} (room : link + 26 ≤ len) :
    skipIPHeader buf len etherType link = some off ↔
      (∃ ipLength, CarriesIP buf etherType link ipLength ∧ off = link + ipLength + 8 ∧ off < len) ∨
        (etherType ≠ 0x0800 ∧ etherType ≠ 0x86DD ∧ off = link + 8) := by
  unfold skipIPHeader
  rw [if_neg (by omega)]
  by_cases ipV4 : etherType = 0x0800
  · rw [skipIPV4, if_pos ipV4, if_neg (by omega)]
    by_cases version : buf link >>> 4 = 4
    · rw [if_neg (not_not.mpr version)]
      by_cases quads : buf link &&& 15 < 5
      · rw [if_pos quads]
        constructor
        · intro none
          cases none
        · rintro (⟨ipLength, carries, -, -⟩ | ⟨other, -⟩)
          · cases carries with
            | ipV4 _ _ enough => exact absurd quads (UInt8.not_lt.mpr enough)
            | ipV6 type _ => omega
          · exact absurd ipV4 other
      · rw [if_neg quads, quads_shifted]
        show (skipIPV6 buf etherType _).bind _ = some off ↔ _
        rw [skipIPV6, if_neg (by omega), Option.bind_some]
        constructor
        · intro found
          split at found
          · cases found
          · rename_i inside
            cases found
            exact .inl ⟨_, .ipV4 ipV4 version (UInt8.not_lt.mp quads), rfl, by omega⟩
        · rintro (⟨ipLength, carries, rfl, inside⟩ | ⟨other, -⟩)
          · cases carries with
            | ipV4 _ _ _ => rw [if_neg (by omega)]
            | ipV6 type _ => omega
          · exact absurd ipV4 other
    · rw [if_pos version]
      constructor
      · intro none
        cases none
      · rintro (⟨ipLength, carries, -, -⟩ | ⟨other, -⟩)
        · cases carries with
          | ipV4 _ found _ => exact absurd found version
          | ipV6 type _ => omega
        · exact absurd ipV4 other
  rw [skipIPV4, if_neg ipV4]
  show (skipIPV6 buf etherType link).bind _ = some off ↔ _
  by_cases ipV6 : etherType = 0x86DD
  · rw [skipIPV6, if_pos ipV6]
    by_cases version : buf link >>> 4 = 6
    · rw [if_neg (not_not.mpr version), Option.bind_some]
      constructor
      · intro found
        split at found
        · cases found
        · rename_i inside
          cases found
          exact .inl ⟨40, .ipV6 ipV6 version, rfl, by omega⟩
      · rintro (⟨ipLength, carries, rfl, inside⟩ | ⟨-, other, -⟩)
        · cases carries with
          | ipV4 type _ _ => exact absurd type ipV4
          | ipV6 _ _ => rw [if_neg (by omega)]
        · exact absurd ipV6 other
    · rw [if_pos version]
      constructor
      · intro none
        cases none
      · rintro (⟨ipLength, carries, -, -⟩ | ⟨-, other, -⟩)
        · cases carries with
          | ipV4 type _ _ => exact absurd type ipV4
          | ipV6 _ found => exact absurd found version
        · exact absurd ipV6 other
  -- a frame of neither type is behind both tests where it was before them
  · rw [skipIPV6, if_neg ipV6, Option.bind_some, if_neg (by omega)]
    constructor
    · intro found
      exact .inr ⟨ipV4, ipV6, (Option.some.inj found).symm⟩
    · rintro (⟨ipLength, carries, -, -⟩ | ⟨-, -, same⟩)
      · cases carries with
        | ipV4 type _ _ => exact absurd type ipV4
        | ipV6 type _ => exact absurd type ipV6
      · rw [same]

theorem EthernetFrame.unique {len etherType link etherType' link' : Nat}
    (frame : EthernetFrame buf len etherType link) (frame' : EthernetFrame buf len etherType' link') :
    etherType = etherType' ∧ link = link' := by
  obtain ⟨room, typeLen, ptr, tags, -, -, announced⟩ := frame
  obtain ⟨-, typeLen', ptr', tags', -, -, announced'⟩ := frame'
  have sameTags : (typeLen, ptr) = (typeLen', ptr') := Option.some.inj
    (((skipVlanTags_iff len _ 14 room (by omega)).mpr tags).symm.trans
      ((skipVlanTags_iff len _ 14 room (by omega)).mpr tags'))
  cases sameTags
  have same := Option.some.inj ((skip8023_iff.mpr announced).symm.trans (skip8023_iff.mpr announced'))
  cases same
  exact ⟨rfl, rfl⟩

variable (buf)

/-- An offset fits a frame: no byte behind the frame was looked at for it, and it is where a
datagram behind the frame's Ethernet, IP and UDP headers begins, inside the frame. -/
def OffsetFits (len off : Nat) : Prop :=
  (∀ place ∈ (lookForSFlow buf len).looks, place < len) ∧ off < len ∧
    ∃ etherType link ipLength, EthernetFrame buf len etherType link ∧
      CarriesIP buf etherType link ipLength ∧ off = link + ipLength + 8

/-- The search is right: what it finds fits, and a frame that carries no IP has nothing to find. -/
def SearchRight (len : Nat) : Prop :=
  (∀ off, pcapOffsetToSFlow buf len = some off → OffsetFits buf len off) ∧
    ((¬∃ etherType link ipLength, EthernetFrame buf len etherType link ∧
      CarriesIP buf etherType link ipLength) → pcapOffsetToSFlow buf len = none)

/-- A frame whose type is neither of the two the search looks for. -/
def OtherFrame (len : Nat) : Prop :=
  ∃ etherType link, EthernetFrame buf len etherType link ∧ etherType ≠ 0x0800 ∧ etherType ≠ 0x86DD

variable {buf}

theorem CarriesIP.known {etherType link ipLength : Nat} (carries : CarriesIP buf etherType link ipLength) :
    etherType = 0x0800 ∨ etherType = 0x86DD := by
  cases carries with
  | ipV4 type _ _ => exact .inl type
  | ipV6 type _ => exact .inr type

/-- A frame of another type is taken for one with a UDP header right behind its link header. -/
theorem other_frame_found {len : Nat} (other : OtherFrame buf len) :
    ∃ off, pcapOffsetToSFlow buf len = some off := by
  obtain ⟨etherType, link, frame, noIPV4, noIPV6⟩ := other
  exact ⟨link + 8, pcapOffset_frames.mpr
    ⟨etherType, link, frame, (skipIPHeader_iff frame.room).mpr (.inr ⟨noIPV4, noIPV6, rfl⟩)⟩⟩

theorem other_frame_no_ip {len : Nat} (other : OtherFrame buf len) :
    ¬∃ etherType link ipLength, EthernetFrame buf len etherType link ∧
      CarriesIP buf etherType link ipLength := by
  obtain ⟨etherType, link, frame, noIPV4, noIPV6⟩ := other
  rintro ⟨etherType', link', ipLength, frame', carries⟩
  obtain ⟨rfl, rfl⟩ := frame.unique frame'
  rcases carries.known with ipV4 | ipV6
  · exact noIPV4 ipV4
  · exact noIPV6 ipV6

theorem other_frame_wrong {len : Nat} (other : OtherFrame buf len) : ¬SearchRight buf len := by
  rintro ⟨-, nothing⟩
  obtain ⟨off, found⟩ := other_frame_found other
  rw [nothing (other_frame_no_ip other)] at found
  cases found

/-- The search is right for just the frames whose type is not another one. -/
theorem searchRight_iff (buf : Nat → UInt8) (len : Nat) :
    SearchRight buf len ↔ ¬OtherFrame buf len := by
  refine ⟨fun right other => other_frame_wrong other right, fun known => ⟨?_, ?_⟩⟩
  · intro off found
    have looked : (lookForSFlow buf len).value ≠ none := by
      rw [lookForSFlow_value, found]
      exact Option.some_ne_none off
    obtain ⟨etherType, link, frame, behind⟩ := pcapOffset_frames.mp found
    rcases (skipIPHeader_iff frame.room).mp behind with ⟨ipLength, carries, same, inside⟩ | other
    · exact ⟨inside_forSFlow buf len looked, inside, etherType, link, ipLength, frame, carries, same⟩
    · exact absurd ⟨etherType, link, frame, other.1, other.2.1⟩ known
  · intro noIP
    rw [Option.eq_none_iff_forall_ne_some]
    intro off found
    obtain ⟨etherType, link, frame, behind⟩ := pcapOffset_frames.mp found
    rcases (skipIPHeader_iff frame.room).mp behind with ⟨ipLength, carries, -⟩ | other
    · exact noIP ⟨etherType, link, ipLength, frame, carries⟩
    · exact known ⟨etherType, link, frame, other.1, other.2.1⟩

/-- An ARP request of sixty octets. -/
def arpFrame (place : Nat) : UInt8 :=
  [0xff, 0xff, 0xff, 0xff, 0xff, 0xff, 0, 0, 0, 0, 0, 1, 0x08, 0x06, 0, 1, 0x08, 0, 6, 4, 0, 1].getD
    place 0

/-- An ARP request is handed on from its twenty-second octet. -/
theorem arp_frame_found : pcapOffsetToSFlow arpFrame 60 = some 22 ∧ ¬SearchRight arpFrame 60 :=
  ⟨by decide +kernel, other_frame_wrong ⟨0x0806, 14,
    ⟨by decide, 0x0806, 14, .untagged (by decide +kernel), by decide, by decide +kernel,
      .ethernet (by decide)⟩, by decide, by decide⟩⟩

end Frames

end SflowTool
