import SflowTool.EntryArrays

/-! Records with counted strings. Where such a record goes on is read off its bytes, part by
part, and a check at its end comes to bear only where all parts before it were received. -/
namespace SflowTool
open Decoding Decoding.Decoder

section Parts

/-- What a decoder takes in one go. -/
inductive Part where
  | octets (size : Nat)
  | string

/-- The place behind a part, if the part was received. -/
def Part.behind (buffer : Buffer) (place : Nat) : Part → Option Nat
  | octets size => if place + size ≤ buffer.length then some (place + size) else none
  | string =>
      if place + 4 ≤ buffer.length ∧ (wordFrom buffer place).toNat ≤ buffer.length ∧
          place + 4 + quadBytes (wordFrom buffer place) ≤ buffer.length then
        some (place + 4 + quadBytes (wordFrom buffer place))
      else none

def behindParts (buffer : Buffer) : List Part → Nat → Option Nat
  | [], place => some place
  | part :: rest, place => (part.behind buffer place).bind (behindParts buffer rest)

theorem behindParts_append (buffer : Buffer) (first second : List Part) (place : Nat) :
    behindParts buffer (first ++ second) place =
      (behindParts buffer first place).bind (behindParts buffer second) := by
  induction first generalizing place with
  | nil => rfl
  | cons part rest ih =>
      rw [List.cons_append, behindParts, behindParts, Option.bind_assoc]
      apply congrArg
      funext middle
      exact ih middle

theorem behindParts_single (buffer : Buffer) (part : Part) (place : Nat) :
    behindParts buffer [part] place = part.behind buffer place := by
  exact Option.bind_fun_some _

end Parts

section Spells

variable {config : SFConfig} {α β : Type}

/-- The program takes these parts, or stops at the first that was not received. -/
class Spells (program : Decode α) (parts : outParam (List Part)) : Prop where
  reaches : ∀ (buffer : Buffer) (sample : SFSample) (place : Nat),
    behindParts buffer parts sample.cursor = some place →
      (∃ value, (run buffer program sample).outcome = .ok value) ∧
        (run buffer program sample).state.cursor = place
  stops : ∀ (buffer : Buffer) (sample : SFSample), behindParts buffer parts sample.cursor = none →
    ∃ reason, (run buffer program sample).outcome = .error reason

/-- What takes no bytes spells nothing. -/
theorem spells_still (program : Decode α) [consumes : Consumes program 0] : Spells program [] where
  reaches buffer sample place found := by
    obtain ⟨returned, moved⟩ := consumes.takes buffer sample (.inl rfl)
    exact ⟨returned, moved.trans (Option.some.inj found)⟩
  stops _ _ missing := by cases missing

theorem spells_octets (program : Decode α) (size : Nat) (positive : 0 < size)
    [consumes : Consumes program size] : Spells program [.octets size] where
  reaches buffer sample place found := by
    rw [behindParts_single, Part.behind] at found
    split at found
    · rename_i room
      obtain ⟨returned, moved⟩ := consumes.takes buffer sample (.inr room)
      exact ⟨returned, moved.trans (Option.some.inj found)⟩
    · cases found
  stops buffer sample missing := by
    rw [behindParts_single, Part.behind] at missing
    split at missing
    · cases missing
    · rename_i full
      apply consumes.stops
      rintro (none | room)
      · omega
      · exact full room

instance spells_pure (value : α) : Spells (Pure.pure value : Decode α) [] := spells_still _

instance spells_bind (program : Decode α) (next : α → Decode β) (parts rest : List Part)
    [first : Spells program parts] [second : ∀ value, Spells (next value) rest] :
    Spells (program >>= next) (parts ++ rest) where
  reaches buffer sample place found := by
    rw [behindParts_append] at found
    obtain ⟨middle, early, late⟩ := Option.bind_eq_some_iff.mp found
    obtain ⟨⟨value, returned⟩, moved⟩ := first.reaches buffer sample middle early
    rw [run_seq]
    generalize run buffer program sample = performed at returned moved ⊢
    obtain ⟨outcome, behind, trace, notes⟩ := performed
    cases returned
    have goesOn := (second value).reaches buffer behind place
    rw [show behind.cursor = middle from moved] at goesOn
    exact goesOn late
  stops buffer sample missing := by
    rw [behindParts_append] at missing
    rw [run_seq]
    cases early : behindParts buffer parts sample.cursor with
    | none =>
        obtain ⟨reason, stopped⟩ := first.stops buffer sample early
        generalize run buffer program sample = performed at stopped ⊢
        obtain ⟨outcome, behind, trace, notes⟩ := performed
        cases stopped
        exact ⟨reason, rfl⟩
    | some middle =>
        rw [early] at missing
        obtain ⟨⟨value, returned⟩, moved⟩ := first.reaches buffer sample middle early
        generalize run buffer program sample = performed at returned moved ⊢
        obtain ⟨outcome, behind, trace, notes⟩ := performed
        cases returned
        apply (second value).stops buffer behind
        rw [show behind.cursor = middle from moved]
        exact missing

instance spells_when (guard : Prop) [Decidable guard] (program : Decode Unit) (parts : List Part)
    [body : Spells program parts] :
    Spells (Decoder.when guard program) (if guard then parts else []) := by
  unfold Decoder.when
  split
  · exact body
  · exact spells_pure ()

instance (fmt : String) (args : List Arg) : Spells (sfLog config fmt args) [] := spells_still _
instance : Spells getData32 [.octets 4] := spells_octets _ 4 (by decide)
instance (fieldName : String) : Spells (sfLogNext32 config fieldName) [.octets 4] :=
  spells_octets _ 4 (by decide)
instance (fieldName : String) : Spells (sfLogNext64 config fieldName) [.octets 8] :=
  spells_octets _ 8 (by decide)

theorem run_wordFrom {buffer : Buffer} {sample : SFSample} (room : sample.cursor + 4 ≤ buffer.length) :
    run buffer getData32 sample = .reply (wordFrom buffer sample.cursor) (sample.moved 4) :=
  run_getData32 room

instance (bufLen : UInt32) : Spells (getString bufLen) [.string] where
  reaches buffer sample place found := by
    rw [behindParts_single, Part.behind] at found
    split at found
    · rename_i room
      obtain ⟨counted, known, fits⟩ := room
      unfold getString
      rw [run_seq, run_wordFrom counted, Run.reply_bind, run_seq]
      have skipped := @run_skip collector buffer (wordFrom buffer sample.cursor)
        (State.moved sample 4) known fits
      unfold skipBytes
      rw [skipped]
      exact ⟨⟨_, rfl⟩, Option.some.inj found⟩
    · cases found
  stops buffer sample missing := by
    rw [behindParts_single, Part.behind] at missing
    split at missing
    · cases missing
    · rename_i full
      unfold getString
      rw [run_seq]
      by_cases counted : sample.cursor + 4 ≤ buffer.length
      · rw [run_wordFrom counted, Run.reply_bind, run_seq]
        have stopped : run buffer (skipBytes (wordFrom buffer sample.cursor)) (State.moved sample 4) =
            .halt .eos (State.moved (State.moved sample 4)
              (quadBytes (wordFrom buffer sample.cursor))) :=
          (run_single buffer (.skip _) _).trans
            (if_neg fun room => full ⟨counted, room.1, room.2⟩)
        rw [stopped]
        exact ⟨_, rfl⟩
      · rw [run_getData32_stops counted]
        exact ⟨_, rfl⟩

instance (fmt : String) (bufLen : UInt32) : Spells (logNextString config fmt bufLen) [.string] := by
  have rest (read : UInt32 × Text) : Spells (do
      when (read.1 > 0) (sfLog config fmt [.text read.2])
      return read.2) [] := spells_still _
  exact spells_bind (getString bufLen) _ [.string] []

end Spells

section Awaits

variable {α β : Type} {holds : SFSample → Op collector → Prop} {claim : Buffer → Nat → Prop}

/-- All operations are met in any case but those behind these parts: there it comes to a claim
about the place. -/
class Awaits (holds : SFSample → Op collector → Prop) (claim : Buffer → Nat → Prop)
    (program : Decode α) (parts : outParam (List Part)) : Prop where
  awaits : ∀ (buffer : Buffer) (sample : SFSample), Along buffer holds program sample ↔
    ∀ place, behindParts buffer parts sample.cursor = some place → claim buffer place

instance awaits_bind (program : Decode α) (next : α → Decode β) (parts rest : List Part)
    [first : Spells program parts] [met : Grants (fun _ _ _ => True) (fun _ => holds) program]
    [later : ∀ value, Awaits holds claim (next value) rest] :
    Awaits holds claim (program >>= next) (parts ++ rest) where
  awaits buffer sample := by
    have quiet : Along buffer holds program sample :=
      @along_granted _ _ (fun _ => holds) buffer program sample met
    rw [Decoder.bind_eq, along_bind, and_iff_right quiet]
    cases early : behindParts buffer parts sample.cursor with
    | none =>
        obtain ⟨reason, stopped⟩ := first.stops buffer sample early
        rw [Run.Returning, stopped]
        refine iff_of_true trivial fun place found => ?_
        rw [behindParts_append, early] at found
        cases found
    | some middle =>
        obtain ⟨⟨value, returned⟩, moved⟩ := first.reaches buffer sample middle early
        rw [Run.Returning, returned, behindParts_append, early, Option.bind_some, ← moved]
        exact (later value).awaits buffer _

end Awaits

end SflowTool
