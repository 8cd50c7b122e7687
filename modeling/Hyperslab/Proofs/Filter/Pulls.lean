/-
# `Hyperslab.Proofs.Filter.Pulls` — the calls on a stream

A stream takes four calls: asking whether there is a next record, taking it with or without its
index, and both at once.  This is what one call hands out or reports (`gives?`), and how its answer
shows that (`Pull.shows`).

Reading may change the source, and what a record comes to (`fate?`) is what it comes to if the
records from the cursor on are read in order, each once.  That they are read so is seen on the
source: `RecordSource.after` is the source that such readings leave, and it is another one if a
record is read twice, too early, or not at all.  For a source whose answers are fixed the order of
readings does not matter (`content_of_fixed`).
-/
import Hyperslab.Filter.Stream
import Hyperslab.Proofs.Filter.Patterns

namespace Hyperslab

/-! ## Reading in order -/

namespace RecordSource

variable {ρ σ : Type} {s : RecordSource ρ σ}

/-- The source after a number of records was read, one after the other from an index on. -/
def after (s : RecordSource ρ σ) (first : Nat) : (number : Nat) → RecordSource ρ σ
  | 0 => s
  | number + 1 => (s.readAt first).2.after (first + 1) number

theorem after_add (s : RecordSource ρ σ) (first m n : Nat) :
    s.after first (m + n) = (s.after first m).after (first + m) n := by
  induction m generalizing s first with
  | zero => rw [Nat.zero_add]; rfl
  | succ m ih =>
    rw [Nat.add_right_comm, after, ih, Nat.add_right_comm first 1 m]
    rfl

/-- Reading changes nothing but the state. -/
theorem after_eq (s : RecordSource ρ σ) (first number : Nat) :
    s.after first number = { s with state := (s.after first number).state } := by
  induction number generalizing s first with
  | zero => rfl
  | succ number ih => exact ih (s.readAt first).2 (first + 1)

theorem count_after (s : RecordSource ρ σ) (first number : Nat) :
    (s.after first number).count = s.count := by
  rw [after_eq]

/-! ### Records of what is read -/

/-- The same source, which also keeps a list of the indices that were read. -/
def recording (s : RecordSource ρ σ) (indices : List Nat) : RecordSource ρ (σ × List Nat) where
  count := s.count
  state := (s.state, indices)
  respond i state := ((s.respond i state.1).1, (s.respond i state.1).2, state.2 ++ [i])

theorem readAt_recording (s : RecordSource ρ σ) (indices : List Nat) (i : Nat) :
    (s.recording indices).readAt i =
      ((s.readAt i).1, (s.readAt i).2.recording (indices ++ [i])) := rfl

/-- What is read in order is recorded in order. -/
theorem after_recording (s : RecordSource ρ σ) (indices : List Nat) (first number : Nat) :
    (s.recording indices).after first number =
      (s.after first number).recording (indices ++ List.range' first number) := by
  induction number generalizing s indices first with
  | zero => rw [List.range'_zero, List.append_nil]; rfl
  | succ number ih =>
    rw [after, readAt_recording, ih, List.append_assoc]
    rfl

end RecordSource

/-! ## Calls -/

inductive Pull where
  | hasNext
  | takeIndexed
  | takeRecord
  | next
deriving DecidableEq, Repr

inductive PullAnswer (ρ : Type) where
  | found (answer : Except StreamError Bool)
  | indexed (answer : Except StreamError (IndexedRecord ρ))
  | record (answer : Except StreamError ρ)
  | result (answer : Option (Except StreamError ρ))
deriving Repr

/-- How a call shows what it gives; asking also shows whether a record is held. -/
def Pull.shows {ρ : Type} (given : Option (Except StreamError (IndexedRecord ρ))) (held : Bool) :
    Pull → PullAnswer ρ
  | .hasNext => match given with
    | some (.error e) => .found (.error e)
    | _ => .found (.ok held)
  | .takeIndexed => .indexed (given.getD (.error .nothingHeld))
  | .takeRecord => .record ((given.getD (.error .nothingHeld)).map IndexedRecord.record)
  | .next => .result (given.map fun r => r.map IndexedRecord.record)

variable [PatternCompiler]

namespace RecordStream

variable {ρ σ τ : Type} [FieldReader ρ]

/-- What a call answers, and the stream after it. -/
def pull (s : RecordStream ρ σ) : Pull → PullAnswer ρ × RecordStream ρ σ
  | .hasNext => (.found s.hasNext.1, s.hasNext.2)
  | .takeIndexed => (.indexed s.takeIndexed.1, s.takeIndexed.2)
  | .takeRecord => (.record s.takeRecord.1, s.takeRecord.2)
  | .next => (.result s.next.1, s.next.2)

/-- The answers to a sequence of calls, and the stream after them. -/
def run (s : RecordStream ρ σ) : List Pull → List (PullAnswer ρ) × RecordStream ρ σ
  | [] => ([], s)
  | c :: rest =>
    let (answer, s) := s.pull c
    let (answers, s) := s.run rest
    (answer :: answers, s)

/-- What a call hands out or reports, with the index also where the call does not show it. -/
def gives? (s : RecordStream ρ σ) : Pull → Option (Except StreamError (IndexedRecord ρ))
  | .hasNext => match s.hasNext.1 with
    | .error e => some (.error e)
    | .ok _ => none
  | .takeIndexed | .takeRecord => s.held.map .ok
  | .next => match s.hasNext with
    | (.error e, _) => some (.error e)
    | (.ok _, t) => t.held.map .ok

def given (s : RecordStream ρ σ) : List Pull → List (Except StreamError (IndexedRecord ρ))
  | [] => []
  | c :: rest => (s.gives? c).toList ++ (s.pull c).2.given rest

/-- The stream with another source. -/
def withSource (s : RecordStream ρ σ) (source : RecordSource ρ τ) : RecordStream ρ τ :=
  ⟨s.dataset, s.sequence, source, s.filter, s.cursor, s.held, s.patterns⟩

/-- The indices that are read by a sequence of calls, as the source records them. -/
def reads (s : RecordStream ρ σ) (pulls : List Pull) : List Nat :=
  ((s.withSource (s.source.recording [])).run pulls).2.source.state.2

/-! ## Fates -/

/-- What reading the record at an index gives, after those between it and the cursor. -/
def content (s : RecordStream ρ σ) (i : Nat) : Except RecordError ρ :=
  (s.source.after s.cursor (i - s.cursor)).read i

/-- The verdict on a record, whatever is remembered. -/
def verdict (s : RecordStream ρ σ) (r : ρ) : Except FilterError Bool :=
  match s.filter with
  | none => .ok true
  | some e => e.verdict s.dataset s.sequence r

/-- What the record at an index comes to, if it is not rejected. -/
def fate? (s : RecordStream ρ σ) (i : Nat) : Option (Except StreamError (IndexedRecord ρ)) :=
  match s.content i with
  | .error e => some (.error (.unread e))
  | .ok r => match s.verdict r with
    | .error e => some (.error (.unjudged e))
    | .ok true => some (.ok ⟨i, r⟩)
    | .ok false => none

variable {s t u : RecordStream ρ σ}

omit [FieldReader ρ] in
theorem content_of_fixed {answer : Nat → Except RecordError ρ}
    (fixed : ∀ i state, (s.source.respond i state).1 = answer i) : s.content = answer := by
  funext i
  rw [content, RecordSource.after_eq]
  exact fixed i _

theorem of_fate?_eq_ok {i : Nat} {r : IndexedRecord ρ} (h : s.fate? i = some (.ok r)) :
    r.index = i ∧ s.content i = .ok r.record ∧ s.verdict r.record = .ok true := by
  unfold fate? at h
  split at h
  · cases h
  · rename_i record read
    split at h
    · cases h
    · rename_i passed
      cases h
      exact ⟨rfl, read, passed⟩
    · cases h

theorem passes_of_sound (sound : s.patterns.Sound) (r : ρ) :
    (s.passes r).1 = s.verdict r ∧ (s.passes r).2.Sound := by
  unfold passes verdict
  cases s.filter with
  | none => exact ⟨rfl, sound⟩
  | some e => exact e.evaluate_of_sound s.dataset s.sequence r sound

/-- A step finds out the fate of the record at the cursor, and goes behind it. -/
theorem exists_step_eq (sound : s.patterns.Sound) : ∃ patterns, patterns.Sound ∧
    s.step = (match s.fate? s.cursor with
      | none => .ok none
      | some (.ok r) => .ok (some r)
      | some (.error e) => .error e,
      { s with cursor := s.cursor + 1, source := (s.source.readAt s.cursor).2, patterns }) := by
  have here : s.content s.cursor = (s.source.readAt s.cursor).1 := by
    rw [content, Nat.sub_self]
    rfl
  unfold step fate?
  rw [here]
  dsimp only
  cases (s.source.readAt s.cursor).1 with
  | error e => exact ⟨s.patterns, sound, rfl⟩
  | ok r =>
    obtain ⟨judged, kept⟩ := passes_of_sound sound r
    refine ⟨(s.passes r).2, kept, ?_⟩
    have moved : passes { s with
        cursor := s.cursor + 1
        source := (s.source.readAt s.cursor).2 } r = s.passes r := rfl
    dsimp only
    rw [moved, ← judged]
    cases (s.passes r).1 with
    | error e => rfl
    | ok b => cases b <;> rfl

/-! ## Single calls -/

theorem hasNext_of_not_held (h : s.held = none) : s.hasNext = s.seek s.remaining := by
  rw [hasNext, h]

omit [FieldReader ρ] in
theorem takeIndexed_eq (s : RecordStream ρ σ) :
    s.takeIndexed = ((s.held.map .ok).getD (.error .nothingHeld), { s with held := none }) := by
  unfold takeIndexed
  cases held : s.held with
  | some r => rfl
  | none =>
    refine Prod.ext rfl ?_
    show s = { s with held := none }
    rw [← held]

/-- Asking and taking at once is asking, and taking unless asking fails. -/
theorem next_eq (s : RecordStream ρ σ)
    (h : ∀ b, s.hasNext.1 = .ok b → s.hasNext.2.held.isSome = b) :
    s.next = ((s.gives? .next).map fun r => r.map IndexedRecord.record,
      match s.hasNext.1 with
      | .error _ => s.hasNext.2
      | .ok _ => { s.hasNext.2 with held := none }) := by
  unfold next gives?
  cases hasNext : s.hasNext with
  | mk answer t =>
    rw [hasNext] at h
    cases answer with
    | error e => rfl
    | ok b =>
      have found := h b rfl
      cases b with
      | false =>
        have held : t.held = none := Option.isNone_iff_eq_none.1 (Option.isSome_eq_false_iff.1 found)
        dsimp only
        refine Prod.ext ?_ ?_
        · rw [held]
          rfl
        · show t = { t with held := none }
          rw [← held]
      | true =>
        obtain ⟨r, held⟩ := Option.isSome_iff_exists.1 found
        dsimp only
        rw [takeRecord, takeIndexed_eq, held]
        rfl

end RecordStream

end Hyperslab
