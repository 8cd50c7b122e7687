/-
# `Hyperslab.Filter.Stream` — the records that pass a filter

A stream goes through the records of a sequence once, forward.  `hasNext` moves the
cursor until a record passes and then *holds* it; taking hands the held record out.
The cursor moves past a record before the record is read, so one that cannot be read
or judged costs one error and does not hold up the others.

A stream can also be used up at once: `drain` keeps asking and taking, and goes on after
errors; `collect` asks for one result after the other, until there is none.
-/
import Hyperslab.Filter.Evaluation

namespace Hyperslab

/-- Why a stream gives no record. -/
inductive StreamError where
  /-- A stream over a variable, given by its name, that has no records. -/
  | notSequence (name : String)
  /-- Taking without a record held. -/
  | nothingHeld
  | unread (cause : RecordError)
  | unjudged (cause : FilterError)
deriving DecidableEq, Repr

/-- The sentence that reports the cause. -/
def StreamError.message : StreamError → String
  | .notSequence name => s!"'{name}' is not a sequence"
  | .nothingHeld => "next_record called without a successful has_next"
  | .unread cause => cause.message
  | .unjudged cause => cause.message

instance : Reported StreamError where
  kind
    | .notSequence _ => .usage
    | .nothingHeld => .usage
    | .unread cause => Reported.kind cause
    | .unjudged cause => Reported.kind cause
  message := StreamError.message

/-- A record and its index. -/
structure IndexedRecord (ρ : Type := Record) where
  index : Nat
  record : ρ
deriving DecidableEq, Repr

/-- A way through the records of a sequence, whatever its records are. -/
structure RecordStream [PatternCompiler] (ρ : Type := Record) (σ : Type := Unit) where
  dataset : Dataset
  sequence : VarId
  source : RecordSource ρ σ
  filter : Option Expr
  /-- The index of the next record to read. -/
  cursor : Nat
  /-- The record that passed and was not taken yet. -/
  held : Option (IndexedRecord ρ)
  patterns : PatternCache

namespace RecordStream

variable [PatternCompiler] {ρ σ : Type} [FieldReader ρ]

/-- A stream at its beginning. -/
def open? (d : Dataset) (v : VarId) (source : RecordSource ρ σ) (filter : Option Expr) :
    Except StreamError (RecordStream ρ σ) :=
  if (d.var v).isSequence then .ok ⟨d, v, source, filter, 0, none, .empty⟩
  else .error (.notSequence (d.variableName v))

/-- The record passes the filter, and the patterns afterwards. -/
def passes (s : RecordStream ρ σ) (r : ρ) : Except FilterError Bool × PatternCache :=
  match s.filter with
  | none => (.ok true, s.patterns)
  | some e => e.evaluate s.dataset s.sequence r s.patterns

/-- The number of records that have not been read. -/
def remaining (s : RecordStream ρ σ) : Nat := s.source.count - s.cursor

/-- Reads and judges the record at the cursor: the record if it passed, and the stream
behind it. -/
def step (s : RecordStream ρ σ) :
    Except StreamError (Option (IndexedRecord ρ)) × RecordStream ρ σ :=
  let index := s.cursor
  let s := { s with cursor := index + 1 }
  let (record, source) := s.source.readAt index
  let s := { s with source }
  match record with
  | .error e => (.error (.unread e), s)
  | .ok r =>
    let (verdict, patterns) := s.passes r
    let s := { s with patterns }
    match verdict with
    | .error e => (.error (.unjudged e), s)
    | .ok true => (.ok (some ⟨index, r⟩), s)
    | .ok false => (.ok none, s)

/-- Looks for a record that passes, among the next `steps`. -/
def seek (s : RecordStream ρ σ) : (steps : Nat) → Except StreamError Bool × RecordStream ρ σ
  | 0 => (.ok false, s)
  | steps + 1 =>
    match s.step with
    | (.error e, s) => (.error e, s)
    | (.ok (some r), s) => (.ok true, { s with held := some r })
    | (.ok none, s) => s.seek steps

/-- There is one more record that passes; the stream holds it. -/
def hasNext (s : RecordStream ρ σ) : Except StreamError Bool × RecordStream ρ σ :=
  match s.held with
  | some _ => (.ok true, s)
  | none => s.seek s.remaining

/-- Takes the held record with its index. -/
def takeIndexed (s : RecordStream ρ σ) : Except StreamError (IndexedRecord ρ) × RecordStream ρ σ :=
  match s.held with
  | some r => (.ok r, { s with held := none })
  | none => (.error .nothingHeld, s)

/-- Takes the held record. -/
def takeRecord (s : RecordStream ρ σ) : Except StreamError ρ × RecordStream ρ σ :=
  let (r, s) := s.takeIndexed
  (r.map IndexedRecord.record, s)

/-- The next record that passes or the error on the way to it; `none` at the end. -/
def next (s : RecordStream ρ σ) : Option (Except StreamError ρ) × RecordStream ρ σ :=
  match s.hasNext with
  | (.error e, s) => (some (.error e), s)
  | (.ok false, s) => (none, s)
  | (.ok true, s) => let (r, s) := s.takeRecord; (some r, s)

/-- The number of results that the stream can still give at most. -/
def resultBound (s : RecordStream ρ σ) : Nat := s.remaining + (if s.held.isSome then 1 else 0)

/-- At most `steps` results of asking and taking in turn. -/
def drainWithin (s : RecordStream ρ σ) : (steps : Nat) →
    List (Except StreamError (IndexedRecord ρ)) × RecordStream ρ σ
  | 0 => ([], s)
  | steps + 1 =>
    match s.hasNext with
    | (.error e, s) => let (rest, s) := s.drainWithin steps; (.error e :: rest, s)
    | (.ok false, s) => ([], s)
    | (.ok true, s) =>
      let (r, s) := s.takeIndexed
      let (rest, s) := s.drainWithin steps
      (r :: rest, s)

/-- All records that pass, with their indices, and the errors between them. -/
def drain (s : RecordStream ρ σ) : List (Except StreamError (IndexedRecord ρ)) × RecordStream ρ σ :=
  s.drainWithin (s.resultBound + 1)

/-- At most `steps` results of `next`. -/
def collectWithin (s : RecordStream ρ σ) : (steps : Nat) →
    List (Except StreamError ρ) × RecordStream ρ σ
  | 0 => ([], s)
  | steps + 1 =>
    match s.next with
    | (none, s) => ([], s)
    | (some r, s) => let (rest, s) := s.collectWithin steps; (r :: rest, s)

/-- All records that pass, and the errors between them. -/
def collect (s : RecordStream ρ σ) : List (Except StreamError ρ) × RecordStream ρ σ :=
  s.collectWithin (s.resultBound + 1)

/-! ## One step -/

/-- A step reads one record. -/
@[simp] theorem cursor_step (s : RecordStream ρ σ) : s.step.2.cursor = s.cursor + 1 := by
  unfold step
  dsimp only
  split
  · rfl
  · split <;> rfl

theorem hasNext_of_held {s : RecordStream ρ σ} {r : IndexedRecord ρ} (h : s.held = some r) :
    s.hasNext = (.ok true, s) := by
  rw [hasNext, h]

omit [FieldReader ρ] in
theorem takeIndexed_of_held {s : RecordStream ρ σ} {r : IndexedRecord ρ} (h : s.held = some r) :
    s.takeIndexed = (.ok r, { s with held := none }) := by
  rw [takeIndexed, h]

omit [FieldReader ρ] in
theorem takeIndexed_of_not_held {s : RecordStream ρ σ} (h : s.held = none) :
    s.takeIndexed = (.error .nothingHeld, s) := by
  rw [takeIndexed, h]

end RecordStream

end Hyperslab
