/-
# `Hyperslab.ErrorKind` — what a refusal is about

Every area has its own type of errors, whose constructors are causes and carry
the data of the cause.  What they share is small: a kind, and a sentence.  The
full report of an error is the heading of its kind followed by its sentence.
-/

namespace Hyperslab

/-- The kinds of refusals. -/
inductive ErrorKind where
  /-- A view disagrees with the dataset it is a view of. -/
  | schemaInconsistency
  /-- A filter that cannot be evaluated. -/
  | filterType
  /-- A call at the wrong time. -/
  | usage
  /-- A name that names nothing. -/
  | notFound
  /-- A description that no dataset has. -/
  | schema
  | invalidSlice
  /-- Records that cannot be read. -/
  | recordSource
  /-- A document that is not well-formed, or not of the expected shape. -/
  | malformed
  /-- A file that cannot be read. -/
  | file
deriving DecidableEq, Repr

/-- The words in front of the sentence. -/
def ErrorKind.heading : ErrorKind → String
  | .schemaInconsistency => "Schema inconsistency"
  | .filterType => "Filter type error"
  | .usage => "Usage error"
  | .notFound => "Not found"
  | .schema => "Invalid dataset description"
  | .invalidSlice => "Invalid slice"
  | .recordSource => "Record source error"
  | .malformed => "TOML parse error"
  | .file => "IO error"

/-- Errors with a kind and a sentence. -/
class Reported (ε : Type) where
  kind : ε → ErrorKind
  message : ε → String

/-- The full report of an error. -/
def report {ε : Type} [Reported ε] (e : ε) : String :=
  (Reported.kind e).heading ++ ": " ++ Reported.message e

/-- What is done in two steps is done only if neither is refused. -/
theorem exists_ok_of_bind_eq_ok {α β ε : Type} {e : Except ε α} {f : α → Except ε β} {b : β}
    (h : (e >>= f) = .ok b) : ∃ a, e = .ok a ∧ f a = .ok b := by
  cases e with
  | error _ => cases h
  | ok a => exact ⟨a, rfl, h⟩

/-- What is done in two steps is refused by the first of them, or by the second. -/
theorem error_of_bind_eq_error {α β ε : Type} {e : Except ε α} {f : α → Except ε β} {x : ε}
    (h : (e >>= f) = .error x) : e = .error x ∨ ∃ a, e = .ok a ∧ f a = .error x := by
  cases e with
  | error _ => cases h; exact .inl rfl
  | ok a => exact .inr ⟨a, rfl, h⟩

end Hyperslab
