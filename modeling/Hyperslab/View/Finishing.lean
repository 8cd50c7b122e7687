/-
# `Hyperslab.View.Finishing` — from an unfinished to a finished selection

Finishing expands the selection if that is wanted, resolves its slices, and collects
what it needs.  Either all of this succeeds, or the selection stays as it was and can be
finished later.  A selection is finished only once.
-/
import Hyperslab.View.Closure
import Hyperslab.View.Expansion

namespace Hyperslab

namespace Selection

/-- The segments that are to be resolved. -/
def candidates (s : Selection) (expand : Bool) : List Segment :=
  if expand then s.expanded else s.segments

/-- The outcome for segments that can be resolved. -/
def outcomeOf (s : Selection) (segments : List Segment) : Outcome :=
  let dimensions := s.dataset.neededDimensions segments
  let enums := s.dataset.neededEnums segments
  ⟨s.newDimensions, dimensions, enums, s.dataset.neededGroups segments dimensions enums⟩

/-- The finished selection. -/
def finish (s : Selection) (expand : Bool) : Except ViewError Selection :=
  if s.isFinished then .ok s
  else
    let segments := s.candidates expand
    match segments.mapM (Segment.resolve s.dataset s.newSize) with
    | .ok resolved =>
      .ok { s with segments := resolved, outcome := some (s.outcomeOf segments) }
    | .error e => .error e

end Selection

/-- Finishing twice is finishing once. -/
theorem Selection.finish_of_isFinished {s : Selection} (h : s.isFinished = true) (expand : Bool) :
    s.finish expand = .ok s := by
  rw [finish, if_pos h]

/-! ## Histories -/

/-- A call that may change a selection. -/
inductive ViewCall where
  | addVariable (v : VarId) (slices : List Slice)
  | addRedefinition (x : DimId) (slice : Slice)
  | addAttribute (n : Node) (a : Attribute)
  | setFilter (v : VarId) (e : Expr)
  | finish (expand : Bool)
deriving DecidableEq, Repr

namespace Selection

/-- The selection after a call that succeeds. -/
def call (s : Selection) : ViewCall → Except ViewError Selection
  | .addVariable v slices => s.addVariable v slices
  | .addRedefinition x slice => s.addRedefinition x slice
  | .addAttribute n a => s.addAttribute n a
  | .setFilter v e => s.setFilter v e
  | .finish expand => s.finish expand

/-- What a call answers, and the selection after it; a call that fails changes
nothing. -/
def perform (s : Selection) (c : ViewCall) : Except ViewError Unit × Selection :=
  match s.call c with
  | .ok s' => (.ok (), s')
  | .error e => (.error e, s)

/-- The answers to a sequence of calls, and the selection after them. -/
def run (s : Selection) : List ViewCall → List (Except ViewError Unit) × Selection
  | [] => ([], s)
  | c :: rest =>
    let (answer, s) := s.perform c
    let (answers, s) := s.run rest
    (answer :: answers, s)

theorem run_append (s : Selection) (xs ys : List ViewCall) :
    s.run (xs ++ ys) =
      ((s.run xs).1 ++ ((s.run xs).2.run ys).1, ((s.run xs).2.run ys).2) := by
  induction xs generalizing s with
  | nil => rfl
  | cons c rest ih => simp only [List.cons_append, run, ih]

/-- The selection that a sequence of calls makes from nothing. -/
def built (d : Dataset) (calls : List ViewCall) : Selection := ((empty d).run calls).2

end Selection

end Hyperslab
