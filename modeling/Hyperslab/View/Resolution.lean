/-
# `Hyperslab.View.Resolution` — slices against dimensions

Resolving gives every segment one closed slice for each dimension of its variable.  A
position for which nothing was asked takes the dimension whole; the others are completed
against its size, which is the redefined size if there is one.

Segments are resolved in order and positions from left to right, and the first slice
that does not fit is the error.
-/
import Hyperslab.View.Selection

namespace Hyperslab

/-- The dimension with as many indices as the slice selects in it. -/
def Dimension.redefine (x : Dimension) (slice : Slice) : Dimension :=
  x.withSize (slice.countWithin x.size)

namespace Selection

/-- The dimensions redefined, with their new sizes. -/
def newDimensions (s : Selection) : List Dimension :=
  s.redefinitions.map fun r => (s.dataset.dimension r.1).redefine r.2

/-- The size of a dimension that slices are resolved against. -/
def newSize (s : Selection) (x : DimId) : Nat :=
  ((s.newDimensions.find? fun y => y.id == x).getD (s.dataset.dimension x)).size

end Selection

namespace Segment

/-- The slice asked for at a position, among those from there on. -/
def sliceAt (slices : List Slice) : Slice := slices.headD .unconstrained

/-- A slice for a dimension of a size. -/
def resolveSlice (size : Nat) (slice : Slice) : Except SliceError Slice :=
  if slice.constrained then slice.complete? size else .ok (.fill size)

/-- One slice for each dimension, from the slices for the first of them. -/
def resolveSlices (size : DimId → Nat) : List DimId → List Slice → Except SliceError (List Slice)
  | [], _ => .ok []
  | x :: xs, slices => do
    let s ← resolveSlice (size x) (sliceAt slices)
    let rest ← resolveSlices size xs slices.tail
    return s :: rest

/-- The first slice and the others are resolved by themselves. -/
theorem exists_of_resolveSlices_cons {size : DimId → Nat} {x : DimId} {xs : List DimId}
    {slices resolved : List Slice} (h : resolveSlices size (x :: xs) slices = .ok resolved) :
    ∃ s rest, resolveSlice (size x) (sliceAt slices) = .ok s ∧
      resolveSlices size xs slices.tail = .ok rest ∧ resolved = s :: rest := by
  obtain ⟨s, hs, h⟩ := exists_ok_of_bind_eq_ok h
  obtain ⟨rest, hr, h⟩ := exists_ok_of_bind_eq_ok h
  cases h
  exact ⟨s, rest, hs, hr, rfl⟩

/-- There is one slice for each dimension. -/
theorem length_resolveSlices {size : DimId → Nat} {xs : List DimId} {slices resolved : List Slice}
    (h : resolveSlices size xs slices = .ok resolved) : resolved.length = xs.length := by
  induction xs generalizing slices resolved with
  | nil => cases h; rfl
  | cons x xs ih =>
    obtain ⟨s, rest, _, hr, rfl⟩ := exists_of_resolveSlices_cons h
    rw [List.length_cons, List.length_cons, ih hr]

/-- The dimensions at the positions that nothing is asked for. -/
def freeDimensions : List DimId → List Slice → List DimId
  | [], _ => []
  | x :: xs, slices =>
    let rest := freeDimensions xs slices.tail
    if (sliceAt slices).constrained then rest else x :: rest

/-- The segment with its slices resolved. -/
def resolve (d : Dataset) (size : DimId → Nat) (g : Segment) : Except ViewError Segment :=
  let xs := (d.var g.var).dimensions
  if xs.length < g.slices.length then
    .error (.rankMismatch (d.variableName g.var) xs.length g.slices.length)
  else match resolveSlices size xs g.slices with
    | .ok slices => .ok { g with slices }
    | .error e => .error (.invalidSlice e)

/-- The dimensions of a segment that nothing is asked for. -/
def free (d : Dataset) (g : Segment) : List DimId :=
  freeDimensions (d.var g.var).dimensions g.slices

end Segment

end Hyperslab
