/-
# `Hyperslab.Request.Basic` — views as they are asked for

A request says what a view should be with names instead of handles: variables with
bounds, dimensions with another size, filters, and attributes to add.  Or it asks for
the whole dataset.
-/
import Hyperslab.Filter.Expression
import Hyperslab.Slice

namespace Hyperslab

/-- The bounds for one dimension. -/
structure SliceBounds where
  first : Option Nat
  stride : Option Nat
  /-- The exclusive bound. -/
  stop : Option Nat
deriving DecidableEq, Repr

namespace SliceBounds

/-- The slice of the bounds; without any of them the dimension is left alone. -/
def slice? (b : SliceBounds) : Except SliceError Slice :=
  if b.first.isNone && b.stride.isNone && b.stop.isNone then .ok Slice.unconstrained
  else Slice.bounded? (b.first.getD 0) (b.stride.getD 1) b.stop

end SliceBounds

structure Projection where
  var : String
  /-- Bounds for the first dimensions. -/
  bounds : Option (List SliceBounds)
deriving DecidableEq, Repr

structure Redefinition where
  dimension : String
  bounds : SliceBounds
deriving DecidableEq, Repr

structure FilterRequest where
  var : String
  expr : Expr
deriving DecidableEq, Repr

structure Overlay where
  node : String
  name : String
  /-- The name of the type. -/
  type : String
  values : List String
deriving DecidableEq, Repr

/-- A request for a view. -/
structure Request where
  universal : Bool
  /-- Whether compounds without chosen fields are expanded, if it says so. -/
  expand : Option Bool
  projections : List Projection
  redefinitions : List Redefinition
  filters : List FilterRequest
  overlays : List Overlay
deriving DecidableEq, Repr

end Hyperslab
