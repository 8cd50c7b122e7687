/-
# `Hyperslab.View.Summary` — a view as plain names and texts

All that someone who writes the data out has to know about a view, without handles:
each variable with its slices and filter, and the names of the dimensions, enumerations
and groups that are needed.
-/
import Hyperslab.Json
import Hyperslab.View.Selection

namespace Hyperslab

structure SegmentSummary where
  var : String
  slices : List String
  filter : Option String
deriving DecidableEq, Repr

structure RedefinitionSummary where
  dimension : String
  declaredSize : Nat
  size : Nat
deriving DecidableEq, Repr

structure ViewSummary where
  segments : List SegmentSummary
  dimensions : List String
  redefinitions : List RedefinitionSummary
  enums : List String
  groups : List String
deriving DecidableEq, Repr

/-! ## Written as JSON -/

namespace SegmentSummary

/-- The summary of a segment; a filter is a member only if there is one. -/
def json (g : SegmentSummary) : Json :=
  .object ([("variable", .string g.var), ("slices", .array (g.slices.map .string))]
    ++ g.filter.toList.map fun text => ("filter", .string text))

end SegmentSummary

/-- The summary of a redefinition. -/
def RedefinitionSummary.json (r : RedefinitionSummary) : Json :=
  .object [("dimension", .string r.dimension), ("original_size", .integer r.declaredSize),
    ("size", .integer r.size)]

/-- The summary of a view. -/
def ViewSummary.json (s : ViewSummary) : Json :=
  .object [
    ("segments", .array (s.segments.map SegmentSummary.json)),
    ("dimensions", .array (s.dimensions.map .string)),
    ("redefinitions", .array (s.redefinitions.map RedefinitionSummary.json)),
    ("enums", .array (s.enums.map .string)),
    ("groups", .array (s.groups.map .string))]

/-! ## Of a selection -/

namespace Selection

/-- The summary of one segment. -/
def segmentSummary (s : Selection) (g : Segment) : SegmentSummary :=
  ⟨s.dataset.variableName g.var, g.slices.map Slice.constraint, g.filter.map Expr.text⟩

/-- The summary of one redefined dimension. -/
def redefinitionSummary (s : Selection) (x : Dimension) : RedefinitionSummary :=
  ⟨s.dataset.dimensionLabel x.id, (s.dataset.dimension x.id).size, x.size⟩

/-- The summary of a finished selection. -/
def summary (s : Selection) : Except ViewError ViewSummary :=
  if s.isFinished then .ok {
    segments := s.segments.map s.segmentSummary
    dimensions := s.dimensions.map s.dataset.dimensionLabel
    redefinitions := s.redefined.map s.redefinitionSummary
    enums := s.enums.map s.dataset.enumName
    groups := s.groups.map s.dataset.groupName }
  else .error .unfinishedSummary

end Selection

end Hyperslab
