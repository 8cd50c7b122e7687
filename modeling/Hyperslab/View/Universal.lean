/-
# `Hyperslab.View.Universal` — the whole dataset

The universal view of a dataset takes every variable, from end to end and without
filters.  It needs no calls and no finishing; its answers depend on the dataset alone.
-/
import Hyperslab.View.Rendering
import Hyperslab.View.Summary

namespace Hyperslab.Dataset

/-- A variable with all its dimensions taken whole. -/
def wholeSlices (d : Dataset) (v : VarId) : List Slice :=
  (d.var v).dimensions.map fun x => .fill (d.dimension x).size

/-- The text of the whole dataset. -/
def renderWhole (d : Dataset) : String :=
  ";".intercalate (d.topLevelVariables.map fun v =>
    d.variableName v ++ String.join (List.replicate (d.rank v) "[]"))

/-- The summary of the whole dataset. -/
def wholeSummary (d : Dataset) : ViewSummary where
  segments := d.variableIds.map fun v =>
    ⟨d.variableName v, (d.wholeSlices v).map Slice.constraint, none⟩
  dimensions := d.groupIds.flatMap fun g => (d.group g).dimensions.map d.dimensionLabel
  redefinitions := []
  enums := d.groupIds.flatMap fun g => (d.group g).enums.map d.enumName
  groups := d.groupIds.map d.groupName

end Hyperslab.Dataset
