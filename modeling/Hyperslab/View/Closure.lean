/-
# `Hyperslab.View.Closure` — what a selection needs

Beside its variables a selection needs the dimensions that it takes whole, the
enumerations that are types of its variables, and the groups around everything.  Each
is listed once, where it is met first.
-/
import Hyperslab.Dataset.Tree
import Hyperslab.View.Resolution

namespace Hyperslab.Dataset

/-- The enumeration that is the type of a variable. -/
def enumOf? (d : Dataset) (v : VarId) : Option EnumId :=
  (d.var v).base?.bind AtomicType.enumeration?

/-- The enumerations of segments. -/
def neededEnums (d : Dataset) (segments : List Segment) : List EnumId :=
  (segments.filterMap fun g => d.enumOf? g.var).eraseDups

/-- The dimensions that segments, before they are resolved, take whole. -/
def neededDimensions (d : Dataset) (segments : List Segment) : List DimId :=
  (segments.flatMap fun g => g.free d).eraseDups

/-- The groups from the root to each variable, shared dimension and enumeration. -/
def neededGroups (d : Dataset) (segments : List Segment) (dimensions : List DimId)
    (enums : List EnumId) : List GroupId :=
  let shared := dimensions.filter fun x => (d.dimension x).shared
  (segments.flatMap (fun g => d.variablePath g.var)
    ++ shared.flatMap d.dimensionPath ++ enums.flatMap d.enumPath).eraseDups

end Hyperslab.Dataset
