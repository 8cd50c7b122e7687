/-
# `Hyperslab.View.Basic` — views

A view is a selection, or the whole dataset.  Both answer the same questions and take
the same calls; the whole dataset takes any call and stays what it is.
-/
import Hyperslab.Filter.Stream
import Hyperslab.View.Finishing
import Hyperslab.View.Universal

namespace Hyperslab

/-- A view of a dataset. -/
inductive View where
  | selection (s : Selection)
  | universal (d : Dataset)

namespace View

def dataset : View → Dataset
  | .selection s => s.dataset
  | .universal d => d

/-- The view after a call that succeeds. -/
def call (w : View) (c : ViewCall) : Except ViewError View :=
  match w with
  | .selection s => (s.call c).map .selection
  | .universal d => .ok (.universal d)

/-- What a call answers, and the view after it. -/
def perform (w : View) (c : ViewCall) : Except ViewError Unit × View :=
  match w.call c with
  | .ok w' => (.ok (), w')
  | .error e => (.error e, w)

/-- The slices of a variable. -/
def slices? (w : View) (v : VarId) : Option (List Slice) :=
  match w with
  | .selection s => s.slices? v
  | .universal d => some (d.wholeSlices v)

/-- A dimension with its new size, if it was redefined. -/
def redefinedDimension? (w : View) (x : DimId) : Option Dimension :=
  match w with
  | .selection s => s.redefinedDimension? x
  | .universal _ => none

/-- A dimension with the size that counts. -/
def effectiveDimension (w : View) (x : DimId) : Dimension :=
  (w.redefinedDimension? x).getD (w.dataset.dimension x)

/-- The view needs the node. -/
def references (w : View) (n : Node) : Bool :=
  match w with
  | .selection s => s.references n
  | .universal _ => n.isStructural

/-- The attributes added to a node. -/
def attributes (w : View) (n : Node) : List Attribute :=
  match w with
  | .selection s => s.attributes n
  | .universal _ => []

/-- The filter of a variable. -/
def filter? (w : View) (v : VarId) : Option Expr :=
  match w with
  | .selection s => s.filter? v
  | .universal _ => none

/-- The text of the view. -/
def render (w : View) (mode : RenderMode) : Except ViewError String :=
  match w with
  | .selection s => s.render mode
  | .universal d => .ok d.renderWhole

def summary (w : View) : Except ViewError ViewSummary :=
  match w with
  | .selection s => s.summary
  | .universal d => .ok d.wholeSummary

/-- The records of a sequence that pass the filter of the view. -/
def records [PatternCompiler] {ρ σ : Type} (w : View) (v : VarId) (source : RecordSource ρ σ) :
    Except StreamError (RecordStream ρ σ) :=
  RecordStream.open? w.dataset v source (w.filter? v)

end View

end Hyperslab
