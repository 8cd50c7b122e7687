/-
# `Hyperslab.View.Error` — what can go wrong with a view

Operations that change a view are refused once it is finished, and texts are refused
before.  Everything else that goes wrong is a disagreement with the dataset.
-/
import Hyperslab.Slice

namespace Hyperslab

/-- The operations that add to a view. -/
inductive ViewOperation where
  | addVariable
  | addRedefinition
  | addAttribute
  | setFilter
deriving DecidableEq, Repr

/-- The word for an operation. -/
def ViewOperation.word : ViewOperation → String
  | .addVariable => "add_variable"
  | .addRedefinition => "add_redef"
  | .addAttribute => "add_attribute"
  | .setFilter => "set_filter"

/-- Why a view refuses something. -/
inductive ViewError where
  | finished (op : ViewOperation)
  /-- There is no text before the view is finished. -/
  | unfinishedText
  /-- There is no summary before the view is finished. -/
  | unfinishedSummary
  /-- The variable, given by its name, has another number of dimensions than there are
  slices for it. -/
  | rankMismatch (name : String) (rank slices : Nat)
  /-- A compound, given by its name, is selected and no field of it is. -/
  | noField (name : String)
  | invalidSlice (cause : SliceError)
deriving DecidableEq, Repr

/-- The sentence that reports the cause. -/
def ViewError.message : ViewError → String
  | .finished op => op.word ++ " called on a finished view"
  | .unfinishedText => "view must be finalized before it is printed"
  | .unfinishedSummary => "view must be finalized before it is summarized"
  | .rankMismatch name rank slices => s!"'{name}' has rank {rank} but {slices} slices"
  | .noField name => s!"no field of '{name}' is in the view"
  | .invalidSlice cause => cause.message

instance : Reported ViewError where
  kind
    | .finished _ => .usage
    | .unfinishedText => .usage
    | .unfinishedSummary => .usage
    | .rankMismatch _ _ _ => .schemaInconsistency
    | .noField _ => .schemaInconsistency
    | .invalidSlice cause => Reported.kind cause
  message := ViewError.message

end Hyperslab
