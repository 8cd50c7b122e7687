/-
# `Hyperslab.View.Selection` — choosing parts of a dataset

A selection lists the variables it wants, each in a *segment* with slices and perhaps a
filter; it may also give dimensions another size and add attributes to nodes.  It is
built call by call.  A variable keeps the slices of the first call for it, a dimension
its first redefinition; a filter is replaced by a later one, and ignored for a variable
that is not selected; attributes add up.

Finishing a selection resolves it against the dataset.  What comes out beside the
resolved segments is its *outcome*: an unfinished selection has none, and a finished
one does not change any more.
-/
import Hyperslab.Dataset.Name
import Hyperslab.Filter.Expression
import Hyperslab.View.Error

namespace Hyperslab

/-! ## Segments -/

/-- A selected variable.  Unfinished, it has the slices that were asked for, perhaps
fewer than dimensions; finished, one closed slice for each dimension. -/
structure Segment where
  var : VarId
  slices : List Slice
  filter : Option Expr
deriving DecidableEq, Repr

namespace Segment

/-- A variable without slices and filter. -/
def plain (v : VarId) : Segment := ⟨v, [], none⟩

/-- The text of a filter behind a bar. -/
def filterSuffix (g : Segment) : String :=
  match g.filter with
  | some e => "|" ++ e.text
  | none => ""

/-- The qualified name, all slices and the filter. -/
def display (d : Dataset) (g : Segment) : String :=
  d.variableName g.var ++ String.join (g.slices.map Slice.display) ++ g.filterSuffix

end Segment

/-! ## Selections -/

/-- What finishing a selection finds out. -/
structure Outcome where
  /-- The redefined dimensions with their new sizes, in order of request. -/
  redefined : List Dimension
  /-- The dimensions that were taken whole somewhere, in order of first use. -/
  dimensions : List DimId
  /-- The base types among enumerations, in order of first use. -/
  enums : List EnumId
  /-- The groups around all of these, in order of first use. -/
  groups : List GroupId
deriving DecidableEq, Repr

/-- A selection from a dataset. -/
structure Selection where
  dataset : Dataset
  segments : List Segment
  /-- A slice whose number of indices is the new size of a dimension. -/
  redefinitions : List (DimId × Slice)
  overlays : List (Node × Attribute)
  outcome : Option Outcome
deriving DecidableEq, Repr

namespace Selection

/-- Nothing selected. -/
def empty (d : Dataset) : Selection := ⟨d, [], [], [], none⟩

def isFinished (s : Selection) : Bool := s.outcome.isSome

/-- The variables selected, in order. -/
def vars (s : Selection) : List VarId := s.segments.map Segment.var

def contains (s : Selection) (v : VarId) : Bool := s.vars.contains v

/-- The segment of a variable. -/
def segment? (s : Selection) (v : VarId) : Option Segment :=
  s.segments.find? fun g => g.var == v

/-- The place of a variable among the segments. -/
def position? (s : Selection) (v : VarId) : Option Nat :=
  s.segments.findIdx? fun g => g.var == v

/-- The slices of a variable. -/
def slices? (s : Selection) (v : VarId) : Option (List Slice) :=
  (s.segment? v).map Segment.slices

/-- The filter of a variable. -/
def filter? (s : Selection) (v : VarId) : Option Expr := (s.segment? v).bind Segment.filter

/-- The redefinition that was asked for. -/
def redefinition? (s : Selection) (x : DimId) : Option Slice := s.redefinitions.lookup x

/-- The attributes added to a node, in order. -/
def attributes (s : Selection) (n : Node) : List Attribute :=
  (s.overlays.filter fun o => o.1 == n).map Prod.snd

/-! ## What the outcome says -/

/-- The redefined dimensions. -/
def redefined (s : Selection) : List Dimension := (s.outcome.map Outcome.redefined).getD []

def dimensions (s : Selection) : List DimId := (s.outcome.map Outcome.dimensions).getD []

def enums (s : Selection) : List EnumId := (s.outcome.map Outcome.enums).getD []

def groups (s : Selection) : List GroupId := (s.outcome.map Outcome.groups).getD []

/-- A dimension with its new size, if it was redefined. -/
def redefinedDimension? (s : Selection) (x : DimId) : Option Dimension :=
  s.redefined.find? fun y => y.id == x

/-- A dimension with the size that counts. -/
def effectiveDimension (s : Selection) (x : DimId) : Dimension :=
  (s.redefinedDimension? x).getD (s.dataset.dimension x)

/-- The selection needs the node.  It never needs an attribute of the dataset. -/
def references (s : Selection) : Node → Bool
  | .ofGroup g => s.groups.contains g
  | .ofDimension x => s.dimensions.contains x
  | .ofEnumeration e => s.enums.contains e
  | .ofVariable v => s.contains v
  | .ofAttribute _ => false

/-! ## Building -/

/-- The selection, unless it is finished. -/
def unfinished (s : Selection) (op : ViewOperation) : Except ViewError Selection :=
  if s.isFinished then .error (.finished op) else .ok s

/-- Selects a variable with the slices for its first dimensions. -/
def addVariable (s : Selection) (v : VarId) (slices : List Slice) :
    Except ViewError Selection := do
  let s ← s.unfinished .addVariable
  return if s.contains v then s else { s with segments := s.segments ++ [⟨v, slices, none⟩] }

/-- Gives a dimension as many indices as a slice of it selects. -/
def addRedefinition (s : Selection) (x : DimId) (slice : Slice) :
    Except ViewError Selection := do
  let s ← s.unfinished .addRedefinition
  return if (s.redefinition? x).isSome then s
    else { s with redefinitions := s.redefinitions ++ [(x, slice)] }

/-- Adds an attribute to a node. -/
def addAttribute (s : Selection) (n : Node) (a : Attribute) : Except ViewError Selection := do
  let s ← s.unfinished .addAttribute
  return { s with overlays := s.overlays ++ [(n, a)] }

/-- Gives a selected variable a filter. -/
def setFilter (s : Selection) (v : VarId) (e : Expr) : Except ViewError Selection := do
  let s ← s.unfinished .setFilter
  return { s with
    segments := s.segments.map fun g => if g.var = v then { g with filter := some e } else g }

/-! ## Which variables are selected -/

theorem contains_iff {s : Selection} {v : VarId} : s.contains v = true ↔ v ∈ s.vars := by
  simp only [contains, List.contains_eq_mem, decide_eq_true_eq]

/-- A variable is selected exactly if it has a segment. -/
theorem isSome_segment?_iff {s : Selection} {v : VarId} : (s.segment? v).isSome ↔ v ∈ s.vars := by
  simp only [segment?, vars, List.find?_isSome, List.mem_map, beq_iff_eq]

/-- Adding a variable selects it and no other. -/
theorem vars_addVariable {s t : Selection} {v : VarId} {slices : List Slice}
    (h : s.addVariable v slices = .ok t) :
    t.vars = if v ∈ s.vars then s.vars else s.vars ++ [v] := by
  unfold addVariable unfinished at h
  split at h
  · cases h
  · cases h
    split
    · rename_i hv
      rw [if_pos (contains_iff.1 hv)]
    · rename_i hv
      rw [if_neg (fun hm => hv (contains_iff.2 hm))]
      exact List.map_append

/-- A filter selects nothing. -/
theorem vars_setFilter {s t : Selection} {v : VarId} {e : Expr} (h : s.setFilter v e = .ok t) :
    t.vars = s.vars := by
  unfold setFilter unfinished at h
  split at h
  · cases h
  · cases h
    show (s.segments.map _).map Segment.var = s.segments.map Segment.var
    rw [List.map_map]
    refine List.map_congr_left fun g _ => ?_
    show (if g.var = v then { g with filter := some e } else g).var = g.var
    split <;> rfl

end Selection

end Hyperslab
