/-
# `Hyperslab.View.Rendering` — the text of a selection

A finished selection is written as its variables outside of compounds, in order, with a
semicolon between them: the name, one bracket for each dimension, and for a compound the
selected fields in braces.  A compound of which everything is selected has no braces.

There are two modes.  The constraint has short brackets and the filters; the display has
long brackets and no filters.
-/
import Hyperslab.Dataset.Tree
import Hyperslab.View.Selection

namespace Hyperslab

inductive RenderMode where
  | display
  | constraint
deriving DecidableEq, Repr

/-- The bracket of a slice; empty for a dimension taken whole without asking. -/
def Slice.render (mode : RenderMode) (s : Slice) : String :=
  if s.whole && !s.constrained then "[]"
  else match mode with
    | .display => s.display
    | .constraint => s.constraint

/-- What a mode shows of a filter. -/
def Segment.renderFilter (mode : RenderMode) (g : Segment) : String :=
  match mode with
  | .display => ""
  | .constraint => g.filterSuffix

namespace Selection

mutual

/-- Everything below the top of a tree is selected. -/
def isWhole (s : Selection) : VariableTree → Bool
  | .node _ fields => s.areWhole fields

/-- All trees are selected completely. -/
def areWhole (s : Selection) : List VariableTree → Bool
  | [] => true
  | t :: rest => s.contains t.top && s.isWhole t && s.areWhole rest

end

/-- The name that a variable is written with: qualified outside of compounds. -/
def renderName (s : Selection) (v : VarId) : String :=
  if (s.dataset.var v).isTopLevel then s.dataset.variableName v else (s.dataset.var v).name

/-- The name of a segment with its brackets. -/
def renderHead (s : Selection) (mode : RenderMode) (g : Segment) : Except ViewError String :=
  let rank := s.dataset.rank g.var
  if g.slices.length = rank then
    .ok (s.renderName g.var ++ String.join (g.slices.map (Slice.render mode)))
  else .error (.rankMismatch (s.dataset.variableName g.var) rank g.slices.length)

/-- The texts of selected fields in braces. -/
def braces (s : Selection) (v : VarId) (texts : List String) : Except ViewError String :=
  if texts.isEmpty then .error (.noField (s.dataset.variableName v))
  else .ok ("\x7b" ++ ";".intercalate texts ++ "\x7d")

mutual

/-- The text of a segment whose variable has the given tree. -/
def renderSegment (s : Selection) (mode : RenderMode) (g : Segment) :
    VariableTree → Except ViewError String
  | .node v fields => do
    let head ← s.renderHead mode g
    let body ←
      if (s.dataset.var v).isCompound && !s.areWhole fields then
        (s.renderFields mode fields).bind (s.braces v)
      else .ok ""
    return head ++ body ++ g.renderFilter mode

/-- The texts of those fields that are selected. -/
def renderFields (s : Selection) (mode : RenderMode) :
    List VariableTree → Except ViewError (List String)
  | [] => .ok []
  | t :: rest =>
    match s.segment? t.top with
    | none => s.renderFields mode rest
    | some g => do
      let text ← s.renderSegment mode g t
      let texts ← s.renderFields mode rest
      return text :: texts

end

/-- The segments outside of compounds. -/
def topSegments (s : Selection) : List Segment :=
  s.segments.filter fun g => (s.dataset.var g.var).isTopLevel

/-- The text of a finished selection. -/
def render (s : Selection) (mode : RenderMode) : Except ViewError String :=
  if s.isFinished then do
    let texts ← s.topSegments.mapM fun g => s.renderSegment mode g (s.dataset.tree g.var)
    return ";".intercalate texts
  else .error .unfinishedText

end Selection

end Hyperslab
