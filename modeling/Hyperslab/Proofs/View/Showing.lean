/-
# `Hyperslab.Proofs.View.Showing` — what the text of a selection depends on

The text is made of the names and fields of variables and of what a mode shows of the segments:
the variable, the slices, and in one mode the filter.  Selections that agree in these have the
same text (`ShowsLike.render_eq`), whatever else they hold, and over whatever sizes and values
their datasets have.
-/
import Hyperslab.View.Rendering

namespace Hyperslab

/-- What a mode shows of a segment. -/
def Segment.visible (mode : RenderMode) (g : Segment) : VarId × List Slice × String :=
  (g.var, g.slices, g.renderFilter mode)

theorem Segment.visible_inj {mode : RenderMode} {g k : Segment}
    (same : g.visible mode = k.visible mode) :
    g.var = k.var ∧ g.slices = k.slices ∧ g.renderFilter mode = k.renderFilter mode :=
  ⟨congrArg Prod.fst same, congrArg (fun x => x.2.1) same, congrArg (fun x => x.2.2) same⟩

namespace Selection

/-- Two selections that a mode shows alike. -/
structure ShowsLike (mode : RenderMode) (s t : Selection) : Prop where
  var : s.dataset.var = t.dataset.var
  name : s.dataset.variableName = t.dataset.variableName
  tree : s.dataset.tree = t.dataset.tree
  finished : s.isFinished = t.isFinished
  segments : s.segments.map (Segment.visible mode) = t.segments.map (Segment.visible mode)

namespace ShowsLike

variable {mode : RenderMode} {s t : Selection}

theorem contains_eq (h : s.ShowsLike mode t) : s.contains = t.contains := by
  have vars : ∀ u : Selection, u.vars = (u.segments.map (Segment.visible mode)).map Prod.fst := by
    intro u
    rw [List.map_map]
    rfl
  funext v
  rw [contains, contains, vars s, vars t, h.segments]

/-- The segments of a variable look alike. -/
theorem segment?_eq (h : s.ShowsLike mode t) (v : VarId) :
    (s.segment? v).map (Segment.visible mode) = (t.segment? v).map (Segment.visible mode) := by
  have found : ∀ u : Selection, (u.segment? v).map (Segment.visible mode) =
      (u.segments.map (Segment.visible mode)).find? fun x => x.1 == v := by
    intro u
    rw [List.find?_map]
    rfl
  rw [found s, found t, h.segments]

mutual

theorem isWhole_eq (h : s.ShowsLike mode t) : (x : VariableTree) → s.isWhole x = t.isWhole x
  | .node _ fields => h.areWhole_eq fields

theorem areWhole_eq (h : s.ShowsLike mode t) : (xs : List VariableTree) →
    s.areWhole xs = t.areWhole xs
  | [] => rfl
  | x :: rest => by
    rw [areWhole, areWhole, h.contains_eq, h.isWhole_eq x, h.areWhole_eq rest]

end

theorem renderHead_eq (h : s.ShowsLike mode t) {g k : Segment}
    (same : g.visible mode = k.visible mode) : s.renderHead mode g = t.renderHead mode k := by
  obtain ⟨var, slices, -⟩ := Segment.visible_inj same
  have rank : s.dataset.rank g.var = t.dataset.rank k.var := by
    rw [Dataset.rank, Dataset.rank, h.var, var]
  have name : s.renderName g.var = t.renderName k.var := by
    rw [renderName, renderName, h.var, h.name, var]
  rw [renderHead, renderHead, rank, name, slices, h.name, var]

theorem braces_eq (h : s.ShowsLike mode t) (v : VarId) : s.braces v = t.braces v := by
  funext texts
  rw [braces, braces, h.name]

mutual

theorem renderSegment_eq (h : s.ShowsLike mode t) {g k : Segment}
    (same : g.visible mode = k.visible mode) : (x : VariableTree) →
    s.renderSegment mode g x = t.renderSegment mode k x
  | .node v fields => by
    rw [renderSegment, renderSegment, h.renderHead_eq same, h.var, h.areWhole_eq fields,
      h.renderFields_eq fields, h.braces_eq, (Segment.visible_inj same).2.2]

theorem renderFields_eq (h : s.ShowsLike mode t) : (xs : List VariableTree) →
    s.renderFields mode xs = t.renderFields mode xs
  | [] => rfl
  | x :: rest => by
    have found := h.segment?_eq x.top
    rw [renderFields, renderFields, h.renderFields_eq rest]
    cases hs : s.segment? x.top with
    | none =>
      rw [hs, Option.map_none] at found
      rw [Option.map_eq_none_iff.1 found.symm]
    | some g =>
      rw [hs, Option.map_some] at found
      obtain ⟨k, hk, same⟩ := Option.map_eq_some_iff.1 found.symm
      rw [hk]
      dsimp only
      rw [h.renderSegment_eq same.symm x]

end

/-- The segments outside of compounds look alike. -/
theorem topSegments_eq (h : s.ShowsLike mode t) :
    s.topSegments.map (Segment.visible mode) = t.topSegments.map (Segment.visible mode) := by
  have top : ∀ u : Selection, u.topSegments.map (Segment.visible mode) =
      (u.segments.map (Segment.visible mode)).filter fun x => (u.dataset.var x.1).isTopLevel := by
    intro u
    rw [List.filter_map]
    rfl
  rw [top s, top t, h.segments, h.var]

/-- Elements that look alike are mapped alike. -/
theorem mapM_eq {α β γ ε : Type} {f g : α → Except ε β} {look : α → γ}
    (alike : ∀ a b, look a = look b → f a = g b) {as bs : List α}
    (same : as.map look = bs.map look) : as.mapM f = bs.mapM g := by
  induction as generalizing bs with
  | nil =>
    rw [List.map_eq_nil_iff.1 same.symm]
    rfl
  | cons a as ih =>
    obtain ⟨b, rest, rfl, head, tail⟩ := List.map_eq_cons_iff.1 same.symm
    rw [List.mapM_cons, List.mapM_cons, alike a b head.symm, ih tail.symm]

/-- Selections that a mode shows alike have one text. -/
theorem render_eq (h : s.ShowsLike mode t) : s.render mode = t.render mode := by
  have texts : s.topSegments.mapM (fun g => s.renderSegment mode g (s.dataset.tree g.var)) =
      t.topSegments.mapM fun g => t.renderSegment mode g (t.dataset.tree g.var) := by
    refine mapM_eq (fun g k same => ?_) h.topSegments_eq
    rw [h.tree, (Segment.visible_inj same).1, h.renderSegment_eq same]
  rw [render, render, h.finished, texts]

end ShowsLike

end Selection

end Hyperslab
