/-
# `Hyperslab.Proofs.View.Everything` — a selection of everything is the whole dataset

There are two ways to take a whole dataset: the universal view, which reads it off the
declarations, and a selection of all variables outside of compounds that is finished with
expansion.  They say the same (`everything_agrees`).

Both walks meet every variable once.  The selection gets to a field through its owners,
from a variable outside of compounds downwards: an owner that is not chosen has no chosen
field, since only variables outside of compounds were chosen (`mem_expand_topLevel_iff`).
So the finished segments are all variables taken whole (`finish_everything`).  The order is
another one than that of the declarations, but the variables outside of compounds stay in
front, and the text shows only these.
-/
import Hyperslab.Proofs.Dataset.GroupOrder
import Hyperslab.Proofs.View.Finished
import Hyperslab.Proofs.View.Pieces
import Hyperslab.View.Basic

namespace Hyperslab

/-! ## Variables outside of compounds -/

namespace Dataset

variable {d : Dataset}

/-- The calls that select all variables outside of compounds, in their order. -/
def everything (d : Dataset) : List ViewCall :=
  d.topLevelVariables.map fun v => .addVariable v []

/-- Where only variables outside of compounds are chosen, all compounds are bare. -/
theorem isBare_of_isTopLevel (forest : d.Forest) {chosen : List VarId}
    (top : ∀ v ∈ chosen, (d.var v).isTopLevel = true) {c f : VarId} (hf : f ∈ d.fields c) :
    Expansion.isBare d chosen c = true := by
  refine Expansion.isBare_iff.2 ⟨isCompound_of_mem_fields hf, fun k hk there => ?_⟩
  exact forest.not_inside_of_isTopLevel (top k there) (.single hk)

/-- Expanding the variables outside of compounds chooses all variables. -/
theorem mem_expand_topLevel_iff (forest : d.Forest) (tree : GroupTree d) (listing : Listing d)
    {v : VarId} : v ∈ d.expand d.topLevelVariables ↔ v.index < d.vars.length := by
  rw [mem_expand_iff forest (tree.nodup_topLevelVariables listing)]
  constructor
  · intro filled
    cases filled with
    | chosen hv => exact ((tree.mem_topLevelVariables_iff listing).1 hv).1
    | field _ _ hf => exact lt_length_of_owner (forest.owned.1 hf)
  · intro below
    have top : ∀ u ∈ d.topLevelVariables, (d.var u).isTopLevel = true := fun u hu =>
      ((tree.mem_topLevelVariables_iff listing).1 hu).2
    obtain ⟨u, outer, inside⟩ := forest.exists_top v
    rcases inside with rfl | inside
    · exact .chosen ((tree.mem_topLevelVariables_iff listing).2 ⟨below, outer⟩)
    · have chosen : d.Filled d.topLevelVariables u := .chosen
        ((tree.mem_topLevelVariables_iff listing).2
          ⟨Nat.lt_trans (forest.lt_of_inside inside) below, outer⟩)
      -- down from the variable outside of compounds, one owner after the other
      clear below
      induction inside with
      | single hf => exact .field chosen (isBare_of_isTopLevel forest top hf) hf
      | tail _ hf ih => exact .field ih (isBare_of_isTopLevel forest top hf) hf

/-- Expanding the variables outside of compounds adds none outside of compounds. -/
theorem filter_expand_topLevel (forest : d.Forest) (tree : GroupTree d) (listing : Listing d) :
    ((d.expand d.topLevelVariables).filter fun v => (d.var v).isTopLevel) =
      d.topLevelVariables := by
  have top : ∀ v ∈ d.topLevelVariables, (d.var v).isTopLevel = true := fun v hv =>
    ((tree.mem_topLevelVariables_iff listing).1 hv).2
  have distinct := d.nodup_expand (tree.nodup_topLevelVariables listing)
  have below : ∀ v, v ∈ d.expand d.topLevelVariables → v.index < d.vars.length := fun v =>
    (mem_expand_topLevel_iff forest tree listing).1
  obtain ⟨added, eq⟩ := d.prefix_expand d.topLevelVariables
  rw [← eq] at distinct below ⊢
  have fields : (added.filter fun v => (d.var v).isTopLevel) = [] := by
    refine List.filter_eq_nil_iff.2 fun v hv out => ?_
    have old := (tree.mem_topLevelVariables_iff listing).2 ⟨below v (List.mem_append_right _ hv), out⟩
    exact (List.nodup_append.1 distinct).2.2 v old v hv rfl
  rw [List.filter_append, List.filter_eq_self.2 top, fields, List.append_nil]

end Dataset

/-- A variable with all its dimensions taken whole. -/
def Segment.whole (d : Dataset) (v : VarId) : Segment := ⟨v, d.wholeSlices v, none⟩

namespace Selection

variable {d : Dataset} {s : Selection} {mode : RenderMode} {vs : List VarId}

/-! ## Finishing -/

/-- Variables without slices and filters. -/
def ofVars (d : Dataset) (vs : List VarId) : Selection :=
  { empty d with segments := vs.map Segment.plain }

theorem vars_ofVars (d : Dataset) (vs : List VarId) : (ofVars d vs).vars = vs :=
  (List.map_map ..).trans (List.map_id vs)

theorem candidates_ofVars (d : Dataset) (vs : List VarId) :
    (ofVars d vs).candidates true = (d.expand vs).map Segment.plain := by
  obtain ⟨added, eq⟩ := d.prefix_expand vs
  show (ofVars d vs).expanded = _
  rw [expanded, vars_ofVars, show (ofVars d vs).segments = vs.map Segment.plain from rfl,
    show (ofVars d vs).dataset = d from rfl, List.length_map, ← eq, List.drop_left, List.map_append]

theorem ofVars_concat (d : Dataset) (vs : List VarId) (v : VarId) :
    ofVars d (vs ++ [v]) =
      { ofVars d vs with segments := (ofVars d vs).segments ++ [Segment.plain v] } := by
  rw [ofVars, List.map_append]
  rfl

/-- Variables that are added without slices have plain segments. -/
theorem built_addVariables (d : Dataset) (nodup : vs.Nodup) :
    built d (vs.map fun v => .addVariable v []) = ofVars d vs := by
  induction vs using List.reverseRecOn with
  | nil => rfl
  | append_singleton vs v ih =>
    obtain ⟨old, -, new⟩ := List.nodup_append.1 nodup
    have fresh : ¬ (ofVars d vs).contains v = true := by
      rw [contains_iff, vars_ofVars]
      exact fun there => new v there v (List.mem_singleton_self v) rfl
    rw [List.map_append, List.map_singleton, built_concat, ih old, perform_addVariable rfl,
      if_neg fresh, ofVars_concat]
    rfl

/-- Finishing takes all dimensions whole. -/
theorem finish_ofVars (d : Dataset) (vs : List VarId) : ∃ t, (ofVars d vs).finish true = .ok t ∧
    t.dataset = d ∧ t.segments = (d.expand vs).map (Segment.whole d) := by
  have resolved : ((d.expand vs).map Segment.plain).mapM
      (Segment.resolve (ofVars d vs).dataset (ofVars d vs).newSize) =
        .ok (((d.expand vs).map Segment.plain).map fun g => Segment.whole d g.var) := by
    refine mapM_eq_ok_map fun g hg => ?_
    obtain ⟨v, _, rfl⟩ := List.mem_map.1 hg
    exact Segment.resolve_plain ..
  rw [finish_of_unfinished rfl, candidates_ofVars, resolved]
  exact ⟨_, rfl, rfl, List.map_map ..⟩

/-! ## The text -/

/-- Dimensions that are taken whole have empty brackets. -/
theorem renderHead_whole (s : Selection) (mode : RenderMode) (v : VarId) :
    s.renderHead mode (.whole s.dataset v) =
      .ok (s.renderName v ++ String.join (List.replicate (s.dataset.rank v) "[]")) := by
  have rank : (Segment.whole s.dataset v).slices.length = s.dataset.rank v := List.length_map _
  have brackets : (Segment.whole s.dataset v).slices.map (Slice.render mode) =
      List.replicate (s.dataset.rank v) "[]" := by
    rw [← rank]
    refine List.map_eq_replicate_iff.2 fun q hq => ?_
    obtain ⟨x, _, rfl⟩ := List.mem_map.1 hq
    rfl
  rw [← brackets]
  exact if_pos rank

/-- Where nothing inside is left out, there are no braces. -/
theorem Whole.renderSegment_eq (forest : s.dataset.Forest) {v : VarId} (whole : s.Whole v) :
    s.renderSegment mode (.whole s.dataset v) (s.dataset.tree v) =
      .ok (s.renderName v ++ String.join (List.replicate (s.dataset.rank v) "[]")) := by
  rw [forest.tree_eq, renderSegment, renderHead_whole, (areWhole_fields_iff forest v).2 whole,
    Bool.not_true, Bool.and_false]
  show Except.ok (_ ++ "" ++ (Segment.whole s.dataset v).renderFilter mode) = _
  have filter : (Segment.whole s.dataset v).renderFilter mode = "" := by cases mode <;> rfl
  rw [filter, String.append_empty, String.append_empty]

/-! ## Selections of everything -/

/-- A finished selection of all variables with all dimensions taken whole, in an order that
keeps the one of the variables outside of compounds. -/
structure TakesAll (s : Selection) (vs : List VarId) : Prop where
  finished : s.isFinished = true
  segments : s.segments = vs.map (Segment.whole s.dataset)
  nodup : vs.Nodup
  complete : ∀ v, v ∈ vs ↔ v ∈ s.dataset.variableIds
  order : (vs.filter fun v => (s.dataset.var v).isTopLevel) = s.dataset.topLevelVariables

namespace TakesAll

theorem vars_eq (h : s.TakesAll vs) : s.vars = vs := by
  rw [vars, h.segments, List.map_map]
  exact List.map_id vs

theorem slices?_eq (h : s.TakesAll vs) {v : VarId} (hv : v ∈ vs) :
    s.slices? v = some (s.dataset.wholeSlices v) := by
  have there : Segment.whole s.dataset v ∈ s.segments := by
    rw [h.segments]
    exact List.mem_map_of_mem hv
  have found := segment?_of_mem (h.vars_eq.symm ▸ h.nodup) there
  rw [slices?, show s.segment? v = _ from found]
  rfl

theorem whole (h : s.TakesAll vs) (forest : s.dataset.Forest) (v : VarId) : s.Whole v := by
  intro u inside
  rw [h.vars_eq, h.complete, Dataset.mem_variableIds]
  exact forest.lt_length_of_inside inside

theorem render_eq (h : s.TakesAll vs) (forest : s.dataset.Forest) (mode : RenderMode) :
    s.render mode = .ok s.dataset.renderWhole := by
  have top : s.topSegments = s.dataset.topLevelVariables.map (Segment.whole s.dataset) := by
    rw [topSegments, h.segments, List.filter_map, ← h.order]
    rfl
  have texts : s.topSegments.mapM (fun g => s.renderSegment mode g (s.dataset.tree g.var)) =
      .ok (s.topSegments.map fun g =>
        s.dataset.variableName g.var ++ String.join (List.replicate (s.dataset.rank g.var) "[]")) := by
    refine mapM_eq_ok_map fun g hg => ?_
    have qualified : s.renderName g.var = s.dataset.variableName g.var :=
      if_pos (List.mem_filter.1 hg).2
    rw [top] at hg
    obtain ⟨v, _, rfl⟩ := List.mem_map.1 hg
    exact qualified ▸ (h.whole forest v).renderSegment_eq forest
  rw [render, if_pos h.finished, texts, top, List.map_map]
  rfl

theorem exists_summary (h : s.TakesAll vs) :
    ∃ a, s.summary = .ok a ∧ a.segments.Perm s.dataset.wholeSummary.segments := by
  refine ⟨_, if_pos h.finished, ?_⟩
  have same : vs.Perm s.dataset.variableIds :=
    (List.perm_ext_iff_of_nodup h.nodup s.dataset.nodup_variableIds).2 h.complete
  show (s.segments.map s.segmentSummary).Perm _
  rw [h.segments, List.map_map]
  exact same.map _

end TakesAll

theorem takesAll_of_finish_ofVars (forest : d.Forest) (tree : d.GroupTree) (listing : d.Listing)
    (h : (ofVars d d.topLevelVariables).finish true = .ok s) :
    s.TakesAll (d.expand d.topLevelVariables) := by
  obtain ⟨t, done, dataset, segments⟩ := finish_ofVars d d.topLevelVariables
  cases done.symm.trans h
  subst dataset
  exact ⟨isFinished_of_finish done, segments,
    s.dataset.nodup_expand (tree.nodup_topLevelVariables listing),
    fun v => (Dataset.mem_expand_topLevel_iff forest tree listing).trans
      Dataset.mem_variableIds.symm,
    Dataset.filter_expand_topLevel forest tree listing⟩

/-- Selecting every variable outside of compounds without slices and finishing with expansion
succeeds.  The selection has all variables, and it answers like the whole dataset: it has the
same slices, the same texts and, up to their order, the same entries in the summary, and it
needs nothing that the whole dataset does not need. -/
theorem everything_agrees (name : String) (xs : List Declaration) :
    let d := Dataset.built name xs
    let s := built d (d.everything ++ [.finish true])
    let w := View.selection s
    let u := View.universal d
    (built d d.everything).isFinished = false ∧ (built d d.everything).finish true = .ok s ∧
    (∀ v, v ∈ s.vars ↔ v ∈ d.variableIds) ∧
    (∀ v ∈ d.variableIds, w.slices? v = u.slices? v) ∧
    (∀ mode, w.render mode = u.render mode) ∧
    (∃ a b, w.summary = .ok a ∧ u.summary = .ok b ∧ a.segments.Perm b.segments) ∧
    ∀ n, w.references n = true → u.references n = true := by
  intro d s w u
  have forest : d.Forest := Dataset.forest_built name xs
  have tree : d.GroupTree := Dataset.groupTree_built name xs
  have listing : d.Listing := Dataset.listing_built name xs
  have dataset : s.dataset = d := dataset_built d _
  have before : built d d.everything = ofVars d d.topLevelVariables :=
    built_addVariables d (tree.nodup_topLevelVariables listing)
  have done : (ofVars d d.topLevelVariables).finish true = .ok s := by
    obtain ⟨t, done, -⟩ := finish_ofVars d d.topLevelVariables
    rw [show s = _ from built_concat .., before, perform_finish_of_ok done]
    exact done
  have all := takesAll_of_finish_ofVars forest tree listing done
  have complete : ∀ v, v ∈ s.vars ↔ v ∈ d.variableIds := fun v => by
    rw [all.vars_eq, all.complete, dataset]
  refine ⟨by rw [before]; rfl, before ▸ done, complete, fun v hv => ?_, fun mode => ?_, ?_,
    fun n needed => ?_⟩
  · exact (all.slices?_eq (all.vars_eq ▸ (complete v).2 hv)).trans (by rw [dataset]; rfl)
  · exact (all.render_eq (dataset ▸ forest) mode).trans (by rw [dataset]; rfl)
  · obtain ⟨a, summary, same⟩ := all.exists_summary
    exact ⟨a, _, summary, rfl, dataset ▸ same⟩
  · cases n with
    | ofAttribute => cases needed
    | ofGroup | ofDimension | ofEnumeration | ofVariable => rfl

theorem everything_agrees_mooring :
    let d := Dataset.built "mooring" mooring
    let s := built d (d.everything ++ [.finish true])
    (View.selection s).render .display = (View.universal d).render .display ∧
    (View.selection s).render .display = .ok "/t[];/profile" ∧ (⟨4⟩ : VarId) ∈ s.vars := by
  obtain ⟨-, -, complete, -, text, -⟩ := everything_agrees "mooring" mooring
  exact ⟨text .display, (text .display).trans (by rfl), (complete ⟨4⟩).2 (by decide)⟩

end Selection

end Hyperslab
