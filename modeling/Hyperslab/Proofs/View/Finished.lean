/-
# `Hyperslab.Proofs.View.Finished` — what a finished selection is

Two statements, one about slices and one about variables, over every history of calls.

  * `slices_of_isFinished`: a finished selection has one closed slice at each dimension of
    each variable, inside the dimension, and the slice is the answer to what the history
    asked for there.
  * `vars_of_finish_expand`: finishing with expansion selects the least set that fills in
    the bare compounds, after the segments that were there.

The size that counts for a dimension is the redefined one; `sizeAfter` computes it from
the history alone, and a finished selection reports it as its effective dimension.
-/
import Hyperslab.Proofs.View.History

namespace Hyperslab

/-- An array over a level, and a structure with an array and a sequence in it. -/
def mooring : List Declaration :=
  [.dimension .root "level" 5,
    .var (.group .root) "t" (.atomic .float32) [⟨0⟩],
    .var (.group .root) "profile" .struct [],
    .var (.compound ⟨1⟩) "depth" (.atomic .float32) [⟨0⟩],
    .var (.compound ⟨1⟩) "cast" .sequence [],
    .var (.compound ⟨3⟩) "salt" (.atomic .float32) []]

/-! ## Slices -/

/-- What a slice is for a dimension of a size, when something or nothing was asked for at
its position. -/
structure Slice.Answers (size : Nat) (asked : Option Slice) (s : Slice) : Prop where
  closed : s.stop.isSome
  /-- Every index that is selected is an index of the dimension. -/
  inside : ∀ stop ∈ s.stop, ∀ k, s.first + k * s.stride < stop → s.first + k * s.stride < size
  /-- Where bounds were not asked for, the dimension is taken whole. -/
  free : (∀ q ∈ asked, q.constrained = false) → s = .fill size
  /-- Bounds that were asked for are kept, and an open one ends with the dimension. -/
  kept : ∀ q ∈ asked, q.constrained = true →
    s.first = q.first ∧ s.stride = q.stride ∧ s.stop = some (q.stop.getD size) ∧
      s.constrained = true

namespace Segment

theorem answers_of_resolveSlice {size : Nat} {asked : Option Slice} {s : Slice}
    (h : resolveSlice size (asked.getD .unconstrained) = .ok s) : s.Answers size asked := by
  unfold resolveSlice at h
  cases hc : (asked.getD .unconstrained).constrained with
  | false =>
    rw [hc] at h
    cases h
    refine ⟨rfl, fun stop hs k lt => ?_, fun _ => rfl, fun q hq bounds => ?_⟩
    · cases hs
      exact lt
    · rw [Option.mem_def.1 hq] at hc
      exact absurd (hc.symm.trans bounds) Bool.false_ne_true
  | true =>
    rw [hc, if_pos rfl] at h
    obtain ⟨⟨le, _⟩, rfl⟩ := Slice.complete?_eq_ok_iff.1 h
    refine ⟨rfl, fun stop hs k lt => ?_, fun none => ?_, fun q hq _ => ?_⟩
    · cases hs
      exact Nat.lt_of_lt_of_le lt le
    · cases asked with
      | none => cases hc
      | some q => exact absurd ((none q rfl).symm.trans hc) Bool.false_ne_true
    · rw [Option.mem_def.1 hq] at hc ⊢
      exact ⟨rfl, rfl, rfl, hc⟩

/-- Each position is resolved by itself. -/
theorem resolveSlice_of_resolveSlices {size : DimId → Nat} {xs : List DimId}
    {slices resolved : List Slice} (h : resolveSlices size xs slices = .ok resolved) {i : Nat}
    {x : DimId} {r : Slice} (hx : xs[i]? = some x) (hr : resolved[i]? = some r) :
    resolveSlice (size x) (slices[i]?.getD .unconstrained) = .ok r := by
  induction xs generalizing slices resolved i with
  | nil => cases hx
  | cons y ys ih =>
    obtain ⟨s, rest, hs, hrest, rfl⟩ := exists_of_resolveSlices_cons h
    cases i with
    | zero =>
      cases hx
      cases hr
      rw [← List.head?_eq_getElem?, ← List.headD_eq_head?_getD]
      exact hs
    | succ i =>
      rw [← List.getElem?_tail]
      exact ih hrest hx hr

/-- Where nothing is asked for, all dimensions are taken whole. -/
theorem resolveSlices_nil (size : DimId → Nat) (xs : List DimId) :
    resolveSlices size xs [] = .ok (xs.map fun x => .fill (size x)) := by
  induction xs with
  | nil => rfl
  | cons x xs ih =>
    unfold resolveSlices
    rw [List.tail_nil, ih]
    rfl

/-- A segment without slices resolves. -/
theorem resolve_plain (d : Dataset) (size : DimId → Nat) (v : VarId) :
    (plain v).resolve d size =
      .ok ⟨v, (d.var v).dimensions.map fun x => .fill (size x), none⟩ := by
  have few : ¬ (d.var (plain v).var).dimensions.length < (plain v).slices.length :=
    Nat.not_lt_zero _
  rw [resolve, if_neg few, show (plain v).slices = [] from rfl, resolveSlices_nil]
  rfl

end Segment

/-! ## Sizes -/

/-- The size of a dimension after the redefinitions of a history. -/
def Dataset.sizeAfter (d : Dataset) (calls : List ViewCall) (x : DimId) : Nat :=
  match askedRedefinition? calls x with
  | some slice => slice.countWithin (d.dimension x).size
  | none => (d.dimension x).size

namespace Selection

variable {s t : Selection}

/-- A finished selection reports the sizes that its slices were resolved against. -/
theorem size_effectiveDimension_of_finish {expand : Bool} (unfinished : s.isFinished = false)
    (h : s.finish expand = .ok t) (x : DimId) : (t.effectiveDimension x).size = s.newSize x := by
  obtain ⟨_, _, rfl⟩ := exists_resolved_of_finish unfinished h
  rfl

/-- With dimensions under their own handles, the new dimensions are those of the redefinitions. -/
theorem find?_newDimensions (ids : ∀ x, (s.dataset.dimension x).id = x) (x : DimId) :
    s.newDimensions.find? (fun y => y.id == x) =
      (s.redefinition? x).map (s.dataset.dimension x).redefine := by
  unfold newDimensions redefinition?
  induction s.redefinitions with
  | nil => rfl
  | cons r rs ih =>
    have id : ((s.dataset.dimension r.1).redefine r.2).id = r.1 := ids r.1
    rw [List.map_cons, List.find?_cons, id, ih, List.lookup_cons, Bool.beq_comm]
    split
    · rename_i same
      rw [beq_iff_eq.1 same]
      rfl
    · rfl

theorem newSize_eq (ids : ∀ x, (s.dataset.dimension x).id = x) (x : DimId) :
    s.newSize x = match s.redefinition? x with
      | some slice => slice.countWithin (s.dataset.dimension x).size
      | none => (s.dataset.dimension x).size := by
  rw [newSize, find?_newDimensions ids]
  cases s.redefinition? x <;> rfl

/-- A finished selection reports the redefinitions that were asked for. -/
theorem redefinedDimension?_of_finish {expand : Bool} (unfinished : s.isFinished = false)
    (ids : ∀ x, (s.dataset.dimension x).id = x) (h : s.finish expand = .ok t) (x : DimId) :
    t.redefinedDimension? x = (s.redefinition? x).map (s.dataset.dimension x).redefine := by
  obtain ⟨_, _, rfl⟩ := exists_resolved_of_finish unfinished h
  exact find?_newDimensions ids x

theorem newSize_built {name : String} {xs : List Declaration} {calls : List ViewCall}
    (unfinished : (built (Dataset.built name xs) calls).isFinished = false) (x : DimId) :
    (built (Dataset.built name xs) calls).newSize x =
      (Dataset.built name xs).sizeAfter calls x := by
  rw [newSize_eq (by rw [dataset_built]; exact Dataset.id_dimension_built name xs),
    redefinition?_built unfinished, dataset_built]
  rfl

/-! ## Finished selections -/

/-- What expanding adds was not selected. -/
theorem not_mem_vars_of_mem_drop (nodup : s.vars.Nodup) {v : VarId}
    (hv : v ∈ (s.dataset.expand s.vars).drop s.segments.length) : v ∉ s.vars := by
  have all := s.dataset.nodup_expand nodup
  obtain ⟨added, eq⟩ := Dataset.prefix_expand s.dataset s.vars
  rw [← eq, ← List.length_map Segment.var] at hv
  rw [← eq] at all
  rw [show s.segments.map Segment.var = s.vars from rfl, List.drop_left] at hv
  exact fun old => (List.nodup_append.1 all).2.2 v old v hv rfl

/-- A candidate has the slices of the first call for its variable; one that expanding adds
has none. -/
theorem slices_candidates {d : Dataset} {calls : List ViewCall} {expand : Bool} {g : Segment}
    (unfinished : (built d calls).isFinished = false)
    (hg : g ∈ (built d calls).candidates expand) :
    g.slices = (askedSlices? calls g.var).getD [] := by
  have kept : ∀ {g}, g ∈ (built d calls).segments → g.slices = (askedSlices? calls g.var).getD [] := by
    intro g hg
    rw [← slices?_built unfinished, slices?, segment?_of_mem (nodup_vars_built d calls) hg]
    rfl
  unfold candidates at hg
  split at hg
  · rw [expanded] at hg
    rcases List.mem_append.1 hg with old | added
    · exact kept old
    · obtain ⟨v, hv, rfl⟩ := List.mem_map.1 added
      have new : v ∉ (built d calls).vars := not_mem_vars_of_mem_drop (nodup_vars_built d calls) hv
      have unasked := Option.not_isSome_iff_eq_none.1 (mt isSome_slices?_iff.1 new)
      show [] = (askedSlices? calls v).getD []
      rw [← slices?_built unfinished, unasked]
      rfl
  · exact kept hg

/-- A resolved candidate has one slice for each dimension of its variable, each the answer to
what was asked at its position. -/
theorem answers_of_resolve {d : Dataset} {size : DimId → Nat} {g r : Segment}
    (h : g.resolve d size = .ok r) :
    r.slices.length = d.rank r.var ∧
      ∀ (i : Nat) (x : DimId) (s : Slice), (d.var r.var).dimensions[i]? = some x →
        r.slices[i]? = some s → s.Answers (size x) g.slices[i]? := by
  obtain ⟨var, _, slices⟩ := Segment.of_resolve h
  rw [var]
  exact ⟨Segment.length_resolveSlices slices, fun i x s hx hs =>
    Segment.answers_of_resolveSlice (Segment.resolveSlice_of_resolveSlices slices hx hs)⟩

/-- Finishing leaves one slice for each dimension of a variable. -/
theorem length_slices_of_finish {expand : Bool} (unfinished : s.isFinished = false)
    (h : s.finish expand = .ok t) {r : Segment} (hr : r ∈ t.segments) :
    r.slices.length = t.dataset.rank r.var := by
  obtain ⟨resolved, all, rfl⟩ := exists_resolved_of_finish unfinished h
  obtain ⟨g, _, resolves⟩ := forall₂_mem_right all hr
  exact (answers_of_resolve resolves).1

/-- Every slice of a finished selection is closed, lies inside its dimension, and answers
what the history up to finishing asked for at its position. -/
theorem slices_of_isFinished (name : String) (xs : List Declaration) (calls : List ViewCall)
    (finished : (built (Dataset.built name xs) calls).isFinished = true) :
    let d := Dataset.built name xs
    let s := built d calls
    ∃ before expand after, calls = before ++ .finish expand :: after ∧
      (built d before).isFinished = false ∧ (built d before).finish expand = .ok s ∧
      (∀ x, (s.effectiveDimension x).size = d.sizeAfter before x) ∧
      ∀ g ∈ s.segments, g.slices.length = d.rank g.var ∧
        ∀ (i : Nat) (x : DimId) (r : Slice), (d.var g.var).dimensions[i]? = some x →
          g.slices[i]? = some r →
            r.Answers (s.effectiveDimension x).size ((askedSlices? before g.var).getD [])[i]? := by
  intro d s
  obtain ⟨before, expand, after, history, unfinished, done⟩ := exists_finish_of_isFinished finished
  have size := size_effectiveDimension_of_finish unfinished done
  refine ⟨before, expand, after, history, unfinished, done,
    fun x => (size x).trans (newSize_built unfinished x), fun r hr => ?_⟩
  obtain ⟨resolved, all, eq⟩ := exists_resolved_of_finish unfinished done
  have segments : s.segments = resolved := congrArg segments eq
  rw [segments] at hr
  obtain ⟨g, hg, resolves⟩ := forall₂_mem_right all hr
  obtain ⟨length, answers⟩ := answers_of_resolve resolves
  rw [dataset_built] at length answers
  refine ⟨length, fun i x q hx hq => ?_⟩
  rw [size, (Segment.of_resolve resolves).1, ← slices_candidates unfinished hg]
  exact answers i x q hx hq

/-- A history in which finishing fails first, because index 7 does not fit, and succeeds after
the dimension has been redefined; `cast` and its field are added by expanding. -/
def lateRedefinition : List ViewCall :=
  [.addVariable ⟨0⟩ [.index 7], .addVariable ⟨1⟩ [], .setFilter ⟨0⟩ (.field "t"), .finish true,
    .addRedefinition ⟨0⟩ ⟨0, 1, some 10, true, false⟩, .finish true, .addVariable ⟨2⟩ []]

/-- Up to either call that finishes, index 7 is asked for, and nothing of the depth. -/
theorem asked_lateRedefinition {before after : List ViewCall} {expand : Bool}
    (history : lateRedefinition = before ++ .finish expand :: after) :
    askedSlices? before ⟨0⟩ = some [.index 7] ∧ askedSlices? before ⟨2⟩ = none := by
  have finishes : lateRedefinition[before.length]? = some (.finish expand) := by
    rw [history, List.getElem?_append_right (Nat.le_refl _), Nat.sub_self]
    rfl
  have front : lateRedefinition.take before.length = before := by rw [history, List.take_left]
  have either : ∀ n < 7, ∀ b, lateRedefinition[n]? = some (.finish b) →
      askedSlices? (lateRedefinition.take n) ⟨0⟩ = some [.index 7] ∧
        askedSlices? (lateRedefinition.take n) ⟨2⟩ = none := by decide
  exact front ▸ either before.length (List.getElem?_eq_some_iff.1 finishes).1 expand finishes

/-- The index that was asked for is kept, and the depth is taken whole, at its new size. -/
theorem slices_of_isFinished_lateRedefinition :
    let s := built (Dataset.built "mooring" mooring) lateRedefinition
    s.isFinished = true ∧ (s.effectiveDimension ⟨0⟩).size = 10 ∧
      s.segments = [⟨⟨0⟩, [.index 7], some (.field "t")⟩, ⟨⟨1⟩, [], none⟩, ⟨⟨2⟩, [.fill 10], none⟩,
        ⟨⟨3⟩, [], none⟩, ⟨⟨4⟩, [], none⟩] ∧
      (Slice.index 7).Answers 10 (some (.index 7)) ∧ (Slice.fill 10).Answers 10 none := by
  intro s
  have finished : s.isFinished = true := by decide +kernel
  have size : (s.effectiveDimension ⟨0⟩).size = 10 := by decide +kernel
  have segments : s.segments = [⟨⟨0⟩, [.index 7], some (.field "t")⟩, ⟨⟨1⟩, [], none⟩,
      ⟨⟨2⟩, [.fill 10], none⟩, ⟨⟨3⟩, [], none⟩, ⟨⟨4⟩, [], none⟩] := by decide +kernel
  obtain ⟨before, expand, after, history, -, -, -, answers⟩ :=
    slices_of_isFinished "mooring" mooring lateRedefinition finished
  obtain ⟨index, free⟩ := asked_lateRedefinition history
  have bounded := (answers ⟨⟨0⟩, [.index 7], some (.field "t")⟩ (segments ▸ by simp)).2 0 ⟨0⟩
    (.index 7) rfl rfl
  have filled := (answers ⟨⟨2⟩, [.fill 10], none⟩ (segments ▸ by simp)).2 0 ⟨0⟩ (.fill 10) rfl rfl
  rw [index] at bounded
  rw [free] at filled
  exact ⟨finished, size, segments, size ▸ bounded, size ▸ filled⟩

/-! ## Expanded selections -/

/-- Finishing keeps the segments that were there in front, with variables and filters, and
takes the dimensions of all others whole. -/
theorem exists_append_of_finish_expand (unfinished : s.isFinished = false)
    (h : s.finish true = .ok t) :
    ∃ kept added, t.segments = kept ++ added ∧
      kept.map (fun g => (g.var, g.filter)) = s.segments.map (fun g => (g.var, g.filter)) ∧
      ∀ g ∈ added, g.filter = none ∧
        g.slices = (s.dataset.var g.var).dimensions.map
          fun x => .fill (t.effectiveDimension x).size := by
  have size := size_effectiveDimension_of_finish unfinished h
  obtain ⟨resolved, all, eq⟩ := exists_resolved_of_finish unfinished h
  have segments : t.segments = resolved := congrArg segments eq
  have old := List.forall₂_take s.segments.length all
  have new := List.forall₂_drop s.segments.length all
  rw [show s.candidates true = s.expanded from rfl, expanded, List.take_left] at old
  rw [show s.candidates true = s.expanded from rfl, expanded, List.drop_left] at new
  refine ⟨_, _, segments.trans (List.take_append_drop s.segments.length resolved).symm, ?_,
    fun r hr => ?_⟩
  · refine (map_eq_of_forall₂ (old.imp fun g r hr => ?_)).symm
    rw [(Segment.of_resolve hr).1, (Segment.of_resolve hr).2.1]
  · obtain ⟨g, hg, resolves⟩ := forall₂_mem_right new hr
    obtain ⟨v, _, rfl⟩ := List.mem_map.1 hg
    cases (Segment.resolve_plain _ _ v).symm.trans resolves
    exact ⟨rfl, List.map_congr_left fun x _ => by rw [size]⟩

/-- Finishing with expansion selects the least set that holds the selected variables and,
with each compound of which no field was selected, its fields.  The segments that were
there stay in front, the others are plain, nothing is selected twice, and the work list
of expanding runs empty. -/
theorem vars_of_finish_expand (name : String) (xs : List Declaration) (calls : List ViewCall)
    (unfinished : (built (Dataset.built name xs) calls).isFinished = false) :
    let d := Dataset.built name xs
    let s := built d calls
    (Expansion.runWithin d d.vars.length (Expansion.start d s.vars)).waiting = [] ∧
    ∀ t, s.finish true = .ok t →
      IsLeast {F : Set VarId | (∀ v ∈ s.vars, v ∈ F) ∧ ∀ c ∈ F, (d.var c).isCompound = true →
          (∀ f ∈ d.fields c, f ∉ s.vars) → ∀ f ∈ d.fields c, f ∈ F} {v | v ∈ t.vars} ∧
      (∀ v, v ∈ t.vars ↔ v ∈ s.vars ∨ ∃ a ∈ s.vars, d.Inside a v ∧
        ∀ c, (c = a ∨ d.Inside a c) → d.Inside c v → ∀ f ∈ d.fields c, f ∉ s.vars) ∧
      t.vars.Nodup ∧
      ∃ kept added, t.segments = kept ++ added ∧
        kept.map (fun g => (g.var, g.filter)) = s.segments.map (fun g => (g.var, g.filter)) ∧
        ∀ g ∈ added, g.filter = none ∧
          g.slices = (d.var g.var).dimensions.map
            fun x => .fill (t.effectiveDimension x).size := by
  intro d s
  have forest : d.Forest := Dataset.forest_built name xs
  have nodup : s.vars.Nodup := nodup_vars_built d calls
  have dataset : s.dataset = d := dataset_built d calls
  refine ⟨Expansion.waiting_run forest nodup, fun t done => ?_⟩
  have vars : t.vars = d.expand s.vars := by
    rw [vars_of_finish unfinished done, if_pos rfl, dataset]
  have filled : ∀ v, v ∈ t.vars ↔ d.Filled s.vars v := fun v => by
    rw [vars, Dataset.mem_expand_iff forest nodup]
  refine ⟨?_, fun v => (filled v).trans (Dataset.filled_iff forest), ?_, ?_⟩
  · rw [show {v | v ∈ t.vars} = {v | d.Filled s.vars v} from Set.ext filled]
    exact d.isLeast_filled s.vars
  · rw [vars]
    exact d.nodup_expand nodup
  · rw [← dataset]
    exact exists_append_of_finish_expand unfinished done

/-- The profile with its cast only: the cast is filled in, and the depth is not. -/
def partialProfile : List ViewCall :=
  [.addVariable ⟨1⟩ [], .addVariable ⟨3⟩ [], .setFilter ⟨3⟩ (.field "salt")]

theorem vars_of_finish_expand_partialProfile :
    (built (Dataset.built "mooring" mooring) partialProfile).isFinished = false ∧
    (Expansion.runWithin (Dataset.built "mooring" mooring)
      (Dataset.built "mooring" mooring).vars.length
      (Expansion.start (Dataset.built "mooring" mooring)
        (built (Dataset.built "mooring" mooring) partialProfile).vars)).waiting = [] ∧
    ∃ t, (built (Dataset.built "mooring" mooring) partialProfile).finish true = .ok t ∧
      ((⟨4⟩ : VarId) ∈ t.vars) ∧ ((⟨2⟩ : VarId) ∉ t.vars) ∧ t.vars.Nodup :=
  have unfinished :
      (built (Dataset.built "mooring" mooring) partialProfile).isFinished = false := by decide
  have expanded := vars_of_finish_expand "mooring" mooring partialProfile unfinished
  ⟨unfinished, expanded.1, _, rfl, by decide, by decide, (expanded.2 _ rfl).2.2.1⟩

end Selection

end Hyperslab
