/-
# `Hyperslab.Proofs.View.NormalForm` — a finished selection asks for itself

What a finished selection holds can be asked for again: its redefinitions, and then for each
segment the variable with its slices and the filter (`Selection.retelling`).  On a fresh
selection these calls and one more to finish give the same finished selection
(`finish_retelling`).

Two passes of finishing have to be idempotent for this.  A resolved slice is resolved to itself,
since it is closed and fits, or is the slice that fills its dimension (`resolve_of_resolve`).
And expanding what is expanded adds nothing: a compound that is still bare was bare before, so
all its fields have been added, and it has none (`expand_expand`).  Without the first expansion
the second one need not be idle, so a selection that was finished without expansion has to be
finished without expansion again.
-/
import Hyperslab.Proofs.View.Closure
import Hyperslab.Proofs.View.Finished
import Hyperslab.Proofs.View.Showing

namespace Hyperslab

/-! ## Passes that are idempotent -/

/-- A completed slice is complete. -/
theorem Slice.complete?_of_complete? {s t : Slice} {length : Nat}
    (h : s.complete? length = .ok t) : t.complete? length = .ok t := by
  obtain ⟨fits, rfl⟩ := Slice.complete?_eq_ok_iff.1 h
  exact Slice.complete?_eq_ok_iff.2 ⟨fits, rfl⟩

namespace Segment

theorem resolveSlice_of_resolveSlice {size : Nat} {q r : Slice}
    (h : resolveSlice size q = .ok r) : resolveSlice size r = .ok r := by
  have bounds := constrained_of_resolveSlice h
  unfold resolveSlice at h ⊢
  cases asked : q.constrained with
  | true =>
    rw [asked, if_pos rfl] at h
    rw [bounds, asked, if_pos rfl]
    exact Slice.complete?_of_complete? h
  | false =>
    rw [asked, if_neg Bool.false_ne_true] at h
    rw [bounds, asked, if_neg Bool.false_ne_true]
    exact h

theorem resolveSlices_of_resolveSlices {size : DimId → Nat} {xs : List DimId}
    {slices resolved : List Slice} (h : resolveSlices size xs slices = .ok resolved) :
    resolveSlices size xs resolved = .ok resolved := by
  induction xs generalizing slices resolved with
  | nil => cases h; rfl
  | cons x xs ih =>
    obtain ⟨r, rest, hr, hrest, rfl⟩ := exists_of_resolveSlices_cons h
    have head : resolveSlice (size x) (sliceAt (r :: rest)) = .ok r :=
      resolveSlice_of_resolveSlice hr
    rw [resolveSlices, head, List.tail_cons, ih hrest]
    rfl

/-- A resolved segment is resolved to itself. -/
theorem resolve_of_resolve {d : Dataset} {size : DimId → Nat} {g r : Segment}
    (h : g.resolve d size = .ok r) : r.resolve d size = .ok r := by
  obtain ⟨var, -, slices⟩ := of_resolve h
  rw [← var] at slices
  have length := length_resolveSlices slices
  rw [resolve, if_neg (Nat.not_lt.2 (Nat.le_of_eq length)), resolveSlices_of_resolveSlices slices]

end Segment

/-- Expanding what is expanded adds nothing. -/
theorem Dataset.expand_expand {d : Dataset} (forest : d.Forest) {chosen : List VarId}
    (nodup : chosen.Nodup) : d.expand (d.expand chosen) = d.expand chosen := by
  have distinct := d.nodup_expand nodup
  have closed : ∀ v, d.Filled (d.expand chosen) v → v ∈ d.expand chosen := by
    intro v filled
    induction filled with
    | chosen hv => exact hv
    | @field c f _ bare hf ih =>
      -- what is bare after expanding was bare before, and so it is filled in
      obtain ⟨compound, none⟩ := Expansion.isBare_iff.1 bare
      have before : Expansion.isBare d chosen c = true := Expansion.isBare_iff.2
        ⟨compound, fun k hk old => none k hk ((d.prefix_expand chosen).subset old)⟩
      exact (mem_expand_iff forest nodup).2 (.field ((mem_expand_iff forest nodup).1 ih) before hf)
  obtain ⟨added, eq⟩ := d.prefix_expand (d.expand chosen)
  have idle : added = [] := by
    refine List.eq_nil_iff_forall_not_mem.2 fun v hv => ?_
    have again : v ∈ d.expand (d.expand chosen) := eq ▸ List.mem_append_right _ hv
    have old := closed v ((mem_expand_iff forest distinct).1 again)
    have apart := d.nodup_expand distinct
    rw [← eq] at apart
    exact (List.nodup_append.1 apart).2.2 v old v hv rfl
  rw [← eq, idle, List.append_nil]

/-! ## Asking again -/

/-- The calls for a segment as it is. -/
def Segment.retelling (g : Segment) : List ViewCall :=
  .addVariable g.var g.slices :: g.filter.toList.map (.setFilter g.var)

/-- The calls for all that a selection holds, except for its attributes. -/
def Selection.retelling (s : Selection) : List ViewCall :=
  s.redefinitions.map (fun r => .addRedefinition r.1 r.2) ++
    s.segments.flatMap Segment.retelling

namespace Selection

variable {d : Dataset} {s t u : Selection} {calls : List ViewCall}

/-- All calls succeed, and this is what they make of the selection. -/
def Takes (s : Selection) (calls : List ViewCall) (t : Selection) : Prop :=
  s.run calls = (calls.map fun _ => .ok (), t)

theorem Takes.append {xs ys : List ViewCall} (h : s.Takes xs t) (k : t.Takes ys u) :
    s.Takes (xs ++ ys) u := by
  unfold Takes at *
  rw [run_append, h, k, List.map_append]

theorem Takes.cons {c : ViewCall} {rest : List ViewCall} (h : s.perform c = (.ok (), t))
    (k : t.Takes rest u) : s.Takes (c :: rest) u := by
  unfold Takes at *
  rw [run, h]
  dsimp only
  rw [k]
  rfl

/-- Redefinitions of other dimensions are added. -/
theorem takes_redefinitions (unfinished : s.isFinished = false) {rs : List (DimId × Slice)}
    (nodup : ((s.redefinitions ++ rs).map Prod.fst).Nodup) :
    s.Takes (rs.map fun r => .addRedefinition r.1 r.2)
      { s with redefinitions := s.redefinitions ++ rs } := by
  induction rs generalizing s with
  | nil => rw [List.append_nil]; rfl
  | cons r rs ih =>
    have new : s.redefinition? r.1 = none := by
      rw [List.map_append, List.nodup_append] at nodup
      refine List.lookup_eq_none_iff.2 fun q hq => ?_
      have other := nodup.2.2 q.1 (List.mem_map_of_mem hq) r.1 (List.mem_cons_self ..)
      exact bne_iff_ne.2 other.symm
    have added := perform_addRedefinition unfinished r.1 r.2
    rw [new, Option.isSome_none, if_neg Bool.false_ne_true] at added
    rw [List.append_cons] at nodup
    have rest := ih (s := { s with redefinitions := s.redefinitions ++ [r] }) unfinished nodup
    rw [show s.redefinitions ++ r :: rs = s.redefinitions ++ [r] ++ rs from List.append_cons ..]
    exact .cons added rest

/-- A segment of a new variable is added as it is. -/
theorem takes_segment (unfinished : s.isFinished = false) {g : Segment} (new : g.var ∉ s.vars) :
    s.Takes g.retelling { s with segments := s.segments ++ [g] } := by
  have added := perform_addVariable unfinished g.var g.slices
  rw [if_neg fun there => new (contains_iff.1 there)] at added
  refine .cons added ?_
  cases filter : g.filter with
  | none =>
    rw [show g = ⟨g.var, g.slices, none⟩ by rw [← filter]]
    rfl
  | some e =>
    refine .cons (perform_setFilter
      (s := { s with segments := s.segments ++ [⟨g.var, g.slices, none⟩] }) unfinished g.var e) ?_
    -- the filter goes to the last segment, since its variable has no other
    have others : (s.segments.map fun k =>
        if k.var = g.var then { k with filter := some e } else k) = s.segments := by
      refine (List.map_congr_left fun k hk => if_neg fun same => new ?_).trans (List.map_id _)
      exact same ▸ List.mem_map_of_mem hk
    have last : (⟨g.var, g.slices, some e⟩ : Segment) = g := by rw [← filter]
    rw [List.map_append, others, List.map_singleton, if_pos rfl, last]
    rfl

theorem takes_segments (unfinished : s.isFinished = false) {gs : List Segment}
    (nodup : ((s.segments ++ gs).map Segment.var).Nodup) :
    s.Takes (gs.flatMap Segment.retelling) { s with segments := s.segments ++ gs } := by
  induction gs generalizing s with
  | nil => rw [List.append_nil]; rfl
  | cons g gs ih =>
    have new : g.var ∉ s.vars := by
      rw [List.map_append, List.nodup_append] at nodup
      exact fun there => nodup.2.2 g.var there g.var (List.mem_cons_self ..) rfl
    rw [List.append_cons] at nodup
    rw [List.flatMap_cons, List.append_cons]
    exact (takes_segment unfinished new).append
      (ih (s := { s with segments := s.segments ++ [g] }) unfinished nodup)

/-- What is retold is there before finishing. -/
theorem takes_retelling (d : Dataset) (vars : s.vars.Nodup)
    (dimensions : (s.redefinitions.map Prod.fst).Nodup) :
    (empty d).Takes s.retelling
      { empty d with segments := s.segments, redefinitions := s.redefinitions } :=
  (takes_redefinitions (s := empty d) rfl dimensions).append
    (takes_segments (s := { empty d with redefinitions := s.redefinitions }) rfl vars)

/-- No dimension is redefined twice. -/
theorem nodup_redefinitions_built (d : Dataset) (calls : List ViewCall) :
    ((built d calls).redefinitions.map Prod.fst).Nodup := by
  refine built_history (P := fun _ s => (s.redefinitions.map Prod.fst).Nodup) List.nodup_nil ?_
    (fun _ h => h) calls
  intro calls s c t unfinished nodup step
  cases step with
  | selectAgain | select | redefineAgain | overlay | filter | failFinish => exact nodup
  | @redefine x slice new =>
    show ((s.redefinitions ++ [(x, slice)]).map Prod.fst).Nodup
    rw [List.map_append, List.map_singleton, ← List.concat_eq_append]
    refine nodup.concat fun there => ?_
    obtain ⟨q, hq, rfl⟩ := List.mem_map.1 there
    exact absurd (List.lookup_eq_none_iff.1 new q hq) (by simp)
  | finish done =>
    obtain ⟨_, _, rfl⟩ := exists_resolved_of_finish unfinished done
    exact nodup

/-! ## The text -/

/-- The selection with other attributes. -/
def withOverlays (s : Selection) (os : List (Node × Attribute)) : Selection :=
  { s with overlays := os }

/-- Attributes do not show in the text. -/
theorem render_withOverlays (s : Selection) (os : List (Node × Attribute)) (mode : RenderMode) :
    (s.withOverlays os).render mode = s.render mode :=
  ShowsLike.render_eq ⟨rfl, rfl, rfl, rfl, rfl⟩

/-! ## Finishing again -/

/-- Finishing what is finished already gives the same, unless only the second time expands. -/
theorem finish_of_finish {expand again : Bool} (forest : s.dataset.Forest) (nodup : s.vars.Nodup)
    (unfinished : s.isFinished = false) (h : s.finish expand = .ok t)
    (flag : again = true → expand = true) :
    ({ t with overlays := [], outcome := none } : Selection).finish again =
      .ok (t.withOverlays []) := by
  have vars := vars_of_finish unfinished h
  obtain ⟨dimensions, enums, groups⟩ := needs_of_finish unfinished h
  obtain ⟨resolved, all, rfl⟩ := exists_resolved_of_finish unfinished h
  let told : Selection := { s with segments := resolved, overlays := [], outcome := none }
  have candidates : told.candidates again = resolved := by
    cases again with
    | false => rfl
    | true =>
      rw [flag rfl, if_pos rfl] at vars
      have vars : told.vars = s.dataset.expand s.vars := vars
      have length : told.segments.length = told.vars.length := (List.length_map _).symm
      show told.expanded = resolved
      rw [expanded, length, vars, Dataset.expand_expand forest nodup, List.drop_length,
        List.map_nil, List.append_nil]
  have resolves : resolved.mapM (Segment.resolve told.dataset told.newSize) = .ok resolved := by
    have kept : resolved.mapM (Segment.resolve told.dataset told.newSize) =
        .ok (resolved.map id) := mapM_eq_ok_map fun r hr => by
      obtain ⟨g, _, resolves⟩ := forall₂_mem_right all hr
      exact Segment.resolve_of_resolve resolves
    rwa [List.map_id] at kept
  have outcome : told.outcomeOf resolved = s.outcomeOf (s.candidates expand) := by
    show Outcome.mk s.newDimensions (s.dataset.neededDimensions resolved)
      (s.dataset.neededEnums resolved) (s.dataset.neededGroups resolved _ _) = _
    rw [← show _ = s.dataset.neededDimensions resolved from dimensions,
      ← show _ = s.dataset.neededEnums resolved from enums,
      ← show _ = s.dataset.neededGroups resolved _ _ from groups]
    rfl
  show told.finish again = _
  rw [finish_of_unfinished rfl, candidates, resolves, outcome]
  rfl

/-- A finished selection is a normal form: on a fresh selection, the calls for what it holds and
one more to finish all succeed, and they give the same segments, redefinitions, needs and texts.
Finishing again may expand if the selection was expanded, and must not otherwise. -/
theorem finish_retelling (name : String) (xs : List Declaration) (calls : List ViewCall)
    (finished : (built (Dataset.built name xs) calls).isFinished = true) :
    let d := Dataset.built name xs
    let s := built d calls
    ∃ before expand after, calls = before ++ .finish expand :: after ∧
      (built d before).isFinished = false ∧ (built d before).finish expand = .ok s ∧
      ∀ again, (again = true → expand = true) →
        let t := built d (s.retelling ++ [.finish again])
        (∀ answer ∈ ((empty d).run (s.retelling ++ [.finish again])).1, answer = .ok ()) ∧
        t.isFinished = true ∧ t.segments = s.segments ∧ t.redefined = s.redefined ∧
        t.dimensions = s.dimensions ∧ t.enums = s.enums ∧ t.groups = s.groups ∧
        ∀ mode, t.render mode = s.render mode := by
  intro d s
  obtain ⟨before, expand, after, history, unfinished, done⟩ := exists_finish_of_isFinished finished
  refine ⟨before, expand, after, history, unfinished, done, fun again flag => ?_⟩
  have forest : (built d before).dataset.Forest :=
    (dataset_built d before).symm ▸ Dataset.forest_built name xs
  have told := takes_retelling (s := s) d (nodup_vars_built d calls)
    (nodup_redefinitions_built d calls)
  have same : { empty d with segments := s.segments, redefinitions := s.redefinitions } =
      ({ s with overlays := [], outcome := none } : Selection) := by
    rw [show s.dataset = d from dataset_built d calls]
    rfl
  have finishes := finish_of_finish forest (nodup_vars_built d before) unfinished done flag
  rw [same] at told
  have all : (empty d).Takes (s.retelling ++ [.finish again]) (s.withOverlays []) :=
    told.append (.cons (perform_finish_of_ok finishes) rfl)
  have eq : built d (s.retelling ++ [.finish again]) = s.withOverlays [] := congrArg Prod.snd all
  dsimp only
  rw [eq]
  refine ⟨fun answer h => ?_, finished, rfl, rfl, rfl, rfl, rfl, s.render_withOverlays []⟩
  rw [show ((empty d).run _).1 = _ from congrArg Prod.fst all] at h
  obtain ⟨_, _, rfl⟩ := List.mem_map.1 h
  rfl

/-- The profile is asked for without slices, and the level that finishing had filled in for it
comes with the size that it was redefined to. -/
theorem finish_retelling_lateRedefinition :
    let d := Dataset.built "mooring" mooring
    let s := built d lateRedefinition
    s.isFinished = true ∧
    s.retelling = [.addRedefinition ⟨0⟩ ⟨0, 1, some 10, true, false⟩,
      .addVariable ⟨0⟩ [.index 7], .setFilter ⟨0⟩ (.field "t"), .addVariable ⟨1⟩ [],
      .addVariable ⟨2⟩ [.fill 10], .addVariable ⟨3⟩ [], .addVariable ⟨4⟩ []] ∧
    let t := built d (s.retelling ++ [.finish false])
    t.isFinished = true ∧ t.segments = s.segments ∧ t.redefined = s.redefined ∧
      t.dimensions = s.dimensions ∧ ∀ mode, t.render mode = s.render mode := by
  have finished :
      (built (Dataset.built "mooring" mooring) lateRedefinition).isFinished = true := by decide
  obtain ⟨_, _, _, -, -, -, again⟩ := finish_retelling "mooring" mooring lateRedefinition finished
  obtain ⟨-, finishes, segments, redefined, dimensions, -, -, texts⟩ :=
    again false fun flag => absurd flag Bool.false_ne_true
  exact ⟨finished, by decide, finishes, segments, redefined, dimensions, texts⟩

end Selection

end Hyperslab
