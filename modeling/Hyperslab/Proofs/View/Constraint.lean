/-
# `Hyperslab.Proofs.View.Constraint` — what a constraint tells about a selection

How much of a finished selection can be read off its constraint?

  * `vars_and_indices_of_render_eq`: without filters, and where no restriction is hidden, all
    of it: selections with the same constraint select the same indices of the same variables.
  * `restrictions_show_where_exposed`: a restriction shows if it is on an *exposed* variable,
    one that does not lie inside a compound selected completely, and not otherwise.  The
    renderer writes nothing about what is inside such a compound, filters and slices included.

Both rest on the comparison of texts in `Agreement`.
-/
import Hyperslab.Proofs.View.Agreement
import Hyperslab.Proofs.View.Finished

namespace Hyperslab

/-! ## Resolved slices -/

namespace Segment

theorem resolved_of_resolveSlice {size : Nat} {q r : Slice} (h : resolveSlice size q = .ok r) :
    r.Resolved size := by
  unfold resolveSlice at h
  split at h
  · rename_i asked
    obtain ⟨⟨le, fits⟩, rfl⟩ := Slice.complete?_eq_ok_iff.1 h
    exact .inr ⟨asked, _, rfl, le, fits⟩
  · cases h
    exact .inl rfl

theorem resolved_of_resolveSlices {size : DimId → Nat} {xs : List DimId}
    {slices resolved : List Slice} (h : resolveSlices size xs slices = .ok resolved) :
    List.Forall₂ (fun x r => r.Resolved (size x)) xs resolved := by
  induction xs generalizing slices resolved with
  | nil => cases h; exact .nil
  | cons x xs ih =>
    obtain ⟨s, rest, hs, hrest, rfl⟩ := exists_of_resolveSlices_cons h
    exact .cons (resolved_of_resolveSlice hs) (ih hrest)

end Segment

/-- The same numbers at all positions mean the same indices. -/
theorem Slice.map_indices_eq {size : DimId → Nat} {xs : List DimId} {ss ts : List Slice}
    (hs : List.Forall₂ (fun x r => Resolved (size x) r) xs ss)
    (ht : List.Forall₂ (fun x r => Resolved (size x) r) xs ts)
    (shown : ss.map Slice.shown = ts.map Slice.shown) :
    ss.map Slice.indices = ts.map Slice.indices := by
  induction hs generalizing ts with
  | nil => cases ht; rfl
  | cons h _ ih =>
    cases ht with
    | cons k ks =>
      obtain ⟨first, rest⟩ := List.cons.inj shown
      rw [List.map_cons, List.map_cons, h.indices_eq_of_shown_eq k first, ih ks rest]

namespace Selection

variable {s t : Selection} {d : Dataset} {calls : List ViewCall}

/-- The slices of a finished selection are resolved against the sizes it reports. -/
theorem resolved_of_isFinished (finished : (built d calls).isFinished = true) {g : Segment}
    (hg : g ∈ (built d calls).segments) :
    List.Forall₂ (fun x r => r.Resolved ((built d calls).effectiveDimension x).size)
      (d.var g.var).dimensions g.slices := by
  obtain ⟨before, expand, after, _, unfinished, done⟩ := exists_finish_of_isFinished finished
  have size := size_effectiveDimension_of_finish unfinished done
  obtain ⟨resolved, all, eq⟩ := exists_resolved_of_finish unfinished done
  have segments : (built d calls).segments = resolved := congrArg segments eq
  rw [segments] at hg
  obtain ⟨c, _, hc⟩ := forall₂_mem_right all hg
  obtain ⟨var, _, slices⟩ := Segment.of_resolve hc
  rw [dataset_built] at slices
  simp only [size, var]
  exact Segment.resolved_of_resolveSlices slices

theorem closed_of_isFinished (finished : (built d calls).isFinished = true) :
    (built d calls).Closed := by
  intro g hg r hr
  obtain ⟨x, _, resolved⟩ := forall₂_mem_right (resolved_of_isFinished finished hg) hr
  exact resolved.isSome_stop

/-! ## Owners -/

/-- The compound around a selected field is selected too. -/
def OwnersSelected (s : Selection) : Prop :=
  ∀ v ∈ s.vars, ∀ c, (s.dataset.var v).owner = .compound c → c ∈ s.vars

namespace OwnersSelected

theorem mem_of_inside (h : s.OwnersSelected) (forest : s.dataset.Forest) {c v : VarId}
    (inside : s.dataset.Inside c v) (hv : v ∈ s.vars) : c ∈ s.vars := by
  induction inside with
  | single hf => exact h _ hv c (forest.owned.1 hf)
  | tail _ hf ih => exact ih (h _ hv _ (forest.owned.1 hf))

/-- A selected variable is outside of compounds, or inside a selected one that is. -/
theorem exists_top (h : s.OwnersSelected) (forest : s.dataset.Forest) {v : VarId}
    (hv : v ∈ s.vars) : ∃ u ∈ s.topVars, v = u ∨ s.dataset.Inside u v := by
  obtain ⟨u, top, around⟩ := forest.exists_top v
  refine ⟨u, mem_topVars.2 ⟨?_, top⟩, around⟩
  rcases around with rfl | inside
  · exact hv
  · exact h.mem_of_inside forest inside hv

end OwnersSelected

/-! ## What agreement says -/

namespace Agree

variable {u v : VarId}

theorem mem_left (h : Agree s t v) : v ∈ s.vars := by
  cases h with
  | whole hs | fields hs => exact isSome_segment?_iff.1 (by rw [hs]; rfl)

theorem mem_right (h : Agree s t v) : v ∈ t.vars := by
  cases h with
  | whole _ ht | fields _ ht => exact isSome_segment?_iff.1 (by rw [ht]; rfl)

/-- The same is selected inside a variable where selections agree. -/
theorem mem_iff (h : Agree s t v) (forest : s.dataset.Forest) (dataset : t.dataset = s.dataset)
    (os : s.OwnersSelected) (ot : t.OwnersSelected) (inside : s.dataset.Inside v u) :
    u ∈ s.vars ↔ u ∈ t.vars := by
  induction h with
  | whole _ _ _ inS inT => exact iff_of_true (inS u inside) (inT u (dataset ▸ inside))
  | @fields v g k hs ht _ _ _ chosen all ih =>
    obtain ⟨f, hf, around⟩ := Dataset.inside_iff.1 inside
    have same : f ∈ s.vars ↔ f ∈ t.vars := by
      have both := congrArg (f ∈ ·) chosen
      simp only [mem_chosenFields, dataset] at both
      simpa [hf] using both
    rcases around with rfl | deeper
    · exact same
    · constructor
      · intro hu
        have hfs := os.mem_of_inside forest deeper hu
        exact (ih f (mem_chosenFields.2 ⟨hf, hfs⟩) deeper).1 hu
      · intro hu
        have hft := ot.mem_of_inside (dataset ▸ forest) (dataset ▸ deeper) hu
        exact (ih f (mem_chosenFields.2 ⟨hf, same.2 hft⟩) deeper).2 hu

/-- The same is shown of an exposed variable at or inside a variable where selections agree. -/
theorem shown_eq (h : Agree s t v) (forest : s.dataset.Forest) (os : s.OwnersSelected)
    (exposed : s.Exposed u) (around : u = v ∨ s.dataset.Inside v u) :
    ∃ g k, s.segment? u = some g ∧ t.segment? u = some k ∧ g.shown = k.shown := by
  induction h with
  | whole hs ht shown inS =>
    rcases around with rfl | inside
    · exact ⟨_, _, hs, ht, shown⟩
    · exact absurd inS (exposed.2 _ (isSome_segment?_iff.1 (by rw [hs]; rfl)) inside)
  | fields hs ht shown _ _ _ _ ih =>
    rcases around with rfl | inside
    · exact ⟨_, _, hs, ht, shown⟩
    · obtain ⟨f, hf, near⟩ := Dataset.inside_iff.1 inside
      refine ih f (mem_chosenFields.2 ⟨hf, ?_⟩) near
      rcases near with rfl | deeper
      · exact exposed.1
      · exact os.mem_of_inside forest deeper exposed.1

end Agree

/-- Selections that agree at all variables outside of compounds select the same. -/
theorem Comparable.vars_iff_of_agree (h : Comparable s t) (os : s.OwnersSelected) (ot : t.OwnersSelected)
    (tops : s.topVars = t.topVars) (agree : ∀ v ∈ s.topVars, Agree s t v) (v : VarId) :
    v ∈ s.vars ↔ v ∈ t.vars := by
  constructor
  · intro hv
    obtain ⟨u, hu, rfl | inside⟩ := os.exists_top h.forest hv
    · exact (agree v hu).mem_right
    · exact ((agree u hu).mem_iff h.forest h.dataset os ot inside).1 hv
  · intro hv
    obtain ⟨u, hu, rfl | inside⟩ := ot.exists_top (h.dataset ▸ h.forest) hv
    · exact (agree v (tops ▸ hu)).mem_left
    · exact ((agree u (tops ▸ hu)).mem_iff h.forest h.dataset os ot (h.dataset ▸ inside)).2 hv

/-! ## Skeletons and names -/

theorem topVars_eq_filter (s : Selection) :
    s.topVars = s.vars.filter fun v => (s.dataset.var v).isTopLevel := by
  rw [topVars, topSegments, vars, List.filter_map]
  rfl

/-- With the same variables selected, the same is selected completely. -/
theorem whole_congr (dataset : t.dataset = s.dataset) (same : ∀ v, v ∈ s.vars ↔ v ∈ t.vars)
    (v : VarId) : s.Whole v ↔ t.Whole v := by
  unfold Whole
  rw [dataset]
  exact forall₂_congr fun u _ => same u

theorem chosenFields_congr (dataset : t.dataset = s.dataset)
    (same : ∀ v, v ∈ s.vars ↔ v ∈ t.vars) (c : VarId) : s.chosenFields c = t.chosenFields c := by
  rw [chosenFields, chosenFields, dataset]
  refine List.filter_congr fun f _ => ?_
  rw [Bool.eq_iff_iff, contains_iff, contains_iff]
  exact same f

/-- Fields with plain names are told apart. -/
theorem told_fields (forest : s.dataset.Forest) (plain : s.dataset.PlainNames) {c : VarId}
    {vs ws : List VarId} (hv : vs ⊆ s.dataset.fields c) (hw : ws ⊆ s.dataset.fields c) :
    Told s vs ws := by
  have name : ∀ f ∈ s.dataset.fields c, s.renderName f = (s.dataset.var f).name ∧
      (s.dataset.var f).name ≠ "" ∧ Text.Free Dataset.nameEnds (s.dataset.var f).name.toList := by
    intro f hf
    have owner := forest.owned.1 hf
    obtain ⟨full, free⟩ := plain.var (Dataset.lt_length_of_owner owner)
    refine ⟨?_, full, free.mono (List.subset_cons_self _ _)⟩
    simp [renderName, Variable.isTopLevel, owner]
  refine ⟨?_, ?_⟩
  · intro v hvs w hws q r hq hr same
    obtain ⟨nameV, _, freeV⟩ := name v (hv hvs)
    obtain ⟨nameW, _, freeW⟩ := name w (hw hws)
    rw [nameV, nameW] at same
    have names := String.toList_inj.1 (freeV.append_inj freeW hq hr same).1
    exact forest.eq_of_name_eq (hv hvs) (hw hws) names
  · intro v hvs q
    have field : v ∈ s.dataset.fields c := (List.mem_append.1 hvs).elim (@hv v) (@hw v)
    obtain ⟨nameV, full, free⟩ := name v field
    rw [nameV]
    exact free.not_stops (fun empty => full (String.toList_eq_nil_iff.1 empty)) q

/-- Variables outside of compounds are told apart by qualified names. -/
theorem told_topVars (tree : s.dataset.GroupTree) (listing : s.dataset.Listing)
    (plain : s.dataset.PlainNames) {vs ws : List VarId}
    (top : ∀ v ∈ vs ++ ws, v.index < s.dataset.vars.length ∧
      (s.dataset.var v).isTopLevel = true) : Told s vs ws := by
  have name : ∀ v ∈ vs ++ ws, s.renderName v = s.dataset.variableName v :=
    fun v hv => if_pos (top v hv).2
  refine ⟨?_, ?_⟩
  · intro v hv w hw q r hq hr same
    have hv := List.mem_append_left ws hv
    have hw := List.mem_append_right vs hw
    rw [name v hv, name w hw] at same
    exact (Dataset.variableName_append_inj tree listing plain (top v hv).1 (top w hw).1
      (top v hv).2 (top w hw).2 hq hr same).1
  · intro v hv q
    rw [name v hv]
    exact Dataset.not_stops_variableName tree listing plain (top v hv).1 (top v hv).2 q

/-! ## Without filters and hidden restrictions -/

/-- A finished selection all of which its constraint tells: of variables of the dataset, each
with the compound around it, without filters, and with bounds only where they show. -/
structure Legible (s : Selection) : Prop where
  finished : s.isFinished = true
  present : ∀ v ∈ s.vars, v.index < s.dataset.vars.length
  unfiltered : ∀ g ∈ s.segments, g.filter = none
  owners : s.OwnersSelected
  /-- Nothing strictly inside a compound that is selected completely has bounds. -/
  free : ∀ c ∈ s.vars, s.Whole c → ∀ g ∈ s.segments, s.dataset.Inside c g.var →
    ∀ r ∈ g.slices, r.constrained = false

/-- Resolved slices without bounds are determined by the sizes of the dimensions. -/
theorem slices_eq_of_free {size : DimId → Nat} {xs : List DimId} {ss : List Slice}
    (resolved : List.Forall₂ (fun x r => Slice.Resolved (size x) r) xs ss)
    (free : ∀ r ∈ ss, r.constrained = false) : ss = xs.map fun x => .fill (size x) := by
  induction resolved with
  | nil => rfl
  | cons h _ ih =>
    rw [List.map_cons, h.eq_fill (free _ (List.mem_cons_self ..)),
      ← ih fun r hr => free r (List.mem_cons_of_mem _ hr)]

section TwoHistories

variable {name : String} {xs : List Declaration} {calls calls' : List ViewCall}

/-- Finished selections of a built dataset can be compared. -/
theorem comparable_built
    (hs : (built (Dataset.built name xs) calls).isFinished = true)
    (ht : (built (Dataset.built name xs) calls').isFinished = true)
    (filters : ∀ {v : VarId} {g k : Segment}, (built (Dataset.built name xs) calls).Exposed v →
      (built (Dataset.built name xs) calls).segment? v = some g →
      (built (Dataset.built name xs) calls').segment? v = some k → g.FiltersEnd k) :
    Comparable (built (Dataset.built name xs) calls) (built (Dataset.built name xs) calls') where
  forest := by
    rw [dataset_built]
    exact Dataset.forest_built name xs
  dataset := by rw [dataset_built, dataset_built]
  left := closed_of_isFinished hs
  right := closed_of_isFinished ht
  filters := filters

theorem effectiveDimension_congr (dataset : t.dataset = s.dataset)
    (same : ∀ x, s.redefinedDimension? x = t.redefinedDimension? x) :
    s.effectiveDimension = t.effectiveDimension := by
  funext x
  rw [effectiveDimension, effectiveDimension, same, dataset]

/-- Segments that look the same select the same indices. -/
theorem indices_eq_of_shown_eq
    (hs : (built d calls).isFinished = true) (ht : (built d calls').isFinished = true)
    (sizes : ∀ x, (built d calls).redefinedDimension? x = (built d calls').redefinedDimension? x)
    {v : VarId} {g k : Segment} (hg : (built d calls).segment? v = some g)
    (hk : (built d calls').segment? v = some k) (shown : g.shown = k.shown) :
    g.slices.map Slice.indices = k.slices.map Slice.indices := by
  obtain ⟨inS, varG⟩ := mem_of_segment? hg
  obtain ⟨inT, varK⟩ := mem_of_segment? hk
  have left := resolved_of_isFinished hs inS
  have right := resolved_of_isFinished ht inT
  rw [varG] at left
  rw [varK, ← effectiveDimension_congr (by rw [dataset_built, dataset_built]) sizes] at right
  exact Slice.map_indices_eq left right (congrArg Prod.fst shown)

/-- What a legible selection does not show is taken whole. -/
theorem Legible.slices_of_hidden (l : (built d calls).Legible) {c v : VarId} {g : Segment}
    (hc : c ∈ (built d calls).vars) (whole : (built d calls).Whole c)
    (inside : (built d calls).dataset.Inside c v) (hg : (built d calls).segment? v = some g) :
    g.slices = (d.var v).dimensions.map
      fun x => .fill ((built d calls).effectiveDimension x).size := by
  obtain ⟨there, rfl⟩ := mem_of_segment? hg
  exact slices_eq_of_free (resolved_of_isFinished l.finished there)
    (l.free c hc whole g there inside)

/-- Legible selections with the same redefinitions and the same constraint select the same
variables, and at every position of each the same indices. -/
theorem vars_and_indices_of_render_eq (name : String) (xs : List Declaration)
    (calls calls' : List ViewCall) :
    let d := Dataset.built name xs
    let s := built d calls
    let t := built d calls'
    d.PlainNames → s.Legible → t.Legible →
    (∀ x, s.redefinedDimension? x = t.redefinedDimension? x) →
    ∀ text, s.render .constraint = .ok text → t.render .constraint = .ok text →
      (∀ v, v ∈ s.vars ↔ v ∈ t.vars) ∧
      ∀ v ∈ s.vars, (s.slices? v).map (List.map Slice.indices) =
        (t.slices? v).map (List.map Slice.indices) := by
  intro d s t plain ls lt sizes text hs ht
  have h : Comparable s t := comparable_built ls.finished lt.finished fun _ hg hk =>
    .inl ((ls.unfiltered _ (mem_of_segment? hg).1).trans
      (lt.unfiltered _ (mem_of_segment? hk).1).symm)
  have ds : s.dataset = d := dataset_built d calls
  have dt : t.dataset = d := dataset_built d calls'
  have tree : s.dataset.GroupTree := ds ▸ Dataset.groupTree_built name xs
  have listing : s.dataset.Listing := ds ▸ Dataset.listing_built name xs
  have plain : s.dataset.PlainNames := ds ▸ plain
  have top : ∀ v ∈ s.topVars ++ t.topVars, v.index < s.dataset.vars.length ∧
      (s.dataset.var v).isTopLevel = true := by
    intro v hv
    rcases List.mem_append.1 hv with inS | inT
    · exact ⟨ls.present v (mem_topVars.1 inS).1, (mem_topVars.1 inS).2⟩
    · rw [← h.dataset]
      exact ⟨lt.present v (mem_topVars.1 inT).1, (mem_topVars.1 inT).2⟩
  have known : ∀ c, s.Known (s.chosenFields c) (t.chosenFields c) := fun c =>
    .inr (told_fields h.forest plain (fun f hf => (mem_chosenFields.1 hf).1)
      fun f hf => h.dataset ▸ (mem_chosenFields.1 hf).1)
  obtain ⟨tops, agree⟩ := h.agree_of_render_eq (nodup_vars_built d calls)
    (nodup_vars_built d calls') (.inr (told_topVars tree listing plain top)) known hs ht
  have same := h.vars_iff_of_agree ls.owners lt.owners tops agree
  refine ⟨same, fun v hv => ?_⟩
  obtain ⟨g, hg⟩ := Option.isSome_iff_exists.1 (isSome_segment?_iff.2 hv)
  obtain ⟨k, hk⟩ := Option.isSome_iff_exists.1 (isSome_segment?_iff.2 ((same v).1 hv))
  rw [slices?, slices?, hg, hk]
  refine congrArg some ?_
  -- what shows is the same, and what does not is taken whole on both sides
  by_cases exposed : s.Exposed v
  · obtain ⟨u, hu, around⟩ := ls.owners.exists_top h.forest hv
    obtain ⟨g', k', hg', hk', shown⟩ := (agree u hu).shown_eq h.forest ls.owners exposed around
    cases hg.symm.trans hg'
    cases hk.symm.trans hk'
    exact indices_eq_of_shown_eq ls.finished lt.finished sizes hg hk shown
  · obtain ⟨c, hc, inside, whole⟩ := exists_whole_of_not_exposed hv exposed
    rw [ls.slices_of_hidden hc whole inside hg, lt.slices_of_hidden ((same c).1 hc)
      ((whole_congr h.dataset same c).1 whole) (h.dataset ▸ inside) hk,
      ← effectiveDimension_congr h.dataset sizes]

/-- Every other level of four, and the profile, filled in by expanding. -/
def everyOther : List ViewCall :=
  [.addRedefinition ⟨0⟩ ⟨0, 1, some 4, true, false⟩,
    .addVariable ⟨0⟩ [⟨0, 2, none, true, false⟩], .addVariable ⟨1⟩ [], .finish true]

/-- The same with a bound, and with all of the profile chosen. -/
def everyOtherBelowThree : List ViewCall :=
  [.addVariable ⟨0⟩ [⟨0, 2, some 3, true, false⟩], .addVariable ⟨4⟩ [], .addVariable ⟨3⟩ [],
    .addVariable ⟨1⟩ [], .addVariable ⟨2⟩ [], .addRedefinition ⟨0⟩ ⟨0, 1, some 4, true, false⟩,
    .finish false]

theorem redefinedDimension?_congr {s t : Selection} (same : s.redefined = t.redefined) (x : DimId) :
    s.redefinedDimension? x = t.redefinedDimension? x := by
  rw [redefinedDimension?, redefinedDimension?, same]

instance (owner : Owner) (p : VarId → Prop) [DecidablePred p] :
    Decidable (∀ c, owner = .compound c → p c) :=
  match owner with
  | .group _ => isTrue fun _ h => nomatch h
  | .compound c => decidable_of_iff (p c) ⟨fun h _ e => Owner.compound.inj e ▸ h, fun h => h c rfl⟩

instance (s : Selection) : Decidable s.OwnersSelected :=
  inferInstanceAs (Decidable (∀ v ∈ s.vars, ∀ c, (s.dataset.var v).owner = .compound c → c ∈ s.vars))

theorem legible_of_free_fields (finished : (built (Dataset.built name xs) calls).isFinished = true)
    (present : ∀ v ∈ (built (Dataset.built name xs) calls).vars,
      v.index < (Dataset.built name xs).vars.length)
    (unfiltered : ∀ g ∈ (built (Dataset.built name xs) calls).segments, g.filter = none)
    (owners : (built (Dataset.built name xs) calls).OwnersSelected)
    (free : ∀ g ∈ (built (Dataset.built name xs) calls).segments,
      ((Dataset.built name xs).var g.var).isTopLevel = true ∨
        ∀ r ∈ g.slices, r.constrained = false) :
    (built (Dataset.built name xs) calls).Legible where
  finished := finished
  present := by
    rw [dataset_built]
    exact present
  unfiltered := unfiltered
  owners := owners
  free c _ _ g hg inside := by
    rw [dataset_built] at inside
    refine (free g hg).resolve_left fun top => ?_
    exact (Dataset.forest_built name xs).not_inside_of_isTopLevel top inside

theorem vars_and_indices_of_render_eq_everyOther :
    (Dataset.built "mooring" mooring).PlainNames ∧
    (built (Dataset.built "mooring" mooring) everyOther).Legible ∧
    (built (Dataset.built "mooring" mooring) everyOtherBelowThree).Legible ∧
    (built (Dataset.built "mooring" mooring) everyOther).render .constraint =
      .ok "/t[0:2:2];/profile" ∧
    (∀ v, v ∈ (built (Dataset.built "mooring" mooring) everyOther).vars ↔
      v ∈ (built (Dataset.built "mooring" mooring) everyOtherBelowThree).vars) ∧
    ∀ v ∈ (built (Dataset.built "mooring" mooring) everyOther).vars,
      ((built (Dataset.built "mooring" mooring) everyOther).slices? v).map
          (List.map Slice.indices) =
        ((built (Dataset.built "mooring" mooring) everyOtherBelowThree).slices? v).map
          (List.map Slice.indices) :=
  have plain : (Dataset.built "mooring" mooring).PlainNames :=
    ⟨by decide +kernel, by decide +kernel⟩
  have left : (built (Dataset.built "mooring" mooring) everyOther).Legible :=
    legible_of_free_fields (by decide +kernel) (by decide +kernel) (by decide +kernel)
      (by decide +kernel) (by decide +kernel)
  have right : (built (Dataset.built "mooring" mooring) everyOtherBelowThree).Legible :=
    legible_of_free_fields (by decide +kernel) (by decide +kernel) (by decide +kernel)
      (by decide +kernel) (by decide +kernel)
  have text : (built (Dataset.built "mooring" mooring) everyOther).render .constraint =
      .ok "/t[0:2:2];/profile" := by decide +kernel
  ⟨plain, left, right, text,
    vars_and_indices_of_render_eq "mooring" mooring everyOther everyOtherBelowThree plain left
      right (redefinedDimension?_congr (by decide +kernel)) "/t[0:2:2];/profile" text
      (by decide +kernel)⟩

/-! ## Restrictions that show, and others -/

/-- With the same variables selected, selections agree where the same is shown of all exposed
variables. -/
theorem Comparable.agree_of_shown_eq (h : Comparable s t) (same : ∀ v, v ∈ s.vars ↔ v ∈ t.vars)
    (shown : ∀ u, s.Exposed u → (s.segment? u).map Segment.shown =
      (t.segment? u).map Segment.shown) {v : VarId} (exposed : s.Exposed v) : Agree s t v := by
  induction v using h.forest.induction with
  | step v ih =>
    obtain ⟨g, hg⟩ := Option.isSome_iff_exists.1 (isSome_segment?_iff.2 exposed.1)
    obtain ⟨k, hk⟩ := Option.isSome_iff_exists.1 (isSome_segment?_iff.2 ((same v).1 exposed.1))
    have looks := shown v exposed
    rw [hg, hk] at looks
    have whole := whole_congr h.dataset same v
    by_cases inS : s.Whole v
    · exact .whole hg hk (Option.some.inj looks) inS (whole.1 inS)
    · refine .fields hg hk (Option.some.inj looks) inS (mt whole.2 inS)
        (chosenFields_congr h.dataset same v) fun f hf => ?_
      exact ih f (mem_chosenFields.1 hf).1 (exposed.field h.forest inS hf)

/-- Finished selections with the same redefinitions and the same variables in the same order,
each with the compound around it.  Where an exposed variable has a filter on one side only,
or other indices, the constraints differ, unless a filter that the two do not share cannot
be told from what stands behind it.  Where all exposed variables have the same slices and
filters the constraints are the same, whatever the slices and filters of the others are. -/
theorem restrictions_show_where_exposed (name : String) (xs : List Declaration)
    (calls calls' : List ViewCall) :
    let d := Dataset.built name xs
    let s := built d calls
    let t := built d calls'
    s.isFinished = true → t.isFinished = true →
    (∀ x, s.redefinedDimension? x = t.redefinedDimension? x) →
    s.vars = t.vars → s.OwnersSelected →
    ∀ a b, s.render .constraint = .ok a → t.render .constraint = .ok b →
      ((∀ v, s.Exposed v → s.filter? v = t.filter? v ∨
          (∀ e ∈ s.filter? v, e.Delimited) ∧ ∀ e ∈ t.filter? v, e.Delimited) →
        ∀ v, s.Exposed v →
          (s.filter? v).isSome ≠ (t.filter? v).isSome ∨
            (s.slices? v).map (List.map Slice.indices) ≠
              (t.slices? v).map (List.map Slice.indices) → a ≠ b) ∧
      ((∀ v, s.Exposed v → s.segment? v = t.segment? v) → a = b) := by
  intro d s t fs ft sizes vars owners a b hs ht
  have dataset : t.dataset = s.dataset := by
    rw [show s.dataset = d from dataset_built .., show t.dataset = d from dataset_built ..]
  have same : ∀ v, v ∈ s.vars ↔ v ∈ t.vars := fun v => by rw [vars]
  have tops : s.topVars = t.topVars := by
    rw [topVars_eq_filter, topVars_eq_filter, vars, dataset]
  constructor
  · intro ends v exposed differ
    rintro rfl
    have h : Comparable s t := comparable_built fs ft fun exposed hg hk => by
      have both := ends _ exposed
      rw [filter?, filter?, hg, hk] at both
      exact both
    obtain ⟨_, agree⟩ := h.agree_of_render_eq (nodup_vars_built d calls)
      (nodup_vars_built d calls') (.inl tops)
      (fun c => .inl (chosenFields_congr dataset same c)) hs ht
    obtain ⟨u, hu, around⟩ := owners.exists_top h.forest exposed.1
    obtain ⟨g, k, hg, hk, shown⟩ := (agree u hu).shown_eq h.forest owners exposed around
    have indices := indices_eq_of_shown_eq fs ft sizes hg hk shown
    have filters : (g.filter.map Expr.text).isSome = (k.filter.map Expr.text).isSome :=
      congrArg (fun x => x.2.isSome) shown
    rw [filter?, filter?, slices?, slices?, hg, hk] at differ
    rcases differ with filter | slices
    · rw [Option.isSome_map, Option.isSome_map] at filters
      exact filter filters
    · exact slices (congrArg some indices)
  · intro segments
    have h : Comparable s t := comparable_built fs ft fun exposed hg hk => by
      have both := segments _ exposed
      rw [hg, hk] at both
      exact .inl (congrArg Segment.filter (Option.some.inj both))
    refine h.render_eq_of_agree (nodup_vars_built d calls) (nodup_vars_built d calls') tops
      (fun v hv => ?_) hs ht
    refine h.agree_of_shown_eq same (fun u hu => ?_) (exposed_of_mem_topVars h.forest hv)
    rw [segments u hu]

/-- The profile with its cast, perhaps with its depth, and perhaps with a filter of the cast. -/
def saltyCast (depth filter : Bool) : List ViewCall :=
  [.addVariable ⟨1⟩ [], .addVariable ⟨3⟩ []] ++
    (if depth then [.addVariable ⟨2⟩ []] else []) ++
    (if filter then
      [.setFilter ⟨3⟩ (.compare (.relation .gt) (.field "salt") (.literal (.int 35)))] else []) ++
    [.finish true]

theorem delimited_of_segments (h : ∀ g ∈ s.segments, ∀ e ∈ g.filter, e.Delimited) (v : VarId) :
    ∀ e ∈ s.filter? v, e.Delimited := by
  intro e he
  rw [filter?, Option.mem_def, Option.bind_eq_some_iff] at he
  obtain ⟨g, hg, filter⟩ := he
  exact h g (mem_of_segment? hg).1 e filter

/-- The filter of the cast shows beside a depth that is not selected, and is lost with it. -/
theorem restrictions_show_where_exposed_cast :
    (∃ a b, (built (Dataset.built "mooring" mooring) (saltyCast false true)).render .constraint =
        .ok a ∧
      (built (Dataset.built "mooring" mooring) (saltyCast false false)).render .constraint =
        .ok b ∧ a ≠ b) ∧
    (((built (Dataset.built "mooring" mooring) (saltyCast true true)).filter? ⟨3⟩).isSome ≠
      ((built (Dataset.built "mooring" mooring) (saltyCast true false)).filter? ⟨3⟩).isSome) ∧
    ∃ a b, (built (Dataset.built "mooring" mooring) (saltyCast true true)).render .constraint =
        .ok a ∧
      (built (Dataset.built "mooring" mooring) (saltyCast true false)).render .constraint =
        .ok b ∧ a = b := by
  have forest (calls) : (built (Dataset.built "mooring" mooring) calls).dataset.Forest := by
    rw [dataset_built]
    exact Dataset.forest_built "mooring" mooring
  refine ⟨⟨_, _, rfl, rfl, ?_⟩, by decide, ⟨_, _, rfl, rfl, ?_⟩⟩
  · refine (restrictions_show_where_exposed "mooring" mooring (saltyCast false true)
      (saltyCast false false) (by decide) (by decide) (fun _ => rfl) (by decide) (by decide)
      _ _ rfl rfl).1 (fun v _ => .inr ⟨?_, ?_⟩) ⟨3⟩ ⟨by decide, ?_⟩ (.inl (by decide))
    · exact delimited_of_segments (by decide) v
    · exact delimited_of_segments (by decide) v
    · intro c _ inside whole
      have field : (⟨3⟩ : VarId) ∈ (Dataset.built "mooring" mooring).fields ⟨1⟩ := by decide
      rcases (forest _).inside_field_iff field |>.1 inside with rfl | outer
      · exact absurd (whole ⟨2⟩ (.single (by decide))) (by decide)
      · exact (forest _).not_inside_of_isTopLevel (by decide) outer
  · refine (restrictions_show_where_exposed "mooring" mooring (saltyCast true true)
      (saltyCast true false) (by decide) (by decide) (fun _ => rfl) (by decide) (by decide)
      _ _ rfl rfl).2 fun v exposed => ?_
    have others : ∀ v ∈ (built (Dataset.built "mooring" mooring) (saltyCast true true)).vars,
        v = ⟨3⟩ ∨ (built (Dataset.built "mooring" mooring) (saltyCast true true)).segment? v =
          (built (Dataset.built "mooring" mooring) (saltyCast true false)).segment? v := by decide
    refine (others v exposed.1).resolve_left ?_
    rintro rfl
    have whole := (areWhole_fields_iff (forest (saltyCast true true)) ⟨1⟩).1 (by decide)
    exact exposed.2 ⟨1⟩ (by decide) (.single (by decide)) whole

-- without delimiters the filter of one variable reads like filters of two
example :
    (built (Dataset.built "mooring" mooring) [.addVariable ⟨0⟩ [], .addVariable ⟨1⟩ [],
      .setFilter ⟨0⟩ (.field "x;/profile|y"), .finish true]).render .constraint =
    (built (Dataset.built "mooring" mooring) [.addVariable ⟨0⟩ [], .addVariable ⟨1⟩ [],
      .setFilter ⟨0⟩ (.field "x"), .setFilter ⟨1⟩ (.field "y;/profile"), .finish true]).render
        .constraint := by decide +kernel

end TwoHistories

end Selection

end Hyperslab
