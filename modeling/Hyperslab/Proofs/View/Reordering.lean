/-
# `Hyperslab.Proofs.View.Reordering` — the order of the calls

Calls that say different things may come in any order, as long as a filter comes after the
selection of its variable: no variable is selected twice, no dimension redefined twice and no
filter set twice (`Orderly`).  Then the first call for something is the only one, so what a
selection remembers can be read off the calls as a set (`segment?_perm`, `redefinition?_perm`).

From there on everything is a matter of what the segments are, and not of their order: whether
finishing fails, what expanding adds, and what the finished segments need.  `Alike` selections
have the same segments in any order, and finishing keeps them alike (`finish_of_perm`).
-/
import Hyperslab.Proofs.View.Closure
import Hyperslab.Proofs.View.Finished
import Hyperslab.Proofs.View.Recall
import Hyperslab.Proofs.View.Retry
import Mathlib.Data.List.Pairwise

namespace Hyperslab

/-! ## Calls that say different things -/

/-- The dimension that a call redefines. -/
def ViewCall.redefined? : ViewCall → Option DimId
  | .addRedefinition x _ => some x
  | _ => none

/-- The variable that a call sets a filter for. -/
def ViewCall.filtered? : ViewCall → Option VarId
  | .setFilter v _ => some v
  | _ => none

/-- Calls before finishing of which none repeats or replaces another. -/
structure Orderly (calls : List ViewCall) : Prop where
  building : ∀ expand, .finish expand ∉ calls
  selections : (calls.filterMap ViewCall.selected?).Nodup
  redefinitions : (calls.filterMap ViewCall.redefined?).Nodup
  filters : (calls.filterMap ViewCall.filtered?).Nodup
  /-- A filter is set for a variable that has been selected before. -/
  selected_before : ∀ i < calls.length, ∀ v ∈ calls[i]?.bind ViewCall.filtered?,
    v ∈ (calls.take i).filterMap ViewCall.selected?

section Keys

variable {α β κ : Type} {key : α → Option κ} {as bs : List α} {k : κ}

/-- Where no key occurs twice, an element is determined by its key. -/
theorem eq_of_key_eq (nodup : (as.filterMap key).Nodup) {a b : α} (ha : a ∈ as) (hb : b ∈ as)
    (ka : key a = some k) (kb : key b = some k) : a = b := by
  have apart : as.Pairwise fun a b => ¬ (key a = some k ∧ key b = some k) :=
    (List.pairwise_filterMap.1 nodup).imp fun h both => h k both.1 k both.2 rfl
  have symm : Std.Symm fun a b : α => ¬ (key a = some k ∧ key b = some k) :=
    ⟨fun _ _ h both => h both.symm⟩
  by_contra other
  exact apart.forall ha hb other ⟨ka, kb⟩

variable {f : α → Option β}

/-- Where all that is said is said under one key, it does not matter where it is said. -/
theorem findSome?_eq_some_iff_of_key (nodup : (as.filterMap key).Nodup)
    (keyed : ∀ a b, f a = some b → key a = some k) {b : β} :
    as.findSome? f = some b ↔ ∃ a ∈ as, f a = some b := by
  refine ⟨List.exists_of_findSome?_eq_some, ?_⟩
  rintro ⟨a, ha, said⟩
  obtain ⟨c, found⟩ := Option.isSome_iff_exists.1
    (List.findSome?_isSome_iff (f := f).2 ⟨a, ha, by rw [said]; rfl⟩)
  obtain ⟨a', ha', said'⟩ := List.exists_of_findSome?_eq_some found
  cases eq_of_key_eq nodup ha ha' (keyed a b said) (keyed a' c said')
  rw [found, ← said', said]

theorem findSome?_eq_of_perm (perm : as.Perm bs) (nodup : (as.filterMap key).Nodup)
    (keyed : ∀ a b, f a = some b → key a = some k) : as.findSome? f = bs.findSome? f := by
  refine Option.ext fun b => ?_
  rw [findSome?_eq_some_iff_of_key nodup keyed,
    findSome?_eq_some_iff_of_key ((perm.filterMap key).nodup_iff.1 nodup) keyed]
  exact exists_congr fun a => and_congr_left fun _ => perm.mem_iff

end Keys

namespace Orderly

variable {calls calls' : List ViewCall}

theorem askedSlices?_eq (h : Orderly calls) (perm : calls.Perm calls') (v : VarId) :
    askedSlices? calls v = askedSlices? calls' v := by
  refine findSome?_eq_of_perm (k := v) perm h.selections fun c slices said => ?_
  cases c with
  | addVariable w _ =>
    obtain ⟨same, -⟩ := Option.ite_none_right_eq_some.1 said
    exact congrArg some same
  | _ => cases said

theorem askedRedefinition?_eq (h : Orderly calls) (perm : calls.Perm calls') (x : DimId) :
    askedRedefinition? calls x = askedRedefinition? calls' x := by
  refine findSome?_eq_of_perm (k := x) perm h.redefinitions fun c slice said => ?_
  cases c with
  | addRedefinition y _ =>
    obtain ⟨same, -⟩ := Option.ite_none_right_eq_some.1 said
    exact congrArg some same
  | _ => cases said

theorem filterFor?_eq_some_iff {c : ViewCall} {v : VarId} {e : Expr} :
    c.filterFor? v = some e ↔ c = .setFilter v e := by
  cases c with
  | setFilter w _ =>
    show (if w = v then _ else _) = _ ↔ _
    rw [Option.ite_none_right_eq_some, ViewCall.setFilter.injEq, Option.some.injEq]
  | _ => constructor <;> intro h <;> cases h

/-- The calls up to the selection of a variable set no filter for it. -/
theorem mem_callsSince (h : Orderly calls) {v : VarId} {e : Expr}
    (sets : .setFilter v e ∈ calls) : .setFilter v e ∈ callsSince calls v := by
  let early := calls.takeWhile fun c => (c.slicesFor? v).isNone
  have cut : early ++ callsSince calls v = calls := List.takeWhile_append_dropWhile
  rw [← cut, List.mem_append] at sets
  refine sets.resolve_left fun there => ?_
  obtain ⟨i, inside, here⟩ := List.mem_iff_getElem.1 there
  have position : calls[i]? = some (.setFilter v e) := by
    rw [← cut, List.getElem?_append_left inside, List.getElem?_eq_getElem inside, here]
  have before := h.selected_before i (List.getElem?_eq_some_iff.1 position).1 v
    (by rw [position]; rfl)
  rw [← cut, List.take_append_of_le_length (Nat.le_of_lt inside)] at before
  obtain ⟨c, hc, selects⟩ := List.mem_filterMap.1 before
  have silent := List.mem_takeWhile_imp (List.mem_of_mem_take hc)
  cases c with
  | addVariable w slices =>
    cases selects
    simp [ViewCall.slicesFor?] at silent
  | _ => cases selects

/-- The filter of a variable is the one that is set, wherever this is. -/
theorem askedFilter?_eq_some_iff (h : Orderly calls) {v : VarId} {e : Expr} :
    askedFilter? calls v = some e ↔ .setFilter v e ∈ calls := by
  have mem : ∀ {e}, askedFilter? calls v = some e → .setFilter v e ∈ calls := by
    intro e last
    obtain ⟨c, hc, said⟩ := List.mem_filterMap.1 (List.mem_of_getLast? last)
    rw [← filterFor?_eq_some_iff.1 said]
    exact (List.dropWhile_suffix _).subset hc
  refine ⟨mem, fun sets => ?_⟩
  have some : e ∈ (callsSince calls v).filterMap (ViewCall.filterFor? v) :=
    List.mem_filterMap.2 ⟨_, h.mem_callsSince sets, filterFor?_eq_some_iff.2 rfl⟩
  obtain ⟨e', last⟩ := Option.isSome_iff_exists.1
    (List.getLast?_isSome.2 (List.ne_nil_of_mem some))
  cases eq_of_key_eq h.filters sets (mem last) rfl rfl
  exact last

theorem askedFilter?_eq (h : Orderly calls) (h' : Orderly calls') (perm : calls.Perm calls')
    (v : VarId) : askedFilter? calls v = askedFilter? calls' v := by
  refine Option.ext fun e => ?_
  rw [h.askedFilter?_eq_some_iff, h'.askedFilter?_eq_some_iff]
  exact perm.mem_iff

end Orderly

namespace Dataset

variable {d : Dataset} {chosen chosen' : List VarId}

/-- What choosing variables stands for does not depend on their order. -/
theorem Filled.congr (same : ∀ v, v ∈ chosen ↔ v ∈ chosen') {v : VarId}
    (h : d.Filled chosen v) : d.Filled chosen' v := by
  induction h with
  | chosen hv => exact .chosen ((same _).1 hv)
  | field _ bare hf ih =>
    obtain ⟨compound, none⟩ := Expansion.isBare_iff.1 bare
    exact .field ih (Expansion.isBare_iff.2 ⟨compound, fun f hf there =>
      none f hf ((same f).2 there)⟩) hf

/-! ## What is needed -/

section Needs

variable {gs gs' : List Segment} (same : ∀ g, g ∈ gs' ↔ g ∈ gs)

include same

theorem mem_neededDimensions_congr (x : DimId) :
    x ∈ d.neededDimensions gs' ↔ x ∈ d.neededDimensions gs := by
  simp only [neededDimensions, List.mem_eraseDups, List.mem_flatMap, same]

theorem mem_neededEnums_congr (e : EnumId) : e ∈ d.neededEnums gs' ↔ e ∈ d.neededEnums gs := by
  simp only [neededEnums, List.mem_eraseDups, List.mem_filterMap, same]

theorem mem_neededGroups_congr {xs xs' : List DimId} {es es' : List EnumId}
    (dimensions : ∀ x, x ∈ xs' ↔ x ∈ xs) (enums : ∀ e, e ∈ es' ↔ e ∈ es) (k : GroupId) :
    k ∈ d.neededGroups gs' xs' es' ↔ k ∈ d.neededGroups gs xs es := by
  simp only [neededGroups, List.mem_eraseDups, List.mem_append, List.mem_flatMap, List.mem_filter,
    same, dimensions, enums]

end Needs

end Dataset

namespace Selection

variable {d : Dataset} {calls calls' : List ViewCall} {s s' t t' : Selection} {expand : Bool}

/-! ## What is remembered of orderly calls -/

theorem isFinished_built_of_orderly (d : Dataset) (h : Orderly calls) :
    (built d calls).isFinished = false :=
  isFinished_built_of_not_finish h.building

theorem segment?_perm (h : Orderly calls) (h' : Orderly calls') (perm : calls.Perm calls')
    (v : VarId) : (built d calls').segment? v = (built d calls).segment? v := by
  rw [segment?_built (isFinished_built_of_orderly d h), h.askedSlices?_eq perm,
    h.askedFilter?_eq h' perm, segment?_built (isFinished_built_of_orderly d h')]

theorem redefinition?_perm (h : Orderly calls) (h' : Orderly calls') (perm : calls.Perm calls')
    (x : DimId) : (built d calls').redefinition? x = (built d calls).redefinition? x := by
  rw [redefinition?_built (isFinished_built_of_orderly d h), h.askedRedefinition?_eq perm,
    redefinition?_built (isFinished_built_of_orderly d h')]

/-! ## Selections that are alike -/

theorem segment?_eq_some_iff (nodup : s.vars.Nodup) {v : VarId} {g : Segment} :
    s.segment? v = some g ↔ g ∈ s.segments ∧ g.var = v := by
  refine ⟨mem_of_segment?, ?_⟩
  rintro ⟨hg, rfl⟩
  exact segment?_of_mem nodup hg

theorem nodup_vars_of_finish (nodup : s.vars.Nodup) (h : s.finish expand = .ok t) :
    t.vars.Nodup := by
  have next := nodup_vars_perform nodup (.finish expand)
  rwa [perform_finish_of_ok h] at next

/-- The same segments in any order, and the same redefinitions. -/
structure Alike (s s' : Selection) : Prop where
  dataset : s'.dataset = s.dataset
  segments : ∀ g, g ∈ s'.segments ↔ g ∈ s.segments
  redefinition? : ∀ x, s'.redefinition? x = s.redefinition? x

theorem alike_built (h : Orderly calls) (h' : Orderly calls') (perm : calls.Perm calls') :
    Alike (built d calls) (built d calls') where
  dataset := by rw [dataset_built, dataset_built]
  segments g := by
    have there := segment?_eq_some_iff (v := g.var) (g := g) (nodup_vars_built d calls)
    have there' := segment?_eq_some_iff (v := g.var) (g := g) (nodup_vars_built d calls')
    rw [segment?_perm h h' perm, there] at there'
    simpa using there'.symm
  redefinition? := redefinition?_perm h h' perm

/-- What expanding adds was not selected, and is filled in. -/
theorem mem_candidates_iff (forest : s.dataset.Forest) (nodup : s.vars.Nodup) {g : Segment} :
    g ∈ s.candidates expand ↔ g ∈ s.segments ∨
      expand = true ∧ ∃ v, s.dataset.Filled s.vars v ∧ v ∉ s.vars ∧ Segment.plain v = g := by
  cases expand with
  | false => simp [candidates]
  | true =>
    obtain ⟨added, eq⟩ := Dataset.prefix_expand s.dataset s.vars
    have length : s.segments.length = s.vars.length := (List.length_map _).symm
    show g ∈ s.expanded ↔ _
    rw [expanded, List.mem_append, List.mem_map, and_iff_right rfl]
    refine or_congr_right (exists_congr fun v => ?_)
    rw [← and_assoc]
    refine and_congr_left fun _ => ?_
    rw [← Dataset.mem_expand_iff forest nodup]
    refine ⟨fun hv => ⟨List.mem_of_mem_drop hv, not_mem_vars_of_mem_drop nodup hv⟩, ?_⟩
    rintro ⟨hv, new⟩
    rw [← eq] at hv ⊢
    rw [length, List.drop_left]
    exact (List.mem_append.1 hv).resolve_left new

/-- Finishing fails exactly if one of the segments cannot be resolved. -/
theorem exists_finish_eq_error_iff (unfinished : s.isFinished = false) :
    (∃ e, s.finish expand = .error e) ↔
      ∃ g ∈ s.segments, ∃ e, g.resolve s.dataset s.newSize = .error e := by
  simp only [finish_eq_error_iff unfinished]
  constructor
  · rintro ⟨e, fails⟩
    obtain ⟨g, hg, fails⟩ := exists_of_mapM_eq_error fails
    exact ⟨g, hg, e, fails⟩
  · rintro ⟨g, hg, e, fails⟩
    cases all : s.segments.mapM (Segment.resolve s.dataset s.newSize) with
    | error e => exact ⟨e, rfl⟩
    | ok resolved =>
      obtain ⟨r, _, resolves⟩ := forall₂_mem_right (forall₂_of_mapM_eq_ok all).flip hg
      cases fails.symm.trans resolves

/-- The finished segments are the candidates that are resolved. -/
theorem mem_segments_of_finish (unfinished : s.isFinished = false) (h : s.finish expand = .ok t)
    {r : Segment} :
    r ∈ t.segments ↔ ∃ g ∈ s.candidates expand, g.resolve s.dataset s.newSize = .ok r := by
  obtain ⟨resolved, all, rfl⟩ := exists_resolved_of_finish unfinished h
  refine ⟨fun hr => forall₂_mem_right all hr, ?_⟩
  rintro ⟨g, hg, resolves⟩
  obtain ⟨r', hr', same⟩ := forall₂_mem_right all.flip hg
  cases resolves.symm.trans same
  exact hr'

namespace Alike

theorem mem_vars_iff (h : Alike s s') (v : VarId) : v ∈ s'.vars ↔ v ∈ s.vars := by
  simp only [vars, List.mem_map, h.segments]

theorem newSize_eq (h : Alike s s') (ids : ∀ x, (s.dataset.dimension x).id = x) :
    s'.newSize = s.newSize := by
  funext x
  rw [Selection.newSize_eq ids, Selection.newSize_eq (h.dataset ▸ ids), h.redefinition?, h.dataset]

theorem mem_candidates (h : Alike s s') (forest : s.dataset.Forest) (nodup : s.vars.Nodup)
    (nodup' : s'.vars.Nodup) (g : Segment) :
    g ∈ s'.candidates expand ↔ g ∈ s.candidates expand := by
  rw [mem_candidates_iff forest nodup, mem_candidates_iff (h.dataset ▸ forest) nodup', h.segments,
    h.dataset]
  refine or_congr_right (and_congr_right fun _ => exists_congr fun v => ?_)
  have filled : s.dataset.Filled s'.vars v ↔ s.dataset.Filled s.vars v :=
    ⟨.congr h.mem_vars_iff, .congr fun u => (h.mem_vars_iff u).symm⟩
  rw [filled, h.mem_vars_iff]

/-- Selections that are alike both fail to finish, or neither does. -/
theorem finish_fails_iff (h : Alike s s') (ids : ∀ x, (s.dataset.dimension x).id = x)
    (unfinished : s.isFinished = false) (unfinished' : s'.isFinished = false) :
    (∃ e, s'.finish expand = .error e) ↔ ∃ e, s.finish expand = .error e := by
  simp only [exists_finish_eq_error_iff unfinished, exists_finish_eq_error_iff unfinished',
    h.segments, h.dataset, h.newSize_eq ids]

section Finish

variable (h : Alike s s') (unfinished : s.isFinished = false) (unfinished' : s'.isFinished = false)
  (done : s.finish expand = .ok t) (done' : s'.finish expand = .ok t')

include h unfinished unfinished' done done'

/-- Finishing keeps selections alike. -/
theorem finish (forest : s.dataset.Forest) (ids : ∀ x, (s.dataset.dimension x).id = x)
    (nodup : s.vars.Nodup) (nodup' : s'.vars.Nodup) : Alike t t' where
  dataset := by rw [dataset_of_finish done, dataset_of_finish done', h.dataset]
  segments r := by
    rw [mem_segments_of_finish unfinished done, mem_segments_of_finish unfinished' done',
      h.dataset, h.newSize_eq ids]
    exact exists_congr fun g => and_congr_left fun _ => h.mem_candidates forest nodup nodup' g
  redefinition? x := by
    obtain ⟨_, _, rfl⟩ := exists_resolved_of_finish unfinished done
    obtain ⟨_, _, rfl⟩ := exists_resolved_of_finish unfinished' done'
    exact h.redefinition? x

theorem redefinedDimension?_eq (ids : ∀ x, (s.dataset.dimension x).id = x) (x : DimId) :
    t'.redefinedDimension? x = t.redefinedDimension? x := by
  rw [redefinedDimension?_of_finish unfinished ids done,
    redefinedDimension?_of_finish unfinished' (h.dataset ▸ ids) done', h.redefinition?, h.dataset]

end Finish

/-- A segment is found by its variable, wherever it stands. -/
theorem segment?_eq (h : Alike s s') (nodup : s.vars.Nodup) (nodup' : s'.vars.Nodup)
    (v : VarId) : s'.segment? v = s.segment? v := by
  refine Option.ext fun g => ?_
  rw [segment?_eq_some_iff nodup, segment?_eq_some_iff nodup', h.segments]

end Alike

/-- The order of calls that say different things does not matter: finishing with either flag
fails after both orders or after neither, and if it succeeds, the same is selected with the same
slices and filters, redefined to the same sizes, and needed. -/
theorem finish_of_perm (name : String) (xs : List Declaration) (calls calls' : List ViewCall)
    (perm : calls.Perm calls') (orderly : Orderly calls) (orderly' : Orderly calls')
    (expand : Bool) :
    let d := Dataset.built name xs
    let s := built d calls
    let s' := built d calls'
    s.isFinished = false ∧ s'.isFinished = false ∧
    ((∃ e, s.finish expand = .error e) ↔ ∃ e, s'.finish expand = .error e) ∧
    ∀ t t', s.finish expand = .ok t → s'.finish expand = .ok t' →
      (∀ v, v ∈ t.vars ↔ v ∈ t'.vars) ∧
      (∀ v, t.slices? v = t'.slices? v ∧ t.filter? v = t'.filter? v) ∧
      (∀ x, t.redefinedDimension? x = t'.redefinedDimension? x) ∧
      (∀ x, x ∈ t.dimensions ↔ x ∈ t'.dimensions) ∧ (∀ e, e ∈ t.enums ↔ e ∈ t'.enums) ∧
      ∀ g, g ∈ t.groups ↔ g ∈ t'.groups := by
  intro d s s'
  have unfinished : s.isFinished = false := isFinished_built_of_orderly d orderly
  have unfinished' : s'.isFinished = false := isFinished_built_of_orderly d orderly'
  have dataset : s.dataset = d := dataset_built d calls
  have forest : s.dataset.Forest := dataset ▸ Dataset.forest_built name xs
  have ids : ∀ x, (s.dataset.dimension x).id = x := dataset ▸ Dataset.id_dimension_built name xs
  have nodup : s.vars.Nodup := nodup_vars_built d calls
  have nodup' : s'.vars.Nodup := nodup_vars_built d calls'
  have alike : Alike s s' := alike_built orderly orderly' perm
  refine ⟨unfinished, unfinished', (alike.finish_fails_iff ids unfinished unfinished').symm,
    fun t t' done done' => ?_⟩
  have after := alike.finish unfinished unfinished' done done' forest ids nodup nodup'
  have segment := after.segment?_eq (nodup_vars_of_finish nodup done)
    (nodup_vars_of_finish nodup' done')
  obtain ⟨dimensions, enums, groups⟩ := needs_of_finish unfinished done
  obtain ⟨dimensions', enums', groups'⟩ := needs_of_finish unfinished' done'
  have sameDimensions : ∀ x, x ∈ t'.dimensions ↔ x ∈ t.dimensions := fun x => by
    rw [dimensions, dimensions', after.dataset]
    exact Dataset.mem_neededDimensions_congr after.segments x
  have sameEnums : ∀ e, e ∈ t'.enums ↔ e ∈ t.enums := fun e => by
    rw [enums, enums', after.dataset]
    exact Dataset.mem_neededEnums_congr after.segments e
  refine ⟨fun v => (after.mem_vars_iff v).symm, fun v => ?_, fun x => ?_,
    fun x => (sameDimensions x).symm, fun e => (sameEnums e).symm, fun g => ?_⟩
  · rw [slices?, slices?, filter?, filter?, segment]
    exact ⟨rfl, rfl⟩
  · exact (alike.redefinedDimension?_eq unfinished unfinished' done done' ids x).symm
  · rw [groups, groups', after.dataset]
    exact (Dataset.mem_neededGroups_congr after.segments sameDimensions sameEnums g).symm

/-- The cast with a filter, then every other level, the array over it, and the profile. -/
def castFirst : List ViewCall :=
  [.addVariable ⟨3⟩ [], .setFilter ⟨3⟩ (.field "salt"),
    .addRedefinition ⟨0⟩ ⟨0, 2, none, true, false⟩, .addVariable ⟨0⟩ [], .addVariable ⟨1⟩ []]

/-- The same calls, with the cast behind the compound around it. -/
def castLast : List ViewCall :=
  [.addVariable ⟨1⟩ [], .addVariable ⟨0⟩ [], .addVariable ⟨3⟩ [],
    .addRedefinition ⟨0⟩ ⟨0, 2, none, true, false⟩, .setFilter ⟨3⟩ (.field "salt")]

theorem finish_of_perm_castLast :
    castFirst.Perm castLast ∧ Orderly castFirst ∧ Orderly castLast ∧
    ∃ t t', (built (Dataset.built "mooring" mooring) castFirst).finish true = .ok t ∧
      (built (Dataset.built "mooring" mooring) castLast).finish true = .ok t' ∧
      t.vars = [⟨3⟩, ⟨0⟩, ⟨1⟩, ⟨4⟩] ∧ t'.vars = [⟨1⟩, ⟨0⟩, ⟨3⟩, ⟨4⟩] ∧
      (∀ v, t.slices? v = t'.slices? v ∧ t.filter? v = t'.filter? v) ∧
      (∀ x, t.redefinedDimension? x = t'.redefinedDimension? x) ∧
      ∀ x, x ∈ t.dimensions ↔ x ∈ t'.dimensions := by
  have perm : castFirst.Perm castLast := by decide
  have first : Orderly castFirst := ⟨by decide, by decide, by decide, by decide, by decide⟩
  have last : Orderly castLast := ⟨by decide, by decide, by decide, by decide, by decide⟩
  obtain ⟨-, -, -, same⟩ := finish_of_perm "mooring" mooring castFirst castLast perm first last true
  obtain ⟨-, segments, redefined, dimensions, -⟩ := same _ _ rfl rfl
  exact ⟨perm, first, last, _, _, rfl, rfl, by decide, by decide, segments, redefined, dimensions⟩

end Selection

end Hyperslab
