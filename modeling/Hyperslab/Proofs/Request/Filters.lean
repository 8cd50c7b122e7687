/-
# `Hyperslab.Proofs.Request.Filters` — which filters of a request arrive

The entries of a request are made in a fixed order of kinds, so all variables that it projects
are selected when its filters are set, and none that expanding adds is.  A filter is set on a
segment; without one it is dropped.  So the view that comes out filters a projected variable by
the last entry for it, and no other variable at all (`filter?_of_build`).
-/
import Hyperslab.Proofs.View.Recall
import Hyperslab.Request.Building

namespace Hyperslab

/-! ## Filters after projections -/

/-- After calls that select a variable and set no filter of it, the last filter counts. -/
theorem askedFilter?_append {before after : List ViewCall} {v : VarId}
    (asked : (askedSlices? before v).isSome)
    (none : before.filterMap (ViewCall.filterFor? v) = []) :
    askedFilter? (before ++ after) v = (after.filterMap (ViewCall.filterFor? v)).getLast? := by
  have begun : (callsSince before v).isEmpty = false := by
    rw [List.isEmpty_eq_false_iff]
    exact fun nil => Option.isSome_iff_ne_none.1 asked (callsSince_eq_nil_iff.1 nil)
  have since : callsSince (before ++ after) v = callsSince before v ++ after := by
    rw [callsSince, List.dropWhile_append, ← callsSince, begun]
    exact if_neg Bool.false_ne_true
  have silent : (callsSince before v).filterMap (ViewCall.filterFor? v) = [] := by
    rw [List.filterMap_eq_nil_iff] at none ⊢
    exact fun c hc => none c ((List.dropWhile_sublist _).subset hc)
  rw [askedFilter?, since, List.filterMap_append, silent, List.nil_append]

/-! ## Entries as calls -/

theorem eq_some_of_orUnknown {α : Type} {e : RequestError} {o : Option α} {x : α}
    (h : orUnknown e o = .ok x) : o = some x := by
  cases o with
  | none => cases h
  | some y => cases h; rfl

variable {d : Dataset} {c : ViewCall}

theorem Redefinition.exists_of_call {r : Redefinition} (h : r.call d = .ok c) :
    ∃ x slice, c = .addRedefinition x slice := by
  obtain ⟨x, _, h⟩ := exists_ok_of_bind_eq_ok h
  obtain ⟨slice, _, h⟩ := exists_ok_of_bind_eq_ok h
  cases h
  exact ⟨x, slice, rfl⟩

theorem Projection.exists_of_call {p : Projection} (h : p.call d = .ok c) :
    ∃ v slices, d.findVariable? p.var = some v ∧ c = .addVariable v slices := by
  obtain ⟨v, found, h⟩ := exists_ok_of_bind_eq_ok h
  obtain ⟨slices, _, h⟩ := exists_ok_of_bind_eq_ok h
  cases h
  exact ⟨v, slices, eq_some_of_orUnknown found, rfl⟩

theorem FilterRequest.exists_of_call {f : FilterRequest} (h : f.call d = .ok c) :
    ∃ v, d.findVariable? f.var = some v ∧ c = .setFilter v f.expr := by
  obtain ⟨v, found, h⟩ := exists_ok_of_bind_eq_ok h
  refine ⟨v, eq_some_of_orUnknown found, ?_⟩
  split at h
  · cases h
    rfl
  · cases h

theorem Overlay.exists_of_call {o : Overlay} (h : o.call d = .ok c) :
    ∃ n a, c = .addAttribute n a := by
  obtain ⟨n, _, h⟩ := exists_ok_of_bind_eq_ok h
  obtain ⟨t, _, h⟩ := exists_ok_of_bind_eq_ok h
  cases h
  exact ⟨n, _, rfl⟩

namespace Request

/-- The entries of a request give these calls, one each. -/
structure Gives (r : Request) (d : Dataset)
    (resizing projecting filtering overlaying : List ViewCall) : Prop where
  resizing : List.Forall₂ (fun x c => x.call d = .ok c) r.redefinitions resizing
  projecting : List.Forall₂ (fun p c => p.call d = .ok c) r.projections projecting
  filtering : List.Forall₂ (fun f c => f.call d = .ok c) r.filters filtering
  overlaying : List.Forall₂ (fun o c => o.call d = .ok c) r.overlays overlaying

/-- The variable is projected by name. -/
def Projects (r : Request) (d : Dataset) (v : VarId) : Prop :=
  ∃ p ∈ r.projections, d.findVariable? p.var = some v

/-- The filters that are asked for by the name of a variable, in order. -/
def filtersFor (r : Request) (d : Dataset) (v : VarId) : List Expr :=
  (r.filters.filter fun f => d.findVariable? f.var = some v).map FilterRequest.expr

variable {r : Request} {calls resizing projecting filtering overlaying : List ViewCall} {v : VarId}

theorem forall₂_of_map_eq {α : Type} {f : α → Except RequestError ViewCall} {as : List α}
    (h : as.map f = calls.map .ok) : List.Forall₂ (fun a c => f a = .ok c) as calls := by
  have same : List.Forall₂ Eq (as.map f) (calls.map .ok) := List.forall₂_eq_eq_eq ▸ h
  rw [List.forall₂_map_left_iff, List.forall₂_map_right_iff] at same
  exact same

theorem exists_gives (h : r.calls d = calls.map .ok) :
    ∃ resizing projecting filtering overlaying, r.Gives d resizing projecting filtering overlaying ∧
      calls = resizing ++ projecting ++ filtering ++ overlaying := by
  obtain ⟨rest, overlaying, rfl, h, overlays⟩ := List.map_eq_append_iff.1 h.symm
  obtain ⟨rest, filtering, rfl, h, filters⟩ := List.map_eq_append_iff.1 h
  obtain ⟨resizing, projecting, rfl, resizes, projects⟩ := List.map_eq_append_iff.1 h
  exact ⟨resizing, projecting, filtering, overlaying,
    ⟨forall₂_of_map_eq resizes.symm, forall₂_of_map_eq projects.symm,
      forall₂_of_map_eq filters.symm, forall₂_of_map_eq overlays.symm⟩, rfl⟩

namespace Gives

variable (gives : r.Gives d resizing projecting filtering overlaying)
include gives

theorem eq_addRedefinition (hc : c ∈ resizing) : ∃ x slice, c = .addRedefinition x slice := by
  obtain ⟨_, _, call⟩ := forall₂_mem_right gives.resizing hc
  exact Redefinition.exists_of_call call

theorem eq_addVariable (hc : c ∈ projecting) :
    ∃ v slices, r.Projects d v ∧ c = .addVariable v slices := by
  obtain ⟨p, hp, call⟩ := forall₂_mem_right gives.projecting hc
  obtain ⟨v, slices, found, eq⟩ := Projection.exists_of_call call
  exact ⟨v, slices, ⟨p, hp, found⟩, eq⟩

theorem eq_setFilter (hc : c ∈ filtering) : ∃ v e, c = .setFilter v e := by
  obtain ⟨f, _, call⟩ := forall₂_mem_right gives.filtering hc
  obtain ⟨v, _, eq⟩ := FilterRequest.exists_of_call call
  exact ⟨v, _, eq⟩

theorem eq_addAttribute (hc : c ∈ overlaying) : ∃ n a, c = .addAttribute n a := by
  obtain ⟨_, _, call⟩ := forall₂_mem_right gives.overlaying hc
  exact Overlay.exists_of_call call

/-- No entry finishes the view. -/
theorem not_finish (expand : Bool) :
    .finish expand ∉ resizing ++ projecting ++ filtering ++ overlaying := by
  intro hc
  rcases List.mem_append.1 hc with hc | hc
  · rcases List.mem_append.1 hc with hc | hc
    · rcases List.mem_append.1 hc with hc | hc
      · obtain ⟨_, _, eq⟩ := gives.eq_addRedefinition hc
        cases eq
      · obtain ⟨_, _, _, eq⟩ := gives.eq_addVariable hc
        cases eq
    · obtain ⟨_, _, eq⟩ := gives.eq_setFilter hc
      cases eq
  · obtain ⟨_, _, eq⟩ := gives.eq_addAttribute hc
    cases eq

/-- A variable is selected by the projections or not at all. -/
theorem isSome_askedSlices?_iff :
    (askedSlices? (resizing ++ projecting) v).isSome ↔ r.Projects d v := by
  rw [Selection.isSome_askedSlices?_iff]
  constructor
  · rintro ⟨slices, hc⟩
    rcases List.mem_append.1 hc with hc | hc
    · obtain ⟨_, _, eq⟩ := gives.eq_addRedefinition hc
      cases eq
    · obtain ⟨w, _, projects, eq⟩ := gives.eq_addVariable hc
      cases eq
      exact projects
  · rintro ⟨p, hp, found⟩
    obtain ⟨c, hc, call⟩ := forall₂_mem_right gives.projecting.flip hp
    obtain ⟨w, slices, found', rfl⟩ := Projection.exists_of_call call
    cases found.symm.trans found'
    exact ⟨slices, List.mem_append_right _ hc⟩

/-- Filters and attributes select nothing. -/
theorem askedSlices?_eq : askedSlices? (resizing ++ projecting ++ filtering ++ overlaying) v =
    askedSlices? (resizing ++ projecting) v := by
  rw [List.append_assoc, askedSlices?, List.findSome?_append, ← askedSlices?]
  have rear : (filtering ++ overlaying).findSome? (ViewCall.slicesFor? v) = none := by
    rw [List.findSome?_eq_none_iff]
    intro c hc
    rcases List.mem_append.1 hc with hc | hc
    · obtain ⟨_, _, rfl⟩ := gives.eq_setFilter hc
      rfl
    · obtain ⟨_, _, rfl⟩ := gives.eq_addAttribute hc
      rfl
  rw [rear, Option.or_none]

/-- Entries of other kinds set no filter. -/
theorem filterMap_front : (resizing ++ projecting).filterMap (ViewCall.filterFor? v) = [] := by
  rw [List.filterMap_eq_nil_iff]
  intro c hc
  rcases List.mem_append.1 hc with hc | hc
  · obtain ⟨_, _, rfl⟩ := gives.eq_addRedefinition hc
    rfl
  · obtain ⟨_, _, _, rfl⟩ := gives.eq_addVariable hc
    rfl

theorem filterMap_overlaying : overlaying.filterMap (ViewCall.filterFor? v) = [] := by
  rw [List.filterMap_eq_nil_iff]
  intro c hc
  obtain ⟨_, _, rfl⟩ := gives.eq_addAttribute hc
  rfl

theorem filterMap_filtering :
    filtering.filterMap (ViewCall.filterFor? v) = r.filtersFor d v := by
  have all := gives.filtering
  unfold filtersFor
  generalize r.filters = filters at all
  clear gives
  induction all with
  | nil => rfl
  | @cons f c fs cs call _ ih =>
    obtain ⟨w, found, rfl⟩ := FilterRequest.exists_of_call call
    rw [List.filterMap_cons, List.filter_cons, ih, found]
    by_cases same : w = v
    · simp [ViewCall.filterFor?, same]
    · simp [ViewCall.filterFor?, same]

/-- The last entry counts for a projected variable. -/
theorem askedFilter?_eq (projects : r.Projects d v) :
    askedFilter? (resizing ++ projecting ++ filtering ++ overlaying) v =
      (r.filtersFor d v).getLast? := by
  rw [List.append_assoc, askedFilter?_append (gives.isSome_askedSlices?_iff.2 projects)
    gives.filterMap_front, List.filterMap_append, gives.filterMap_overlaying, List.append_nil,
    gives.filterMap_filtering]

end Gives

end Request

/-! ## Selections -/

namespace Selection

variable {s t : Selection} {calls : List ViewCall}

theorem find?_filter_of_forall₂ {gs rs : List Segment}
    (h : List.Forall₂ (fun g r => r.var = g.var ∧ r.filter = g.filter) gs rs) (v : VarId) :
    (rs.find? fun g => g.var == v).bind Segment.filter =
      (gs.find? fun g => g.var == v).bind Segment.filter := by
  induction h with
  | nil => rfl
  | @cons g r gs rs same _ ih =>
    rw [List.find?_cons, List.find?_cons, same.1]
    split
    · exact same.2
    · exact ih

/-- Finishing keeps all filters, and what it adds has none. -/
theorem filter?_of_finish {expand : Bool} (unfinished : s.isFinished = false)
    (h : s.finish expand = .ok t) (v : VarId) : t.filter? v = s.filter? v := by
  obtain ⟨resolved, all, rfl⟩ := exists_resolved_of_finish unfinished h
  have resolves : Selection.filter? { s with
      segments := resolved
      outcome := some (s.outcomeOf (s.candidates expand)) } v =
      ((s.candidates expand).find? fun g => g.var == v).bind Segment.filter :=
    find?_filter_of_forall₂ (all.imp fun g r hr =>
      ⟨(Segment.of_resolve hr).1, (Segment.of_resolve hr).2.1⟩) v
  rw [resolves, candidates]
  split
  · rw [expanded, List.find?_append, filter?, segment?]
    cases s.segments.find? fun g => g.var == v with
    | some g => rfl
    | none =>
      -- a segment that is added has no filter
      rw [Option.none_or, Option.bind_eq_none_iff.2]
      · rfl
      · intro g hg
        obtain ⟨w, _, rfl⟩ := List.mem_map.1 (List.mem_of_find?_eq_some hg)
        rfl
  · rfl

theorem mem_vars_of_finish {expand : Bool} (unfinished : s.isFinished = false)
    (h : s.finish expand = .ok t) {v : VarId} (hv : v ∈ s.vars) : v ∈ t.vars := by
  rw [vars_of_finish unfinished h]
  split
  · exact (s.dataset.prefix_expand s.vars).subset hv
  · exact hv

end Selection

/-! ## Building -/

theorem View.exists_of_performAll {s : Selection} {w : View}
    {entries : List (Except RequestError ViewCall)}
    (done : (View.selection s).performAll entries = (.ok (), w)) :
    ∃ calls, entries = calls.map .ok ∧ w = .selection (s.run calls).2 := by
  induction entries generalizing s with
  | nil =>
    cases done
    exact ⟨[], rfl, rfl⟩
  | cons entry rest ih =>
    cases entry with
    | error e => cases done
    | ok c =>
      rw [View.performAll, View.call] at done
      cases h : s.call c with
      | error e =>
        rw [h] at done
        cases done
      | ok t =>
        rw [h] at done
        obtain ⟨calls, rfl, rfl⟩ := ih done
        refine ⟨c :: calls, rfl, ?_⟩
        rw [Selection.run, Selection.perform, h]

namespace Request

variable {r : Request} {w : View} {expand : Bool}

/-- A request for a selection that succeeds finishes the selection of its calls. -/
theorem exists_of_build (universal : r.universal = false) (done : r.build d expand = .ok w) :
    ∃ calls t, r.calls d = calls.map .ok ∧
      (Selection.built d calls).finish expand = .ok t ∧ w = .selection t := by
  have start : r.start d = .selection (.empty d) := by
    rw [Request.start, universal]
    rfl
  rw [build, apply, start] at done
  cases h : (View.selection (.empty d)).performAll
      (r.calls (View.selection (.empty d)).dataset) with
  | mk answer made =>
    rw [h] at done
    cases answer with
    | error e => cases done
    | ok _ =>
      obtain ⟨calls, entries, rfl⟩ := View.exists_of_performAll h
      dsimp only at done
      rw [View.call, Selection.call] at done
      cases finishes : ((Selection.empty d).run calls).2.finish expand with
      | error e =>
        rw [finishes] at done
        cases done
      | ok t =>
        rw [finishes] at done
        cases done
        exact ⟨calls, t, entries, finishes, rfl⟩

/-- A view that is built from a request selects all variables that the request projects by name,
and filters each of them by the last filter entry for it.  It has no other filters: an entry for
a variable that is not projected has nothing to be attached to, also if expanding selects the
variable in the end. -/
theorem filter?_of_build (universal : r.universal = false) (done : r.build d expand = .ok w)
    (v : VarId) :
    (r.Projects d v → w.references (.ofVariable v) = true ∧
      w.filter? v = (r.filtersFor d v).getLast?) ∧
    (¬ r.Projects d v → w.filter? v = none) := by
  obtain ⟨calls, t, entries, finishes, rfl⟩ := exists_of_build universal done
  obtain ⟨resizing, projecting, filtering, overlaying, gives, rfl⟩ := exists_gives entries
  have unfinished := Selection.isFinished_built_of_not_finish (d := d) gives.not_finish
  have segment := Selection.segment?_built unfinished v
  have filter := Selection.filter?_of_finish unfinished finishes v
  rw [gives.askedSlices?_eq] at segment
  have selected := gives.isSome_askedSlices?_iff (v := v)
  have last := gives.askedFilter?_eq (v := v)
  show (_ → t.contains v = true ∧ t.filter? v = _) ∧ (_ → t.filter? v = none)
  constructor
  · intro projects
    obtain ⟨slices, asked⟩ := Option.isSome_iff_exists.1 (selected.2 projects)
    rw [asked] at segment
    refine ⟨?_, ?_⟩
    · refine Selection.contains_iff.2 (Selection.mem_vars_of_finish unfinished finishes ?_)
      exact Selection.isSome_segment?_iff.1 (by rw [segment]; rfl)
    · rw [filter, Selection.filter?, segment, ← last projects]
      rfl
  · intro absent
    rw [Option.not_isSome_iff_eq_none.1 (mt selected.1 absent)] at segment
    rw [filter, Selection.filter?, segment]
    rfl

/-- The profile by name, with two filters for the cast in it: `bare` leaves the cast to
expanding. -/
def profileRequest (bare : Bool) : Request where
  universal := false
  expand := none
  projections := ⟨"/profile", none⟩ :: if bare then [] else [⟨"/profile.cast", none⟩]
  redefinitions := []
  filters := [⟨"/profile.cast", .literal (.bool true)⟩,
    ⟨"/profile.cast", .compare (.relation .gt) (.field "salt") (.literal (.int 30))⟩]
  overlays := []

theorem filter?_of_build_named :
    (profileRequest false).universal = false ∧
    ∃ w, (profileRequest false).build (Dataset.built "mooring" mooring) true = .ok w ∧
      w.references (.ofVariable ⟨3⟩) = true ∧
      w.filter? ⟨3⟩ = some (.compare (.relation .gt) (.field "salt") (.literal (.int 30))) := by
  have projects : (profileRequest false).Projects (Dataset.built "mooring" mooring) ⟨3⟩ :=
    ⟨⟨"/profile.cast", none⟩, List.mem_cons_of_mem _ (List.mem_singleton.2 rfl), by decide⟩
  have built : (profileRequest false).build (Dataset.built "mooring" mooring) true =
      .ok _ := rfl
  obtain ⟨selected, last⟩ := (filter?_of_build rfl built ⟨3⟩).1 projects
  exact ⟨rfl, _, built, selected, last.trans (by decide)⟩

/-- A filter that is asked for can be missing from a variable that is selected. -/
theorem filter?_of_build_bare :
    ¬ ∀ (d : Dataset) (r : Request) (expand : Bool) (w : View), r.universal = false →
      r.build d expand = .ok w → ∀ v, (d.var v).isSequence = true → r.filtersFor d v ≠ [] →
        w.references (.ofVariable v) = true → w.filter? v = (r.filtersFor d v).getLast? := by
  intro all
  have built : (profileRequest true).build (Dataset.built "mooring" mooring) true = .ok _ := rfl
  have kept := all _ _ _ _ rfl built ⟨3⟩ (by decide) (by decide) (by decide)
  revert kept
  decide

end Request

end Hyperslab
