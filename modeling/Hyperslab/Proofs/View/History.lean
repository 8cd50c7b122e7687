/-
# `Hyperslab.Proofs.View.History` — selections and the calls that made them

A selection under construction remembers its history faithfully: the slices of a variable
are those of the first call for it, and the redefinition of a dimension is the first one
asked for (`slices?_built`, `redefinition?_built`).  Whatever a finished selection holds
was there when one call finished it, and nothing has changed since
(`exists_finish_of_isFinished`).

Everything is read off one inversion: `Next s c t` lists what a call can make of a
selection under construction.  Two histories are compared by what is seen of the selections:
calls that change nothing of it can be left out (`run_leaving`).
-/
import Hyperslab.Proofs.View.WorkList
import Hyperslab.View.Finishing
import Mathlib.Data.List.Forall2
import Mathlib.Data.List.Induction
import Mathlib.Data.List.Nodup

namespace Hyperslab

/-! ## What a history asks for -/

/-- The slices that a call asks for, if it is a call for the variable. -/
def ViewCall.slicesFor? (v : VarId) : ViewCall → Option (List Slice)
  | .addVariable w slices => if w = v then some slices else none
  | _ => none

/-- The redefinition that a call asks for, if it is a call for the dimension. -/
def ViewCall.redefinitionFor? (x : DimId) : ViewCall → Option Slice
  | .addRedefinition y slice => if y = x then some slice else none
  | _ => none

/-- The slices of the first call for a variable. -/
def askedSlices? (calls : List ViewCall) (v : VarId) : Option (List Slice) :=
  calls.findSome? (ViewCall.slicesFor? v)

/-- The first redefinition of a dimension. -/
def askedRedefinition? (calls : List ViewCall) (x : DimId) : Option Slice :=
  calls.findSome? (ViewCall.redefinitionFor? x)

/-- A list is mapped to a list of results, element by element. -/
theorem forall₂_of_mapM_eq_ok {α β ε : Type} {f : α → Except ε β} {as : List α} {bs : List β}
    (h : as.mapM f = .ok bs) : List.Forall₂ (fun a b => f a = .ok b) as bs := by
  induction as generalizing bs with
  | nil => cases h; exact .nil
  | cons a as ih =>
    rw [List.mapM_cons] at h
    obtain ⟨b, ha, h⟩ := exists_ok_of_bind_eq_ok h
    obtain ⟨rest, hs, h⟩ := exists_ok_of_bind_eq_ok h
    cases h
    exact .cons ha (ih hs)

/-- Where no element fails, a list is mapped. -/
theorem mapM_eq_ok_map {α β ε : Type} {f : α → Except ε β} {g : α → β} {as : List α}
    (all : ∀ a ∈ as, f a = .ok (g a)) : as.mapM f = .ok (as.map g) := by
  induction as with
  | nil => rfl
  | cons a as ih =>
    rw [List.forall_mem_cons] at all
    rw [List.mapM_cons, all.1, ih all.2]
    rfl

theorem exists_mapM_eq_ok {α β ε : Type} {f : α → Except ε β} {as : List α}
    (all : ∀ a ∈ as, ∃ b, f a = .ok b) : ∃ bs, as.mapM f = .ok bs := by
  induction as with
  | nil => exact ⟨[], rfl⟩
  | cons a as ih =>
    obtain ⟨here, later⟩ := List.forall_mem_cons.1 all
    obtain ⟨b, hb⟩ := here
    obtain ⟨bs, hbs⟩ := ih later
    refine ⟨b :: bs, ?_⟩
    rw [List.mapM_cons, hb, hbs]
    rfl

/-- A list is not mapped because of its first element that fails. -/
theorem mapM_eq_error_iff {α β ε : Type} {f : α → Except ε β} {as : List α} {e : ε} :
    as.mapM f = .error e ↔ ∃ before a after, as = before ++ a :: after ∧
      (∀ b ∈ before, ∃ c, f b = .ok c) ∧ f a = .error e := by
  constructor
  · intro fails
    induction as with
    | nil => cases fails
    | cons a as ih =>
      rw [List.mapM_cons] at fails
      rcases error_of_bind_eq_error fails with here | ⟨c, passes, fails⟩
      · exact ⟨[], a, as, rfl, nofun, here⟩
      · rcases error_of_bind_eq_error fails with later | ⟨_, _, ⟨⟩⟩
        obtain ⟨before, b, after, rfl, all, here⟩ := ih later
        exact ⟨a :: before, b, after, rfl, List.forall_mem_cons.2 ⟨⟨c, passes⟩, all⟩, here⟩
  · rintro ⟨before, a, after, rfl, all, here⟩
    obtain ⟨cs, passes⟩ := exists_mapM_eq_ok all
    rw [List.mapM_append, passes, List.mapM_cons, here]
    rfl

theorem exists_of_mapM_eq_error {α β ε : Type} {f : α → Except ε β} {as : List α} {e : ε}
    (h : as.mapM f = .error e) : ∃ a ∈ as, f a = .error e := by
  obtain ⟨before, a, after, rfl, -, fails⟩ := mapM_eq_error_iff.1 h
  exact ⟨a, by simp, fails⟩

theorem forall₂_mem_right {α β : Type} {R : α → β → Prop} {as : List α} {bs : List β}
    (h : List.Forall₂ R as bs) {b : β} (hb : b ∈ bs) : ∃ a ∈ as, R a b := by
  induction h with
  | nil => cases hb
  | cons r _ ih =>
    rcases List.mem_cons.1 hb with rfl | later
    · exact ⟨_, List.mem_cons_self .., r⟩
    · obtain ⟨a, ha, hr⟩ := ih later
      exact ⟨a, List.mem_cons_of_mem _ ha, hr⟩

/-- What is the same of related elements is the same of the lists. -/
theorem map_eq_of_forall₂ {α β γ : Type} {f : α → γ} {g : β → γ} {as : List α} {bs : List β}
    (h : List.Forall₂ (fun a b => f a = g b) as bs) : as.map f = bs.map g := by
  induction h with
  | nil => rfl
  | cons same _ ih => rw [List.map_cons, List.map_cons, same, ih]

/-- A resolved segment is the segment with other slices. -/
theorem Segment.of_resolve {d : Dataset} {size : DimId → Nat} {g r : Segment}
    (h : g.resolve d size = .ok r) :
    r.var = g.var ∧ r.filter = g.filter ∧
      resolveSlices size (d.var g.var).dimensions g.slices = .ok r.slices := by
  unfold Segment.resolve at h
  dsimp only at h
  split at h
  · cases h
  · split at h
    · rename_i slices hs
      cases h
      exact ⟨rfl, rfl, hs⟩
    · cases h

namespace Selection

variable {d : Dataset} {s t : Selection} {calls : List ViewCall}

/-! ## Segments by variable -/

theorem mem_of_segment? {v : VarId} {g : Segment} (h : s.segment? v = some g) :
    g ∈ s.segments ∧ g.var = v := by
  unfold segment? at h
  have found := List.find?_some h
  exact ⟨List.mem_of_find?_eq_some h, beq_iff_eq.1 found⟩

/-- A segment is the one of its variable, unless a variable is selected twice. -/
theorem segment?_of_mem (nodup : s.vars.Nodup) {g : Segment} (hg : g ∈ s.segments) :
    s.segment? g.var = some g := by
  obtain ⟨found, h⟩ := Option.isSome_iff_exists.1
    (isSome_segment?_iff.2 (List.mem_map_of_mem hg))
  obtain ⟨there, same⟩ := mem_of_segment? h
  rw [h, List.inj_on_of_nodup_map nodup there hg same]

/-- A change of segments that keeps variables finds the changed segment. -/
theorem find?_map_of_var {f : Segment → Segment} (var : ∀ g, (f g).var = g.var)
    (gs : List Segment) (v : VarId) :
    ((gs.map f).find? fun g => g.var == v) = (gs.find? fun g => g.var == v).map f := by
  have same : (fun g : Segment => g.var == v) ∘ f = fun g => g.var == v := by
    funext g
    rw [Function.comp_apply, var]
  rw [List.find?_map, same]

theorem map_var_map {f : Segment → Segment} (var : ∀ g, (f g).var = g.var) (gs : List Segment) :
    (gs.map f).map Segment.var = gs.map Segment.var := by
  rw [List.map_map]
  exact List.map_congr_left fun g _ => var g

/-! ## One call -/

/-- What a call can make of a selection under construction. -/
inductive Next (s : Selection) : ViewCall → Selection → Prop
  | selectAgain {v : VarId} {slices : List Slice} : v ∈ s.vars → Next s (.addVariable v slices) s
  | select {v : VarId} {slices : List Slice} : v ∉ s.vars →
      Next s (.addVariable v slices) { s with segments := s.segments ++ [⟨v, slices, none⟩] }
  | redefineAgain {x : DimId} {slice : Slice} : (s.redefinition? x).isSome →
      Next s (.addRedefinition x slice) s
  | redefine {x : DimId} {slice : Slice} : s.redefinition? x = none →
      Next s (.addRedefinition x slice) { s with redefinitions := s.redefinitions ++ [(x, slice)] }
  | overlay {n : Node} {a : Attribute} :
      Next s (.addAttribute n a) { s with overlays := s.overlays ++ [(n, a)] }
  | filter {v : VarId} {e : Expr} : Next s (.setFilter v e) { s with
      segments := s.segments.map fun g => if g.var = v then { g with filter := some e } else g }
  | failFinish {expand : Bool} {e : ViewError} : s.finish expand = .error e →
      Next s (.finish expand) s
  | finish {expand : Bool} {t : Selection} : s.finish expand = .ok t → Next s (.finish expand) t

theorem unfinished_eq_ok (h : s.isFinished = false) (op : ViewOperation) :
    s.unfinished op = .ok s := by
  rw [unfinished, if_neg (by rw [h]; exact Bool.false_ne_true)]

theorem perform_addVariable (unfinished : s.isFinished = false) (v : VarId) (slices : List Slice) :
    s.perform (.addVariable v slices) = (.ok (), if s.contains v then s else
      { s with segments := s.segments ++ [⟨v, slices, none⟩] }) := by
  rw [perform, call, addVariable, unfinished_eq_ok unfinished]
  rfl

theorem perform_addRedefinition (unfinished : s.isFinished = false) (x : DimId) (slice : Slice) :
    s.perform (.addRedefinition x slice) = (.ok (), if (s.redefinition? x).isSome then s else
      { s with redefinitions := s.redefinitions ++ [(x, slice)] }) := by
  rw [perform, call, addRedefinition, unfinished_eq_ok unfinished]
  rfl

theorem perform_addAttribute (unfinished : s.isFinished = false) (n : Node) (a : Attribute) :
    s.perform (.addAttribute n a) = (.ok (), { s with overlays := s.overlays ++ [(n, a)] }) := by
  rw [perform, call, addAttribute, unfinished_eq_ok unfinished]
  rfl

theorem perform_setFilter (unfinished : s.isFinished = false) (v : VarId) (e : Expr) :
    s.perform (.setFilter v e) = (.ok (), { s with segments := s.segments.map fun g =>
      if g.var = v then { g with filter := some e } else g }) := by
  rw [perform, call, setFilter, unfinished_eq_ok unfinished]
  rfl

theorem perform_finish_of_ok {expand : Bool} (h : s.finish expand = .ok t) :
    s.perform (.finish expand) = (.ok (), t) := by
  rw [perform, call, h]

theorem perform_finish_of_error {expand : Bool} {e : ViewError} (h : s.finish expand = .error e) :
    s.perform (.finish expand) = (.error e, s) := by
  rw [perform, call, h]

theorem next_perform (unfinished : s.isFinished = false) (c : ViewCall) :
    Next s c (s.perform c).2 := by
  cases c with
  | addVariable v slices =>
    rw [perform_addVariable unfinished]
    dsimp only
    split
    · rename_i there
      exact .selectAgain (contains_iff.1 there)
    · rename_i new
      exact .select fun there => new (contains_iff.2 there)
  | addRedefinition x slice =>
    rw [perform_addRedefinition unfinished]
    dsimp only
    split
    · rename_i there
      exact .redefineAgain there
    · rename_i new
      exact .redefine (Option.not_isSome_iff_eq_none.1 new)
  | addAttribute n a =>
    rw [perform_addAttribute unfinished]
    exact .overlay
  | setFilter v e =>
    rw [perform_setFilter unfinished]
    exact .filter
  | finish expand =>
    cases h : s.finish expand with
    | error e =>
      rw [perform_finish_of_error h]
      exact .failFinish h
    | ok t =>
      rw [perform_finish_of_ok h]
      exact .finish h

end Selection

/-- What a finished selection answers, whatever it is. -/
def ViewCall.answerOfFinished : ViewCall → Except ViewError Unit
  | .addVariable _ _ => .error (.finished .addVariable)
  | .addRedefinition _ _ => .error (.finished .addRedefinition)
  | .addAttribute _ _ => .error (.finished .addAttribute)
  | .setFilter _ _ => .error (.finished .setFilter)
  | .finish _ => .ok ()

namespace Selection

variable {d : Dataset} {s t : Selection} {calls : List ViewCall}

theorem perform_eq_of_isFinished (h : s.isFinished = true) (c : ViewCall) :
    s.perform c = (c.answerOfFinished, s) := by
  have refused : ∀ op, s.unfinished op = .error (.finished op) := fun op => if_pos h
  cases c with
  | addVariable | addRedefinition | addAttribute | setFilter =>
    simp only [perform, call, addVariable, addRedefinition, addAttribute, setFilter, refused]
    rfl
  | finish expand => rw [perform, call, finish_of_isFinished h]; rfl

/-- No call changes a finished selection. -/
theorem perform_of_isFinished (h : s.isFinished = true) (c : ViewCall) : (s.perform c).2 = s := by
  rw [perform_eq_of_isFinished h]

/-! ## Finishing -/

theorem finish_of_unfinished (unfinished : s.isFinished = false) (expand : Bool) :
    s.finish expand =
      match (s.candidates expand).mapM (Segment.resolve s.dataset s.newSize) with
      | .ok resolved => .ok { s with
          segments := resolved
          outcome := some (s.outcomeOf (s.candidates expand)) }
      | .error e => .error e :=
  if_neg (by rw [unfinished]; exact Bool.false_ne_true)

/-- Finishing resolves the candidates one by one and changes nothing else. -/
theorem exists_resolved_of_finish {expand : Bool} (unfinished : s.isFinished = false)
    (h : s.finish expand = .ok t) :
    ∃ resolved, List.Forall₂ (fun g r => g.resolve s.dataset s.newSize = .ok r)
        (s.candidates expand) resolved ∧
      t = { s with
        segments := resolved
        outcome := some (s.outcomeOf (s.candidates expand)) } := by
  rw [finish_of_unfinished unfinished] at h
  cases hm : (s.candidates expand).mapM (Segment.resolve s.dataset s.newSize) with
  | error e => simp only [hm] at h; cases h
  | ok resolved =>
    simp only [hm] at h
    cases h
    exact ⟨resolved, forall₂_of_mapM_eq_ok hm, rfl⟩

theorem isFinished_of_finish {expand : Bool} (h : s.finish expand = .ok t) :
    t.isFinished = true := by
  cases hf : s.isFinished with
  | true =>
    rw [finish_of_isFinished hf] at h
    cases h
    exact hf
  | false =>
    obtain ⟨_, _, rfl⟩ := exists_resolved_of_finish hf h
    rfl

theorem dataset_of_finish {expand : Bool} (h : s.finish expand = .ok t) :
    t.dataset = s.dataset := by
  cases hf : s.isFinished with
  | true =>
    rw [finish_of_isFinished hf] at h
    cases h
    rfl
  | false =>
    obtain ⟨_, _, rfl⟩ := exists_resolved_of_finish hf h
    rfl

/-- The variables of the segments that expanding puts together. -/
theorem map_var_expanded (s : Selection) :
    s.expanded.map Segment.var = s.dataset.expand s.vars := by
  obtain ⟨added, eq⟩ := Dataset.prefix_expand s.dataset s.vars
  have length : s.segments.length = s.vars.length := (List.length_map _).symm
  rw [expanded, ← eq, length, List.drop_left, List.map_append, List.map_map]
  exact congrArg _ (List.map_id added)

theorem map_var_candidates (s : Selection) (expand : Bool) :
    (s.candidates expand).map Segment.var =
      if expand then s.dataset.expand s.vars else s.vars := by
  rw [candidates]
  split
  · exact s.map_var_expanded
  · rfl

/-- Finishing selects the candidates. -/
theorem vars_of_finish {expand : Bool} (unfinished : s.isFinished = false)
    (h : s.finish expand = .ok t) :
    t.vars = if expand then s.dataset.expand s.vars else s.vars := by
  obtain ⟨resolved, all, rfl⟩ := exists_resolved_of_finish unfinished h
  rw [← map_var_candidates]
  exact (map_eq_of_forall₂ (all.imp fun _ _ hr => (Segment.of_resolve hr).1.symm)).symm

/-! ## All calls -/

theorem built_concat (d : Dataset) (calls : List ViewCall) (c : ViewCall) :
    built d (calls ++ [c]) = ((built d calls).perform c).2 := by
  rw [built, run_append]
  rfl

/-- What holds of the empty selection and is kept by every call holds after all calls. -/
theorem built_history {P : List ViewCall → Selection → Prop} (base : P [] (empty d))
    (next : ∀ {calls s c t}, s.isFinished = false → P calls s → Next s c t → P (calls ++ [c]) t)
    (still : ∀ {calls s c}, s.isFinished = true → P calls s → P (calls ++ [c]) s)
    (calls : List ViewCall) : P calls (built d calls) := by
  induction calls using List.reverseRecOn with
  | nil => exact base
  | append_singleton calls c ih =>
    rw [built_concat]
    cases hf : (built d calls).isFinished with
    | true => rw [perform_of_isFinished hf]; exact still hf ih
    | false => exact next hf ih (next_perform hf c)

/-- There is one answer to each call. -/
theorem length_run (s : Selection) (calls : List ViewCall) :
    (s.run calls).1.length = calls.length := by
  induction calls generalizing s with
  | nil => rfl
  | cons c rest ih => exact congrArg Nat.succ (ih (s.perform c).2)

/-- Calls that cannot be seen may be left out: where some calls change nothing of what is seen,
and the others do to it what they do to the selection, the others alone answer the same and lead
to the same. -/
theorem run_leaving (seen : Selection → Selection)
    (out : ViewCall → Except ViewError Unit → Bool)
    (hidden : ∀ s c, out c (s.perform c).1 = true → seen (s.perform c).2 = seen s)
    (shown : ∀ s c, out c (s.perform c).1 = false →
      (seen s).perform c = ((s.perform c).1, seen (s.perform c).2))
    (s : Selection) (calls : List ViewCall) :
    let kept := (calls.zip (s.run calls).1).filter fun p => !out p.1 p.2
    (seen s).run (kept.map Prod.fst) = (kept.map Prod.snd, seen (s.run calls).2) := by
  induction calls generalizing s with
  | nil => rfl
  | cons c rest ih =>
    intro kept
    have stays : (s.run (c :: rest)).2 = ((s.perform c).2.run rest).2 := rfl
    have here : kept = ((c, (s.perform c).1) :: rest.zip ((s.perform c).2.run rest).1).filter
        fun p => !out p.1 p.2 := rfl
    rw [here, stays, List.filter_cons]
    cases left : out c (s.perform c).1 with
    | true =>
      rw [← hidden s c left]
      exact ih (s.perform c).2
    | false =>
      rw [Bool.not_false, if_pos rfl, List.map_cons, List.map_cons, run, shown s c left]
      dsimp only
      rw [ih]

theorem dataset_built (d : Dataset) (calls : List ViewCall) : (built d calls).dataset = d := by
  refine built_history (P := fun _ s => s.dataset = d) rfl ?_ (fun _ h => h) calls
  intro calls s c t _ h step
  cases step with
  | selectAgain | select | redefineAgain | redefine | overlay | filter | failFinish => exact h
  | finish done => rw [dataset_of_finish done, h]

/-- No call selects a variable twice. -/
theorem nodup_vars_perform (nodup : s.vars.Nodup) (c : ViewCall) : (s.perform c).2.vars.Nodup := by
  cases finished : s.isFinished with
  | true => rwa [perform_of_isFinished finished]
  | false =>
    have step := next_perform finished c
    generalize (s.perform c).2 = t at step
    cases step with
    | selectAgain | redefineAgain | redefine | overlay | failFinish => exact nodup
    | select new =>
      show ((s.segments ++ [_]).map Segment.var).Nodup
      rw [List.map_append, List.map_singleton, ← List.concat_eq_append]
      exact nodup.concat new
    | filter =>
      show ((s.segments.map _).map Segment.var).Nodup
      rw [map_var_map fun g => by split <;> rfl]
      exact nodup
    | finish done =>
      rw [vars_of_finish finished done]
      split
      · exact s.dataset.nodup_expand nodup
      · exact nodup

theorem nodup_vars_built (d : Dataset) (calls : List ViewCall) : (built d calls).vars.Nodup := by
  induction calls using List.reverseRecOn with
  | nil => exact List.nodup_nil
  | append_singleton calls c ih =>
    rw [built_concat]
    exact nodup_vars_perform ih c

/-- One call finished a finished selection, and no later call changed it. -/
theorem exists_finish_of_isFinished (finished : (built d calls).isFinished = true) :
    ∃ before expand after, calls = before ++ .finish expand :: after ∧
      (built d before).isFinished = false ∧
      (built d before).finish expand = .ok (built d calls) := by
  induction calls using List.reverseRecOn with
  | nil => cases finished
  | append_singleton calls c ih =>
    rw [built_concat] at finished ⊢
    cases hf : (built d calls).isFinished with
    | true =>
      rw [perform_of_isFinished hf]
      obtain ⟨before, expand, after, rfl, unfinished, done⟩ := ih hf
      exact ⟨before, expand, after ++ [c], by simp, unfinished, done⟩
    | false =>
      -- all that counts of the new selection is that one call made it
      have step := next_perform hf c
      revert finished step
      generalize ((built d calls).perform c).2 = t
      intro finished step
      cases step with
      | selectAgain | select | redefineAgain | redefine | overlay | filter | failFinish =>
        exact absurd (hf.symm.trans finished) Bool.false_ne_true
      | finish done => exact ⟨calls, _, [], rfl, hf, done⟩

/-! ## Under construction -/

/-- Without a call that finishes, a selection is under construction. -/
theorem isFinished_built_of_not_finish (never : ∀ expand, .finish expand ∉ calls) :
    (built d calls).isFinished = false := by
  cases state : (built d calls).isFinished with
  | false => rfl
  | true =>
    obtain ⟨before, expand, after, rfl, _⟩ := exists_finish_of_isFinished state
    exact absurd (by simp) (never expand)

theorem isSome_slices?_iff {v : VarId} : (s.slices? v).isSome ↔ v ∈ s.vars := by
  rw [slices?, Option.isSome_map, isSome_segment?_iff]

/-- What holds of the empty selection, and is kept by every call that leaves the selection under
construction, holds up to finishing. -/
theorem built_unfinished {P : List ViewCall → Selection → Prop} (base : P [] (empty d))
    (next : ∀ {calls s c t}, P calls s → Next s c t → t.isFinished = false → P (calls ++ [c]) t)
    (unfinished : (built d calls).isFinished = false) : P calls (built d calls) := by
  revert unfinished
  refine built_history (P := fun calls s => s.isFinished = false → P calls s) (fun _ => base) ?_ ?_
    calls
  · intro calls s c t unfinished ih step still
    exact next (ih unfinished) step still
  · intro calls s c finished _ unfinished
    exact absurd finished (by rw [unfinished]; exact Bool.false_ne_true)

theorem not_unfinished_of_finish {expand : Bool} (done : s.finish expand = .ok t) :
    t.isFinished ≠ false := by
  rw [isFinished_of_finish done]
  exact Bool.false_ne_true.symm

/-- What an unfinished selection remembers is what the first call said that said anything, if
each call is remembered only where nothing was before. -/
theorem built_first {α : Type} (remembered : Selection → Option α) {said : ViewCall → Option α}
    (base : remembered (empty d) = none)
    (next : ∀ {s c t}, Next s c t → t.isFinished = false →
      remembered t = (remembered s).or (said c))
    (unfinished : (built d calls).isFinished = false) :
    remembered (built d calls) = calls.findSome? said := by
  refine built_unfinished (P := fun calls s => remembered s = calls.findSome? said) base ?_
    unfinished
  intro calls s c t ih step still
  rw [List.findSome?_append, List.findSome?_singleton, ← ih]
  exact next step still

/-- Up to finishing, a variable has the slices of the first call for it. -/
theorem slices?_built (unfinished : (built d calls).isFinished = false) (v : VarId) :
    (built d calls).slices? v = askedSlices? calls v := by
  refine built_first (fun s => s.slices? v) rfl ?_ unfinished
  intro s c t step still
  cases step with
  | @selectAgain w slices there =>
    show _ = Option.or _ (if w = v then some slices else none)
    split
    · rename_i same
      exact (Option.or_of_isSome (isSome_slices?_iff.2 (same ▸ there))).symm
    · exact Option.or_none.symm
  | @select w slices new =>
    show Option.map _ ((s.segments ++ [_]).find? _) = Option.or _ (if w = v then some slices else none)
    rw [List.find?_append, List.find?_singleton, Option.map_or]
    refine congrArg _ ?_
    by_cases same : w = v <;> simp [same]
  | filter =>
    show Option.map _ ((s.segments.map _).find? _) = Option.or _ none
    rw [Option.or_none, find?_map_of_var fun g => by split <;> rfl, Option.map_map]
    refine congrArg₂ _ (funext fun g => ?_) rfl
    rw [Function.comp_apply]
    split <;> rfl
  | redefineAgain | redefine | overlay | failFinish => exact Option.or_none.symm
  | finish done => exact absurd still (not_unfinished_of_finish done)

/-- Up to finishing, a dimension has its first redefinition. -/
theorem redefinition?_built (unfinished : (built d calls).isFinished = false) (x : DimId) :
    (built d calls).redefinition? x = askedRedefinition? calls x := by
  refine built_first (fun s => s.redefinition? x) rfl ?_ unfinished
  intro s c t step still
  cases step with
  | @redefineAgain y slice there =>
    show _ = Option.or _ (if y = x then some slice else none)
    split
    · rename_i same
      exact (Option.or_of_isSome (same ▸ there)).symm
    · exact Option.or_none.symm
  | @redefine y slice new =>
    show (s.redefinitions ++ [(y, slice)]).lookup x = Option.or _ (if y = x then some slice else none)
    rw [List.lookup_append]
    refine congrArg _ ?_
    by_cases same : y = x
    · rw [if_pos same, same]
      exact List.lookup_cons_self
    · rw [if_neg same]
      simp [List.lookup_cons, beq_eq_false_iff_ne.2 (Ne.symm same)]
  | selectAgain | select | overlay | filter | failFinish => exact Option.or_none.symm
  | finish done => exact absurd still (not_unfinished_of_finish done)

end Selection

end Hyperslab
