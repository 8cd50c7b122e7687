/-
# `Hyperslab.Proofs.View.WorkList` — what expanding adds

Expanding runs a queue that reads, at every step, the list it is itself making longer.
What comes out does not depend on the order of the work: it is the least set that holds
the chosen variables and, with each compound of which no field was chosen, all fields of
it (`mem_expand_iff`).  "Was chosen" means at the beginning, and this is the point.  The
queue asks whether a field is chosen *by now*, and the two answers agree because a field
has one owner: a compound that is only just added cannot have a field that the queue
itself has added before.

`Progress` is the invariant of the loop.  It is stated with the compounds that are done
and with the fields that are still to be added for the compound at hand, so that it also
holds between two fields.  The compounds that are done or waiting are distinct variables
of the dataset, so the count of variables is enough steps (`waiting_run`).
-/
import Hyperslab.Proofs.Dataset.Forest
import Hyperslab.View.Expansion
import Mathlib.Data.List.Perm.Subperm
import Mathlib.Order.Bounds.Defs

namespace Hyperslab

/-- What choosing some variables stands for: these, and the fields of compounds of which
no field was chosen. -/
inductive Dataset.Filled (d : Dataset) (chosen : List VarId) : VarId → Prop
  | chosen {v : VarId} : v ∈ chosen → Filled d chosen v
  | field {c f : VarId} : Filled d chosen c → Expansion.isBare d chosen c = true →
      f ∈ d.fields c → Filled d chosen f

namespace Expansion

variable {d : Dataset} {chosen : List VarId}

theorem isBare_iff {v : VarId} :
    isBare d chosen v = true ↔ (d.var v).isCompound = true ∧ ∀ f ∈ d.fields v, f ∉ chosen := by
  simp [isBare]

theorem lt_length_of_isCompound {c : VarId} (h : (d.var c).isCompound = true) :
    c.index < d.vars.length := by
  refine Nat.lt_of_not_le fun le => ?_
  rw [Dataset.var_of_length_le le] at h
  cases h

/-! ## The invariant of the loop -/

/-- The work so far: the compounds in `done` have their fields, and of the compound at
hand the fields in `todo` are still to be added. -/
structure Progress (d : Dataset) (chosen done todo : List VarId) (s : Expansion) : Prop where
  subset : ∀ v ∈ chosen, v ∈ s.chosen
  sound : ∀ v ∈ s.chosen, d.Filled chosen v
  /-- What the loop added is a field of a variable that was there before. -/
  added : ∀ f ∈ s.chosen, f ∈ chosen ∨ ∃ c ∈ s.chosen, f ∈ d.fields c
  /-- A bare compound waits for its fields or has them. -/
  complete : ∀ c ∈ s.chosen, isBare d chosen c = true →
    c ∈ s.waiting ∨ ∀ f ∈ d.fields c, f ∈ s.chosen ∨ f ∈ todo
  queued : ∀ c ∈ done ++ s.waiting, c ∈ s.chosen ∧ isBare d chosen c = true
  nodup : (done ++ s.waiting).Nodup

namespace Progress

variable {done todo : List VarId} {s : Expansion}

theorem start (nodup : chosen.Nodup) : Progress d chosen [] [] (Expansion.start d chosen) where
  subset _ hv := hv
  sound _ hv := .chosen hv
  added _ hf := .inl hf
  complete _ hc bare := .inl (List.mem_filter.2 ⟨hc, bare⟩)
  queued _ hc := List.mem_filter.1 hc
  nodup := nodup.filter _

/-- The first compound in the queue becomes the one at hand. -/
theorem pop {v : VarId} {rest : List VarId} (p : Progress d chosen done [] s)
    (head : s.waiting = v :: rest) :
    Progress d chosen (done ++ [v]) (d.fields v) { s with waiting := rest } where
  subset := p.subset
  sound := p.sound
  added := p.added
  complete c hc bare := by
    rcases p.complete c hc bare with waits | has
    · rw [head] at waits
      rcases List.mem_cons.1 waits with rfl | later
      · exact .inr fun f hf => .inr hf
      · exact .inl later
    · exact .inr fun f hf => (has f hf).imp_right fun h => absurd h List.not_mem_nil
  queued c hc := by
    rw [List.append_assoc] at hc
    exact p.queued c (by rw [head]; exact hc)
  nodup := by
    have nodup := p.nodup
    rw [head] at nodup
    rw [List.append_assoc]
    exact nodup

/-- A field that is not there yet has no field that the loop added. -/
theorem isBare_concat (forest : d.Forest) (p : Progress d chosen done todo s) {f : VarId}
    (new : f ∉ s.chosen) : isBare d (s.chosen ++ [f]) f = isBare d chosen f := by
  rw [Bool.eq_iff_iff, isBare_iff, isBare_iff]
  refine and_congr_right fun _ => forall₂_congr fun g hg => not_congr ⟨fun there => ?_, fun h =>
    List.mem_append_left _ (p.subset g h)⟩
  rcases List.mem_append.1 there with old | same
  · rcases p.added g old with h | ⟨c, hc, hgc⟩
    · exact h
    · exact absurd (forest.owner_unique hg hgc ▸ hc) new
  · rw [List.mem_singleton.1 same] at hg
    exact absurd (forest.later hg) (Nat.lt_irrefl _)

/-- A field that is there needs nothing. -/
theorem skipField {f : VarId} (p : Progress d chosen done (f :: todo) s) (old : f ∈ s.chosen) :
    Progress d chosen done todo s where
  subset := p.subset
  sound := p.sound
  added := p.added
  complete c hc bare := by
    refine (p.complete c hc bare).imp_right fun has g hg => ?_
    rcases has g hg with there | rest
    · exact .inl there
    · rcases List.mem_cons.1 rest with rfl | later
      · exact .inl old
      · exact .inr later
  queued := p.queued
  nodup := p.nodup

/-- Adding a new field, in terms of what was chosen at the beginning. -/
theorem addField_of_new (forest : d.Forest) (p : Progress d chosen done todo s) {f : VarId}
    (new : f ∉ s.chosen) : Expansion.addField d s f =
      ⟨s.chosen ++ [f], s.waiting ++ [f].filter (isBare d chosen)⟩ := by
  have unlisted : ¬ s.chosen.contains f = true := fun there => new (List.contains_iff_mem.1 there)
  rw [Expansion.addField, if_neg unlisted]
  dsimp only
  rw [p.isBare_concat forest new, List.filter_singleton]
  cases isBare d chosen f with
  | true => rfl
  | false => rw [Bool.cond_false, List.append_nil]; rfl

/-- A new field of the compound at hand is chosen, and waits if it is bare. -/
theorem chooseField {v f : VarId} (p : Progress d chosen done (f :: todo) s) (hv : v ∈ done)
    (hf : f ∈ d.fields v) (new : f ∉ s.chosen) : Progress d chosen done todo
      ⟨s.chosen ++ [f], s.waiting ++ [f].filter (isBare d chosen)⟩ where
  subset u hu := List.mem_append_left _ (p.subset u hu)
  sound := by
    obtain ⟨there, bare⟩ := p.queued v (List.mem_append_left _ hv)
    refine List.forall_mem_append.2 ⟨p.sound, List.forall_mem_singleton.2 ?_⟩
    exact .field (p.sound v there) bare hf
  added := by
    obtain ⟨there, _⟩ := p.queued v (List.mem_append_left _ hv)
    refine List.forall_mem_append.2 ⟨fun u hu => ?_, List.forall_mem_singleton.2 ?_⟩
    · exact (p.added u hu).imp_right fun ⟨c, hc, hu⟩ => ⟨c, List.mem_append_left _ hc, hu⟩
    · exact .inr ⟨v, List.mem_append_left _ there, hf⟩
  complete := by
    refine List.forall_mem_append.2 ⟨fun c hc bare => ?_, List.forall_mem_singleton.2 fun bare => ?_⟩
    · refine (p.complete c hc bare).imp (List.mem_append_left _) fun has g hg => ?_
      rcases has g hg with there | rest
      · exact .inl (List.mem_append_left _ there)
      · exact (List.mem_cons.1 rest).imp_left fun same =>
          List.mem_append_right _ (List.mem_singleton.2 same)
    · exact .inl (List.mem_append_right _ (List.mem_filter.2 ⟨List.mem_singleton_self f, bare⟩))
  queued := by
    rw [← List.append_assoc]
    refine List.forall_mem_append.2 ⟨fun c hc => ?_, fun c hc => ?_⟩
    · exact (p.queued c hc).imp_left (List.mem_append_left _)
    · exact (List.mem_filter.1 hc).imp_left (List.mem_append_right _)
  nodup := by
    rw [← List.append_assoc]
    refine p.nodup.append ((List.nodup_singleton f).filter _) fun c hc same => ?_
    rw [List.mem_singleton.1 (List.mem_of_mem_filter same)] at hc
    exact new (p.queued f hc).1

/-- One field of the compound at hand is added. -/
theorem addField (forest : d.Forest) {v f : VarId}
    (p : Progress d chosen done (f :: todo) s) (hv : v ∈ done) (hf : f ∈ d.fields v) :
    Progress d chosen done todo (Expansion.addField d s f) := by
  by_cases there : f ∈ s.chosen
  · rw [Expansion.addField, if_pos (List.contains_iff_mem.2 there)]
    exact p.skipField there
  · rw [p.addField_of_new forest there]
    exact p.chooseField hv hf there

theorem foldl_addField (forest : d.Forest) {v : VarId} (hv : v ∈ done)
    (inside : ∀ f ∈ todo, f ∈ d.fields v) (p : Progress d chosen done todo s) :
    Progress d chosen done [] (todo.foldl (Expansion.addField d) s) := by
  induction todo generalizing s with
  | nil => exact p
  | cons f todo ih =>
    rw [List.forall_mem_cons] at inside
    exact ih inside.2 (p.addField forest hv inside.1)

/-- No more compounds are done or waiting than there are variables. -/
theorem length_le (p : Progress d chosen done todo s) :
    done.length + s.waiting.length ≤ d.vars.length := by
  have inside : (done ++ s.waiting).map VarId.index ⊆ List.range d.vars.length := by
    intro i hi
    obtain ⟨c, hc, rfl⟩ := List.mem_map.1 hi
    exact List.mem_range.2 (lt_length_of_isCompound (isBare_iff.1 (p.queued c hc).2).1)
  have nodup : ((done ++ s.waiting).map VarId.index).Nodup :=
    p.nodup.map fun _ _ same => VarId.ext same
  have le := (nodup.subperm inside).length_le
  rwa [List.length_map, List.length_append, List.length_range] at le

end Progress

/-! ## The whole loop -/

/-- With as many steps as there are compounds left, the queue runs empty. -/
theorem runWithin_progress (forest : d.Forest) {steps : Nat} {done : List VarId} {s : Expansion}
    (p : Progress d chosen done [] s) (enough : d.vars.length ≤ done.length + steps) :
    (∃ done, Progress d chosen done [] (runWithin d steps s)) ∧
      (runWithin d steps s).waiting = [] := by
  induction steps generalizing done s with
  | zero =>
    -- as many are done as there can be, so nothing waits
    have bound := p.length_le
    refine ⟨⟨done, p⟩, ?_⟩
    show s.waiting = []
    exact List.length_eq_zero_iff.1 (by omega)
  | succ steps ih =>
    unfold runWithin
    split
    · rename_i empty
      exact ⟨⟨done, p⟩, empty⟩
    · rename_i v rest head
      have next := (p.pop head).foldl_addField forest
        (List.mem_append_right _ (List.mem_singleton_self v)) fun _ hf => hf
      refine ih next ?_
      rw [List.length_append, List.length_singleton]
      omega

/-- The run of the work list that expanding makes. -/
theorem waiting_run (forest : d.Forest) (nodup : chosen.Nodup) :
    (runWithin d d.vars.length (start d chosen)).waiting = [] :=
  (runWithin_progress forest (.start nodup) (Nat.le_add_left _ _)).2

end Expansion

namespace Dataset

variable {d : Dataset} {chosen : List VarId}

/-- Expanding chooses exactly what the chosen variables stand for. -/
theorem mem_expand_iff (forest : d.Forest) (nodup : chosen.Nodup) {v : VarId} :
    v ∈ d.expand chosen ↔ d.Filled chosen v := by
  obtain ⟨⟨done, p⟩, empty⟩ := Expansion.runWithin_progress forest (.start nodup)
    (Nat.le_add_left d.vars.length 0)
  constructor
  · exact p.sound v
  · intro filled
    induction filled with
    | chosen hv => exact p.subset _ hv
    | field _ bare hf ih =>
      rcases p.complete _ ih bare with waits | has
      · rw [empty] at waits
        exact absurd waits List.not_mem_nil
      · exact (has _ hf).resolve_right List.not_mem_nil

theorem nodup_foldl_addField {fs : List VarId} {s : Expansion} (h : s.chosen.Nodup) :
    (fs.foldl (Expansion.addField d) s).chosen.Nodup := by
  induction fs generalizing s with
  | nil => exact h
  | cons f fs ih => exact ih (Expansion.nodup_addField h)

theorem nodup_runWithin {steps : Nat} {s : Expansion} (h : s.chosen.Nodup) :
    (Expansion.runWithin d steps s).chosen.Nodup := by
  induction steps generalizing s with
  | zero => exact h
  | succ steps ih =>
    unfold Expansion.runWithin
    split
    · exact h
    · exact ih (nodup_foldl_addField h)

/-- Expanding lists nothing twice. -/
theorem nodup_expand (d : Dataset) {chosen : List VarId} (h : chosen.Nodup) :
    (d.expand chosen).Nodup :=
  nodup_runWithin h

/-! ## Two ways to say what is filled in -/

/-- What is filled in is the least set that holds the chosen variables and, with a compound
none of whose fields is chosen, its fields. -/
theorem isLeast_filled (d : Dataset) (chosen : List VarId) :
    IsLeast {F : Set VarId | (∀ v ∈ chosen, v ∈ F) ∧ ∀ c ∈ F, (d.var c).isCompound = true →
        (∀ f ∈ d.fields c, f ∉ chosen) → ∀ f ∈ d.fields c, f ∈ F}
      {v | d.Filled chosen v} := by
  constructor
  · exact ⟨fun v hv => .chosen hv, fun c hc compound bare f hf =>
      .field hc (Expansion.isBare_iff.2 ⟨compound, bare⟩) hf⟩
  · rintro F ⟨base, closed⟩ v filled
    induction filled with
    | chosen hv => exact base _ hv
    | field _ bare hf ih =>
      obtain ⟨compound, none⟩ := Expansion.isBare_iff.1 bare
      exact closed _ ih compound none _ hf

/-- What lies around a field is its owner, or lies around its owner. -/
theorem Forest.inside_field_iff (h : d.Forest) {b c f : VarId} (hf : f ∈ d.fields c) :
    d.Inside b f ↔ b = c ∨ d.Inside b c := by
  constructor
  · intro inside
    cases inside with
    | single hb => exact .inl (h.owner_unique hb hf)
    | tail outer hb => exact .inr (h.owner_unique hb hf ▸ outer)
  · rintro (rfl | outer)
    · exact .single hf
    · exact .tail outer hf

/-- A variable is filled in exactly if it is chosen, or lies inside a chosen compound with
no chosen field in any compound from there down to its owner. -/
theorem filled_iff (h : d.Forest) {v : VarId} :
    d.Filled chosen v ↔ v ∈ chosen ∨ ∃ a ∈ chosen, d.Inside a v ∧
      ∀ c, (c = a ∨ d.Inside a c) → d.Inside c v → ∀ f ∈ d.fields c, f ∉ chosen := by
  constructor
  · intro filled
    induction filled with
    | chosen hv => exact .inl hv
    | @field c f _ bare hf ih =>
      have none := (Expansion.isBare_iff.1 bare).2
      rcases ih with hc | ⟨a, ha, inside, chain⟩
      · refine .inr ⟨c, hc, .single hf, fun b above below => ?_⟩
        rcases (h.inside_field_iff hf).1 below with rfl | around
        · exact none
        · -- nothing lies between a compound and itself
          have := h.lt_of_inside around
          rcases above with rfl | inner
          · exact absurd this (Nat.lt_irrefl _)
          · exact absurd (Nat.lt_trans this (h.lt_of_inside inner)) (Nat.lt_irrefl _)
      · refine .inr ⟨a, ha, .tail inside hf, fun b above below => ?_⟩
        rcases (h.inside_field_iff hf).1 below with rfl | around
        · exact none
        · exact chain b above around
  · rintro (hv | ⟨a, ha, inside, chain⟩)
    · exact .chosen hv
    · have bare : ∀ c, (c = a ∨ d.Inside a c) → d.Inside c v → ∀ f ∈ d.fields c,
          Expansion.isBare d chosen c = true := fun c above below f hf =>
        Expansion.isBare_iff.2 ⟨Dataset.isCompound_of_mem_fields hf, chain c above below⟩
      induction inside with
      | single hf => exact .field (.chosen ha) (bare a (.inl rfl) (.single hf) _ hf) hf
      | tail outer hf ih =>
        refine .field (ih (fun c above below => chain c above (.tail below hf))
          fun c above below => bare c above (.tail below hf)) ?_ hf
        exact bare _ (.inr outer) (.single hf) _ hf

end Dataset

end Hyperslab
