/-
# `Hyperslab.Proofs.View.Hollow` — when a selection has no text

A compound that is selected without any of its fields cannot be written: braces would have
nothing to hold, and without braces it would read as the whole compound.  The renderer meets
it only if it gets there, through selected compounds all the way.  Such a compound is
*hollow*, and hollow compounds are the only reason why a finished selection has no text
(`render_eq_error_iff`).  A compound without fields is not hollow: there is nothing that its
text could leave out.

Expanding fills hollow compounds, so it leaves none (`not_hollow_of_finish_expand`).
-/
import Hyperslab.Proofs.View.Pieces
import Hyperslab.Proofs.View.Recall

namespace Hyperslab

namespace Selection

variable {s t : Selection} {mode : RenderMode} {u v : VarId}

/-- The variable is a selected compound that has fields, but none that is selected, and all
compounds around it are selected. -/
structure Hollow (s : Selection) (v : VarId) : Prop where
  chosen : v ∈ s.vars
  compound : (s.dataset.var v).isCompound = true
  fields : s.dataset.fields v ≠ []
  none : ∀ f ∈ s.dataset.fields v, f ∉ s.vars
  around : ∀ c, s.dataset.Inside c v → c ∈ s.vars

/-- Where everything inside is selected, nothing is hollow. -/
theorem Whole.not_hollow (whole : s.Whole v) (inside : u = v ∨ s.dataset.Inside v u) :
    ¬ s.Hollow u := by
  intro hollow
  obtain ⟨f, hf⟩ := List.exists_mem_of_ne_nil _ hollow.fields
  refine hollow.none f hf (whole f ?_)
  rcases inside with rfl | inside
  · exact .single hf
  · exact .tail inside hf

/-! ## What is written is not hollow -/

theorem not_hollow_of_writes (forest : s.dataset.Forest) {text : String}
    (h : s.Writes mode v text) (inside : u = v ∨ s.dataset.Inside v u) : ¬ s.Hollow u := by
  induction v using forest.induction generalizing text with
  | step v ih =>
    obtain ⟨_, _, _, _, body, _⟩ := exists_pieces forest h
    cases body with
    | whole whole => exact whole.not_hollow inside
    | @fields texts _ some all =>
      intro hollow
      rcases inside with rfl | inside
      · -- braces hold the text of a selected field
        obtain ⟨text, ht⟩ := List.exists_mem_of_ne_nil _ some
        obtain ⟨f, hf, _⟩ := forall₂_mem_right all ht
        obtain ⟨field, chosen⟩ := mem_chosenFields.1 hf
        exact hollow.none f field chosen
      · obtain ⟨f, hf, near⟩ := Dataset.inside_iff.1 inside
        have chosen : f ∈ s.vars := by
          rcases near with rfl | deeper
          · exact hollow.chosen
          · exact hollow.around f deeper
        obtain ⟨_, _, writes⟩ := forall₂_mem_right all.flip (mem_chosenFields.2 ⟨hf, chosen⟩)
        exact ih f hf writes near hollow

/-! ## What is not written is hollow -/

theorem exists_renderHead (mode : RenderMode) {g : Segment}
    (rank : g.slices.length = s.dataset.rank g.var) : ∃ head, s.renderHead mode g = .ok head :=
  ⟨_, if_pos rank⟩

/-- The fields cannot be written because of one of them. -/
theorem exists_of_renderFields_eq_error {fs : List VarId} {e : ViewError}
    (h : s.renderFields mode (fs.map s.dataset.tree) = .error e) :
    ∃ f ∈ fs, ∃ g, s.segment? f = some g ∧ s.renderSegment mode g (s.dataset.tree f) = .error e := by
  induction fs with
  | nil => cases h
  | cons f fs ih =>
    rw [List.map_cons, renderFields, Dataset.top_tree] at h
    cases hs : s.segment? f with
    | none =>
      rw [hs] at h
      obtain ⟨k, hk, fails⟩ := ih h
      exact ⟨k, List.mem_cons_of_mem f hk, fails⟩
    | some g =>
      rw [hs] at h
      rcases error_of_bind_eq_error h with here | ⟨text, _, h⟩
      · exact ⟨f, List.mem_cons_self .., g, hs, here⟩
      · rcases error_of_bind_eq_error h with rest | ⟨texts, _, h⟩
        · obtain ⟨k, hk, fails⟩ := ih rest
          exact ⟨k, List.mem_cons_of_mem f hk, fails⟩
        · cases h

/-- Braces are refused only where no field is written. -/
theorem eq_nil_of_braces_eq_error {texts : List String} {e : ViewError}
    (h : s.braces v texts = .error e) :
    texts = [] ∧ e = .noField (s.dataset.variableName v) := by
  unfold braces at h
  cases texts with
  | nil => cases h; exact ⟨rfl, rfl⟩
  | cons _ _ => cases h

/-- A node with as many slices as dimensions is not written because of its body. -/
theorem parts_of_renderSegment_eq_error {g : Segment} {fs : List VariableTree} {e : ViewError}
    (rank : g.slices.length = s.dataset.rank g.var)
    (h : s.renderSegment mode g (.node v fs) = .error e) :
    (s.dataset.var v).isCompound = true ∧ s.areWhole fs = false ∧
      (s.renderFields mode fs = .error e ∨
        s.renderFields mode fs = .ok [] ∧ e = .noField (s.dataset.variableName v)) := by
  rw [renderSegment] at h
  rcases error_of_bind_eq_error h with head | ⟨_, _, h⟩
  · obtain ⟨_, written⟩ := exists_renderHead mode rank
    cases written.symm.trans head
  · cases part : (s.dataset.var v).isCompound && !s.areWhole fs with
    | false => rw [part] at h; cases h
    | true =>
      obtain ⟨compound, missing⟩ := Bool.and_eq_true_iff.1 part
      refine ⟨compound, by simpa using missing, ?_⟩
      rw [part] at h
      rcases error_of_bind_eq_error h with body | ⟨_, _, h⟩
      · rcases error_of_bind_eq_error body with fields | ⟨texts, written, empty⟩
        · exact .inl fields
        · obtain ⟨rfl, rfl⟩ := eq_nil_of_braces_eq_error empty
          exact .inr ⟨written, rfl⟩
      · cases h

/-- A selected variable with all compounds around it that cannot be written is hollow, or a
variable inside it is. -/
theorem hollow_of_renderSegment_eq_error (forest : s.dataset.Forest)
    (ranks : ∀ g ∈ s.segments, g.slices.length = s.dataset.rank g.var) {g : Segment} {e : ViewError}
    (chosen : s.segment? v = some g) (around : ∀ c, s.dataset.Inside c v → c ∈ s.vars)
    (h : s.renderSegment mode g (s.dataset.tree v) = .error e) :
    ∃ u, s.Hollow u ∧ e = .noField (s.dataset.variableName u) := by
  induction v using forest.induction generalizing g with
  | step v ih =>
    have selected : v ∈ s.vars := isSome_segment?_iff.1 (by rw [chosen]; rfl)
    rw [forest.tree_eq] at h
    obtain ⟨compound, part, body⟩ := parts_of_renderSegment_eq_error
      (ranks g (mem_of_segment? chosen).1) h
    rcases body with fields | ⟨written, rfl⟩
    · obtain ⟨f, hf, k, hk, fails⟩ := exists_of_renderFields_eq_error fields
      refine ih f hf hk (fun c inside => ?_) fails
      rcases (forest.inside_field_iff hf).1 inside with rfl | outer
      · exact selected
      · exact around c outer
    · -- no text means no selected field, and there are fields where something is missing
      have unselected : s.chosenFields v = [] :=
        List.forall₂_nil_right_iff.1 (writes_of_renderFields written)
      refine ⟨v, ⟨selected, compound, fun none => ?_, fun f hf there => ?_, around⟩, rfl⟩
      · rw [none] at part
        cases part
      · have field := mem_chosenFields.2 ⟨hf, there⟩
        rw [unselected] at field
        exact List.not_mem_nil field

/-! ## Selections -/

theorem hollow_of_render_eq_error (forest : s.dataset.Forest) (nodup : s.vars.Nodup)
    (ranks : ∀ g ∈ s.segments, g.slices.length = s.dataset.rank g.var)
    (finished : s.isFinished = true) {e : ViewError} (h : s.render mode = .error e) :
    ∃ u, s.Hollow u ∧ e = .noField (s.dataset.variableName u) := by
  rw [render, if_pos finished] at h
  rcases error_of_bind_eq_error h with segments | ⟨_, _, h⟩
  · obtain ⟨g, hg, fails⟩ := exists_of_mapM_eq_error segments
    obtain ⟨there, top⟩ := List.mem_filter.1 hg
    exact hollow_of_renderSegment_eq_error forest ranks (segment?_of_mem nodup there)
      (fun c inside => absurd inside (forest.not_inside_of_isTopLevel top)) fails
  · cases h

theorem not_hollow_of_render (forest : s.dataset.Forest) (nodup : s.vars.Nodup) {text : String}
    (h : s.render mode = .ok text) (u : VarId) : ¬ s.Hollow u := by
  intro hollow
  obtain ⟨texts, all, _⟩ := exists_pieces_of_render nodup h
  obtain ⟨v, top, inside⟩ := forest.exists_top u
  have chosen : v ∈ s.vars := by
    rcases inside with rfl | inside
    · exact hollow.chosen
    · exact hollow.around v inside
  obtain ⟨_, _, writes⟩ := forall₂_mem_right all.flip (mem_topVars.2 ⟨chosen, top⟩)
  exact not_hollow_of_writes forest writes inside hollow

/-- Where nothing is hollow, there is a text. -/
theorem exists_text (forest : s.dataset.Forest) (nodup : s.vars.Nodup)
    (ranks : ∀ g ∈ s.segments, g.slices.length = s.dataset.rank g.var)
    (finished : s.isFinished = true) (none : ∀ v, ¬ s.Hollow v) :
    ∃ text, s.render mode = .ok text := by
  cases h : s.render mode with
  | ok text => exact ⟨text, rfl⟩
  | error e =>
    obtain ⟨v, hollow, _⟩ := hollow_of_render_eq_error forest nodup ranks finished h
    exact absurd hollow (none v)

/-- Expanding leaves nothing hollow. -/
theorem not_hollow_of_finish_expand (forest : s.dataset.Forest) (nodup : s.vars.Nodup)
    (unfinished : s.isFinished = false) (h : s.finish true = .ok t) (u : VarId) :
    ¬ t.Hollow u := by
  intro hollow
  have dataset := dataset_of_finish h
  have filled : ∀ v, v ∈ t.vars ↔ s.dataset.Filled s.vars v := fun v => by
    rw [vars_of_finish unfinished h, if_pos rfl, Dataset.mem_expand_iff forest nodup]
  obtain ⟨f, hf⟩ := List.exists_mem_of_ne_nil _ hollow.fields
  -- no field is selected now, so none was selected before
  have bare : Expansion.isBare s.dataset s.vars u = true :=
    Expansion.isBare_iff.2 ⟨dataset ▸ hollow.compound, fun k hk old =>
      hollow.none k (dataset ▸ hk) ((filled k).2 (.chosen old))⟩
  refine hollow.none f hf ((filled f).2 (.field ((filled u).1 hollow.chosen) bare ?_))
  exact dataset ▸ hf

/-- A finished selection has a text, in either mode, unless something in it is hollow, and then
the error names something hollow.  There are as many slices as dimensions everywhere, and
nothing is hollow after finishing with expansion. -/
theorem render_eq_error_iff (name : String) (xs : List Declaration) (calls : List ViewCall)
    (finished : (built (Dataset.built name xs) calls).isFinished = true) (mode : RenderMode) :
    let d := Dataset.built name xs
    let s := built d calls
    ((∃ e, s.render mode = .error e) ↔ ∃ v, s.Hollow v) ∧
    (∀ e, s.render mode = .error e → Reported.kind e = .schemaInconsistency ∧
      ∃ v, s.Hollow v ∧ e = .noField (d.variableName v)) ∧
    (∀ g ∈ s.segments, ∃ head, s.renderHead mode g = .ok head) ∧
    ∀ before after, calls = before ++ .finish true :: after →
      (built d before).isFinished = false →
      ((built d before).perform (.finish true)).1 = .ok () → ∃ text, s.render mode = .ok text := by
  intro d s
  have dataset : ∀ calls, (built d calls).dataset = d := dataset_built d
  have forest : ∀ calls, (built d calls).dataset.Forest := fun calls => by
    rw [dataset]
    exact Dataset.forest_built name xs
  have nodup : s.vars.Nodup := nodup_vars_built d calls
  obtain ⟨_, _, _, _, unfinished, done⟩ := exists_finish_of_isFinished finished
  have ranks : ∀ g ∈ s.segments, g.slices.length = s.dataset.rank g.var :=
    fun g hg => length_slices_of_finish unfinished done hg
  have fails : ∀ e, s.render mode = .error e →
      ∃ v, s.Hollow v ∧ e = .noField (d.variableName v) := fun e h =>
    dataset calls ▸ hollow_of_render_eq_error (forest calls) nodup ranks finished h
  refine ⟨⟨fun ⟨e, h⟩ => ?_, fun ⟨v, hollow⟩ => ?_⟩, fun e h => ?_,
    fun g hg => exists_renderHead mode (ranks g hg), fun before after history building answer => ?_⟩
  · obtain ⟨v, hollow, _⟩ := fails e h
    exact ⟨v, hollow⟩
  · cases h : s.render mode with
    | ok text => exact absurd hollow (not_hollow_of_render (forest calls) nodup h v)
    | error e => exact ⟨e, rfl⟩
  · obtain ⟨v, hollow, same⟩ := fails e h
    exact ⟨by rw [same]; rfl, v, hollow, same⟩
  · refine exists_text (forest calls) nodup ranks finished fun v => ?_
    have last : s = built d (before ++ [.finish true]) := by
      rw [show s = built d calls from rfl, history]
      exact (built_of_finish after answer).2
    cases h : (built d before).finish true with
    | error e =>
      rw [perform_finish_of_error h] at answer
      cases answer
    | ok t =>
      rw [last, built_concat, perform_finish_of_ok h]
      exact not_hollow_of_finish_expand (forest before) (nodup_vars_built d before) building h v

/-- The profile with its cast, and without the field of the cast. -/
def emptyCast : List ViewCall := [.addVariable ⟨1⟩ [], .addVariable ⟨3⟩ [], .finish false]

theorem render_eq_error_iff_emptyCast :
    (built (Dataset.built "mooring" mooring) emptyCast).isFinished = true ∧
    (built (Dataset.built "mooring" mooring) emptyCast).render .display =
      .error (.noField "/profile.cast") ∧
    (∃ v, (built (Dataset.built "mooring" mooring) emptyCast).Hollow v) ∧
    (built (Dataset.built "mooring" mooring) partialProfile).isFinished = false ∧
    ∃ text, (built (Dataset.built "mooring" mooring)
      (partialProfile ++ .finish true :: [.finish false])).render .constraint = .ok text := by
  have fails : (built (Dataset.built "mooring" mooring) emptyCast).render .display =
      .error (.noField "/profile.cast") := rfl
  have unfinished :
      (built (Dataset.built "mooring" mooring) partialProfile).isFinished = false := by decide
  obtain ⟨hollow, -⟩ := render_eq_error_iff "mooring" mooring emptyCast (by decide) .display
  obtain ⟨-, -, -, expanded⟩ := render_eq_error_iff "mooring" mooring
    (partialProfile ++ .finish true :: [.finish false]) (by decide) .constraint
  exact ⟨by decide, fails, hollow.1 ⟨_, fails⟩, unfinished,
    expanded partialProfile [.finish false] rfl unfinished rfl⟩

end Selection

end Hyperslab
