/-
# `Hyperslab.Proofs.View.Pieces` — what the text of a selection consists of

The renderer goes through the tree of a variable.  Here its result is taken apart along the
fields instead, so that nothing has to be said about trees any more: a variable is written as
its name, its brackets, the selected fields in braces unless everything below is selected,
and its filter (`exists_pieces`); a selection is written as its variables outside of
compounds (`exists_pieces_of_render`).
-/
import Hyperslab.Proofs.View.History
import Hyperslab.View.Rendering

namespace Hyperslab

namespace Selection

variable {s : Selection} {mode : RenderMode}

/-- Everything inside the variable is selected. -/
def Whole (s : Selection) (v : VarId) : Prop := ∀ u, s.dataset.Inside v u → u ∈ s.vars

theorem whole_iff {v : VarId} :
    s.Whole v ↔ ∀ f ∈ s.dataset.fields v, f ∈ s.vars ∧ s.Whole f := by
  unfold Whole
  constructor
  · intro whole f hf
    exact ⟨whole f (Dataset.inside_iff.2 ⟨f, hf, .inl rfl⟩),
      fun u hu => whole u (Dataset.inside_iff.2 ⟨f, hf, .inr hu⟩)⟩
  · intro parts u hu
    obtain ⟨f, hf, rfl | deeper⟩ := Dataset.inside_iff.1 hu
    · exact (parts u hf).1
    · exact (parts f hf).2 u deeper

/-! ## Trees -/

theorem isWhole_tree (forest : s.dataset.Forest) (v : VarId) :
    s.isWhole (s.dataset.tree v) = s.areWhole ((s.dataset.fields v).map s.dataset.tree) := by
  rw [forest.tree_eq, isWhole]

theorem areWhole_map_iff (forest : s.dataset.Forest) {fs : List VarId} :
    s.areWhole (fs.map s.dataset.tree) = true ↔
      ∀ f ∈ fs, f ∈ s.vars ∧ s.areWhole ((s.dataset.fields f).map s.dataset.tree) = true := by
  induction fs with
  | nil => simp [areWhole]
  | cons f fs ih =>
    rw [List.map_cons, areWhole, Dataset.top_tree, isWhole_tree forest, List.forall_mem_cons, ← ih,
      Bool.and_eq_true, Bool.and_eq_true, contains_iff]

/-- The renderer leaves out the braces exactly where everything below is selected. -/
theorem areWhole_fields_iff (forest : s.dataset.Forest) (v : VarId) :
    s.areWhole ((s.dataset.fields v).map s.dataset.tree) = true ↔ s.Whole v := by
  induction v using forest.induction with
  | step v ih =>
    rw [areWhole_map_iff forest, whole_iff]
    exact forall₂_congr fun f hf => and_congr_right fun _ => ih f hf

/-! ## Pieces -/

/-- The variable is selected and written as the text. -/
def Writes (s : Selection) (mode : RenderMode) (v : VarId) (text : String) : Prop :=
  ∃ g, s.segment? v = some g ∧ s.renderSegment mode g (s.dataset.tree v) = .ok text

/-- The fields that are selected are written, in their order. -/
theorem writes_of_renderFields {fs : List VarId} {texts : List String}
    (h : s.renderFields mode (fs.map s.dataset.tree) = .ok texts) :
    List.Forall₂ (s.Writes mode) (fs.filter s.contains) texts := by
  induction fs generalizing texts with
  | nil => cases h; exact .nil
  | cons f fs ih =>
    rw [List.map_cons, renderFields, Dataset.top_tree] at h
    cases hs : s.segment? f with
    | none =>
      rw [hs] at h
      have out : ¬ s.contains f = true := by
        rw [contains_iff, ← isSome_segment?_iff, hs]
        exact Bool.false_ne_true
      rw [List.filter_cons_of_neg out]
      exact ih h
    | some g =>
      have chosen : s.contains f = true := by
        rw [contains_iff, ← isSome_segment?_iff, hs]
        rfl
      rw [List.filter_cons_of_pos chosen]
      rw [hs] at h
      obtain ⟨text, ht, h⟩ := exists_ok_of_bind_eq_ok h
      obtain ⟨rest, hr, h⟩ := exists_ok_of_bind_eq_ok h
      cases h
      exact .cons ⟨g, hs, ht⟩ (ih hr)

/-- The selected fields of a variable. -/
def chosenFields (s : Selection) (v : VarId) : List VarId :=
  (s.dataset.fields v).filter s.contains

/-- What stands between the brackets and the filter of a variable. -/
inductive Body (s : Selection) (mode : RenderMode) (v : VarId) : String → Prop
  | whole : s.Whole v → Body s mode v ""
  | fields {texts : List String} : ¬ s.Whole v → texts ≠ [] →
      List.Forall₂ (s.Writes mode) (s.chosenFields v) texts →
      Body s mode v ("\x7b" ++ ";".intercalate texts ++ "\x7d")

theorem Body.eq_of_whole {v : VarId} {body : String} (h : s.Body mode v body)
    (whole : s.Whole v) : body = "" := by
  cases h with
  | whole => rfl
  | fields part => exact absurd whole part

theorem Body.exists_of_not_whole {v : VarId} {body : String} (h : s.Body mode v body)
    (part : ¬ s.Whole v) :
    ∃ texts, List.Forall₂ (s.Writes mode) (s.chosenFields v) texts ∧
      body = "\x7b" ++ ";".intercalate texts ++ "\x7d" := by
  cases h with
  | whole whole => exact absurd whole part
  | fields _ _ all => exact ⟨_, all, rfl⟩

/-- A variable that is not selected completely has fields. -/
theorem isCompound_of_not_whole {v : VarId} (part : ¬ s.Whole v) :
    (s.dataset.var v).isCompound = true := by
  rw [whole_iff] at part
  push Not at part
  obtain ⟨f, hf, _⟩ := part
  exact Dataset.isCompound_of_mem_fields hf

theorem eq_of_braces {v : VarId} {texts : List String} {text : String}
    (h : s.braces v texts = .ok text) :
    texts ≠ [] ∧ text = "\x7b" ++ ";".intercalate texts ++ "\x7d" := by
  unfold braces at h
  cases texts with
  | nil => cases h
  | cons t ts =>
    cases h
    exact ⟨List.cons_ne_nil _ _, rfl⟩

theorem eq_of_renderHead {g : Segment} {text : String} (h : s.renderHead mode g = .ok text) :
    g.slices.length = s.dataset.rank g.var ∧
      text = s.renderName g.var ++ String.join (g.slices.map (Slice.render mode)) := by
  unfold renderHead at h
  dsimp only at h
  split at h
  · rename_i rank
    cases h
    exact ⟨rank, rfl⟩
  · cases h

/-- A node is written as head, body and filter; a body that is not empty is in braces. -/
theorem exists_parts_of_renderSegment {g : Segment} {v : VarId} {fs : List VariableTree}
    {text : String} (h : s.renderSegment mode g (.node v fs) = .ok text) :
    ∃ head body, s.renderHead mode g = .ok head ∧ text = head ++ body ++ g.renderFilter mode ∧
      (((s.dataset.var v).isCompound && !s.areWhole fs) = false ∧ body = "" ∨
        ∃ texts, s.areWhole fs = false ∧ s.renderFields mode fs = .ok texts ∧
          s.braces v texts = .ok body) := by
  rw [renderSegment] at h
  obtain ⟨head, hh, h⟩ := exists_ok_of_bind_eq_ok h
  cases hc : (s.dataset.var v).isCompound && !s.areWhole fs with
  | false =>
    rw [hc] at h
    cases h
    exact ⟨head, "", hh, rfl, .inl ⟨rfl, rfl⟩⟩
  | true =>
    obtain ⟨_, part⟩ := Bool.and_eq_true_iff.1 hc
    rw [hc] at h
    obtain ⟨body, hb, h⟩ := exists_ok_of_bind_eq_ok h
    obtain ⟨texts, hf, hb⟩ := exists_ok_of_bind_eq_ok hb
    cases h
    exact ⟨head, body, hh, rfl, .inr ⟨texts, by simpa using part, hf, hb⟩⟩

/-- A variable is written as its name, its brackets, its body and its filter. -/
theorem exists_pieces (forest : s.dataset.Forest) {v : VarId} {text : String}
    (h : s.Writes mode v text) :
    ∃ g body, s.segment? v = some g ∧ g.slices.length = s.dataset.rank v ∧ s.Body mode v body ∧
      text = s.renderName v ++ String.join (g.slices.map (Slice.render mode)) ++ body ++
        g.renderFilter mode := by
  obtain ⟨g, hs, written⟩ := h
  obtain ⟨_, rfl⟩ := mem_of_segment? hs
  rw [forest.tree_eq] at written
  obtain ⟨head, body, hh, rfl, parts⟩ := exists_parts_of_renderSegment written
  obtain ⟨rank, rfl⟩ := eq_of_renderHead hh
  refine ⟨g, body, hs, rank, ?_, rfl⟩
  rcases parts with ⟨closed, rfl⟩ | ⟨texts, part, fields, hb⟩
  · by_cases whole : s.Whole g.var
    · exact .whole whole
    · rw [isCompound_of_not_whole whole, Bool.true_and, Bool.not_eq_false',
        areWhole_fields_iff forest] at closed
      exact absurd closed whole
  · obtain ⟨some, rfl⟩ := eq_of_braces hb
    refine .fields (fun whole => ?_) some (writes_of_renderFields fields)
    rw [← areWhole_fields_iff forest, part] at whole
    exact Bool.false_ne_true whole

/-! ## What is written -/

/-- The variable is selected, and around it nothing is selected completely. -/
def Exposed (s : Selection) (v : VarId) : Prop :=
  v ∈ s.vars ∧ ∀ c ∈ s.vars, s.dataset.Inside c v → ¬ s.Whole c

/-- What is selected and does not show is inside something selected completely. -/
theorem exists_whole_of_not_exposed {v : VarId} (hv : v ∈ s.vars) (hidden : ¬ s.Exposed v) :
    ∃ c ∈ s.vars, s.dataset.Inside c v ∧ s.Whole c := by
  unfold Exposed at hidden
  push Not at hidden
  exact hidden hv

theorem mem_chosenFields {v f : VarId} :
    f ∈ s.chosenFields v ↔ f ∈ s.dataset.fields v ∧ f ∈ s.vars := by
  rw [chosenFields, List.mem_filter, contains_iff]

/-- A selected field shows, unless its owner does not or is selected completely. -/
theorem Exposed.field (forest : s.dataset.Forest) {v f : VarId} (h : s.Exposed v)
    (part : ¬ s.Whole v) (hf : f ∈ s.chosenFields v) : s.Exposed f := by
  obtain ⟨field, chosen⟩ := mem_chosenFields.1 hf
  refine ⟨chosen, fun c hc inside => ?_⟩
  rcases (forest.inside_field_iff field).1 inside with rfl | outer
  · exact part
  · exact h.2 c hc outer

/-- The variables outside of compounds, in the order of the segments. -/
def topVars (s : Selection) : List VarId := s.topSegments.map Segment.var

theorem mem_topVars {v : VarId} :
    v ∈ s.topVars ↔ v ∈ s.vars ∧ (s.dataset.var v).isTopLevel = true := by
  unfold topVars topSegments vars
  simp only [List.mem_map, List.mem_filter]
  constructor
  · rintro ⟨g, ⟨hg, top⟩, rfl⟩
    exact ⟨⟨g, hg, rfl⟩, top⟩
  · rintro ⟨⟨g, hg, rfl⟩, top⟩
    exact ⟨g, ⟨hg, top⟩, rfl⟩

theorem exposed_of_mem_topVars (forest : s.dataset.Forest) {v : VarId} (hv : v ∈ s.topVars) :
    s.Exposed v := by
  obtain ⟨chosen, top⟩ := mem_topVars.1 hv
  exact ⟨chosen, fun c _ inside => absurd inside (forest.not_inside_of_isTopLevel top)⟩

/-- A selection is written as its variables outside of compounds. -/
theorem exists_pieces_of_render (nodup : s.vars.Nodup) {text : String}
    (h : s.render mode = .ok text) :
    ∃ texts, List.Forall₂ (s.Writes mode) s.topVars texts ∧ text = ";".intercalate texts := by
  unfold render at h
  split at h
  · obtain ⟨texts, hm, h⟩ := exists_ok_of_bind_eq_ok h
    cases h
    refine ⟨texts, ?_, rfl⟩
    rw [topVars, List.forall₂_map_left_iff]
    have there : ∀ g ∈ s.topSegments, g ∈ s.segments := fun g hg => List.mem_of_mem_filter hg
    have all := (List.forall₂_and_left _ _).2 ⟨there, forall₂_of_mapM_eq_ok hm⟩
    exact all.imp fun g text both => ⟨g, segment?_of_mem nodup both.1, both.2⟩
  · cases h

end Selection

end Hyperslab
