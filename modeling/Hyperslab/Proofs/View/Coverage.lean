/-
# `Hyperslab.Proofs.View.Coverage` — what the text of a selection represents

A text represents a variable if its name has been written for it, or if it lies inside a
compound with that, of which everything is selected (`Represented`).

The renderer begins with the variables outside of compounds and goes on to the selected fields
of what it writes.  So a selected variable is represented exactly if all compounds around it are
selected too (`represented_iff`).  A field without the compound around it is left out, and no
error says so: if nothing else is selected, the text is empty (`not_represented_strayCast`).
-/
import Hyperslab.Proofs.View.Finished
import Hyperslab.Proofs.View.Pieces

namespace Hyperslab

/-- Qualified names are not empty. -/
theorem Dataset.variableName_ne_empty (d : Dataset) (v : VarId) : d.variableName v ≠ "" := by
  have qualified : ∀ g name, d.qualify g name ≠ "" := by
    intro g name
    unfold qualify
    dsimp only
    split <;> simp
  unfold variableName
  cases v.index with
  | zero => exact qualified _ _
  | succ depth =>
    unfold variableNameWithin
    split
    · exact qualified _ _
    · simp

/-- Of two compounds around a variable, one is around the other. -/
theorem Dataset.Forest.comparable_of_inside {d : Dataset} (h : d.Forest) {b c v : VarId}
    (hb : d.Inside b v) (hc : d.Inside c v) : c = b ∨ d.Inside c b ∨ d.Inside b c := by
  induction hb with
  | single hf => exact ((h.inside_field_iff hf).1 hc).imp_right .inl
  | tail outer hf ih =>
    rcases (h.inside_field_iff hf).1 hc with rfl | around
    · exact .inr (.inr outer)
    · exact ih around

namespace Selection

variable {s : Selection} {mode : RenderMode} {text : String} {u v : VarId}

/-! ## Parts of a text -/

/-- The part is what is written for the variable, in a text with what is written for these
variables. -/
def WrittenAmong (s : Selection) (mode : RenderMode) (vs : List VarId) (v : VarId)
    (part text : String) : Prop :=
  ∃ us ws before after, vs = us ++ v :: ws ∧ List.Forall₂ (s.Writes mode) us before ∧
    s.Writes mode v part ∧ List.Forall₂ (s.Writes mode) ws after ∧
    text = ";".intercalate (before ++ part :: after)

theorem exists_writtenAmong {vs : List VarId} {texts : List String}
    (h : List.Forall₂ (s.Writes mode) vs texts) (hv : v ∈ vs) :
    ∃ part, s.WrittenAmong mode vs v part (";".intercalate texts) := by
  obtain ⟨us, ws, rfl⟩ := List.append_of_mem hv
  have front := List.forall₂_take us.length h
  have back := List.forall₂_drop us.length h
  rw [List.take_left] at front
  rw [List.drop_left] at back
  cases hb : texts.drop us.length with
  | nil => rw [hb] at back; cases back
  | cons part after =>
    rw [hb] at back
    obtain ⟨written, back⟩ := List.forall₂_cons.1 back
    refine ⟨part, us, ws, texts.take us.length, after, rfl, front, written, back, ?_⟩
    rw [← hb, List.take_append_drop]

namespace WrittenAmong

variable {vs : List VarId} {part : String}

theorem mem (h : s.WrittenAmong mode vs v part text) : v ∈ vs := by
  obtain ⟨_, _, _, _, rfl, _⟩ := h
  exact List.mem_append_right _ (List.mem_cons_self ..)

theorem writes (h : s.WrittenAmong mode vs v part text) : s.Writes mode v part := by
  obtain ⟨_, _, _, _, _, _, written, _⟩ := h
  exact written

theorem exists_place (h : s.WrittenAmong mode vs v part text) :
    ∃ front back, text = front ++ part ++ back := by
  obtain ⟨_, _, before, after, -, -, -, -, rfl⟩ := h
  induction before with
  | nil =>
    cases after with
    | nil => exact ⟨"", "", by simp⟩
    | cons next after =>
      refine ⟨"", ";" ++ ";".intercalate (next :: after), ?_⟩
      rw [List.nil_append, String.intercalate_cons_of_ne_nil (List.cons_ne_nil next after),
        String.empty_append, String.append_assoc]
  | cons first before ih =>
    obtain ⟨front, back, eq⟩ := ih
    refine ⟨first ++ ";" ++ front, back, ?_⟩
    rw [List.cons_append, String.intercalate_cons_of_ne_nil (by simp), eq]
    simp only [String.append_assoc]

end WrittenAmong

/-- The part of a text that is written for a variable: one of those that the text begins with,
or a field between the braces of the part of its compound. -/
inductive Printed (s : Selection) (mode : RenderMode) (text : String) : VarId → String → Prop
  | top {v : VarId} {part : String} : s.WrittenAmong mode s.topVars v part text →
      Printed s mode text v part
  | field {c f : VarId} {g : Segment} {outer body part : String} : Printed s mode text c outer →
      s.segment? c = some g →
      outer = s.renderName c ++ String.join (g.slices.map (Slice.render mode)) ++
        ("\x7b" ++ body ++ "\x7d") ++ g.renderFilter mode →
      s.WrittenAmong mode (s.chosenFields c) f part body → Printed s mode text f part

namespace Printed

variable {part : String}

theorem writes (h : s.Printed mode text v part) : s.Writes mode v part := by
  cases h with
  | top among => exact among.writes
  | field _ _ _ among => exact among.writes

/-- What is written for a variable stands in the text. -/
theorem exists_place (h : s.Printed mode text v part) :
    ∃ front back, text = front ++ part ++ back := by
  induction h with
  | top among => exact among.exists_place
  | @field c f g outer body part _ _ eq among ih =>
    obtain ⟨front, back, whole⟩ := ih
    obtain ⟨inner, last, fields⟩ := among.exists_place
    refine ⟨front ++ (s.renderName c ++ String.join (g.slices.map (Slice.render mode)) ++
      ("\x7b" ++ inner)), last ++ "\x7d" ++ g.renderFilter mode ++ back, ?_⟩
    rw [whole, eq, fields]
    simp only [String.append_assoc]

/-- Only selected variables are written, and all around them is selected too. -/
theorem chosen (forest : s.dataset.Forest) (h : s.Printed mode text v part) :
    v ∈ s.vars ∧ ∀ c, s.dataset.Inside c v → c ∈ s.vars := by
  induction h with
  | top among =>
    obtain ⟨hv, top⟩ := mem_topVars.1 among.mem
    exact ⟨hv, fun c inside => absurd inside (forest.not_inside_of_isTopLevel top)⟩
  | field _ _ _ among ih =>
    obtain ⟨field, hf⟩ := mem_chosenFields.1 among.mem
    refine ⟨hf, fun b inside => ?_⟩
    rcases (forest.inside_field_iff field).1 inside with rfl | outer
    · exact ih.1
    · exact ih.2 b outer

end Printed

/-! ## What is represented -/

/-- The name of the variable stands in the text, in the part that is written for it. -/
def Named (s : Selection) (mode : RenderMode) (text : String) (v : VarId) : Prop :=
  ∃ front rest back, text = front ++ (s.renderName v ++ rest) ++ back ∧
    s.Printed mode text v (s.renderName v ++ rest)

/-- The variable has its name in the text, or a compound has that it lies inside of and
everything of which is selected. -/
def Represented (s : Selection) (mode : RenderMode) (text : String) (v : VarId) : Prop :=
  s.Named mode text v ∨ ∃ c, s.Named mode text c ∧ s.dataset.Inside c v ∧ s.Whole c

theorem named_of_printed (forest : s.dataset.Forest) {part : String}
    (h : s.Printed mode text v part) : s.Named mode text v := by
  obtain ⟨front, back, place⟩ := h.exists_place
  obtain ⟨g, body, _, _, _, eq⟩ := exists_pieces forest h.writes
  have name : ∃ rest, part = s.renderName v ++ rest :=
    ⟨String.join (g.slices.map (Slice.render mode)) ++ (body ++ g.renderFilter mode),
      by simp only [eq, String.append_assoc]⟩
  obtain ⟨rest, rfl⟩ := name
  exact ⟨front, rest, back, place, h⟩

/-- All that is around a represented variable is selected. -/
theorem Represented.around (forest : s.dataset.Forest) (h : s.Represented mode text v)
    {c : VarId} (inside : s.dataset.Inside c v) : c ∈ s.vars := by
  rcases h with ⟨_, _, _, _, printed⟩ | ⟨u, ⟨_, _, _, _, printed⟩, within, whole⟩
  · exact (printed.chosen forest).2 c inside
  · obtain ⟨chosen, around⟩ := printed.chosen forest
    rcases forest.comparable_of_inside within inside with rfl | outer | between
    · exact chosen
    · exact around c outer
    · exact whole c between

/-- A selected variable inside something that is written is represented, if everything around it
is selected. -/
theorem represented_of_printed (forest : s.dataset.Forest) {part : String}
    (printed : s.Printed mode text u part) (near : v = u ∨ s.dataset.Inside u v)
    (chosen : v ∈ s.vars) (around : ∀ c, s.dataset.Inside c v → c ∈ s.vars) :
    s.Represented mode text v := by
  induction u using forest.induction generalizing part with
  | step u ih =>
    have named := named_of_printed forest printed
    rcases near with rfl | inside
    · exact .inl named
    by_cases whole : s.Whole u
    · exact .inr ⟨u, named, inside, whole⟩
    obtain ⟨g, body, segment, _, hb, eq⟩ := exists_pieces forest printed.writes
    obtain ⟨texts, all, rfl⟩ := hb.exists_of_not_whole whole
    obtain ⟨f, hf, near⟩ := Dataset.inside_iff.1 inside
    have selected : f ∈ s.vars := by
      rcases near with rfl | deeper
      · exact chosen
      · exact around f deeper
    obtain ⟨_, among⟩ := exists_writtenAmong all (mem_chosenFields.2 ⟨hf, selected⟩)
    exact ih f hf (.field printed segment eq among) near

/-- A text with the name of a variable outside of compounds is not empty. -/
theorem ne_empty_of_mem_topVars (forest : s.dataset.Forest) {texts : List String}
    (all : List.Forall₂ (s.Writes mode) s.topVars texts) (hv : v ∈ s.topVars) :
    ";".intercalate texts ≠ "" := by
  obtain ⟨part, among⟩ := exists_writtenAmong all hv
  obtain ⟨front, rest, back, place, -⟩ := named_of_printed forest (.top among)
  have name : s.renderName v = s.dataset.variableName v := if_pos (mem_topVars.1 hv).2
  intro empty
  rw [empty, name] at place
  simp [s.dataset.variableName_ne_empty v] at place

/-- The text of a finished selection represents exactly those selected variables around which
everything is selected, and it is empty exactly if there are none. -/
theorem represented_iff (name : String) (xs : List Declaration) (calls : List ViewCall)
    (mode : RenderMode) (text : String)
    (written : (built (Dataset.built name xs) calls).render mode = .ok text) :
    let d := Dataset.built name xs
    let s := built d calls
    (∀ v ∈ s.vars, s.Represented mode text v ↔ ∀ c, d.Inside c v → c ∈ s.vars) ∧
    (text = "" ↔ ∀ v ∈ s.vars, ∃ c, d.Inside c v ∧ c ∉ s.vars) := by
  intro d s
  have dataset : s.dataset = d := dataset_built d calls
  have forest : s.dataset.Forest := dataset ▸ Dataset.forest_built name xs
  obtain ⟨texts, all, rfl⟩ := exists_pieces_of_render (nodup_vars_built d calls) written
  rw [← dataset]
  refine ⟨fun v chosen => ⟨fun represented c inside => represented.around forest inside,
    fun around => ?_⟩, fun empty v chosen => ?_, fun gaps => ?_⟩
  · obtain ⟨u, top, near⟩ := forest.exists_top v
    have hu : u ∈ s.vars := by
      rcases near with rfl | inside
      · exact chosen
      · exact around u inside
    obtain ⟨_, among⟩ := exists_writtenAmong all (mem_topVars.2 ⟨hu, top⟩)
    exact represented_of_printed forest (.top among) near chosen around
  · obtain ⟨u, top, near⟩ := forest.exists_top v
    have absent : u ∉ s.vars := fun hu =>
      ne_empty_of_mem_topVars forest all (mem_topVars.2 ⟨hu, top⟩) empty
    rcases near with rfl | inside
    · exact absurd chosen absent
    · exact ⟨u, inside, absent⟩
  · have none : s.topVars = [] := List.eq_nil_iff_forall_not_mem.2 fun u hu => by
      obtain ⟨chosen, top⟩ := mem_topVars.1 hu
      obtain ⟨_, inside, _⟩ := gaps u chosen
      exact forest.not_inside_of_isTopLevel top inside
    rw [none] at all
    cases all
    rfl

/-- The profile with its cast, and with the field of the cast that expanding adds. -/
def filledProfile : List ViewCall := partialProfile ++ [.finish true]

/-- The field has no name in the text, but it is inside the cast. -/
theorem represented_iff_filledProfile :
    (built (Dataset.built "mooring" mooring) filledProfile).render .constraint =
      .ok "/profile\x7bcast|salt\x7d" ∧
    ((⟨4⟩ : VarId) ∈ (built (Dataset.built "mooring" mooring) filledProfile).vars) ∧
    (built (Dataset.built "mooring" mooring) filledProfile).Represented .constraint
      "/profile\x7bcast|salt\x7d" ⟨4⟩ := by
  have written : (built (Dataset.built "mooring" mooring) filledProfile).render .constraint =
      .ok "/profile\x7bcast|salt\x7d" := rfl
  have chosen : (⟨4⟩ : VarId) ∈ (built (Dataset.built "mooring" mooring) filledProfile).vars := by
    decide
  have forest := Dataset.forest_built "mooring" mooring
  obtain ⟨represented, -⟩ := represented_iff "mooring" mooring filledProfile .constraint _ written
  refine ⟨written, chosen, (represented ⟨4⟩ chosen).2 fun c inside => ?_⟩
  -- the cast, the profile around it, and nothing around the profile
  rcases (forest.inside_field_iff (c := ⟨3⟩) (by decide)).1 inside with rfl | outer
  · decide
  rcases (forest.inside_field_iff (c := ⟨1⟩) (by decide)).1 outer with rfl | outer
  · decide
  · exact absurd outer (forest.not_inside_of_isTopLevel (by decide))

/-- The cast without the profile around it. -/
def strayCast : List ViewCall := [.addVariable ⟨3⟩ [], .finish true]

/-- The cast is selected, and there is a text, but the text is empty. -/
theorem not_represented_strayCast :
    let s := built (Dataset.built "mooring" mooring) strayCast
    s.isFinished = true ∧ ((⟨3⟩ : VarId) ∈ s.vars) ∧
      ∀ mode, s.render mode = .ok "" ∧ ¬ s.Represented mode "" ⟨3⟩ := by
  have forest : (built (Dataset.built "mooring" mooring) strayCast).dataset.Forest :=
    Dataset.forest_built "mooring" mooring
  refine ⟨by decide, by decide, fun mode => ⟨by cases mode <;> rfl, fun represented => ?_⟩⟩
  have profile : (⟨1⟩ : VarId) ∈ (built (Dataset.built "mooring" mooring) strayCast).vars :=
    represented.around forest (.single (by decide))
  exact absurd profile (by decide)

end Selection

end Hyperslab
