/-
# `Hyperslab.Proofs.View.Agreement` — what two equal constraints have in common

Two selections of one dataset may be written as the same constraint.  `Agree s t v` says
what they have in common at a variable then: brackets and filters are the same, and either
everything inside is selected on both sides, or the same fields are, and they agree there.
Nothing is said about what is inside a variable that is selected completely, because nothing
of it is written.

The texts are compared from left to right, always with the rest of the text behind the
piece in question.  What is needed is that names can be told apart (`Told`), or that the
selected variables are known to be the same.
-/
import Hyperslab.Proofs.Dataset.Naming
import Hyperslab.Proofs.Filter.Ending
import Hyperslab.Proofs.Slice.Brackets
import Hyperslab.Proofs.View.Pieces

namespace Hyperslab

/-- What a constraint shows of a segment: the numbers in the brackets and the filter. -/
def Segment.shown (g : Segment) : List (List Nat) × Option String :=
  (g.slices.map Slice.shown, g.filter.map Expr.text)

namespace Segment

/-! ## Brackets and filters -/

theorem toList_brackets {g : Segment} (closed : ∀ r ∈ g.slices, r.stop.isSome) :
    (String.join (g.slices.map (Slice.render .constraint))).toList =
      g.slices.flatMap fun r => Slice.bracket r.shown := by
  rw [String.toList_join, List.flatMap_map]
  exact List.flatMap_congr fun r hr => Slice.toList_render (closed r hr)

theorem toList_filterSuffix (g : Segment) :
    g.filterSuffix.toList = match g.filter with
      | some e => '|' :: e.text.toList
      | none => [] := by
  unfold filterSuffix
  cases g.filter with
  | none => rfl
  | some e => simp

variable {g h : Segment} {q r : List Char}

/-- A filter does not look like fields. -/
theorem filterSuffix_ne_brace (hq : Text.Stops Expr.closers q) (r : List Char) :
    g.filterSuffix.toList ++ q ≠ '\x7b' :: r := by
  rw [toList_filterSuffix]
  intro same
  cases hf : g.filter with
  | none =>
    simp only [hf, List.nil_append] at same
    rw [same] at hq
    exact absurd (hq _ rfl) (by decide)
  | some e => simp [hf] at same

/-- The filters of two segments end together if they start together: they are the same, or
delimited. -/
def FiltersEnd (g h : Segment) : Prop :=
  g.filter = h.filter ∨ (∀ e ∈ g.filter, e.Delimited) ∧ ∀ e ∈ h.filter, e.Delimited

/-- Delimited filters can be told from each other and from none. -/
theorem filterSuffix_append_inj (ends : FiltersEnd g h) (hq : Text.Stops Expr.closers q)
    (hr : Text.Stops Expr.closers r)
    (same : g.filterSuffix.toList ++ q = h.filterSuffix.toList ++ r) :
    g.filter.map Expr.text = h.filter.map Expr.text ∧ q = r := by
  rcases ends with filters | ⟨hg, hh⟩
  · rw [toList_filterSuffix, toList_filterSuffix, filters] at same
    exact ⟨by rw [filters], List.append_cancel_left same⟩
  have bar : ∀ {cs : List Char}, ¬ Text.Stops Expr.closers ('|' :: cs) := by
    intro cs stops
    exact absurd (stops _ rfl) (by decide)
  rw [toList_filterSuffix, toList_filterSuffix] at same
  cases hfg : g.filter with
  | none =>
    cases hfh : h.filter with
    | none =>
      simp only [hfg, hfh, List.nil_append] at same
      exact ⟨rfl, same⟩
    | some e =>
      simp only [hfg, hfh, List.nil_append, List.cons_append] at same
      rw [same] at hq
      exact absurd hq bar
  | some a =>
    cases hfh : h.filter with
    | none =>
      simp only [hfg, hfh, List.nil_append, List.cons_append] at same
      rw [← same] at hr
      exact absurd hr bar
    | some b =>
      simp only [hfg, hfh, List.cons_append, List.cons.injEq, true_and] at same
      obtain ⟨texts, rest⟩ := Expr.text_append_inj (hg a hfg) (hh b hfh) hq hr same
      exact ⟨by rw [Option.map_some, Option.map_some, texts], rest⟩

end Segment

namespace Selection

/-- The slices of a selection are closed. -/
def Closed (s : Selection) : Prop := ∀ g ∈ s.segments, ∀ r ∈ g.slices, r.stop.isSome

/-- What two selections have in common at a variable that they are written the same at. -/
inductive Agree (s t : Selection) : VarId → Prop
  | whole {v : VarId} {g h : Segment} : s.segment? v = some g → t.segment? v = some h →
      g.shown = h.shown → s.Whole v → t.Whole v → Agree s t v
  | fields {v : VarId} {g h : Segment} : s.segment? v = some g → t.segment? v = some h →
      g.shown = h.shown → ¬ s.Whole v → ¬ t.Whole v → s.chosenFields v = t.chosenFields v →
      (∀ f ∈ s.chosenFields v, Agree s t f) → Agree s t v

variable {s t : Selection}

/-! ## One variable -/

/-- The body of a variable in characters. -/
theorem Body.toList {v : VarId} {body : String} (h : s.Body .constraint v body) :
    (s.Whole v ∧ body.toList = []) ∨
      (¬ s.Whole v ∧ ∃ texts, List.Forall₂ (s.Writes .constraint) (s.chosenFields v) texts ∧
        body.toList = '\x7b' :: ([';'].intercalate (texts.map String.toList) ++ ['\x7d'])) := by
  by_cases whole : s.Whole v
  · rw [h.eq_of_whole whole]
    exact .inl ⟨whole, rfl⟩
  · obtain ⟨texts, all, rfl⟩ := h.exists_of_not_whole whole
    refine .inr ⟨whole, texts, all, ?_⟩
    simp

/-- A variable is written as its name and something that shows where the name ends. -/
theorem exists_rest (forest : s.dataset.Forest) (closed : s.Closed) {v : VarId} {text : String}
    (h : s.Writes .constraint v text) :
    ∃ rest, text.toList = (s.renderName v).toList ++ rest ∧
      ∀ q, Text.Stops Expr.closers q → Text.Stops Dataset.nameEnds (rest ++ q) := by
  obtain ⟨g, body, hs, _, hb, rfl⟩ := exists_pieces forest h
  refine ⟨(g.slices.flatMap fun r => Slice.bracket r.shown) ++ (body.toList ++
    g.filterSuffix.toList), ?_, fun q hq => ?_⟩
  · simp [Segment.renderFilter, Segment.toList_brackets (closed g (mem_of_segment? hs).1)]
  · cases g.slices with
    | cons r rs => exact Text.stops_cons (by decide) _
    | nil =>
      rw [List.flatMap_nil, List.nil_append, List.append_assoc]
      rcases hb.toList with ⟨_, empty⟩ | ⟨_, texts, _, braces⟩
      · rw [empty, List.nil_append, Segment.toList_filterSuffix]
        cases g.filter with
        | none => exact hq.mono (by decide)
        | some e => exact Text.stops_cons (by decide) _
      · rw [braces]
        exact Text.stops_cons (by decide) _

/-- Where a variable is written the same, whatever stands behind it, the selections agree. -/
def Reads (s t : Selection) (v : VarId) : Prop :=
  ∀ {x y : String} {q r : List Char}, s.Writes .constraint v x → t.Writes .constraint v y →
    Text.Stops Expr.closers q → Text.Stops Expr.closers r → x.toList ++ q = y.toList ++ r →
      Agree s t v ∧ q = r

/-! ## Many variables -/

/-- The variables can be told apart by the names they are written with. -/
structure Told (s : Selection) (vs ws : List VarId) : Prop where
  apart : ∀ v ∈ vs, ∀ w ∈ ws, ∀ {q r : List Char}, Text.Stops Dataset.nameEnds q →
    Text.Stops Dataset.nameEnds r →
    (s.renderName v).toList ++ q = (s.renderName w).toList ++ r → v = w
  full : ∀ v ∈ vs ++ ws, ∀ q, ¬ Text.Stops Dataset.nameEnds ((s.renderName v).toList ++ q)

theorem Told.tail {v w : VarId} {vs ws : List VarId} (h : Told s (v :: vs) (w :: ws)) :
    Told s vs ws where
  apart a ha b hb := h.apart a (List.mem_cons_of_mem v ha) b (List.mem_cons_of_mem w hb)
  full a ha := by
    refine h.full a (List.mem_append.2 ?_)
    exact (List.mem_append.1 ha).imp (List.mem_cons_of_mem v) (List.mem_cons_of_mem w)

/-- Which variables are written is known, or can be read off the names. -/
def Known (s : Selection) (vs ws : List VarId) : Prop := vs = ws ∨ Told s vs ws

/-- Selections of one dataset whose brackets and filters end where they seem to end. -/
structure Comparable (s t : Selection) : Prop where
  forest : s.dataset.Forest
  dataset : t.dataset = s.dataset
  left : s.Closed
  right : t.Closed
  filters : ∀ {v : VarId} {g k : Segment}, s.Exposed v → s.segment? v = some g →
    t.segment? v = some k → g.FiltersEnd k

namespace Comparable

variable {vs ws : List VarId} {v w : VarId} {x y : String} {q r : List Char}

theorem renderName_eq (h : Comparable s t) (v : VarId) : t.renderName v = s.renderName v := by
  rw [renderName, renderName, h.dataset]

theorem exists_rest_right (h : Comparable s t) (hy : t.Writes .constraint w y) :
    ∃ rest, y.toList = (s.renderName w).toList ++ rest ∧
      ∀ q, Text.Stops Expr.closers q → Text.Stops Dataset.nameEnds (rest ++ q) := by
  rw [← h.renderName_eq]
  exact exists_rest (h.dataset ▸ h.forest) h.right hy

/-- The first variable is the same. -/
theorem head_eq (h : Comparable s t) (known : s.Known (v :: vs) (w :: ws))
    (hx : s.Writes .constraint v x) (hy : t.Writes .constraint w y)
    (hq : Text.Stops Expr.closers q) (hr : Text.Stops Expr.closers r)
    (same : x.toList ++ q = y.toList ++ r) : v = w ∧ s.Known vs ws := by
  rcases known with all | told
  · obtain ⟨head, tail⟩ := List.cons.inj all
    exact ⟨head, .inl tail⟩
  · obtain ⟨restX, ex, stopsX⟩ := exists_rest h.forest h.left hx
    obtain ⟨restY, ey, stopsY⟩ := h.exists_rest_right hy
    rw [ex, ey, List.append_assoc, List.append_assoc] at same
    exact ⟨told.apart v (List.mem_cons_self ..) w (List.mem_cons_self ..) (stopsX q hq)
      (stopsY r hr) same, .inr told.tail⟩

/-- The text does not end before a variable on one side only. -/
theorem nil_right (h : Comparable s t) (known : s.Known (v :: vs) [])
    (hx : s.Writes .constraint v x) : ¬ Text.Stops Dataset.nameEnds (x.toList ++ q) := by
  rcases known with all | told
  · cases all
  · obtain ⟨rest, ex, _⟩ := exists_rest h.forest h.left hx
    rw [ex, List.append_assoc]
    exact told.full v (List.mem_cons_self ..) _

theorem nil_left (h : Comparable s t) (known : s.Known [] (w :: ws))
    (hy : t.Writes .constraint w y) : ¬ Text.Stops Dataset.nameEnds (y.toList ++ r) := by
  rcases known with all | told
  · cases all
  · obtain ⟨rest, ey, _⟩ := h.exists_rest_right hy
    rw [ey, List.append_assoc]
    exact told.full w (List.mem_cons_self ..) _

/-- The first of several variables is read, and the others remain. -/
theorem first (h : Comparable s t) (reads : Reads s t v) (known : s.Known (v :: vs) (w :: ws))
    (hx : s.Writes .constraint v x) (hy : t.Writes .constraint w y) {xs ys : List (List Char)}
    (hq : Text.Stops ['\x7d'] q) (hr : Text.Stops ['\x7d'] r)
    (same : x.toList ++ (xs.flatMap (';' :: ·) ++ q) = y.toList ++ (ys.flatMap (';' :: ·) ++ r)) :
    v = w ∧ s.Known vs ws ∧ Agree s t v ∧
      xs.flatMap (';' :: ·) ++ q = ys.flatMap (';' :: ·) ++ r := by
  have sq : Text.Stops Expr.closers (xs.flatMap (';' :: ·) ++ q) := Text.stops_flatMap xs hq
  have sr : Text.Stops Expr.closers (ys.flatMap (';' :: ·) ++ r) := Text.stops_flatMap ys hr
  obtain ⟨rfl, rest⟩ := h.head_eq known hx hy sq sr same
  obtain ⟨agree, last⟩ := reads hx hy sq sr same
  exact ⟨rfl, rest, agree, last⟩

/-- Variables with a semicolon in front of each. -/
theorem agree_of_flatMap (h : Comparable s t) {xs ys : List String}
    (reads : ∀ v ∈ vs, Reads s t v) (known : s.Known vs ws)
    (hx : List.Forall₂ (s.Writes .constraint) vs xs)
    (hy : List.Forall₂ (t.Writes .constraint) ws ys) (hq : Text.Stops ['\x7d'] q)
    (hr : Text.Stops ['\x7d'] r)
    (same : (xs.map String.toList).flatMap (';' :: ·) ++ q =
      (ys.map String.toList).flatMap (';' :: ·) ++ r) :
    vs = ws ∧ (∀ v ∈ vs, Agree s t v) ∧ q = r := by
  induction hx generalizing ws ys with
  | nil =>
    cases hy with
    | nil => exact ⟨rfl, fun v hv => absurd hv List.not_mem_nil, same⟩
    | cons _ _ =>
      rw [List.map_nil, List.flatMap_nil, List.nil_append] at same
      rw [same] at hq
      exact absurd (hq _ rfl) (by decide)
  | cons hv hvs ih =>
    cases hy with
    | nil =>
      rw [List.map_nil, List.flatMap_nil, List.nil_append] at same
      rw [← same] at hr
      exact absurd (hr _ rfl) (by decide)
    | cons hw hws =>
      simp only [List.map_cons, List.flatMap_cons, List.cons_append, List.append_assoc,
        List.cons.injEq, true_and] at same
      obtain ⟨rfl, rest, agree, same⟩ :=
        h.first (reads _ (List.mem_cons_self ..)) known hv hw hq hr same
      obtain ⟨rfl, all, last⟩ := ih (fun v hv => reads v (List.mem_cons_of_mem _ hv)) rest hws same
      exact ⟨rfl, List.forall_mem_cons.2 ⟨agree, all⟩, last⟩

/-- Variables with semicolons between them. -/
theorem agree_of_intercalate (h : Comparable s t) {xs ys : List String}
    (reads : ∀ v ∈ vs, Reads s t v) (known : s.Known vs ws)
    (hx : List.Forall₂ (s.Writes .constraint) vs xs)
    (hy : List.Forall₂ (t.Writes .constraint) ws ys) (hq : Text.Stops ['\x7d'] q)
    (hr : Text.Stops ['\x7d'] r)
    (same : [';'].intercalate (xs.map String.toList) ++ q =
      [';'].intercalate (ys.map String.toList) ++ r) :
    vs = ws ∧ (∀ v ∈ vs, Agree s t v) ∧ q = r := by
  have brace : ['\x7d'] ⊆ Dataset.nameEnds := by decide
  cases hx with
  | nil =>
    cases hy with
    | nil => exact ⟨rfl, fun v hv => absurd hv List.not_mem_nil, same⟩
    | cons hw _ =>
      rw [List.map_nil, List.intercalate_nil, List.nil_append, List.map_cons,
        Text.intercalate_cons, List.append_assoc] at same
      rw [same] at hq
      exact absurd (hq.mono brace) (h.nil_left known hw)
  | cons hv hvs =>
    cases hy with
    | nil =>
      rw [List.map_nil, List.intercalate_nil, List.nil_append, List.map_cons,
        Text.intercalate_cons, List.append_assoc] at same
      rw [← same] at hr
      exact absurd (hr.mono brace) (h.nil_right known hv)
    | cons hw hws =>
      rw [List.map_cons, List.map_cons, Text.intercalate_cons, Text.intercalate_cons,
        List.append_assoc, List.append_assoc] at same
      obtain ⟨rfl, rest, agree, same⟩ :=
        h.first (reads _ (List.mem_cons_self ..)) known hv hw hq hr same
      obtain ⟨rfl, all, last⟩ := h.agree_of_flatMap
        (fun v hv => reads v (List.mem_cons_of_mem _ hv)) rest hvs hws hq hr same
      exact ⟨rfl, List.forall_mem_cons.2 ⟨agree, all⟩, last⟩

/-! ## All variables -/

/-- Bodies with filters behind them, where the fields of the variable can be read. -/
theorem bodies (h : Comparable s t) (exposed : s.Exposed v)
    (reads : ¬ s.Whole v → ∀ f ∈ s.chosenFields v, Reads s t f)
    (known : s.Known (s.chosenFields v) (t.chosenFields v)) {a b : String} {g k : Segment}
    (hs : s.segment? v = some g) (ht : t.segment? v = some k) (ha : s.Body .constraint v a)
    (hb : t.Body .constraint v b) (brackets : g.slices.map Slice.shown = k.slices.map Slice.shown)
    (hq : Text.Stops Expr.closers q) (hr : Text.Stops Expr.closers r)
    (same : a.toList ++ (g.filterSuffix.toList ++ q) = b.toList ++ (k.filterSuffix.toList ++ r)) :
    Agree s t v ∧ q = r := by
  have ends := h.filters exposed hs ht
  rcases ha.toList with ⟨wholeS, ea⟩ | ⟨partS, xs, hx, ea⟩ <;>
    rcases hb.toList with ⟨wholeT, eb⟩ | ⟨partT, ys, hy, eb⟩ <;> rw [ea, eb] at same
  · obtain ⟨filters, last⟩ := Segment.filterSuffix_append_inj ends hq hr same
    exact ⟨.whole hs ht (Prod.ext brackets filters) wholeS wholeT, last⟩
  · exact absurd same (Segment.filterSuffix_ne_brace hq _)
  · exact absurd same.symm (Segment.filterSuffix_ne_brace hr _)
  · simp only [List.cons_append, List.append_assoc, List.nil_append, List.cons.injEq,
      true_and] at same
    obtain ⟨chosen, all, rest⟩ := h.agree_of_intercalate (reads partS) known hx hy
      (Text.stops_cons (List.mem_singleton_self _) _)
      (Text.stops_cons (List.mem_singleton_self _) _) same
    obtain ⟨filters, last⟩ := Segment.filterSuffix_append_inj ends hq hr
      (List.cons.inj rest).2
    exact ⟨.fields hs ht (Prod.ext brackets filters) partS partT chosen all, last⟩

/-- Every exposed variable can be read, if fields are known or told apart. -/
theorem reads (h : Comparable s t) (known : ∀ c, s.Known (s.chosenFields c) (t.chosenFields c))
    {v : VarId} (exposed : s.Exposed v) : Reads s t v := by
  -- for every text behind the variable, because siblings stand behind a field
  induction v using h.forest.induction with
  | step v ih =>
    intro x y q r hx hy hq hr same
    obtain ⟨g, a, hs, rankG, ha, rfl⟩ := exists_pieces h.forest hx
    obtain ⟨k, b, ht, rankK, hb, rfl⟩ := exists_pieces (h.dataset ▸ h.forest) hy
    rw [h.dataset] at rankK
    simp only [String.toList_append, List.append_assoc, h.renderName_eq,
      Segment.toList_brackets (h.left g (mem_of_segment? hs).1),
      Segment.toList_brackets (h.right k (mem_of_segment? ht).1)] at same
    obtain ⟨brackets, rest⟩ := Slice.brackets_append_inj (rankG.trans rankK.symm)
      (List.append_cancel_left same)
    have fields : ¬ s.Whole v → ∀ f ∈ s.chosenFields v, Reads s t f :=
      fun part f hf => ih f (List.mem_of_mem_filter hf) (exposed.field h.forest part hf)
    exact h.bodies exposed fields (known v) hs ht ha hb brackets hq hr rest

/-- Selections with the same text agree at all variables outside of compounds. -/
theorem agree_of_render_eq (h : Comparable s t) (ns : s.vars.Nodup) (nt : t.vars.Nodup)
    (top : s.Known s.topVars t.topVars)
    (known : ∀ c, s.Known (s.chosenFields c) (t.chosenFields c)) {text : String}
    (hs : s.render .constraint = .ok text) (ht : t.render .constraint = .ok text) :
    s.topVars = t.topVars ∧ ∀ v ∈ s.topVars, Agree s t v := by
  obtain ⟨xs, hx, ex⟩ := exists_pieces_of_render ns hs
  obtain ⟨ys, hy, ey⟩ := exists_pieces_of_render nt ht
  have same : [';'].intercalate (xs.map String.toList) ++ [] =
      [';'].intercalate (ys.map String.toList) ++ [] := by
    have texts := congrArg String.toList (ex.symm.trans ey)
    simpa using texts
  obtain ⟨tops, all, _⟩ := h.agree_of_intercalate
    (fun v hv => h.reads known (exposed_of_mem_topVars h.forest hv)) top hx hy
    (Text.stops_nil _) (Text.stops_nil _) same
  exact ⟨tops, all⟩

/-! ## Agreement is enough -/

theorem pieces_eq (h : Comparable s t) (hx : s.Writes .constraint v x)
    (hy : t.Writes .constraint v y) {g k : Segment} (hs : s.segment? v = some g)
    (ht : t.segment? v = some k) (shown : g.shown = k.shown)
    (bodies : ∀ {a b}, s.Body .constraint v a → t.Body .constraint v b → a = b) : x = y := by
  obtain ⟨g', a, hg, _, ha, rfl⟩ := exists_pieces h.forest hx
  obtain ⟨k', b, hk, _, hb, rfl⟩ := exists_pieces (h.dataset ▸ h.forest) hy
  cases hs.symm.trans hg
  cases ht.symm.trans hk
  obtain ⟨numbers, filters⟩ := Prod.mk.inj shown
  have brackets : String.join (g.slices.map (Slice.render .constraint)) =
      String.join (k.slices.map (Slice.render .constraint)) := by
    rw [← String.toList_inj, Segment.toList_brackets (h.left g (mem_of_segment? hs).1),
      Segment.toList_brackets (h.right k (mem_of_segment? ht).1)]
    have both := congrArg (List.flatMap Slice.bracket) numbers
    rwa [List.flatMap_map, List.flatMap_map] at both
  have suffix : g.filterSuffix = k.filterSuffix := by
    unfold Segment.filterSuffix
    cases hg : g.filter <;> cases hk : k.filter <;> simp_all
  rw [h.renderName_eq, brackets, bodies ha hb]
  exact congrArg _ suffix

end Comparable

theorem eq_of_forall₂ {R Q : VarId → String → Prop} {vs : List VarId} {xs ys : List String}
    (hx : List.Forall₂ R vs xs) (hy : List.Forall₂ Q vs ys)
    (same : ∀ v ∈ vs, ∀ {x y}, R v x → Q v y → x = y) : xs = ys := by
  induction hx generalizing ys with
  | nil => cases hy; rfl
  | cons hv _ ih =>
    cases hy with
    | cons hw hws =>
      rw [same _ (List.mem_cons_self ..) hv hw,
        ih hws fun v hv => same v (List.mem_cons_of_mem _ hv)]

namespace Comparable

/-- Where selections agree, they are written the same. -/
theorem eq_of_agree (h : Comparable s t) {v : VarId} (agree : Agree s t v) {x y : String}
    (hx : s.Writes .constraint v x) (hy : t.Writes .constraint v y) : x = y := by
  induction agree generalizing x y with
  | whole hs ht shown inS inT =>
    refine h.pieces_eq hx hy hs ht shown fun ha hb => ?_
    rw [ha.eq_of_whole inS, hb.eq_of_whole inT]
  | fields hs ht shown outS outT chosen _ ih =>
    refine h.pieces_eq hx hy hs ht shown fun ha hb => ?_
    obtain ⟨xs, hx, rfl⟩ := ha.exists_of_not_whole outS
    obtain ⟨ys, hy, rfl⟩ := hb.exists_of_not_whole outT
    rw [← chosen] at hy
    rw [eq_of_forall₂ hx hy ih]

theorem render_eq_of_agree (h : Comparable s t) (ns : s.vars.Nodup) (nt : t.vars.Nodup)
    (tops : s.topVars = t.topVars) (agree : ∀ v ∈ s.topVars, Agree s t v) {x y : String}
    (hs : s.render .constraint = .ok x) (ht : t.render .constraint = .ok y) : x = y := by
  obtain ⟨xs, hx, rfl⟩ := exists_pieces_of_render ns hs
  obtain ⟨ys, hy, rfl⟩ := exists_pieces_of_render nt ht
  rw [← tops] at hy
  rw [eq_of_forall₂ hx hy fun v hv => h.eq_of_agree (agree v hv)]

end Comparable

end Selection

end Hyperslab
