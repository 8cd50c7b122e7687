/-
# `Hyperslab.Proofs.View.Closure` — what a finished selection needs

Finishing writes down three lists beside the segments: the dimensions that are taken whole
somewhere, the enumerations that are types of selected variables, and the groups around all
of these.  `ExactNeeds` says what such lists should be, from the finished segments alone:
nothing is missing, nothing is there without a reason or twice, and all stands where it is
met first, the groups from the root downwards.

The lists are collected from the segments before they are resolved.  This makes no
difference, because a position that nothing is asked for before is one without bounds
afterwards (`freeDimensions_resolveSlices`).
-/
import Hyperslab.Proofs.Dataset.Enclosing
import Hyperslab.Proofs.View.Workbench

namespace Hyperslab

/-! ## In order of first use -/

theorem nodup_eraseDups {α : Type} [DecidableEq α] (xs : List α) : xs.eraseDups.Nodup := by
  induction xs using List.reverseRecOn with
  | nil => exact List.nodup_nil
  | append_singleton xs x ih =>
    rw [eraseDups_concat]
    split
    · exact ih
    · rename_i new
      rw [← List.concat_eq_append]
      exact ih.concat fun old => new (List.mem_eraseDups.1 old)

/-- The elements stand in the order of their first uses: in front of every use of a later one
there is a use of each earlier one. -/
def InOrderOfUse {α κ : Type} (lt : κ → κ → Prop) (uses : α → κ → Prop) (xs : List α) : Prop :=
  xs.Pairwise fun a b => ∀ q, uses b q → ∃ p, uses a p ∧ lt p q

/-- Of a list of uses in the order of their places, the elements that are used. -/
theorem inOrderOfUse_eraseDups {α κ : Type} [DecidableEq α] {lt : κ → κ → Prop}
    {uses : List (κ × α)} (ordered : uses.Pairwise fun a b => lt a.1 b.1) :
    InOrderOfUse lt (fun a p => (p, a) ∈ uses) (uses.map Prod.snd).eraseDups := by
  induction uses using List.reverseRecOn with
  | nil => exact List.Pairwise.nil
  | append_singleton uses use ih =>
    obtain ⟨ordered, -, last⟩ := List.pairwise_append.1 ordered
    -- an element that has come into the list was used before the last use
    have before : ∀ a ∈ (uses.map Prod.snd).eraseDups, ∃ p, (p, a) ∈ uses ∧ lt p use.1 := by
      intro a ha
      obtain ⟨⟨p, b⟩, hp, rfl⟩ := List.mem_map.1 (List.mem_eraseDups.1 ha)
      exact ⟨p, hp, last _ hp use (List.mem_singleton_self use)⟩
    have kept : InOrderOfUse lt (fun a p => (p, a) ∈ uses ++ [use])
        (uses.map Prod.snd).eraseDups := by
      refine (ih ordered).imp_of_mem fun {a b} ha _ earlier q hq => ?_
      have used : ∃ p, (p, a) ∈ uses ∧ lt p q := by
        rcases List.mem_append.1 hq with old | new
        · exact earlier q old
        · rw [← List.mem_singleton.1 new] at before
          exact before a ha
      obtain ⟨p, hp, lt⟩ := used
      exact ⟨p, List.mem_append_left _ hp, lt⟩
    rw [List.map_append, List.map_singleton, eraseDups_concat]
    split
    · exact kept
    · rename_i new
      refine List.pairwise_append.2 ⟨kept, List.pairwise_singleton _ _, fun a ha b hb q hq => ?_⟩
      rw [List.mem_singleton.1 hb] at hq
      rcases List.mem_append.1 hq with old | this
      · exact absurd (List.mem_map_of_mem old) new
      · obtain ⟨p, hp, lt⟩ := before a ha
        rw [← List.mem_singleton.1 this] at lt
        exact ⟨p, List.mem_append_left _ hp, lt⟩

theorem InOrderOfUse.congr {α κ : Type} {lt : κ → κ → Prop} {uses uses' : α → κ → Prop}
    {xs : List α} (h : InOrderOfUse lt uses xs) (same : ∀ a p, uses a p ↔ uses' a p) :
    InOrderOfUse lt uses' xs := by
  rwa [← show uses = uses' from funext fun a => funext fun p => propext (same a p)]

/-- Places in a list increase. -/
theorem pairwise_zipIdx {α : Type} (xs : List α) : xs.zipIdx.Pairwise fun a b => a.2 < b.2 := by
  rw [← List.pairwise_map (f := Prod.snd) (R := (· < ·)), List.zipIdx_map_snd]
  exact List.pairwise_lt_range'

/-! ## Free positions -/

namespace Segment

theorem constrained_of_resolveSlice {size : Nat} {q r : Slice} (h : resolveSlice size q = .ok r) :
    r.constrained = q.constrained := by
  unfold resolveSlice at h
  split at h
  · obtain ⟨-, rfl⟩ := Slice.complete?_eq_ok_iff.1 h
    rfl
  · rename_i free
    cases h
    exact (Bool.not_eq_true _ ▸ free : q.constrained = false).symm

/-- Resolving gives and takes no bounds. -/
theorem freeDimensions_resolveSlices {size : DimId → Nat} {xs : List DimId}
    {slices resolved : List Slice} (h : resolveSlices size xs slices = .ok resolved) :
    freeDimensions xs resolved = freeDimensions xs slices := by
  induction xs generalizing slices resolved with
  | nil => rfl
  | cons x xs ih =>
    obtain ⟨r, rest, hr, hrest, rfl⟩ := exists_of_resolveSlices_cons h
    unfold freeDimensions
    rw [List.tail_cons, ih hrest]
    refine if_congr (Bool.eq_iff_iff.1 ?_) rfl rfl
    exact constrained_of_resolveSlice hr

theorem free_of_resolve {d : Dataset} {size : DimId → Nat} {g r : Segment}
    (h : g.resolve d size = .ok r) : r.free d = g.free d := by
  obtain ⟨var, _, slices⟩ := of_resolve h
  rw [free, free, var]
  exact freeDimensions_resolveSlices slices

/-- The positions of a resolved segment without bounds, with their dimensions. -/
def freePositions (d : Dataset) (g : Segment) : List (Nat × DimId) :=
  (((d.var g.var).dimensions.zip g.slices).zipIdx).filterMap fun p =>
    if p.1.2.constrained then none else some (p.2, p.1.1)

theorem mem_freePositions {d : Dataset} {g : Segment} {j : Nat} {x : DimId} :
    (j, x) ∈ g.freePositions d ↔ (d.var g.var).dimensions[j]? = some x ∧
      ∃ r, g.slices[j]? = some r ∧ r.constrained = false := by
  unfold freePositions
  simp only [List.mem_filterMap, List.mem_zipIdx_iff_getElem?, List.getElem?_zip_eq_some]
  constructor
  · rintro ⟨⟨⟨y, r⟩, k⟩, ⟨hy, hr⟩, h⟩
    split at h
    · cases h
    · rename_i free
      cases h
      exact ⟨hy, r, hr, by simpa using free⟩
  · rintro ⟨hx, r, hr, free⟩
    exact ⟨((x, r), j), ⟨hx, hr⟩, by simp [free]⟩

theorem pairwise_freePositions (d : Dataset) (g : Segment) :
    (g.freePositions d).Pairwise fun a b => a.1 < b.1 := by
  refine (pairwise_zipIdx _).filterMap _ fun a b lt x hx y hy => ?_
  split at hx
  · cases hx
  · split at hy
    · cases hy
    · cases hx
      cases hy
      exact lt

theorem map_snd_freePositions {d : Dataset} {g : Segment}
    (length : g.slices.length = d.rank g.var) : (g.freePositions d).map Prod.snd = g.free d := by
  unfold freePositions free
  unfold Dataset.rank Variable.rank at length
  generalize (d.var g.var).dimensions = xs at length
  -- the positions of the rest of a list are counted from later on
  suffices h : ∀ (n : Nat) (slices : List Slice), slices.length = xs.length →
      (((xs.zip slices).zipIdx n).filterMap fun p =>
        if p.1.2.constrained then none else some (p.2, p.1.1)).map Prod.snd =
      freeDimensions xs slices from h 0 g.slices length
  clear length
  induction xs with
  | nil => exact fun _ _ _ => rfl
  | cons x xs ih =>
    intro n slices length
    cases slices with
    | nil => cases length
    | cons r rest =>
      have tail := ih (n + 1) rest (Nat.succ.inj length)
      have head : sliceAt (r :: rest) = r := rfl
      rw [List.zip_cons_cons, List.zipIdx_cons, freeDimensions, head, List.tail_cons]
      cases free : r.constrained with
      | true =>
        rw [List.filterMap_cons_none (by simp [free]), if_pos rfl]
        exact tail
      | false =>
        rw [List.filterMap_cons_some (b := (n, x)) (by simp [free]), if_neg Bool.false_ne_true]
        exact congrArg (x :: ·) tail

end Segment

namespace Dataset

/-- What is listed twice stands behind its parent at the first place already. -/
theorem TopDown.eraseDups {d : Dataset} {gs : List GroupId}
    (h : d.TopDown gs) : d.TopDown gs.eraseDups := by
  induction h with
  | nil => exact .nil
  | @concat gs g _ behind ih =>
    rw [eraseDups_concat]
    split
    · exact ih
    · refine ih.concat (behind.imp_right fun ⟨p, hp, parent⟩ => ⟨p, ?_, parent⟩)
      exact List.mem_eraseDups.2 hp

/-- The enumerations that are needed are a matter of the variables only. -/
theorem neededEnums_eq (d : Dataset) (gs : List Segment) :
    d.neededEnums gs = ((gs.map Segment.var).filterMap d.enumOf?).eraseDups := by
  rw [List.filterMap_map]
  rfl

/-- The groups around segments are a matter of the variables only. -/
theorem neededGroups_eq (d : Dataset) (gs : List Segment) (xs : List DimId) (es : List EnumId) :
    d.neededGroups gs xs es = ((gs.map Segment.var).flatMap d.variablePath
      ++ (xs.filter fun x => (d.dimension x).shared).flatMap d.dimensionPath
      ++ es.flatMap d.enumPath).eraseDups := by
  rw [List.flatMap_map]
  rfl

theorem enumOf?_eq_some_iff {d : Dataset} {v : VarId} {e : EnumId} :
    d.enumOf? v = some e ↔ (d.var v).base? = some (.enumeration e) := by
  unfold enumOf?
  rw [Option.bind_eq_some_iff]
  constructor
  · rintro ⟨t, ht, same⟩
    cases t with
    | enumeration k => cases same; exact ht
    | _ => cases same
  · exact fun type => ⟨_, type, rfl⟩

end Dataset

namespace Selection

variable {s t : Selection}

/-! ## Uses and their places -/

/-- A place is a segment and a position in it.  Without bounds, the dimension is taken whole. -/
def FreeAt (s : Selection) (x : DimId) (p : Nat × Nat) : Prop :=
  ∃ g r, s.segments[p.1]? = some g ∧ (s.dataset.var g.var).dimensions[p.2]? = some x ∧
    g.slices[p.2]? = some r ∧ r.constrained = false

/-- The enumeration is the type of the variable of a segment. -/
def TypedAt (s : Selection) (e : EnumId) (i : Nat) : Prop :=
  ∃ g, s.segments[i]? = some g ∧ (s.dataset.var g.var).base? = some (.enumeration e)

/-- The lists beside the segments hold what these need, each once and where it is met first. -/
structure ExactNeeds (s : Selection) : Prop where
  nodup_dimensions : s.dimensions.Nodup
  nodup_enums : s.enums.Nodup
  nodup_groups : s.groups.Nodup
  mem_dimensions : ∀ x, x ∈ s.dimensions ↔ ∃ p, s.FreeAt x p
  mem_enums : ∀ e, e ∈ s.enums ↔ ∃ v ∈ s.vars, (s.dataset.var v).base? = some (.enumeration e)
  mem_groups : ∀ g, g ∈ s.groups ↔
    (∃ v ∈ s.vars, s.dataset.Encloses g (s.dataset.var v).group) ∨
    (∃ x ∈ s.dimensions, (s.dataset.dimension x).shared = true ∧
      s.dataset.Encloses g (s.dataset.dimension x).group) ∨
    ∃ e ∈ s.enums, s.dataset.Encloses g (s.dataset.enumeration e).group
  dimensions_inOrder : InOrderOfUse (Prod.Lex (· < ·) (· < ·)) s.FreeAt s.dimensions
  enums_inOrder : InOrderOfUse (· < ·) s.TypedAt s.enums
  parent_before : ∀ g ∈ s.groups, g ≠ .root →
    ∃ p, (s.dataset.group g).parent = some p ∧ [p, g].Sublist s.groups
  root_first : ∀ g ∈ s.groups.head?, g = .root

/-- All places without bounds, in order. -/
def freeUses (s : Selection) : List ((Nat × Nat) × DimId) :=
  s.segments.zipIdx.flatMap fun g =>
    (g.1.freePositions s.dataset).map fun p => ((g.2, p.1), p.2)

theorem mem_freeUses {p : Nat × Nat} {x : DimId} : (p, x) ∈ s.freeUses ↔ s.FreeAt x p := by
  unfold freeUses FreeAt
  simp only [List.mem_flatMap, List.mem_map, List.mem_zipIdx_iff_getElem?]
  constructor
  · rintro ⟨⟨g, i⟩, hg, ⟨j, y⟩, hy, same⟩
    cases same
    obtain ⟨hx, r, hr, free⟩ := Segment.mem_freePositions.1 hy
    exact ⟨g, r, hg, hx, hr, free⟩
  · rintro ⟨g, r, hg, hx, hr, free⟩
    exact ⟨(g, p.1), hg, (p.2, x), Segment.mem_freePositions.2 ⟨hx, r, hr, free⟩, rfl⟩

theorem pairwise_freeUses (s : Selection) :
    s.freeUses.Pairwise fun a b => Prod.Lex (· < ·) (· < ·) a.1 b.1 := by
  unfold freeUses
  rw [List.pairwise_flatMap]
  constructor
  · rintro ⟨g, i⟩ _
    rw [List.pairwise_map]
    exact (g.pairwise_freePositions s.dataset).imp fun lt => .right _ lt
  · refine (pairwise_zipIdx s.segments).imp fun {g h} lt a ha b hb => ?_
    obtain ⟨_, _, rfl⟩ := List.mem_map.1 ha
    obtain ⟨_, _, rfl⟩ := List.mem_map.1 hb
    exact .left _ _ lt

theorem map_snd_freeUses (ranks : ∀ g ∈ s.segments, g.slices.length = s.dataset.rank g.var) :
    s.freeUses.map Prod.snd = s.segments.flatMap (Segment.free s.dataset) := by
  have whole : ∀ g ∈ s.segments.zipIdx,
      ((g.1.freePositions s.dataset).map fun p => ((g.2, p.1), p.2)).map Prod.snd =
        g.1.free s.dataset := by
    rintro ⟨g, i⟩ hg
    rw [List.map_map]
    exact Segment.map_snd_freePositions (ranks g (List.fst_mem_of_mem_zipIdx hg))
  rw [freeUses, List.map_flatMap, List.flatMap_congr whole,
    ← List.flatMap_map Prod.fst (Segment.free s.dataset), List.zipIdx_map_fst]

/-- All segments with an enumeration as type, in order. -/
def enumUses (s : Selection) : List (Nat × EnumId) :=
  s.segments.zipIdx.filterMap fun g => (s.dataset.enumOf? g.1.var).map fun e => (g.2, e)

theorem mem_enumUses {i : Nat} {e : EnumId} : (i, e) ∈ s.enumUses ↔ s.TypedAt e i := by
  unfold enumUses TypedAt
  simp only [List.mem_filterMap, List.mem_zipIdx_iff_getElem?, Option.map_eq_some_iff,
    Dataset.enumOf?_eq_some_iff]
  constructor
  · rintro ⟨⟨g, j⟩, hg, k, type, same⟩
    cases same
    exact ⟨g, hg, type⟩
  · rintro ⟨g, hg, type⟩
    exact ⟨(g, i), hg, e, type, rfl⟩

theorem pairwise_enumUses (s : Selection) : s.enumUses.Pairwise fun a b => a.1 < b.1 := by
  refine (pairwise_zipIdx s.segments).filterMap _ fun g h lt a ha b hb => ?_
  obtain ⟨_, _, rfl⟩ := Option.map_eq_some_iff.1 ha
  obtain ⟨_, _, rfl⟩ := Option.map_eq_some_iff.1 hb
  exact lt

theorem map_snd_enumUses (s : Selection) :
    s.enumUses.map Prod.snd = s.segments.filterMap fun g => s.dataset.enumOf? g.var := by
  have plain : (fun g : Segment × Nat =>
      ((s.dataset.enumOf? g.1.var).map fun e => (g.2, e)).map Prod.snd) =
        (fun g => s.dataset.enumOf? g.var) ∘ Prod.fst := by
    funext g
    rw [Option.map_map]
    exact Option.map_id'
  rw [enumUses, List.map_filterMap, plain, ← List.filterMap_map, List.zipIdx_map_fst]

/-! ## Finishing collects what is needed -/

/-- The lists of a finished selection are those of its finished segments. -/
theorem needs_of_finish {expand : Bool} (unfinished : s.isFinished = false)
    (h : s.finish expand = .ok t) :
    t.dimensions = t.dataset.neededDimensions t.segments ∧
      t.enums = t.dataset.neededEnums t.segments ∧
      t.groups = t.dataset.neededGroups t.segments t.dimensions t.enums := by
  obtain ⟨resolved, all, rfl⟩ := exists_resolved_of_finish unfinished h
  have free : (s.candidates expand).map (Segment.free s.dataset) =
      resolved.map (Segment.free s.dataset) :=
    map_eq_of_forall₂ (all.imp fun _ _ hr => (Segment.free_of_resolve hr).symm)
  have vars : (s.candidates expand).map Segment.var = resolved.map Segment.var :=
    map_eq_of_forall₂ (all.imp fun _ _ hr => (Segment.of_resolve hr).1.symm)
  have dimensions : s.dataset.neededDimensions (s.candidates expand) =
      s.dataset.neededDimensions resolved := by
    rw [Dataset.neededDimensions, Dataset.neededDimensions, List.flatMap_def, List.flatMap_def,
      free]
  refine ⟨dimensions, ?_, ?_⟩
  · show s.dataset.neededEnums (s.candidates expand) = s.dataset.neededEnums resolved
    rw [Dataset.neededEnums_eq, Dataset.neededEnums_eq, vars]
  · show s.dataset.neededGroups (s.candidates expand) _ _ = s.dataset.neededGroups resolved _ _
    rw [Dataset.neededGroups_eq, Dataset.neededGroups_eq, vars]
    rfl

/-- Lists that are collected from resolved segments are exact. -/
theorem exactNeeds_of_needs (tree : s.dataset.GroupTree) (settled : s.dataset.Settled)
    (ranks : ∀ g ∈ s.segments, g.slices.length = s.dataset.rank g.var)
    (dimensions : s.dimensions = s.dataset.neededDimensions s.segments)
    (enums : s.enums = s.dataset.neededEnums s.segments)
    (groups : s.groups = s.dataset.neededGroups s.segments s.dimensions s.enums) :
    s.ExactNeeds := by
  rw [Dataset.neededDimensions, ← map_snd_freeUses ranks] at dimensions
  have enums' := enums
  rw [Dataset.neededEnums, ← map_snd_enumUses] at enums'
  rw [Dataset.neededEnums_eq] at enums
  rw [Dataset.neededGroups_eq] at groups
  have topDown : s.dataset.TopDown s.groups := by
    rw [groups]
    refine Dataset.TopDown.eraseDups (((Dataset.TopDown.flatMap ?_).append
      (Dataset.TopDown.flatMap ?_)).append (Dataset.TopDown.flatMap ?_))
    · exact fun v _ => tree.topDown_path (settled.var v)
    · exact fun x _ => tree.topDown_path (settled.dimension x)
    · exact fun e _ => tree.topDown_path (settled.enumeration e)
  refine {
    nodup_dimensions := dimensions ▸ nodup_eraseDups _
    nodup_enums := enums ▸ nodup_eraseDups _
    nodup_groups := groups ▸ nodup_eraseDups _
    mem_dimensions := fun x => ?_
    mem_enums := fun e => ?_
    mem_groups := fun g => ?_
    dimensions_inOrder := ?_
    enums_inOrder := ?_
    parent_before := fun g hg inner => topDown.exists_parent_before hg inner
    root_first := topDown.head?_eq }
  · rw [dimensions, List.mem_eraseDups, List.mem_map]
    constructor
    · rintro ⟨⟨p, y⟩, hp, rfl⟩
      exact ⟨p, mem_freeUses.1 hp⟩
    · rintro ⟨p, free⟩
      exact ⟨(p, x), mem_freeUses.2 free, rfl⟩
  · rw [enums, List.mem_eraseDups, List.mem_filterMap]
    exact exists_congr fun v => and_congr_right fun _ => Dataset.enumOf?_eq_some_iff
  · rw [groups, List.mem_eraseDups, List.mem_append, List.mem_append, or_assoc]
    refine or_congr ?_ (or_congr ?_ ?_)
    · rw [List.mem_flatMap]
      exact exists_congr fun v => and_congr_right fun _ => tree.mem_path_iff (settled.var v)
    · rw [List.mem_flatMap]
      simp only [List.mem_filter, and_assoc]
      exact exists_congr fun x => and_congr_right fun _ => and_congr_right fun _ =>
        tree.mem_path_iff (settled.dimension x)
    · rw [List.mem_flatMap]
      exact exists_congr fun e => and_congr_right fun _ =>
        tree.mem_path_iff (settled.enumeration e)
  · rw [dimensions]
    exact (inOrderOfUse_eraseDups s.pairwise_freeUses).congr fun _ _ => mem_freeUses
  · rw [enums']
    exact (inOrderOfUse_eraseDups s.pairwise_enumUses).congr fun _ _ => mem_enumUses

/-- The lists of a finished selection are exact. -/
theorem exactNeeds_of_isFinished (name : String) (xs : List Declaration) (calls : List ViewCall)
    (finished : (built (Dataset.built name xs) calls).isFinished = true) :
    (built (Dataset.built name xs) calls).ExactNeeds := by
  obtain ⟨before, expand, _, _, unfinished, done⟩ := exists_finish_of_isFinished finished
  obtain ⟨dimensions, enums, groups⟩ := needs_of_finish unfinished done
  refine exactNeeds_of_needs ?_ ?_ (fun g hg => length_slices_of_finish unfinished done hg)
    dimensions enums groups
  · rw [dataset_built]
    exact Dataset.groupTree_built name xs
  · rw [dataset_built]
    exact Dataset.settled_built name xs

/-- A group in a group with a variable that has an enumeration as its type, and two dimensions:
a shared one of another group, and one without a name. -/
def survey : List Declaration :=
  [.group .root "a", .group ⟨1⟩ "b", .group .root "c", .group .root "unused",
    .dimension ⟨3⟩ "n" 3, .anonymous ⟨1⟩ 5, .enumeration .root "flag" .uint8 [("on", 1)],
    .enumeration ⟨1⟩ "kind" .int8 [("x", 1)],
    .var (.group ⟨2⟩) "v" (.atomic (.enumeration ⟨1⟩)) [⟨1⟩, ⟨0⟩],
    .var (.group .root) "w" (.atomic (.enumeration ⟨0⟩)) [⟨0⟩, ⟨1⟩]]

/-- Bounds for the shared dimension in one of two variables. -/
def oneOfTwoFree : List ViewCall :=
  [.addVariable ⟨1⟩ [.index 2], .addVariable ⟨0⟩ [], .finish false]

theorem exactNeeds_of_isFinished_survey :
    (built (Dataset.built "survey" survey) oneOfTwoFree).isFinished = true ∧
    (built (Dataset.built "survey" survey) oneOfTwoFree).dimensions = [⟨1⟩, ⟨0⟩] ∧
    (built (Dataset.built "survey" survey) oneOfTwoFree).enums = [⟨0⟩, ⟨1⟩] ∧
    (built (Dataset.built "survey" survey) oneOfTwoFree).groups = [.root, ⟨1⟩, ⟨2⟩, ⟨3⟩] ∧
    (built (Dataset.built "survey" survey) oneOfTwoFree).ExactNeeds :=
  ⟨by decide +kernel, by decide +kernel, by decide +kernel, by decide +kernel,
    exactNeeds_of_isFinished "survey" survey oneOfTwoFree (by decide +kernel)⟩

end Selection

end Hyperslab
