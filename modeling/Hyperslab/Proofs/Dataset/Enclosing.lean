/-
# `Hyperslab.Proofs.Dataset.Enclosing` — the groups around a declaration

A group encloses another if the way up from that one, from parent to parent, leads to it.
The path that a group stores is this way read from the root: it holds the groups that
enclose it and no others (`mem_path_iff`), each after its parent (`topDown_path`).

A list of groups in which each comes after its parent is `TopDown`.  Such lists can be put
behind each other, and what occurs twice can be left out at the second place; so this also
holds of the groups that are collected from many paths.

In a built dataset everything is declared in a group that exists, and a variable has only
dimensions that exist (`Settled`).
-/
import Hyperslab.Proofs.Dataset.GroupTree
import Mathlib.Logic.Relation

namespace Hyperslab

namespace Dataset

variable {d e : Dataset}

/-! ## Enclosing -/

/-- The second group is the first one, or lies somewhere below it. -/
def Encloses (d : Dataset) (g k : GroupId) : Prop :=
  Relation.ReflTransGen (fun p c => (d.group c).parent = some p) g k

theorem encloses_self (d : Dataset) (g : GroupId) : d.Encloses g g := .refl

/-- What encloses a subgroup is that group, or encloses its parent. -/
theorem encloses_child_iff {g p k : GroupId} (parent : (d.group k).parent = some p) :
    d.Encloses g k ↔ g = k ∨ d.Encloses g p := by
  unfold Encloses
  rw [Relation.ReflTransGen.cases_tail_iff]
  constructor
  · rintro (same | ⟨q, outer, hq⟩)
    · exact .inl same.symm
    · cases hq.symm.trans parent
      exact .inr outer
  · rintro (same | outer)
    · exact .inl same.symm
    · exact .inr ⟨p, outer, parent⟩

/-! ## Lists from the root downwards -/

/-- Each group of the list but the root stands behind its parent. -/
inductive TopDown (d : Dataset) : List GroupId → Prop
  | nil : TopDown d []
  | concat {gs : List GroupId} {g : GroupId} : TopDown d gs →
      (g = .root ∨ ∃ p ∈ gs, (d.group g).parent = some p) → TopDown d (gs ++ [g])

namespace TopDown

variable {gs ks : List GroupId}

theorem append (hg : d.TopDown gs) (hk : d.TopDown ks) : d.TopDown (gs ++ ks) := by
  induction hk with
  | nil => rwa [List.append_nil]
  | concat _ behind ih =>
    rw [← List.append_assoc]
    exact ih.concat (behind.imp_right fun ⟨p, hp, parent⟩ =>
      ⟨p, List.mem_append_right gs hp, parent⟩)

theorem flatMap {α : Type} {f : α → List GroupId} {as : List α} (h : ∀ a ∈ as, d.TopDown (f a)) :
    d.TopDown (as.flatMap f) := by
  induction as with
  | nil => exact .nil
  | cons a as ih =>
    rw [List.forall_mem_cons] at h
    exact h.1.append (ih h.2)

/-- The list begins with the root. -/
theorem head?_eq (h : d.TopDown gs) : ∀ g ∈ gs.head?, g = .root := by
  induction h with
  | nil => exact fun g hg => nomatch hg
  | @concat gs k _ behind ih =>
    cases gs with
    | nil =>
      rintro g ⟨⟩
      exact behind.resolve_right fun ⟨p, hp, _⟩ => List.not_mem_nil hp
    | cons first rest => exact ih

theorem exists_parent_before (h : d.TopDown gs) {g : GroupId} (hg : g ∈ gs) (inner : g ≠ .root) :
    ∃ p, (d.group g).parent = some p ∧ [p, g].Sublist gs := by
  induction h with
  | nil => exact absurd hg List.not_mem_nil
  | @concat gs k _ behind ih =>
    rcases List.mem_append.1 hg with old | new
    · obtain ⟨p, parent, before⟩ := ih old
      exact ⟨p, parent, before.trans (List.sublist_append_left gs [k])⟩
    · cases List.mem_singleton.1 new
      obtain ⟨p, hp, parent⟩ := behind.resolve_left inner
      exact ⟨p, parent, (List.singleton_sublist.2 hp).append (List.Sublist.refl [g])⟩

end TopDown

namespace GroupTree

/-- The path of a group consists of the groups that enclose it. -/
theorem mem_path_iff (h : GroupTree d) {g k : GroupId} (below : k.index < d.groups.length) :
    g ∈ (d.group k).path ↔ d.Encloses g k := by
  refine h.induction (P := fun k => g ∈ (d.group k).path ↔ d.Encloses g k) ?_ ?_ below
  · have orphan : ∀ p, (d.group .root).parent ≠ some p := fun p parent =>
      h.ne_root (h.owned.2 parent) rfl
    rw [h.path_root, List.mem_singleton, Encloses, Relation.ReflTransGen.cases_tail_iff]
    exact ⟨fun same => .inl same.symm, fun around =>
      (around.resolve_right fun ⟨p, _, parent⟩ => orphan p parent).symm⟩
  · intro p k hk ih
    rw [h.path hk, List.mem_append, List.mem_singleton, ih, encloses_child_iff (h.owned.1 hk),
      or_comm]

theorem topDown_path (h : GroupTree d) {k : GroupId} (below : k.index < d.groups.length) :
    d.TopDown (d.group k).path := by
  refine h.induction (P := fun k => d.TopDown (d.group k).path) ?_ ?_ below
  · rw [h.path_root]
    exact TopDown.nil.concat (.inl rfl)
  · intro p k hk ih
    rw [h.path hk]
    have last := (h.mem_path_iff (lt_length_of_groups hk)).2 (d.encloses_self p)
    exact ih.concat (.inr ⟨p, last, h.owned.1 hk⟩)

end GroupTree

/-! ## Declarations in groups -/

/-- Everything is declared in a group that exists, and has only dimensions that exist. -/
structure Settled (d : Dataset) : Prop where
  var : ∀ v, (d.var v).group.index < d.groups.length
  dimension : ∀ x, (d.dimension x).group.index < d.groups.length
  enumeration : ∀ e, (d.enumeration e).group.index < d.groups.length
  used : ∀ v, ∀ x ∈ (d.var v).dimensions, x.index < d.dimensions.length

/-- An enumeration under the next handle, and the others as they were. -/
theorem enumeration_concat (d : Dataset) (x : Enumeration) (e : EnumId) :
    (d.enums ++ [x])[e.index]?.getD ⟨e, "", .int32, [], .root⟩ =
      if e = d.nextEnum then x else d.enumeration e := by
  exact (getD_concat _ _ _ e.index).trans (if_congr EnumId.ext_iff.symm rfl rfl)

namespace Settled

/-- A dataset stays settled when nothing disappears and what is new is settled. -/
theorem of_new (h : Settled d) (groups : d.groups.length ≤ e.groups.length)
    (dimensions : d.dimensions.length ≤ e.dimensions.length)
    (var : ∀ v, ((e.var v).group = (d.var v).group ∨ (e.var v).group.index < e.groups.length) ∧
      ((e.var v).dimensions = (d.var v).dimensions ∨
        ∀ x ∈ (e.var v).dimensions, x.index < e.dimensions.length))
    (dimension : ∀ x, (e.dimension x).group = (d.dimension x).group ∨
      (e.dimension x).group.index < e.groups.length)
    (enumeration : ∀ y, (e.enumeration y).group = (d.enumeration y).group ∨
      (e.enumeration y).group.index < e.groups.length) : Settled e where
  var v := (var v).1.elim (fun same => same ▸ Nat.lt_of_lt_of_le (h.var v) groups) id
  dimension x := (dimension x).elim (fun same => same ▸ Nat.lt_of_lt_of_le (h.dimension x) groups) id
  enumeration y := (enumeration y).elim (fun same => same ▸ Nat.lt_of_lt_of_le (h.enumeration y) groups) id
  used v := (var v).2.elim (fun same x hx => Nat.lt_of_lt_of_le (h.used v x (same ▸ hx)) dimensions) id

theorem dimensions_var_withVariable (d : Dataset) (owner : Owner) (name : String) (shape : Shape)
    (xs : List DimId) (v : VarId) :
    ((d.withVariable owner name shape xs).var v).dimensions =
      if v = d.nextVariable then xs else (d.var v).dimensions := by
  rw [var_withVariable]
  split
  · rfl
  · rw [var_enterVariable]
    split <;> rfl

theorem length_groups_updateGroup (d : Dataset) (g : GroupId) (f : Group → Group) :
    (d.updateGroup g f).groups.length = d.groups.length :=
  List.length_modify ..

theorem withVariable (h : Settled d) {owner : Owner} (name : String) (shape : Shape)
    {xs : List DimId} (home : (d.ownerGroup owner).index < d.groups.length)
    (known : ∀ x ∈ xs, x.index < d.dimensions.length) :
    Settled (d.withVariable owner name shape xs) := by
  have groups : (d.withVariable owner name shape xs).groups.length = d.groups.length := by
    cases owner with
    | group g => exact length_groups_updateGroup ..
    | compound p => rfl
  have dimensions : (d.withVariable owner name shape xs).dimensions = d.dimensions := by
    cases owner <;> rfl
  have enums : (d.withVariable owner name shape xs).enums = d.enums := by
    cases owner <;> rfl
  refine h.of_new (Nat.le_of_eq groups.symm) (dimensions ▸ Nat.le_refl _) (fun v => ?_) (fun x => ?_)
    fun y => ?_
  · rw [group_var_withVariable, dimensions_var_withVariable, groups, dimensions]
    split
    · exact ⟨.inr home, .inr known⟩
    · exact ⟨.inl rfl, .inl rfl⟩
  · rw [Dataset.dimension, Dataset.dimension, dimensions]
    exact .inl rfl
  · rw [Dataset.enumeration, Dataset.enumeration, enums]
    exact .inl rfl

theorem grow (h : Settled d) (growth : Growth d e) : Settled e := by
  cases growth with
  | group =>
    exact h.of_new (by rw [length_groups_withGroup]; exact Nat.le_succ _) (Nat.le_refl _)
      (fun _ => ⟨.inl rfl, .inl rfl⟩) (fun _ => .inl rfl) fun _ => .inl rfl
  | @dimension g name size present =>
    refine h.of_new (Nat.le_of_eq (length_groups_updateGroup ..).symm) ?_ (fun _ => ⟨.inl rfl, .inl rfl⟩) (fun x => ?_)
      fun _ => .inl rfl
    · exact (List.sublist_append_left ..).length_le
    · rw [show (d.withDimension g name size).dimension x = _ from dimension_concat ..]
      split
      · exact .inr (Nat.lt_of_lt_of_le present (Nat.le_of_eq (length_groups_updateGroup ..).symm))
      · exact .inl rfl
  | @anonymous g size present =>
    refine h.of_new (Nat.le_refl _) ?_ (fun _ => ⟨.inl rfl, .inl rfl⟩) (fun x => ?_)
      fun _ => .inl rfl
    · exact (List.sublist_append_left ..).length_le
    · rw [show (d.withAnonymous g size).dimension x = _ from dimension_concat ..]
      split
      · exact .inr present
      · exact .inl rfl
  | @enumeration g name base constants present =>
    refine h.of_new (Nat.le_of_eq (length_groups_updateGroup ..).symm) (Nat.le_refl _)
      (fun _ => ⟨.inl rfl, .inl rfl⟩) (fun _ => .inl rfl) fun y => ?_
    rw [show (d.withEnum g name base constants).enumeration y = _ from enumeration_concat ..]
    split
    · exact .inr (Nat.lt_of_lt_of_le present (Nat.le_of_eq (length_groups_updateGroup ..).symm))
    · exact .inl rfl
  | topLevel present _ known => exact h.withVariable _ _ present known
  | @field p _ _ _ _ _ _ known => exact h.withVariable _ _ (h.var p) known
  | attr =>
    exact h.of_new (Nat.le_refl _) (Nat.le_refl _) (fun _ => ⟨.inl rfl, .inl rfl⟩)
      (fun _ => .inl rfl) fun _ => .inl rfl

end Settled

/-- Built datasets are settled. -/
theorem settled_built (name : String) (xs : List Declaration) : Settled (built name xs) := by
  refine built_induction ?_ Settled.grow xs
  exact ⟨fun _ => Nat.zero_lt_one, fun _ => Nat.zero_lt_one, fun _ => Nat.zero_lt_one,
    fun _ _ hx => absurd hx List.not_mem_nil⟩

end Dataset

end Hyperslab
