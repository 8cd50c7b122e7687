/-
# `Hyperslab.Proofs.Dataset.GroupTree` — groups form a tree with variables in it

In a built dataset the groups are a tree under the root: a group is listed by its parent
and by no other group, comes after it, and its path is the path of the parent with the
group behind it (`GroupTree`).  The variables outside of compounds are listed by the groups
that own them (`Listing`).  No group has two subgroups, or two variables, of one name.
-/
import Hyperslab.Proofs.Dataset.Growth
import Mathlib.Data.List.Nodup

namespace Hyperslab.Dataset

/-- Groups under their parents. -/
structure GroupTree (d : Dataset) : Prop where
  root_lt : GroupId.root.index < d.groups.length
  path_root : (d.group .root).path = [.root]
  /-- Of the groups that exist, only the root has no parent. -/
  orphan : ∀ {g : GroupId}, g.index < d.groups.length → (d.group g).parent = none → g = .root
  owned : ∀ {p g : GroupId}, g ∈ (d.group p).groups ↔ (d.group g).parent = some p
  later : ∀ {p g : GroupId}, g ∈ (d.group p).groups → p.index < g.index
  path : ∀ {p g : GroupId}, g ∈ (d.group p).groups → (d.group g).path = (d.group p).path ++ [g]
  distinct : ∀ p : GroupId, ((d.group p).groups.map fun g => (d.group g).name).Nodup

/-- Variables in their groups. -/
structure Listing (d : Dataset) : Prop where
  owned : ∀ {g : GroupId} {v : VarId},
    v ∈ (d.group g).vars ↔ v.index < d.vars.length ∧ (d.var v).owner = .group g
  home : ∀ {g : GroupId} {v : VarId}, (d.var v).owner = .group g → (d.var v).group = g
  distinct : ∀ g : GroupId, ((d.group g).vars.map fun v => (d.var v).name).Nodup

variable {d e : Dataset}

theorem childGroup?_of_declares {g : GroupId} {name : String} (h : d.declares g name = false) :
    d.childGroup? g name = none := by
  unfold declares at h
  simp only [Bool.or_eq_false_iff, Option.isSome_eq_false_iff, Option.isNone_iff_eq_none] at h
  exact h.1.1.1

theorem childVariable?_of_declares {g : GroupId} {name : String}
    (h : d.declares g name = false) : d.childVariable? g name = none := by
  unfold declares at h
  simp only [Bool.or_eq_false_iff, Option.isSome_eq_false_iff, Option.isNone_iff_eq_none] at h
  exact h.1.1.2

theorem lt_length_of_groups {p g : GroupId} (h : g ∈ (d.group p).groups) :
    p.index < d.groups.length := by
  refine Nat.lt_of_not_le fun le => ?_
  rw [group_of_length_le le] at h
  exact List.not_mem_nil h

theorem lt_length_of_vars {g : GroupId} {v : VarId} (h : v ∈ (d.group g).vars) :
    g.index < d.groups.length := by
  refine Nat.lt_of_not_le fun le => ?_
  rw [group_of_length_le le] at h
  exact List.not_mem_nil h

theorem lt_length_of_parent {p g : GroupId} (h : (d.group g).parent = some p) :
    g.index < d.groups.length := by
  refine Nat.lt_of_not_le fun le => ?_
  rw [group_of_length_le le] at h
  cases h

/-! ## Built datasets have a group tree -/

namespace GroupTree

/-- Only the places of the groups matter. -/
theorem of_same (h : GroupTree d) (length : e.groups.length = d.groups.length)
    (name : ∀ k, (e.group k).name = (d.group k).name)
    (parent : ∀ k, (e.group k).parent = (d.group k).parent)
    (path : ∀ k, (e.group k).path = (d.group k).path)
    (groups : ∀ k, (e.group k).groups = (d.group k).groups) : GroupTree e where
  root_lt := length ▸ h.root_lt
  path_root := (path _).trans h.path_root
  orphan below none := h.orphan (length ▸ below) (parent _ ▸ none)
  owned := by
    intro p g
    rw [groups, parent]
    exact h.owned
  later hg := h.later (groups _ ▸ hg)
  path hg := by
    rw [path, path]
    exact h.path (groups _ ▸ hg)
  distinct p := by
    rw [groups, List.map_congr_left fun g _ => name g]
    exact h.distinct p

theorem of_groups_eq (h : GroupTree d) (same : e.groups = d.groups) : GroupTree e := by
  have group : e.group = d.group := by
    funext k
    rw [Dataset.group, Dataset.group, same]
  exact h.of_same (by rw [same]) (fun k => by rw [group]) (fun k => by rw [group])
    (fun k => by rw [group]) (fun k => by rw [group])

/-- Entering a declaration in a list of a group moves no group. -/
theorem of_updateGroup (h : GroupTree d) {g : GroupId} {f : Group → Group}
    (present : g.index < d.groups.length) (same : e.groups = (d.updateGroup g f).groups)
    (place : ∀ x, (f x).name = x.name ∧ (f x).parent = x.parent ∧ (f x).path = x.path ∧
      (f x).groups = x.groups) : GroupTree e := by
  refine of_groups_eq (h.of_same (List.length_modify ..) ?_ ?_ ?_ ?_) same <;>
    intro k <;> rw [group_updateGroup present] <;> split
  case refine_1.isTrue => exact (place _).1
  case refine_2.isTrue => exact (place _).2.1
  case refine_3.isTrue => exact (place _).2.2.1
  case refine_4.isTrue => exact (place _).2.2.2
  all_goals rfl

theorem ne_nextGroup {k : GroupId} (below : k.index < d.groups.length) : k ≠ d.nextGroup := by
  rintro rfl
  exact Nat.lt_irrefl _ below

theorem ne_nextGroup_of_mem (h : GroupTree d) {p g : GroupId} (hg : g ∈ (d.group p).groups) :
    g ≠ d.nextGroup :=
  ne_nextGroup (lt_length_of_parent (h.owned.1 hg))

theorem mem_groups_withGroup {parent p g : GroupId} (present : parent.index < d.groups.length)
    (name : String) : g ∈ ((d.withGroup parent name).group p).groups ↔
      g ∈ (d.group p).groups ∨ p = parent ∧ g = d.nextGroup := by
  rw [groups_withGroup present]
  split
  · rename_i hp
    rw [List.mem_append, List.mem_singleton, and_iff_right hp]
  · rename_i hp
    exact ⟨.inl, fun h => h.resolve_right fun both => hp both.1⟩

theorem names_withGroup (h : GroupTree d) {parent : GroupId}
    (present : parent.index < d.groups.length) (name : String) (p : GroupId) :
    (d.group p).groups.map (fun g => ((d.withGroup parent name).group g).name) =
      (d.group p).groups.map fun g => (d.group g).name := by
  refine List.map_congr_left fun g hg => ?_
  rw [group_withGroup_of_ne present name (h.ne_nextGroup_of_mem hg)]

theorem withGroup (h : GroupTree d) {parent : GroupId} (present : parent.index < d.groups.length)
    {name : String} (fresh : d.childGroup? parent name = none) :
    GroupTree (d.withGroup parent name) := by
  have new : (d.withGroup parent name).group d.nextGroup =
      emptyGroup d.nextGroup name (some parent) ((d.group parent).path ++ [d.nextGroup]) := by
    rw [group_withGroup present, if_pos rfl]
  have old {k : GroupId} (hk : k ≠ d.nextGroup) := group_withGroup_of_ne present name hk
  refine ⟨?root_lt, ?path_root, ?orphan, ?owned, ?later, ?path, ?distinct⟩
  case root_lt =>
    rw [length_groups_withGroup]
    exact Nat.lt_succ_of_lt h.root_lt
  case path_root =>
    rw [old (ne_nextGroup h.root_lt)]
    exact h.path_root
  case orphan =>
    intro g below none
    rw [length_groups_withGroup] at below
    by_cases hg : g = d.nextGroup
    · rw [hg, new] at none
      cases none
    · rw [old hg] at none
      refine h.orphan (Nat.lt_of_le_of_ne (Nat.le_of_lt_succ below) fun e => hg ?_) none
      exact GroupId.ext e
  case owned =>
    intro p g
    rw [mem_groups_withGroup present]
    by_cases hg : g = d.nextGroup
    · rw [hg, new]
      constructor
      · rintro (before | ⟨rfl, _⟩)
        · exact absurd rfl (h.ne_nextGroup_of_mem before)
        · rfl
      · intro same
        exact .inr ⟨(Option.some.inj same).symm, rfl⟩
    · rw [old hg]
      exact ⟨fun both => h.owned.1 (both.resolve_right fun both => hg both.2),
        fun parent => .inl (h.owned.2 parent)⟩
  case later =>
    intro p g hg
    rcases (mem_groups_withGroup present name).1 hg with before | ⟨rfl, rfl⟩
    · exact h.later before
    · exact present
  case path =>
    intro p g hg
    rcases (mem_groups_withGroup present name).1 hg with before | ⟨rfl, rfl⟩
    · rw [old (h.ne_nextGroup_of_mem before), old (ne_nextGroup (lt_length_of_groups before))]
      exact h.path before
    · rw [new, old (ne_nextGroup present)]
      rfl
  case distinct =>
    intro p
    rw [groups_withGroup present]
    split
    · rename_i hp
      rw [List.map_append, h.names_withGroup present, List.map_singleton, new, hp]
      exact nodup_concat_of_find? (h.distinct parent) fresh
    · rw [h.names_withGroup present]
      exact h.distinct p

theorem grow (h : GroupTree d) (growth : Growth d e) : GroupTree e := by
  cases growth with
  | group present fresh => exact h.withGroup present (childGroup?_of_declares fresh)
  | dimension present | enumeration present | topLevel present =>
    exact h.of_updateGroup present rfl fun _ => ⟨rfl, rfl, rfl, rfl⟩
  | anonymous | field | attr => exact h.of_groups_eq rfl

end GroupTree

/-- Built datasets have a group tree. -/
theorem groupTree_built (name : String) (xs : List Declaration) : GroupTree (built name xs) := by
  refine built_induction ?_ GroupTree.grow xs
  have group : ∀ k, ((empty name).group k).groups = [] ∧ ((empty name).group k).parent = none := by
    rintro ⟨k⟩
    cases k <;> exact ⟨rfl, rfl⟩
  refine ⟨Nat.zero_lt_one, rfl, ?_, ?_, ?_, ?_, ?_⟩
  · intro g below _
    exact GroupId.ext (Nat.lt_one_iff.1 below)
  · intro p g
    rw [(group p).1, (group g).2]
    exact ⟨fun h => absurd h List.not_mem_nil, fun h => nomatch h⟩
  · intro p g hg
    rw [(group p).1] at hg
    exact absurd hg List.not_mem_nil
  · intro p g hg
    rw [(group p).1] at hg
    exact absurd hg List.not_mem_nil
  · intro p
    rw [(group p).1]
    exact List.nodup_nil

namespace GroupTree

/-- What holds of the root and passes on to subgroups holds of all groups. -/
theorem induction (h : GroupTree d) {P : GroupId → Prop} (root : P .root)
    (child : ∀ {p g}, g ∈ (d.group p).groups → P p → P g) {g : GroupId}
    (below : g.index < d.groups.length) : P g := by
  generalize hn : g.index = n
  induction n using Nat.strongRecOn generalizing g with
  | ind n ih =>
    cases parent : (d.group g).parent with
    | none =>
      rw [h.orphan below parent]
      exact root
    | some p =>
      have hg := h.owned.2 parent
      exact child hg (ih p.index (hn ▸ h.later hg) (lt_length_of_groups hg) rfl)

theorem ne_root {p g : GroupId} (h : GroupTree d) (hg : g ∈ (d.group p).groups) : g ≠ .root := by
  rintro rfl
  exact Nat.not_lt_zero _ (h.later hg)

end GroupTree

/-! ## Built datasets list their variables -/

namespace Listing

/-- Only the variables of groups, and names, owners and groups of variables matter. -/
theorem of_same (h : Listing d) (vars : ∀ k, (e.group k).vars = (d.group k).vars)
    (same : e.vars = d.vars) : Listing e := by
  have var : e.var = d.var := by
    funext v
    rw [Dataset.var, Dataset.var, same]
  refine ⟨?_, ?_, ?_⟩
  · intro g v
    rw [vars, var, same]
    exact h.owned
  · rw [var]
    exact h.home
  · intro g
    rw [vars, var]
    exact h.distinct g

theorem ne_nextVariable (h : Listing d) {g : GroupId} {v : VarId} (hv : v ∈ (d.group g).vars) :
    v ≠ d.nextVariable := by
  rintro rfl
  exact Nat.lt_irrefl _ (h.owned.1 hv).1

theorem lt_length_withVariable {owner : Owner} {name : String} {shape : Shape}
    {xs : List DimId} {v : VarId} (hv : v ≠ d.nextVariable) :
    v.index < (d.withVariable owner name shape xs).vars.length ↔ v.index < d.vars.length := by
  rw [length_vars_withVariable]
  refine ⟨fun below => ?_, Nat.lt_succ_of_lt⟩
  exact Nat.lt_of_le_of_ne (Nat.le_of_lt_succ below) fun e => hv (VarId.ext e)

theorem withVariable_group (h : Listing d) {g : GroupId} (present : g.index < d.groups.length)
    {name : String} (fresh : d.childVariable? g name = none) (shape : Shape) (xs : List DimId) :
    Listing (d.withVariable (.group g) name shape xs) := by
  refine ⟨?owned, ?home, ?distinct⟩
  case owned =>
    intro k v
    rw [group_withVariable_group present, owner_var_withVariable]
    by_cases new : v = d.nextVariable
    · rw [if_pos new, Owner.group.injEq, length_vars_withVariable, new]
      split
      · rename_i hk
        simp [hk, nextVariable]
      · rename_i hk
        exact ⟨fun hv => absurd rfl (h.ne_nextVariable hv), fun both => absurd both.2 hk⟩
    · rw [if_neg new, lt_length_withVariable new, ← h.owned]
      split
      · simp [new]
      · rfl
  case home =>
    intro k v owner
    rw [owner_var_withVariable] at owner
    rw [group_var_withVariable]
    split
    · rename_i new
      rw [if_pos new] at owner
      cases owner
      rfl
    · rename_i old
      rw [if_neg old] at owner
      exact h.home owner
  case distinct =>
    intro k
    rw [group_withVariable_group present]
    split
    · rename_i hk
      rw [List.map_append, map_name_withVariable _ _ _ _ _ fun v => h.ne_nextVariable,
        List.map_singleton, name_var_withVariable, if_pos rfl, ← hk]
      exact nodup_concat_of_find? (h.distinct g) fresh
    · rw [map_name_withVariable _ _ _ _ _ fun v => h.ne_nextVariable]
      exact h.distinct k

/-- A field is in no group's list. -/
theorem withVariable_compound (h : Listing d) (p : VarId) (name : String) (shape : Shape)
    (xs : List DimId) : Listing (d.withVariable (.compound p) name shape xs) := by
  have group : (d.withVariable (.compound p) name shape xs).group = d.group := rfl
  refine ⟨?owned, ?home, ?distinct⟩
  case owned =>
    intro k v
    rw [group, owner_var_withVariable]
    by_cases new : v = d.nextVariable
    · rw [if_pos new]
      exact ⟨fun hv => absurd new (h.ne_nextVariable hv), fun both => nomatch both.2⟩
    · rw [if_neg new, lt_length_withVariable new]
      exact h.owned
  case home =>
    intro k v owner
    rw [owner_var_withVariable] at owner
    rw [group_var_withVariable]
    split
    · rename_i new
      rw [if_pos new] at owner
      cases owner
    · rename_i old
      rw [if_neg old] at owner
      exact h.home owner
  case distinct =>
    intro k
    rw [group, map_name_withVariable _ _ _ _ _ fun v => h.ne_nextVariable]
    exact h.distinct k

theorem grow (h : Listing d) (growth : Growth d e) : Listing e := by
  cases growth with
  | @group parent name present fresh =>
    refine h.of_same (fun k => ?_) rfl
    by_cases hk : k = d.nextGroup
    · rw [group_withGroup present, if_pos hk, group_of_length_le (g := k) (hk ▸ Nat.le_refl _)]
      rfl
    · rw [group_withGroup_of_ne present name hk]
  | dimension present | enumeration present =>
    refine h.of_same (fun k => ?_) rfl
    refine (congrArg Group.vars (group_updateGroup present _ k)).trans ?_
    split <;> rfl
  | anonymous | attr => exact h.of_same (fun _ => rfl) rfl
  | topLevel present fresh =>
    exact h.withVariable_group present (childVariable?_of_declares fresh) ..
  | field => exact h.withVariable_compound ..

end Listing

/-- Built datasets list their variables. -/
theorem listing_built (name : String) (xs : List Declaration) : Listing (built name xs) := by
  refine built_induction ?_ Listing.grow xs
  have vars : ∀ k, ((empty name).group k).vars = [] := by
    rintro ⟨k⟩
    cases k <;> rfl
  refine ⟨?_, ?_, ?_⟩
  · intro g v
    rw [vars]
    exact ⟨fun h => absurd h List.not_mem_nil, fun h => absurd h.1 (Nat.not_lt_zero _)⟩
  · intro g v owner
    cases owner
    rfl
  · intro g
    rw [vars]
    exact List.nodup_nil

end Hyperslab.Dataset
