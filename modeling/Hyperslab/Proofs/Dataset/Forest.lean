/-
# `Hyperslab.Proofs.Dataset.Forest` — variables and fields form trees

A built dataset has a *forest* of variables: a variable is listed among the fields of a
compound exactly if that compound owns it, fields come after their owner, and two fields
of one compound have different names.

Two things follow that every walk along the fields rests on.  Fields can be argued about
by induction, from the fields of a variable to the variable (`Forest.induction`) or from a
compound to its fields (`Forest.owner_induction`).  And the tree of a variable, which is
defined by counting down the declarations, is never cut off: it is the variable with the
trees of its fields (`Forest.tree_eq`).
-/
import Hyperslab.Dataset.Tree
import Hyperslab.Proofs.Dataset.Descent
import Hyperslab.Proofs.Dataset.Growth

namespace Hyperslab.Dataset

theorem mem_variableIds {d : Dataset} {v : VarId} :
    v ∈ d.variableIds ↔ v.index < d.vars.length := by
  rw [variableIds, List.mem_map]
  constructor
  · rintro ⟨i, hi, rfl⟩
    exact List.mem_range.1 hi
  · exact fun below => ⟨v.index, List.mem_range.2 below, rfl⟩

theorem nodup_variableIds (d : Dataset) : d.variableIds.Nodup :=
  List.nodup_range.map fun _ _ same => congrArg VarId.index same

/-- The variables of a dataset are trees under their owners. -/
structure Forest (d : Dataset) : Prop where
  /-- The fields of a compound are the variables it owns. -/
  owned : ∀ {c f : VarId}, f ∈ d.fields c ↔ (d.var f).owner = .compound c
  later : ∀ {c f : VarId}, f ∈ d.fields c → c.index < f.index
  distinct : ∀ c : VarId, ((d.fields c).map fun f => (d.var f).name).Nodup

namespace Forest

variable {d e : Dataset}

/-! ## Built datasets -/

/-- Only the variables matter. -/
theorem of_vars_eq (h : Forest d) (same : e.vars = d.vars) : Forest e := by
  have var : e.var = d.var := by
    funext v
    rw [Dataset.var, Dataset.var, same]
  have fields : e.fields = d.fields := by
    funext v
    rw [Dataset.fields, Dataset.fields, var]
  exact ⟨by rw [var, fields]; exact h.owned, by rw [fields]; exact h.later,
    by rw [var, fields]; exact h.distinct⟩

theorem ne_nextVariable {c f : VarId} (h : Forest d) (hf : f ∈ d.fields c) :
    f ≠ d.nextVariable := by
  intro e
  have below := lt_length_of_owner (h.owned.1 hf)
  rw [e] at below
  exact Nat.lt_irrefl _ below

theorem withVariable_group (h : Forest d) (g : GroupId) (name : String) (shape : Shape)
    (xs : List DimId) : Forest (d.withVariable (.group g) name shape xs) where
  owned {c f} := by
    rw [fields_withVariable_group, owner_var_withVariable]
    split
    · rename_i new
      exact ⟨fun hf => absurd new (h.ne_nextVariable hf), fun hf => nomatch hf⟩
    · exact h.owned
  later hf := by
    rw [fields_withVariable_group] at hf
    exact h.later hf
  distinct c := by
    rw [fields_withVariable_group, map_name_withVariable _ _ _ _ _ fun f => h.ne_nextVariable]
    exact h.distinct c

theorem withVariable_compound (h : Forest d) {p : VarId} (present : p.index < d.vars.length)
    (compound : (d.var p).isCompound = true) {name : String} (fresh : d.field? p name = none)
    (shape : Shape) (xs : List DimId) :
    Forest (d.withVariable (.compound p) name shape xs) where
  owned {c f} := by
    rw [fields_withVariable_compound present compound, owner_var_withVariable]
    by_cases new : f = d.nextVariable
    · rw [if_pos new, Owner.compound.injEq]
      split
      · rename_i hc
        rw [new]
        exact ⟨fun _ => hc.symm, fun _ => List.mem_append_right _ (List.mem_singleton_self _)⟩
      · rename_i hc
        exact ⟨fun hf => absurd new (h.ne_nextVariable hf), fun e => absurd e.symm hc⟩
    · rw [if_neg new]
      split
      · rw [List.mem_append, List.mem_singleton, or_iff_left new]
        exact h.owned
      · exact h.owned
  later {c f} hf := by
    rw [fields_withVariable_compound present compound] at hf
    split at hf
    · rename_i hc
      rcases List.mem_append.1 hf with old | new
      · exact h.later old
      · rw [List.mem_singleton.1 new, hc]
        exact present
    · exact h.later hf
  distinct c := by
    rw [fields_withVariable_compound present compound]
    split
    · rename_i hc
      rw [List.map_append, map_name_withVariable _ _ _ _ _ fun f => h.ne_nextVariable,
        List.map_singleton, name_var_withVariable, if_pos rfl, hc]
      exact nodup_concat_of_find? (h.distinct p) fresh
    · rw [map_name_withVariable _ _ _ _ _ fun f => h.ne_nextVariable]
      exact h.distinct c

theorem grow (h : Forest d) (growth : Growth d e) : Forest e := by
  cases growth with
  | group | dimension | anonymous | enumeration | attr => exact h.of_vars_eq rfl
  | topLevel => exact h.withVariable_group ..
  | field present compound fresh => exact h.withVariable_compound present compound fresh ..

end Forest

/-- Built datasets are forests. -/
theorem forest_built (name : String) (xs : List Declaration) : Forest (built name xs) := by
  refine built_induction ?_ Forest.grow xs
  exact ⟨⟨fun h => (nomatch h), fun h => (nomatch h)⟩, fun h => (nomatch h),
    fun _ => List.nodup_nil⟩

/-! ## Fields in fields -/

/-- The variable lies inside the compound, as a field or deeper. -/
def Inside (d : Dataset) (c v : VarId) : Prop :=
  Relation.TransGen (fun c f => f ∈ d.fields c) c v

/-- What lies inside a compound is one of its fields or lies inside one. -/
theorem inside_iff {d : Dataset} {c v : VarId} :
    d.Inside c v ↔ ∃ f ∈ d.fields c, v = f ∨ d.Inside f v := by
  unfold Inside
  rw [Relation.TransGen.head'_iff]
  simp only [Relation.reflTransGen_iff_eq_or_transGen]

namespace Forest

variable {d : Dataset}

theorem eq_of_name_eq (h : Forest d) {c f g : VarId} (hf : f ∈ d.fields c) (hg : g ∈ d.fields c)
    (same : (d.var f).name = (d.var g).name) : f = g :=
  List.inj_on_of_nodup_map (h.distinct c) hf hg same

/-- A field has one owner. -/
theorem owner_unique (h : Forest d) {b c f : VarId} (hb : f ∈ d.fields b) (hc : f ∈ d.fields c) :
    b = c := by
  have owners := (h.owned.1 hb).symm.trans (h.owned.1 hc)
  cases owners
  rfl

/-- Fields are walked down like any tree. -/
theorem descent (h : Forest d) : Descent (fun c f => f ∈ d.fields c) VarId.index :=
  ⟨h.later, h.owner_unique⟩

theorem lt_of_inside (h : Forest d) {c v : VarId} (inside : d.Inside c v) : c.index < v.index :=
  h.descent.lt inside

theorem lt_length_of_inside (h : Forest d) {c v : VarId} (inside : d.Inside c v) :
    v.index < d.vars.length := by
  cases inside with
  | single hf => exact lt_length_of_owner (h.owned.1 hf)
  | tail _ hf => exact lt_length_of_owner (h.owned.1 hf)

/-- Nothing is around a variable outside of compounds. -/
theorem not_inside_of_isTopLevel (h : Forest d) {c v : VarId}
    (top : (d.var v).isTopLevel = true) : ¬ d.Inside c v := by
  have unowned : ∀ b, v ∉ d.fields b := by
    intro b hb
    unfold Variable.isTopLevel at top
    rw [h.owned.1 hb] at top
    cases top
  intro inside
  cases inside with
  | single hf => exact unowned c hf
  | tail _ hf => exact unowned _ hf

/-- What holds of the variables of groups, and of a field if it holds of the compound, holds of all
variables. -/
theorem owner_induction (h : Forest d) {P : VarId → Prop}
    (top : ∀ {v g}, (d.var v).owner = .group g → P v)
    (field : ∀ {c f}, f ∈ d.fields c → P c → P f) (v : VarId) : P v := by
  refine h.descent.wellFounded.induction (C := P) v fun v ih => ?_
  cases owner : (d.var v).owner with
  | group g => exact top owner
  | compound c =>
    have hv := h.owned.2 owner
    exact field hv (ih c hv)

/-- Every variable is outside of compounds, or inside one that is. -/
theorem exists_top (h : Forest d) (v : VarId) :
    ∃ u, (d.var u).isTopLevel = true ∧ (v = u ∨ d.Inside u v) := by
  refine h.owner_induction (P := fun v => ∃ u, (d.var u).isTopLevel = true ∧ (v = u ∨ d.Inside u v))
    (fun {v g} owner => ?top) (fun {c f} hf ih => ?field) v
  case top => exact ⟨v, by rw [Variable.isTopLevel, owner], .inl rfl⟩
  case field =>
    obtain ⟨u, out, around⟩ := ih
    refine ⟨u, out, .inr ?_⟩
    rcases around with rfl | outer
    · exact .single hf
    · exact .tail outer hf

/-- Handles of fields are larger, and none reaches the number of variables. -/
theorem wellFounded_fields (h : Forest d) : WellFounded fun f c => f ∈ d.fields c :=
  h.descent.wellFounded_down fun hf => lt_length_of_owner (h.owned.1 hf)

/-- What follows for a variable from its fields holds of all variables. -/
theorem induction (h : Forest d) {P : VarId → Prop}
    (step : ∀ v, (∀ f ∈ d.fields v, P f) → P v) (v : VarId) : P v :=
  h.wellFounded_fields.induction (C := P) v step

/-- A count that reaches all handles above a variable does not cut its tree off. -/
theorem treeWithin_succ (h : Forest d) {depth : Nat} {v : VarId}
    (enough : d.vars.length ≤ depth + v.index) :
    d.treeWithin (depth + 1) v = d.treeWithin depth v := by
  induction depth generalizing v with
  | zero =>
    show VariableTree.node v ((d.fields v).map _) = .node v []
    rw [fields_of_length_le (by omega)]
    rfl
  | succ depth ih =>
    show VariableTree.node v ((d.fields v).map _) = .node v ((d.fields v).map _)
    refine congrArg _ (List.map_congr_left fun f hf => ih ?_)
    have := h.later hf
    omega

/-- The tree of a variable is the variable with the trees of its fields. -/
theorem tree_eq (h : Forest d) (v : VarId) : d.tree v = .node v ((d.fields v).map d.tree) :=
  (h.treeWithin_succ (Nat.le_add_right _ _)).symm

end Forest

@[simp] theorem top_tree (d : Dataset) (v : VarId) : (d.tree v).top = v := by
  unfold tree
  cases d.vars.length <;> rfl

end Hyperslab.Dataset
