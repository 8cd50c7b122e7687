/-
# `Hyperslab.Proofs.Dataset.VariableOrder` — the walk over all variables

Variables are met in two steps: group by group the variables outside of compounds, and from each
of them down its fields.  A built dataset makes a forest for either step, so the first list has
every variable outside of compounds once (`GroupOrder`), the second step meets what lies inside
one of them once (`Forest.walk_fieldWalk`), and both together meet all variables once
(`WellFormed.perm_flatMap_fieldWalk`).

The order of the first list is that of the groups, and in one group that of the declarations,
because a declaration gets the next handle and comes last in the list of its group.
-/
import Hyperslab.Proofs.Dataset.DeclarationTree
import Hyperslab.Proofs.Dataset.GroupOrder
import Mathlib.Data.List.Flatten

namespace Hyperslab

namespace VariableTree

mutual

/-- The variables of a tree, each in front of what is below it. -/
def vars : VariableTree → List VarId
  | .node v fields => v :: varsOf fields

/-- The variables of trees, one tree after the other. -/
def varsOf : List VariableTree → List VarId
  | [] => []
  | t :: rest => t.vars ++ varsOf rest

end

theorem varsOf_eq (ts : List VariableTree) : varsOf ts = ts.flatMap vars := by
  induction ts with
  | nil => rfl
  | cons t rest ih => rw [varsOf, ih, List.flatMap_cons]

end VariableTree

namespace Dataset

variable {d e : Dataset}

/-! ## Down the fields -/

/-- The walk from a variable: the variable, then field after field what it leads to. -/
def fieldWalk (d : Dataset) (v : VarId) : List VarId := (d.tree v).vars

namespace Forest

theorem fieldWalk_eq (h : Forest d) (v : VarId) :
    d.fieldWalk v = v :: (d.fields v).flatMap d.fieldWalk := by
  rw [fieldWalk, h.tree_eq, VariableTree.vars, VariableTree.varsOf_eq, List.flatMap_map]
  rfl

theorem walk_fieldWalk (h : Forest d) :
    Walk (fun c f => f ∈ d.fields c) d.fields d.fieldWalk where
  mem_children := Iff.rfl
  distinct c := (h.distinct c).of_map _
  ends := h.wellFounded_fields
  walk_eq := h.fieldWalk_eq

/-- The walk meets the variable and what lies inside it. -/
theorem mem_fieldWalk_iff (h : Forest d) {v w : VarId} :
    w ∈ d.fieldWalk v ↔ w = v ∨ d.Inside v w :=
  h.walk_fieldWalk.mem_iff.trans Relation.reflTransGen_iff_eq_or_transGen

/-- No two variables outside of compounds lead to the same variable. -/
theorem eq_of_mem_fieldWalk (h : Forest d) {v w u : VarId} (topv : (d.var v).isTopLevel = true)
    (topw : (d.var w).isTopLevel = true) (hv : u ∈ d.fieldWalk v) (hw : u ∈ d.fieldWalk w) :
    v = w := by
  have apart : ∀ {v w : VarId}, (d.var w).isTopLevel = true →
      Relation.ReflTransGen (fun c f => f ∈ d.fields c) v w → w = v := by
    intro v w top above
    refine (Relation.reflTransGen_iff_eq_or_transGen.1 above).resolve_right ?_
    exact h.not_inside_of_isTopLevel top
  rcases h.descent.comparable (h.walk_fieldWalk.mem_iff.1 hv) (h.walk_fieldWalk.mem_iff.1 hw) with
    above | above
  · exact (apart topw above).symm
  · exact apart topv above

end Forest

/-- The walks from the variables outside of compounds meet every variable once. -/
theorem WellFormed.perm_flatMap_fieldWalk (wf : WellFormed d) :
    (d.topLevelVariables.flatMap d.fieldWalk).Perm d.variableIds := by
  have top : ∀ {v}, v ∈ d.topLevelVariables → (d.var v).isTopLevel = true := fun hv =>
    ((wf.tree.mem_topLevelVariables_iff wf.listing).1 hv).2
  have distinct : (d.topLevelVariables.flatMap d.fieldWalk).Nodup := by
    refine List.nodup_flatMap.2 ⟨fun v _ => ?_, ?_⟩
    · exact (wf.forest.walk_fieldWalk.parentsFirst wf.forest.descent v).nodup
    · refine (wf.tree.nodup_topLevelVariables wf.listing).imp_of_mem ?_
      exact fun hv hw apart u inV inW =>
        apart (wf.forest.eq_of_mem_fieldWalk (top hv) (top hw) inV inW)
  refine (List.perm_ext_iff_of_nodup distinct d.nodup_variableIds).2 fun u => ?_
  rw [List.mem_flatMap, mem_variableIds]
  constructor
  · rintro ⟨v, hv, met⟩
    rcases wf.forest.mem_fieldWalk_iff.1 met with rfl | inside
    · exact ((wf.tree.mem_topLevelVariables_iff wf.listing).1 hv).1
    · exact wf.forest.lt_length_of_inside inside
  · intro below
    obtain ⟨v, out, around⟩ := wf.forest.exists_top u
    have there : v.index < d.vars.length := by
      rcases around with rfl | inside
      · exact below
      · exact Nat.lt_trans (wf.forest.lt_of_inside inside) below
    exact ⟨v, (wf.tree.mem_topLevelVariables_iff wf.listing).2 ⟨there, out⟩,
      wf.forest.mem_fieldWalk_iff.2 around⟩

/-! ## The order of declaration -/

/-- Every group lists its variables in order of declaration. -/
def VarsAscending (d : Dataset) : Prop :=
  ∀ g, (d.group g).vars.Pairwise fun v w => v.index < w.index

theorem VarsAscending.grow (h : VarsAscending d) (listing : Listing d) (growth : Growth d e) :
    VarsAscending e := by
  intro k
  cases growth with
  | @group parent name present =>
    rw [group_withGroup present]
    split
    · exact List.Pairwise.nil
    · split <;> exact h k
  | @dimension g name size present =>
    rw [show (d.withDimension g name size).group k = _ from group_updateGroup present ..]
    split <;> exact h k
  | @enumeration g name base constants present =>
    rw [show (d.withEnum g name base constants).group k = _ from group_updateGroup present ..]
    split <;> exact h k
  | @topLevel g name shape xs present =>
    rw [group_withVariable_group present]
    split
    · exact pairwise_concat (h k) fun v hv => (listing.owned.1 hv).1
    · exact h k
  | anonymous | field | attr => exact h k

theorem varsAscending_built (name : String) (xs : List Declaration) :
    VarsAscending (built name xs) := by
  refine wellFormed_induction ?_ (fun wf h growth => h.grow wf.listing growth) xs
  rintro ⟨k⟩
  cases k <;> exact List.Pairwise.nil

theorem ascending_variableIds (d : Dataset) :
    d.variableIds.Pairwise fun v w => v.index < w.index :=
  List.pairwise_map.2 List.pairwise_lt_range

/-- Of two variables that one group owns, the one declared before stands in front. -/
theorem WellFormed.ascending_topLevelVariables (wf : WellFormed d) (ascending : VarsAscending d) :
    d.topLevelVariables.Pairwise fun v w =>
      (d.var v).owner = (d.var w).owner → v.index < w.index := by
  refine List.pairwise_flatMap.2 ⟨fun g _ => ?_, ?_⟩
  · refine (ascending g).imp ?_
    intro v w less _
    exact less
  · refine wf.tree.nodup_groupOrder.imp fun apart v hv w hw same => absurd ?_ apart
    rw [(wf.listing.owned.1 hv).2, (wf.listing.owned.1 hw).2] at same
    exact Owner.group.inj same

/-- The variables of one group stand in the order of all variables. -/
theorem WellFormed.filter_topLevelVariables (wf : WellFormed d) (ascending : VarsAscending d)
    (g : GroupId) : (d.topLevelVariables.filter fun v => (d.var v).owner = .group g) =
      d.variableIds.filter fun v => (d.var v).owner = .group g := by
  have top : ∀ {v}, (d.var v).owner = .group g → (d.var v).isTopLevel = true := by
    intro v owner
    rw [Variable.isTopLevel, owner]
  have members : (d.topLevelVariables.filter fun v => (d.var v).owner = .group g).Perm
      (d.variableIds.filter fun v => (d.var v).owner = .group g) := by
    refine (List.perm_ext_iff_of_nodup ((wf.tree.nodup_topLevelVariables wf.listing).filter _)
      (d.nodup_variableIds.filter _)).2 fun v => ?_
    simp only [List.mem_filter, decide_eq_true_eq, wf.tree.mem_topLevelVariables_iff wf.listing,
      mem_variableIds]
    exact and_congr_left fun owner => and_iff_left (top owner)
  have old := (ascending_variableIds d).filter fun v => (d.var v).owner = .group g
  refine members.eq_of_pairwise ?_ ?_ old
  · exact fun v w _ _ less more => absurd less (Nat.lt_asymm more)
  · refine ((wf.ascending_topLevelVariables ascending).filter _).imp_of_mem ?_
    intro v w hv hw before
    have owners := of_decide_eq_true (List.mem_filter.1 hv).2
    exact before (owners.trans (of_decide_eq_true (List.mem_filter.1 hw).2).symm)

/-- The variables of a group stand in front of those of the groups below it. -/
theorem WellFormed.sublist_topLevelVariables (wf : WellFormed d) {g k : GroupId}
    (around : d.Encloses g k) (apart : g ≠ k) {v w : VarId} (hv : v ∈ (d.group g).vars)
    (hw : w ∈ (d.group k).vars) : [v, w].Sublist d.topLevelVariables := by
  have groups : [g, k].Sublist d.groupOrder := wf.tree.parentsFirst_groupOrder.sublist_pair
    (wf.tree.mem_groupOrder_iff.2 (lt_length_of_vars hv))
    (wf.tree.mem_groupOrder_iff.2 (lt_length_of_vars hw)) apart around
  have lists : [v, w].Sublist ((d.group g).vars ++ (d.group k).vars) :=
    (List.singleton_sublist.2 hv).append (List.singleton_sublist.2 hw)
  refine lists.trans ?_
  have inner := groups.flatMap fun g => (d.group g).vars
  rwa [List.flatMap_cons, List.flatMap_singleton] at inner

/-! ## The whole walk -/

/-- What a walk over the variables, from those of the groups down the fields, can rely on. -/
structure VariableOrder (d : Dataset) : Prop where
  /-- A variable of a group is listed once, and nothing else is listed. -/
  top : ∀ v, d.topLevelVariables.count v =
    if d.Has (.ofVariable v) ∧ (d.var v).isTopLevel = true then 1 else 0
  fields : ∀ c, ∀ f ∈ d.fields c, f ∉ d.topLevelVariables
  /-- The walk from a variable goes on to its fields, and from each of them to its fields. -/
  walk : ∀ v, d.fieldWalk v = v :: (d.fields v).flatMap d.fieldWalk
  /-- The walks from the listed variables meet every variable once. -/
  complete : (d.topLevelVariables.flatMap d.fieldWalk).Perm d.variableIds
  /-- The variables of one group are listed in order of declaration. -/
  declared : ∀ g, (d.topLevelVariables.filter fun v => (d.var v).owner = .group g) =
    d.variableIds.filter fun v => (d.var v).owner = .group g
  /-- The variables of a group are listed before those of the groups below it. -/
  outer : ∀ g k, d.Encloses g k → g ≠ k → ∀ v ∈ (d.group g).vars, ∀ w ∈ (d.group k).vars,
    [v, w].Sublist d.topLevelVariables

/-- Whatever is attempted, the variables of a built dataset can be walked over in this way. -/
theorem variableOrder_built (name : String) (xs : List Declaration) :
    VariableOrder (built name xs) := by
  have wf := wellFormed_built name xs
  have ascending := varsAscending_built name xs
  generalize built name xs = d at *
  have listed : ∀ {v}, v ∈ d.topLevelVariables ↔
      v.index < d.vars.length ∧ (d.var v).isTopLevel = true :=
    wf.tree.mem_topLevelVariables_iff wf.listing
  have distinct := wf.tree.nodup_topLevelVariables wf.listing
  exact {
    top := fun v => count_of_nodup distinct listed
    fields := fun c f hf there => wf.forest.not_inside_of_isTopLevel (listed.1 there).2 (.single hf)
    walk := wf.forest.fieldWalk_eq
    complete := wf.perm_flatMap_fieldWalk
    declared := wf.filter_topLevelVariables ascending
    outer := fun g k around apart v hv w hw => wf.sublist_topLevelVariables around apart hv hw }

end Dataset

end Hyperslab
