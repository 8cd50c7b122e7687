/-
# `Hyperslab.Proofs.Dataset.GroupOrder` — the walk down the groups meets everything once

The walk from the root goes through a group, then through its subgroups one after the other.
It is cut off at a depth, but never too early: subgroups have larger numbers, and so many
steps down as there are groups lead out of the dataset (`walk_groupsBelow`).  So it meets all
groups (`mem_groupOrder_iff`), each only once and in front of all that it encloses
(`parentsFirst_groupOrder`).

So the variables that are listed group by group are all variables outside of compounds, each
once (`mem_topLevelVariables_iff`, `nodup_topLevelVariables`).
-/
import Hyperslab.Dataset.Tree
import Hyperslab.Proofs.Dataset.Descent
import Hyperslab.Proofs.Dataset.Enclosing

namespace Hyperslab.Dataset

variable {d : Dataset}

namespace GroupTree

/-- Subgroups are walked down like any tree. -/
theorem descent (h : GroupTree d) :
    Descent (fun p c => (d.group c).parent = some p) GroupId.index where
  later parent := h.later (h.owned.2 parent)
  unique hp hq := Option.some.inj (hp.symm.trans hq)

theorem le_of_encloses (h : GroupTree d) {g k : GroupId} (around : d.Encloses g k) :
    g.index ≤ k.index :=
  h.descent.le around

/-- A group is not around its parent. -/
theorem not_mem_path_parent (h : GroupTree d) {p g : GroupId}
    (parent : (d.group g).parent = some p) : g ∉ (d.group p).path := by
  intro around
  have member := h.owned.2 parent
  have encloses := (h.mem_path_iff (lt_length_of_groups member)).1 around
  exact Nat.not_lt.2 (h.le_of_encloses encloses) (h.later member)

/-! ## Groups -/

theorem groupsBelow_eq (d : Dataset) (depth : Nat) :
    d.groupsBelow depth = walkWithin (fun g => (d.group g).groups) depth := by
  induction depth with
  | zero => rfl
  | succ depth ih =>
    funext g
    rw [groupsBelow, ih]
    rfl

/-- So many steps down as there are groups cut no walk off. -/
theorem walk_groupsBelow (h : GroupTree d) : Walk (fun p c => (d.group c).parent = some p)
    (fun g => (d.group g).groups) (d.groupsBelow d.groups.length) := by
  rw [groupsBelow_eq]
  exact h.descent.walk_walkWithin h.owned (fun g => (h.distinct g).of_map _) lt_length_of_parent
    (Nat.le_succ _)

/-- The root encloses all groups. -/
theorem encloses_root_iff (h : GroupTree d) {g : GroupId} :
    d.Encloses .root g ↔ g.index < d.groups.length := by
  constructor
  · intro around
    rcases Relation.ReflTransGen.cases_tail around with same | ⟨p, _, parent⟩
    · exact same ▸ h.root_lt
    · exact lt_length_of_parent parent
  · refine h.induction (P := fun g => d.Encloses .root g) .refl fun hg around => ?_
    exact around.tail (h.owned.1 hg)

/-- The walk from the root meets all groups. -/
theorem mem_groupOrder_iff (h : GroupTree d) {g : GroupId} :
    g ∈ d.groupOrder ↔ g.index < d.groups.length :=
  h.walk_groupsBelow.mem_iff.trans h.encloses_root_iff

theorem parentsFirst_groupOrder (h : GroupTree d) :
    ParentsFirst (fun p c => (d.group c).parent = some p) d.groupOrder :=
  h.walk_groupsBelow.parentsFirst h.descent .root

theorem nodup_groupOrder (h : GroupTree d) : d.groupOrder.Nodup :=
  h.parentsFirst_groupOrder.nodup

/-! ## Variables -/

/-- The variables of the groups are those outside of compounds. -/
theorem mem_topLevelVariables_iff (h : GroupTree d) (listing : Listing d) {v : VarId} :
    v ∈ d.topLevelVariables ↔ v.index < d.vars.length ∧ (d.var v).isTopLevel = true := by
  have top : (d.var v).isTopLevel = true ↔ ∃ g, (d.var v).owner = .group g := by
    unfold Variable.isTopLevel
    cases (d.var v).owner <;> simp
  rw [topLevelVariables, List.mem_flatMap, top]
  constructor
  · rintro ⟨g, _, hv⟩
    exact ⟨(listing.owned.1 hv).1, g, (listing.owned.1 hv).2⟩
  · rintro ⟨below, g, owner⟩
    have hv := listing.owned.2 ⟨below, owner⟩
    exact ⟨g, h.mem_groupOrder_iff.2 (lt_length_of_vars hv), hv⟩

theorem nodup_topLevelVariables (h : GroupTree d) (listing : Listing d) :
    d.topLevelVariables.Nodup := by
  rw [topLevelVariables, List.nodup_flatMap]
  refine ⟨fun g _ => (listing.distinct g).of_map _, h.nodup_groupOrder.imp fun apart v inA inB => ?_⟩
  have owners := (listing.owned.1 inA).2.symm.trans (listing.owned.1 inB).2
  exact apart (Owner.group.inj owners)

end GroupTree

end Hyperslab.Dataset
