/-
# `Hyperslab.Proofs.Dataset.Nesting` — what is declared in what

Subgroups, dimensions with a name, enumerations and variables are declared in a group, and fields
in a compound (`Holds`).  This is said by what is declared: a group stores its parent, a variable
its owner, and the others their group.  The lists of groups and compounds say it from above
(`mem_contents_iff`).

So nodes of all kinds are one tree, and it is walked down like the trees of groups and of fields
that it is made of (`walk_nodeWalk`).  How deep a node is in it is the number of nodes that it is
declared in (`level`), the root, the groups below the root and the compounds (`level_eq`).
-/
import Hyperslab.Proofs.Dataset.Places

open Relation (TransGen)

namespace Hyperslab

/-- The lists of a group or a compound, in the order in which listings go through them. -/
def Node.places : Node → List Place
  | .ofGroup g => [.dimensions g, .enums g, .vars (.group g), .groups g]
  | .ofVariable v => [.vars (.compound v)]
  | _ => []

theorem Place.node_of_mem_places {p : Place} {m : Node} (h : p ∈ m.places) : p.node = m := by
  cases m with
  | ofGroup g =>
    simp only [Node.places, List.mem_cons, List.not_mem_nil, or_false] at h
    rcases h with rfl | rfl | rfl | rfl <;> rfl
  | ofVariable v => rw [List.mem_singleton.1 h]; rfl
  | ofDimension | ofEnumeration | ofAttribute => cases h

theorem Place.vars_mem_places (o : Owner) : Place.vars o ∈ o.node.places := by
  cases o with
  | group g => exact .tail _ (.tail _ (.head _))
  | compound c => exact .head _

theorem Place.attributes_not_mem_places (o m : Node) : Place.attributes o ∉ m.places := by
  cases m <;> simp [Node.places]

namespace Dataset

variable {d : Dataset} {m n : Node}

/-! ## Containers -/

/-- The second node is declared directly in the first one.  Nothing holds the root, a dimension
without a name, or an attribute. -/
inductive Holds (d : Dataset) : Node → Node → Prop
  | group {p g : GroupId} : (d.group g).parent = some p → Holds d (.ofGroup p) (.ofGroup g)
  | dimension {x : DimId} : d.Has (.ofDimension x) → (d.dimension x).name.isSome →
      Holds d (.ofGroup (d.dimension x).group) (.ofDimension x)
  | enumeration {y : EnumId} : d.Has (.ofEnumeration y) →
      Holds d (.ofGroup (d.enumeration y).group) (.ofEnumeration y)
  | var {v : VarId} : d.Has (.ofVariable v) → Holds d (d.var v).owner.node (.ofVariable v)

/-- The second node is declared in the first one, directly or deeper. -/
def Within (d : Dataset) (m n : Node) : Prop := TransGen d.Holds m n

/-- The groups, except for the root, and the compounds that a node is declared in. -/
def around (d : Dataset) (n : Node) : Set Node := {m | m ≠ .ofGroup .root ∧ d.Within m n}

/-- The node is there, and has a line of its own in a listing.  The root is the listing itself, and
dimensions without a name and attributes are not listed. -/
def HasLine (d : Dataset) (n : Node) : Prop :=
  d.Has n ∧ match n with
    | .ofGroup g => g ≠ .root
    | .ofDimension x => (d.dimension x).name.isSome
    | .ofEnumeration _ | .ofVariable _ => True
    | .ofAttribute _ => False

/-- What has a line is what is declared in something. -/
theorem exists_holds_iff (wf : WellFormed d) : (∃ m, d.Holds m n) ↔ d.HasLine n := by
  constructor
  · rintro ⟨m, holds⟩
    cases holds with
    | group parent => exact ⟨lt_length_of_parent parent, wf.tree.ne_root (wf.tree.owned.2 parent)⟩
    | dimension there named => exact ⟨there, named⟩
    | enumeration there | var there => exact ⟨there, trivial⟩
  · rintro ⟨there, line⟩
    cases n with
    | ofGroup k =>
      obtain ⟨p, parent⟩ := Option.ne_none_iff_exists'.1 (mt (wf.tree.orphan there) line)
      exact ⟨_, .group parent⟩
    | ofDimension x => exact ⟨_, .dimension there line⟩
    | ofEnumeration y => exact ⟨_, .enumeration there⟩
    | ofVariable v => exact ⟨_, .var there⟩
    | ofAttribute a => exact absurd line id

theorem HasLine.of_within (wf : WellFormed d) (h : d.Within m n) : d.HasLine n := by
  obtain ⟨p, -, holds⟩ := TransGen.tail'_iff.1 h
  exact (exists_holds_iff wf).1 ⟨p, holds⟩

theorem not_within_root (wf : WellFormed d) (m : Node) : ¬ d.Within m (.ofGroup .root) :=
  fun above => (HasLine.of_within wf above).2 rfl

/-- A container is there. -/
theorem Holds.has (wf : WellFormed d) (settled : Settled d) (holds : d.Holds m n) : d.Has m := by
  cases holds with
  | group parent => exact lt_length_of_groups (wf.tree.owned.2 parent)
  | dimension => exact settled.dimension _
  | enumeration => exact settled.enumeration _
  | var there => exact wf.has_owner there

/-- A container is the root, or has a line itself. -/
theorem Holds.hasLine (wf : WellFormed d) (settled : Settled d) (holds : d.Holds m n) :
    m = .ofGroup .root ∨ d.HasLine m := by
  have has := holds.has wf settled
  have group : ∀ {g : GroupId}, d.Has (.ofGroup g) →
      Node.ofGroup g = .ofGroup .root ∨ d.HasLine (.ofGroup g) := fun there =>
    (eq_or_ne _ GroupId.root).imp (congrArg _) fun inner => ⟨there, inner⟩
  cases holds with
  | group | dimension | enumeration => exact group has
  | @var v =>
    generalize (d.var v).owner = o at has
    cases o with
    | group g => exact group has
    | compound c => exact .inr ⟨has, trivial⟩

/-! ## The tree of all nodes -/

/-- What stands in the lists of a node, list after list. -/
def contents (d : Dataset) (n : Node) : List Node := n.places.flatMap d.listAt

theorem mem_contents_iff (wf : WellFormed d) : n ∈ d.contents m ↔ d.Holds m n := by
  simp only [contents, List.mem_flatMap, mem_listAt_iff wf]
  constructor
  · rintro ⟨p, hp, there, place⟩
    obtain rfl := Place.node_of_mem_places hp
    cases n with
    | ofGroup k =>
      obtain ⟨g, parent, rfl⟩ := Option.map_eq_some_iff.1 place
      exact .group parent
    | ofDimension x =>
      obtain ⟨named, same⟩ := Option.ite_none_right_eq_some.1 place
      cases same
      exact .dimension there named
    | ofEnumeration y =>
      cases place
      exact .enumeration there
    | ofVariable v =>
      cases place
      exact .var there
    | ofAttribute a =>
      obtain ⟨x, -, rfl⟩ := Option.map_eq_some_iff.1 place
      exact absurd hp (Place.attributes_not_mem_places _ _)
  · intro holds
    cases holds with
    | @group p g parent =>
      refine ⟨.groups p, .tail _ (.tail _ (.tail _ (.head _))), lt_length_of_parent parent, ?_⟩
      rw [placeOf?, parent]
      rfl
    | dimension there named => exact ⟨_, .head _, there, if_pos named⟩
    | enumeration there => exact ⟨_, .tail _ (.head _), there, rfl⟩
    | var there => exact ⟨_, Place.vars_mem_places _, there, rfl⟩

theorem nodup_contents (wf : WellFormed d) (ascending : Ascending d) (n : Node) :
    (d.contents n).Nodup := by
  have places : n.places.Nodup := by
    cases n <;> simp [Node.places]
  refine List.nodup_flatMap.2 ⟨fun p _ => nodup_listAt wf ascending p, places.imp ?_⟩
  intro p q apart k inP inQ
  have same := ((mem_listAt_iff wf).1 inP).2.symm.trans ((mem_listAt_iff wf).1 inQ).2
  exact apart (Option.some.inj same)

/-- Groups first, then dimensions and enumerations, then variables; so a container has a smaller
number than what is declared in it. -/
def nodeNumber (d : Dataset) : Node → Nat
  | .ofGroup g => g.index
  | .ofDimension _ | .ofEnumeration _ => d.groups.length
  | .ofVariable v => d.groups.length + v.index
  | .ofAttribute _ => 0

theorem descent_holds (wf : WellFormed d) (settled : Settled d) :
    Descent d.Holds d.nodeNumber where
  later := by
    intro p c holds
    cases holds with
    | group parent => exact wf.tree.later (wf.tree.owned.2 parent)
    | dimension => exact settled.dimension _
    | enumeration => exact settled.enumeration _
    | @var v there =>
      have has := wf.has_owner there
      cases owner : (d.var v).owner with
      | group g =>
        rw [owner] at has
        exact Nat.lt_of_lt_of_le has (Nat.le_add_right ..)
      | compound c => exact Nat.add_lt_add_left (wf.forest.later (wf.forest.owned.2 owner)) _
  unique := by
    intro p q c hp hq
    cases hp with
    | group parent =>
      cases hq with
      | group other => exact congrArg _ (Option.some.inj (parent.symm.trans other))
    | dimension | enumeration | var =>
      cases hq
      rfl

theorem nodeNumber_lt (holds : d.Holds m n) :
    d.nodeNumber n < d.groups.length + d.vars.length + 1 := by
  cases holds with
  | @group p g parent =>
    have below : g.index < d.groups.length := lt_length_of_parent parent
    show g.index < _
    omega
  | dimension | enumeration =>
    show d.groups.length < _
    omega
  | @var v there =>
    have below : v.index < d.vars.length := there
    show d.groups.length + v.index < _
    omega

/-- A node, and behind it, list after list, what is declared in it. -/
def nodeWalk (d : Dataset) : Node → List Node :=
  walkWithin d.contents (d.groups.length + d.vars.length)

theorem walk_nodeWalk (wf : WellFormed d) (ascending : Ascending d) (settled : Settled d) :
    Walk d.Holds d.contents d.nodeWalk :=
  (descent_holds wf settled).walk_walkWithin (mem_contents_iff wf) (nodup_contents wf ascending)
    nodeNumber_lt (Nat.le_refl _)

/-! ## Levels -/

/-- Everything that has a line is declared in the root. -/
theorem within_root_iff (wf : WellFormed d) (settled : Settled d) :
    d.Within (.ofGroup .root) n ↔ d.HasLine n := by
  refine ⟨HasLine.of_within wf, fun line => ?_⟩
  -- upwards, from container to container
  refine (descent_holds wf settled).wellFounded.induction
    (C := fun n => d.HasLine n → d.Within (.ofGroup .root) n) n (fun n ih line => ?_) line
  obtain ⟨m, holds⟩ := (exists_holds_iff wf).2 line
  rcases holds.hasLine wf settled with rfl | outer
  · exact .single holds
  · exact .tail (ih m holds outer) holds

/-- How many nodes a node is declared in, the root among them. -/
noncomputable def level (d : Dataset) (n : Node) : Nat := {m | d.Within m n}.ncard

theorem level_root (wf : WellFormed d) : d.level (.ofGroup .root) = 0 := by
  have none : {m | d.Within m (.ofGroup .root)} = ∅ :=
    Set.eq_empty_iff_forall_notMem.2 (not_within_root wf)
  rw [level, none, Set.ncard_empty]

theorem level_of_holds (wf : WellFormed d) (settled : Settled d) (holds : d.Holds m n) :
    d.level n = d.level m + 1 :=
  (descent_holds wf settled).ncard_above_child holds

/-- Only finitely many groups and compounds are around a node, so `Set.ncard` counts them. -/
theorem finite_around (wf : WellFormed d) (settled : Settled d) (n : Node) :
    (d.around n).Finite :=
  ((descent_holds wf settled).finite_above n).subset fun _ inside => inside.2

theorem level_eq (wf : WellFormed d) (settled : Settled d) (line : d.HasLine n) :
    d.level n = 1 + (d.around n).ncard := by
  have root := (within_root_iff wf settled).2 line
  have all : {m | d.Within m n} = insert (.ofGroup .root) (d.around n) := by
    ext m
    simp only [Set.mem_ofPred_eq, Set.mem_insert_iff, around]
    by_cases top : m = .ofGroup .root
    · simp [top, root]
    · simp [top]
  have finite := finite_around wf settled n
  rw [level, all, Set.ncard_insert_of_notMem (fun self => self.1 rfl) finite, Nat.add_comm]

end Dataset

end Hyperslab
