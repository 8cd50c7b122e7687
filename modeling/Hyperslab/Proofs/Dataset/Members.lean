/-
# `Hyperslab.Proofs.Dataset.Members` — what a group declares under a name

A group lists groups, dimensions, enumerations and variables (`Lists`).  In a built dataset
everything that has a name and is not a field is listed by the group it lies in, and no two
things that one group lists have the same name, whatever their kinds are (`Members`).

A declaration in a group enters one node in one list (`Enters`), after the name was looked for
in all four.
-/
import Hyperslab.Proofs.Dataset.Enclosing

namespace Hyperslab

/-- The node is in one of the lists of the group. -/
def Group.Lists (x : Group) : Node → Prop
  | .ofGroup k => k ∈ x.groups
  | .ofDimension y => y ∈ x.dimensions
  | .ofEnumeration y => y ∈ x.enums
  | .ofVariable v => v ∈ x.vars
  | .ofAttribute _ => False

namespace Dataset

variable {d e : Dataset}

/-- The name that a node was declared under. -/
def ownName? (d : Dataset) : Node → Option String
  | .ofGroup g => some (d.group g).name
  | .ofDimension x => (d.dimension x).name
  | .ofEnumeration y => some (d.enumeration y).name
  | .ofVariable v => some (d.var v).name
  | .ofAttribute _ => none

/-- The node is in one of the lists of the group. -/
def Lists (d : Dataset) (g : GroupId) (n : Node) : Prop := (d.group g).Lists n

/-- No group lists two nodes of one name. -/
def DistinctMembers (d : Dataset) : Prop :=
  ∀ g m n, d.Lists g m → d.Lists g n → d.ownName? m = d.ownName? n → m = n

/-- The lists of the groups are complete, and without two nodes of one name. -/
structure Members (d : Dataset) : Prop where
  dimension : ∀ {g : GroupId} {x : DimId},
    x ∈ (d.group g).dimensions ↔ (d.dimension x).name.isSome ∧ (d.dimension x).group = g
  enumeration : ∀ {g : GroupId} {y : EnumId},
    y ∈ (d.group g).enums ↔ y.index < d.enums.length ∧ (d.enumeration y).group = g
  distinct : d.DistinctMembers

/-- A group that does not exist lists nothing. -/
theorem not_lists_of_length_le {g : GroupId} (h : d.groups.length ≤ g.index) (n : Node) :
    ¬ d.Lists g n := by
  rw [Lists, group_of_length_le h]
  cases n <;> first | exact List.not_mem_nil | exact id

theorem lt_length_of_lists {g : GroupId} {n : Node} (h : d.Lists g n) :
    g.index < d.groups.length :=
  Nat.lt_of_not_le fun le => not_lists_of_length_le le n h

/-- A name that a group declares is the name of something that it lists. -/
theorem declares_eq_true_iff {g : GroupId} {name : String} :
    d.declares g name = true ↔ ∃ n, d.Lists g n ∧ d.ownName? n = some name := by
  unfold declares childGroup? childVariable? childEnum? childDimension?
  simp only [Bool.or_eq_true, List.find?_isSome, beq_iff_eq]
  constructor
  · rintro (((⟨k, hk, rfl⟩ | ⟨v, hv, rfl⟩) | ⟨y, hy, rfl⟩) | ⟨x, hx, named⟩)
    · exact ⟨.ofGroup k, hk, rfl⟩
    · exact ⟨.ofVariable v, hv, rfl⟩
    · exact ⟨.ofEnumeration y, hy, rfl⟩
    · exact ⟨.ofDimension x, hx, named⟩
  · rintro ⟨n, listed, named⟩
    cases n with
    | ofGroup k => exact .inl (.inl (.inl ⟨k, listed, Option.some.inj named⟩))
    | ofVariable v => exact .inl (.inl (.inr ⟨v, listed, Option.some.inj named⟩))
    | ofEnumeration y => exact .inl (.inr ⟨y, listed, Option.some.inj named⟩)
    | ofDimension x => exact .inr ⟨x, listed, named⟩
    | ofAttribute => exact absurd listed id

/-! ## One more member -/

/-- The second dataset has one node more, which a group lists under a name. -/
structure Enters (d e : Dataset) (g : GroupId) (new : Node) (name : String) : Prop where
  ownName? : ∀ n, e.ownName? n = if n = new then some name else d.ownName? n
  lists : ∀ k n, e.Lists k n ↔ d.Lists k n ∨ g = k ∧ n = new

/-- Members stay distinct if the name was free and the node is new. -/
theorem Enters.distinct {g : GroupId} {new : Node} {name : String} (h : Enters d e g new name)
    (free : d.declares g name = false) (absent : ∀ k, ¬ d.Lists k new) (old : d.DistinctMembers) :
    e.DistinctMembers := by
  have ne : ∀ {k n}, d.Lists k n → n ≠ new := fun listed eq => absent _ (eq ▸ listed)
  have unused : ∀ {n}, d.Lists g n → d.ownName? n ≠ some name := fun listed named =>
    Bool.false_ne_true (free.symm.trans (declares_eq_true_iff.2 ⟨_, listed, named⟩))
  intro k m n hm hn same
  rw [h.ownName?, h.ownName?] at same
  rcases (h.lists k m).1 hm with hm | ⟨rfl, rfl⟩
  · rw [if_neg (ne hm)] at same
    rcases (h.lists k n).1 hn with hn | ⟨rfl, rfl⟩
    · rw [if_neg (ne hn)] at same
      exact old k m n hm hn same
    · rw [if_pos rfl] at same
      exact absurd same (unused hm)
  · rw [if_pos rfl] at same
    rcases (h.lists g n).1 hn with hn | ⟨-, rfl⟩
    · rw [if_neg (ne hn)] at same
      exact absurd same.symm (unused hn)
    · rfl

/-- Members stay distinct where no list and no name of a member changes. -/
theorem DistinctMembers.of_same (old : d.DistinctMembers) (group : e.group = d.group)
    (ownName? : ∀ {k n}, d.Lists k n → e.ownName? n = d.ownName? n) : e.DistinctMembers := by
  intro k m n hm hn same
  rw [Lists, group] at hm hn
  rw [ownName? hm, ownName? hn] at same
  exact old k m n hm hn same

/-- Entering a node in one list of a group. -/
theorem lists_of_updateGroup {g : GroupId} {f : Group → Group} {new : Node}
    (present : g.index < d.groups.length) (group : e.group = (d.updateGroup g f).group)
    (entered : ∀ (x : Group) n, (f x).Lists n ↔ x.Lists n ∨ n = new) (k : GroupId) (n : Node) :
    e.Lists k n ↔ d.Lists k n ∨ g = k ∧ n = new := by
  rw [Lists, group, group_updateGroup present, Lists]
  split
  · rename_i same
    rw [entered, and_iff_right same]
  · rename_i other
    rw [or_iff_left fun both => other both.1]

/-- Entering a node in a list of a group changes no group's name. -/
theorem name_group_of_updateGroup {g : GroupId} {f : Group → Group}
    (present : g.index < d.groups.length) (group : e.group = (d.updateGroup g f).group)
    (kept : ∀ x, (f x).name = x.name) (k : GroupId) : (e.group k).name = (d.group k).name := by
  rw [group, group_updateGroup present]
  split
  · exact kept _
  · rfl

theorem enters_withGroup {parent : GroupId} (present : parent.index < d.groups.length)
    (name : String) : Enters d (d.withGroup parent name) parent (.ofGroup d.nextGroup) name where
  ownName? n := by
    cases n with
    | ofGroup k =>
      show some ((d.withGroup parent name).group k).name = _
      simp only [group_withGroup present, Node.ofGroup.injEq]
      split
      · rfl
      · split <;> rfl
    | _ => rfl
  lists k n := by
    rw [Lists, group_withGroup present]
    split
    · rename_i new
      have old : ¬ d.Lists k n := not_lists_of_length_le (new ▸ Nat.le_refl _) n
      have other : parent ≠ k := fun same => Nat.lt_irrefl _ (new ▸ same ▸ present)
      refine iff_of_false ?_ fun h => h.elim old fun both => other both.1
      cases n <;> first | exact List.not_mem_nil | exact id
    · rw [Lists]
      split
      · rename_i same
        rw [and_iff_right same]
        cases n <;> simp [Group.Lists]
      · rename_i other
        rw [or_iff_left fun both => other both.1]

theorem enters_withDimension {g : GroupId} (present : g.index < d.groups.length) (name : String)
    (size : Nat) :
    Enters d (d.withDimension g name size) g (.ofDimension d.nextDimension) name where
  ownName? n := by
    cases n with
    | ofDimension x =>
      simp only [Node.ofDimension.injEq]
      refine (congrArg Dimension.name (dimension_concat d _ x)).trans ?_
      split <;> rfl
    | ofGroup k => exact congrArg some (name_group_of_updateGroup present rfl (fun _ => by rfl) k)
    | _ => rfl
  lists := lists_of_updateGroup present rfl fun x n => by cases n <;> simp [Group.Lists]

theorem enters_withEnum {g : GroupId} (present : g.index < d.groups.length) (name : String)
    (base : AtomicType) (constants : List (String × Int)) :
    Enters d (d.withEnum g name base constants) g (.ofEnumeration d.nextEnum) name where
  ownName? n := by
    cases n with
    | ofEnumeration y =>
      simp only [Node.ofEnumeration.injEq]
      refine (congrArg (some ∘ Enumeration.name) (enumeration_concat d _ y)).trans ?_
      split <;> rfl
    | ofGroup k => exact congrArg some (name_group_of_updateGroup present rfl (fun _ => by rfl) k)
    | _ => rfl
  lists := lists_of_updateGroup present rfl fun x n => by cases n <;> simp [Group.Lists]

theorem enters_withVariable {g : GroupId} (present : g.index < d.groups.length) (name : String)
    (shape : Shape) (xs : List DimId) :
    Enters d (d.withVariable (.group g) name shape xs) g (.ofVariable d.nextVariable) name where
  ownName? n := by
    cases n with
    | ofVariable v =>
      show some ((d.withVariable (.group g) name shape xs).var v).name = _
      simp only [name_var_withVariable, Node.ofVariable.injEq]
      split <;> rfl
    | ofGroup k => exact congrArg some (name_group_of_updateGroup present rfl (fun _ => by rfl) k)
    | _ => rfl
  lists := lists_of_updateGroup present rfl fun x n => by cases n <;> simp [Group.Lists]

/-- Only declaring a dimension changes a list of dimensions. -/
theorem Enters.mem_dimensions_iff {g k : GroupId} {new : Node} {name : String} {x : DimId}
    (h : Enters d e g new name) (other : Node.ofDimension x ≠ new) :
    x ∈ (e.group k).dimensions ↔ x ∈ (d.group k).dimensions :=
  (h.lists k (.ofDimension x)).trans (or_iff_left fun both => other both.2)

/-- Only declaring an enumeration changes a list of enumerations. -/
theorem Enters.mem_enums_iff {g k : GroupId} {new : Node} {name : String} {y : EnumId}
    (h : Enters d e g new name) (other : Node.ofEnumeration y ≠ new) :
    y ∈ (e.group k).enums ↔ y ∈ (d.group k).enums :=
  (h.lists k (.ofEnumeration y)).trans (or_iff_left fun both => other both.2)

/-! ## Built datasets -/

namespace Members

theorem not_lists_nextDimension (h : Members d) (k : GroupId) :
    ¬ d.Lists k (.ofDimension d.nextDimension) := by
  have none : d.dimensions[d.nextDimension.index]? = none := List.getElem?_eq_none (Nat.le_refl _)
  intro listed
  have named := (h.dimension.1 listed).1
  rw [Dataset.dimension, none] at named
  cases named

theorem not_lists_nextEnum (h : Members d) (k : GroupId) :
    ¬ d.Lists k (.ofEnumeration d.nextEnum) := fun listed =>
  Nat.lt_irrefl _ (h.enumeration.1 listed).1

theorem mem_dimensions_withDimension (h : Members d) {g k : GroupId}
    (present : g.index < d.groups.length) (name : String) (size : Nat) {x : DimId} :
    x ∈ ((d.withDimension g name size).group k).dimensions ↔
      ((d.withDimension g name size).dimension x).name.isSome ∧
        ((d.withDimension g name size).dimension x).group = k := by
  have enters := enters_withDimension present name size
  rw [show (d.withDimension g name size).dimension x = _ from dimension_concat ..]
  by_cases new : x = d.nextDimension
  · have added : d.nextDimension ∈ ((d.withDimension g name size).group k).dimensions ↔ g = k :=
      (enters.lists k (.ofDimension d.nextDimension)).trans
        ((or_iff_right (h.not_lists_nextDimension k)).trans (and_iff_left rfl))
    rw [if_pos new, new, added]
    exact (and_iff_right rfl).symm
  · rw [if_neg new, enters.mem_dimensions_iff fun same => new (Node.ofDimension.inj same)]
    exact h.dimension

/-- A dimension without a name is in no list. -/
theorem mem_dimensions_withAnonymous (h : Members d) (g k : GroupId) (size : Nat) {x : DimId} :
    x ∈ ((d.withAnonymous g size).group k).dimensions ↔
      ((d.withAnonymous g size).dimension x).name.isSome ∧
        ((d.withAnonymous g size).dimension x).group = k := by
  rw [show (d.withAnonymous g size).dimension x = _ from dimension_concat ..]
  split
  · rename_i new
    rw [new]
    exact iff_of_false (h.not_lists_nextDimension k) fun both => Bool.false_ne_true both.1
  · exact h.dimension

theorem mem_enums_withEnum (h : Members d) {g k : GroupId} (present : g.index < d.groups.length)
    (name : String) (base : AtomicType) (constants : List (String × Int)) {y : EnumId} :
    y ∈ ((d.withEnum g name base constants).group k).enums ↔
      y.index < (d.withEnum g name base constants).enums.length ∧
        ((d.withEnum g name base constants).enumeration y).group = k := by
  have enters := enters_withEnum present name base constants
  have length : (d.withEnum g name base constants).enums.length = d.enums.length + 1 :=
    List.length_append
  rw [show (d.withEnum g name base constants).enumeration y = _ from enumeration_concat .., length]
  by_cases new : y = d.nextEnum
  · have added : d.nextEnum ∈ ((d.withEnum g name base constants).group k).enums ↔ g = k :=
      (enters.lists k (.ofEnumeration d.nextEnum)).trans
        ((or_iff_right (h.not_lists_nextEnum k)).trans (and_iff_left rfl))
    rw [if_pos new, new, added]
    exact (and_iff_right (Nat.lt_succ_self _)).symm
  · have below : y.index < d.enums.length + 1 ↔ y.index < d.enums.length :=
      ⟨fun lt => Nat.lt_of_le_of_ne (Nat.le_of_lt_succ lt) fun same => new (EnumId.ext same),
        Nat.lt_succ_of_lt⟩
    rw [if_neg new, below, enters.mem_enums_iff fun same => new (Node.ofEnumeration.inj same)]
    exact h.enumeration

theorem grow (h : Members d) (tree : GroupTree d) (listing : Listing d) (growth : Growth d e) :
    Members e := by
  cases growth with
  | @group parent name present free =>
    have enters := enters_withGroup present name
    exact ⟨fun {_ x} => (enters.mem_dimensions_iff (x := x) nofun).trans h.dimension,
      fun {_ y} => (enters.mem_enums_iff (y := y) nofun).trans h.enumeration,
      enters.distinct free (fun _ listed => tree.ne_nextGroup_of_mem listed rfl) h.distinct⟩
  | @dimension g name size present free =>
    have enters := enters_withDimension present name size
    exact ⟨h.mem_dimensions_withDimension present name size,
      fun {_ y} => (enters.mem_enums_iff (y := y) nofun).trans h.enumeration,
      enters.distinct free h.not_lists_nextDimension h.distinct⟩
  | @anonymous g size present =>
    refine ⟨h.mem_dimensions_withAnonymous g _ size, h.enumeration,
      h.distinct.of_same rfl fun {k n} listed => ?_⟩
    cases n with
    | ofDimension x =>
      have old : x ≠ d.nextDimension := fun new => h.not_lists_nextDimension k (new ▸ listed)
      exact congrArg Dimension.name ((dimension_concat ..).trans (if_neg old))
    | _ => rfl
  | @enumeration g name base constants present free =>
    have enters := enters_withEnum present name base constants
    exact ⟨fun {_ x} => (enters.mem_dimensions_iff (x := x) nofun).trans h.dimension,
      h.mem_enums_withEnum present name base constants,
      enters.distinct free h.not_lists_nextEnum h.distinct⟩
  | @topLevel g name shape xs present free =>
    have enters := enters_withVariable present name shape xs
    exact ⟨fun {_ x} => (enters.mem_dimensions_iff (x := x) nofun).trans h.dimension,
      fun {_ y} => (enters.mem_enums_iff (y := y) nofun).trans h.enumeration,
      enters.distinct free (fun _ listed => listing.ne_nextVariable listed rfl) h.distinct⟩
  | @field p name shape xs =>
    refine ⟨h.dimension, h.enumeration, h.distinct.of_same rfl fun {k n} listed => ?_⟩
    cases n with
    | ofVariable v =>
      have kept := name_var_withVariable d (.compound p) name shape xs v
      rw [if_neg (listing.ne_nextVariable listed)] at kept
      exact congrArg some kept
    | _ => rfl
  | attr => exact ⟨h.dimension, h.enumeration, h.distinct⟩

end Members

/-- In a built dataset the lists of the groups are complete and without repeated names. -/
theorem members_built (name : String) (xs : List Declaration) : Members (built name xs) := by
  have all : GroupTree (built name xs) ∧ Listing (built name xs) ∧ Members (built name xs) := by
    refine built_induction (P := fun d => GroupTree d ∧ Listing d ∧ Members d) ?_ ?_ xs
    · refine ⟨groupTree_built name [], listing_built name [], ?_⟩
      have none : ∀ k n, ¬ (empty name).Lists k n := by
        rintro ⟨k⟩ n
        cases k <;> cases n <;> first | exact List.not_mem_nil | exact id
      refine ⟨fun {k x} => ?_, fun {k y} => ?_, fun k m _ hm => absurd hm (none k m)⟩
      · exact iff_of_false (none k (.ofDimension x)) fun both => Bool.false_ne_true both.1
      · exact iff_of_false (none k (.ofEnumeration y)) fun both => Nat.not_lt_zero _ both.1
    · rintro d e ⟨tree, listing, members⟩ growth
      exact ⟨tree.grow growth, listing.grow growth, members.grow tree listing growth⟩
  exact all.2.2

end Dataset

end Hyperslab
