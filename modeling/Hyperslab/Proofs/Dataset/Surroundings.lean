/-
# `Hyperslab.Proofs.Dataset.Surroundings` — names of types around a group

A group is put into surroundings that it does not change: around it, a name of a type denotes what
it denotes in the group that it lies in, whatever the group itself declares (`typeAround?`).  As
long as nothing is declared in the group there is no difference between what a name denotes in it
and around it (`resolveType?_of_blank`).  In the end there is one for the plain names of its own
enumerations, and for no others (`resolveType?_eq_typeAround?_iff`).

Around the root there is nothing, and only the types with reserved names are left.
-/
import Hyperslab.Proofs.Dataset.Scoping

namespace Hyperslab.Dataset

variable {d e f : Dataset} {g p : GroupId} {name : String} {t : AtomicType}

/-- The type that a name denotes around a group. -/
def typeAround? (d : Dataset) (g : GroupId) (name : String) : Option AtomicType :=
  match (d.group g).parent with
  | some p => d.resolveType? p name
  | none => AtomicType.ofName? name

/-- Nothing has been declared in a group. -/
def Blank (d : Dataset) (g : GroupId) : Prop := ∀ q : Place, q.node = .ofGroup g → d.listAt q = []

/-! ## Reserved names -/

theorem resolveType?_of_ofName? (own : AtomicType.ofName? name = some t) :
    d.resolveType? g name = some t := by
  rw [resolveType?, own]
  rfl

theorem resolveType?_of_unreserved (unreserved : AtomicType.ofName? name = none) :
    d.resolveType? g name = (d.resolveEnum? g name).map AtomicType.enumeration := by
  rw [resolveType?, unreserved]
  rfl

theorem typeAround?_of_parent (parent : (d.group g).parent = some p) :
    d.typeAround? g name = d.resolveType? p name := by
  rw [typeAround?, parent]

theorem typeAround?_of_ofName? (own : AtomicType.ofName? name = some t) :
    d.typeAround? g name = some t := by
  unfold typeAround?
  split
  · exact resolveType?_of_ofName? own
  · exact own

/-- Attributes do not change what names denote. -/
theorem resolveType?_addAttribute (d : Dataset) (owner : Node) (a : Attribute) :
    (d.addAttribute owner a).1.resolveType? = d.resolveType? :=
  resolveType?_congr rfl rfl

/-! ## A group in its parent -/

/-- A plain name is searched in the group first, and then around it. -/
theorem resolveEnum?_of_parent (tree : GroupTree d) (parent : (d.group g).parent = some p) :
    d.resolveEnum? g name =
      if isAbsolute name then d.resolveEnum? p name
      else (d.childEnum? g name).or (d.resolveEnum? p name) := by
  unfold resolveEnum?
  split
  · rfl
  · rw [enclosing_of_parent tree parent, List.findSome?_cons]
    cases d.childEnum? g name <;> rfl

/-- What is denoted around a group is not declared in it. -/
theorem group_of_resolveEnum?_parent (wf : WellFormed d) (parent : (d.group g).parent = some p)
    (plain : isAbsolute name = false) {y : EnumId} (found : d.resolveEnum? p name = some y) :
    (d.enumeration y).group ≠ g := by
  rw [resolveEnum?, if_neg (Bool.eq_false_iff.1 plain)] at found
  obtain ⟨h, around, child⟩ := List.exists_of_findSome?_eq_some found
  have home := (wf.members.enumeration.1 (List.mem_of_find?_eq_some child)).2
  rw [home]
  rintro rfl
  exact wf.tree.not_mem_path_parent parent (List.mem_reverse.1 around)

/-- A group hides what is around it with an enumeration of its own, and from plain names only. -/
theorem resolveEnum?_eq_parent_iff (wf : WellFormed d) (parent : (d.group g).parent = some p)
    {y : EnumId} (around : d.resolveEnum? p name = some y) :
    d.resolveEnum? g name = some y ↔ isAbsolute name = true ∨ d.childEnum? g name = none := by
  rw [resolveEnum?_of_parent wf.tree parent, around]
  cases slash : isAbsolute name with
  | true => exact iff_of_true rfl (.inl rfl)
  | false =>
    rw [if_neg Bool.false_ne_true]
    cases child : d.childEnum? g name with
    | none => exact iff_of_true rfl (.inr rfl)
    | some z =>
      refine iff_of_false (fun hides => ?_) (by simp)
      -- the one in the group would also be the one around it
      cases hides
      have home := (wf.members.enumeration.1 (List.mem_of_find?_eq_some child)).2
      exact group_of_resolveEnum?_parent wf parent slash around home

/-- In a group a name denotes what it denotes around it, unless the group hides that. -/
theorem resolveType?_eq_typeAround?_iff (wf : WellFormed d)
    (around : d.typeAround? g name = some t) :
    d.resolveType? g name = some t ↔ (AtomicType.ofName? name).isSome = true ∨
      isAbsolute name = true ∨ d.childEnum? g name = none := by
  cases own : AtomicType.ofName? name with
  | some u =>
    rw [typeAround?_of_ofName? own] at around
    rw [resolveType?_of_ofName? own]
    exact iff_of_true around (.inl rfl)
  | none =>
    cases parent : (d.group g).parent with
    | none =>
      rw [typeAround?, parent] at around
      cases own.symm.trans around
    | some p =>
      rw [typeAround?_of_parent parent, resolveType?_of_unreserved own] at around
      obtain ⟨y, found, rfl⟩ := Option.map_eq_some_iff.1 around
      have same : d.resolveType? g name = some (.enumeration y) ↔ d.resolveEnum? g name = some y := by
        rw [resolveType?_of_unreserved own, Option.map_eq_some_iff]
        simp
      rw [same, resolveEnum?_eq_parent_iff wf parent found]
      exact (or_iff_right Bool.false_ne_true).symm

/-! ## Groups in which nothing is declared -/

theorem Blank.childEnum? (blank : d.Blank g) : d.childEnum? g name = none := by
  have none : (d.group g).enums = [] := List.map_eq_nil_iff.1 (blank (.enums g) rfl)
  rw [Dataset.childEnum?, none]
  rfl

theorem Blank.childGroup? (blank : d.Blank g) : d.childGroup? g name = none := by
  have none : (d.group g).groups = [] := List.map_eq_nil_iff.1 (blank (.groups g) rfl)
  rw [Dataset.childGroup?, none]
  rfl

/-- If nothing is declared in the root, no name denotes an enumeration. -/
theorem Blank.resolveEnum?_root (tree : GroupTree d) (blank : d.Blank .root) :
    d.resolveEnum? .root name = none := by
  unfold resolveEnum?
  split
  · unfold findEnum? findHome?
    cases components (splitName name).1 with
    | nil => exact blank.childEnum?
    | cons first rest =>
      rw [descendGroups?, blank.childGroup?]
      rfl
  · rw [enclosing, tree.path_root, List.reverse_singleton, List.findSome?_singleton]
    exact blank.childEnum?

/-- As long as nothing is declared in a group, a name denotes in it what it denotes around it. -/
theorem resolveType?_of_blank (tree : GroupTree d) (there : d.Has (.ofGroup g))
    (blank : d.Blank g) : d.resolveType? g name = d.typeAround? g name := by
  cases own : AtomicType.ofName? name with
  | some t => rw [resolveType?_of_ofName? own, typeAround?_of_ofName? own]
  | none =>
    rw [resolveType?_of_unreserved own]
    cases parent : (d.group g).parent with
    | none =>
      cases tree.orphan there parent
      rw [blank.resolveEnum?_root tree, typeAround?, parent]
      exact own.symm
    | some p =>
      rw [typeAround?_of_parent parent, resolveType?_of_unreserved own,
        resolveEnum?_of_parent tree parent, blank.childEnum?, Option.none_or, ite_self]

end Hyperslab.Dataset
