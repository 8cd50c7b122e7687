/-
# `Hyperslab.Proofs.Dataset.Places` — the lists that declarations are entered in

A declaration is entered in one list: that of the subgroups, the dimensions, the enumerations or
the variables of a group, that of the fields of a compound, or that of the attributes of a node.
A `Place` says which list.  The root is in no list, and neither is a dimension without a name.

There are two facts about places.  Each way to grow appends one new node to the list at one place
and leaves all other lists as they are (`Appends`).  And in a built dataset a node is in the list
at its place once, and in no other list (`mem_listAt_iff`, `nodup_listAt`).
-/
import Hyperslab.Proofs.Dataset.DeclarationTree

namespace Hyperslab

/-- A list of declarations. -/
inductive Place where
  | groups (g : GroupId)
  | dimensions (g : GroupId)
  | enums (g : GroupId)
  /-- The variables of a group, or the fields of a compound. -/
  | vars (o : Owner)
  | attributes (n : Node)
deriving DecidableEq, Repr

/-- What has the list. -/
def Place.node : Place → Node
  | .groups g | .dimensions g | .enums g => .ofGroup g
  | .vars o => o.node
  | .attributes n => n

namespace Dataset

variable {d e : Dataset}

/-- What stands in a list, in order. -/
def listAt (d : Dataset) : Place → List Node
  | .groups g => (d.group g).groups.map .ofGroup
  | .dimensions g => (d.group g).dimensions.map .ofDimension
  | .enums g => (d.group g).enums.map .ofEnumeration
  | .vars o => (d.variablesOf o).map .ofVariable
  | .attributes n => (d.attributesOf n).map .ofAttribute

/-- The list that a node was entered in. -/
def placeOf? (d : Dataset) : Node → Option Place
  | .ofGroup g => (d.group g).parent.map .groups
  | .ofDimension x =>
    if (d.dimension x).name.isSome then some (.dimensions (d.dimension x).group) else none
  | .ofEnumeration y => some (.enums (d.enumeration y).group)
  | .ofVariable v => some (.vars (d.var v).owner)
  | .ofAttribute a => (d.attributes[a.index]?).map fun x => .attributes x.owner

/-! ## Reading handles off a list -/

section Handles

variable {g : GroupId}

theorem listAt_groups_eq_iff {gs : List GroupId} :
    d.listAt (.groups g) = gs.map .ofGroup ↔ (d.group g).groups = gs :=
  (List.map_injective_iff.2 fun _ _ => Node.ofGroup.inj).eq_iff

theorem listAt_dimensions_eq_iff {xs : List DimId} :
    d.listAt (.dimensions g) = xs.map .ofDimension ↔ (d.group g).dimensions = xs :=
  (List.map_injective_iff.2 fun _ _ => Node.ofDimension.inj).eq_iff

theorem listAt_enums_eq_iff {ys : List EnumId} :
    d.listAt (.enums g) = ys.map .ofEnumeration ↔ (d.group g).enums = ys :=
  (List.map_injective_iff.2 fun _ _ => Node.ofEnumeration.inj).eq_iff

theorem listAt_vars_eq_iff {o : Owner} {vs : List VarId} :
    d.listAt (.vars o) = vs.map .ofVariable ↔ d.variablesOf o = vs :=
  (List.map_injective_iff.2 fun _ _ => Node.ofVariable.inj).eq_iff

theorem listAt_attributes_eq_iff {n : Node} {as : List AttrId} :
    d.listAt (.attributes n) = as.map .ofAttribute ↔ d.attributesOf n = as :=
  (List.map_injective_iff.2 fun _ _ => Node.ofAttribute.inj).eq_iff

end Handles

/-! ## Appending -/

/-- The nodes were appended to one list, and no other list was touched. -/
def Appends (d e : Dataset) (p : Place) (new : List Node) : Prop :=
  ∀ q, e.listAt q = if q = p then d.listAt q ++ new else d.listAt q

/-- Lists stand in groups, in variables, and in the list of all attributes. -/
theorem listAt_congr (groups : e.group = d.group) (fields : e.fields = d.fields)
    (attributes : e.attributes = d.attributes) : e.listAt = d.listAt := by
  funext q
  cases q with
  | groups g | dimensions g | enums g => simp only [listAt, groups]
  | vars o => cases o <;> simp only [listAt, variablesOf, groups, fields]
  | attributes n => simp only [listAt, attributesOf, attributeIds, attributes]

theorem appends_withGroup {parent : GroupId} (present : parent.index < d.groups.length)
    (name : String) :
    Appends d (d.withGroup parent name) (.groups parent) [.ofGroup d.nextGroup] := by
  have others (k : GroupId) : ((d.withGroup parent name).group k).dimensions = (d.group k).dimensions
      ∧ ((d.withGroup parent name).group k).enums = (d.group k).enums
      ∧ ((d.withGroup parent name).group k).vars = (d.group k).vars := by
    by_cases hk : k = d.nextGroup
    · rw [group_withGroup present, if_pos hk, group_of_length_le (g := k) (hk ▸ Nat.le_refl _)]
      exact ⟨rfl, rfl, rfl⟩
    · rw [group_withGroup_of_ne present name hk]
      exact ⟨rfl, rfl, rfl⟩
  intro q
  cases q with
  | groups k =>
    simp only [listAt, groups_withGroup present, Place.groups.injEq]
    split <;> simp
  | dimensions k => simp [listAt, others k]
  | enums k => simp [listAt, others k]
  | vars o =>
    cases o with
    | group k => simp [listAt, variablesOf, others k]
    | compound p => rfl
  | attributes n => rfl

theorem appends_withDimension {g : GroupId} (present : g.index < d.groups.length) (name : String)
    (size : Nat) :
    Appends d (d.withDimension g name size) (.dimensions g) [.ofDimension d.nextDimension] := by
  have group : (d.withDimension g name size).group = _ := funext (group_updateGroup present _)
  intro q
  cases q with
  | groups k | enums k =>
    simp only [listAt, group, reduceCtorEq, if_false]
    split <;> rfl
  | dimensions k =>
    simp only [listAt, group, Place.dimensions.injEq, eq_comm (a := k)]
    split <;> simp
  | vars o =>
    cases o with
    | group k =>
      simp only [listAt, variablesOf, group, reduceCtorEq, if_false]
      split <;> rfl
    | compound p => rfl
  | attributes n => rfl

theorem appends_withEnum {g : GroupId} (present : g.index < d.groups.length) (name : String)
    (base : AtomicType) (constants : List (String × Int)) :
    Appends d (d.withEnum g name base constants) (.enums g) [.ofEnumeration d.nextEnum] := by
  have group : (d.withEnum g name base constants).group = _ := funext (group_updateGroup present _)
  intro q
  cases q with
  | groups k | dimensions k =>
    simp only [listAt, group, reduceCtorEq, if_false]
    split <;> rfl
  | enums k =>
    simp only [listAt, group, Place.enums.injEq, eq_comm (a := k)]
    split <;> simp
  | vars o =>
    cases o with
    | group k =>
      simp only [listAt, variablesOf, group, reduceCtorEq, if_false]
      split <;> rfl
    | compound p => rfl
  | attributes n => rfl

theorem appends_withVariable {owner : Owner} (present : d.Has owner.node)
    (compound : ∀ p, owner = .compound p → (d.var p).isCompound = true) (name : String)
    (shape : Shape) (xs : List DimId) :
    Appends d (d.withVariable owner name shape xs) (.vars owner) [.ofVariable d.nextVariable] := by
  intro q
  cases owner with
  | group g =>
    have group : (d.withVariable (.group g) name shape xs).group = _ :=
      funext (group_withVariable_group present name shape xs)
    cases q with
    | groups k | dimensions k | enums k =>
      simp only [listAt, group, reduceCtorEq, if_false]
      split <;> rfl
    | vars o =>
      cases o with
      | group k =>
        simp only [listAt, variablesOf, group, Place.vars.injEq, Owner.group.injEq,
          eq_comm (a := k)]
        split <;> simp
      | compound c => simp [listAt, variablesOf, fields_withVariable_group]
    | attributes n => rfl
  | compound p =>
    cases q with
    | groups k | dimensions k | enums k | attributes n => rfl
    | vars o =>
      cases o with
      | group k => rfl
      | compound c =>
        simp only [listAt, variablesOf, fields_withVariable_compound present (compound p rfl),
          Place.vars.injEq, Owner.compound.injEq]
        split <;> simp

/-- A new attribute comes last among those of its owner. -/
theorem attributesOf_addAttribute (d : Dataset) (owner : Node) (a : Attribute) (n : Node) :
    (d.addAttribute owner a).1.attributesOf n =
      if n = owner then d.attributesOf n ++ [d.nextAttribute] else d.attributesOf n := by
  have attributes : (d.addAttribute owner a).1.attributes =
      d.attributes ++ [⟨d.nextAttribute, owner, a⟩] := rfl
  have old : ((List.range d.attributes.length).map AttrId.mk).filter
      (fun x => ((d.addAttribute owner a).1.attributes[x.index]?).any fun x => x.owner == n) =
        d.attributesOf n := by
    refine List.filter_congr fun x hx => ?_
    obtain ⟨i, hi, rfl⟩ := List.mem_map.1 hx
    rw [attributes, List.getElem?_append_left (List.mem_range.1 hi)]
  have new : (d.addAttribute owner a).1.attributes[d.attributes.length]? =
      some ⟨d.nextAttribute, owner, a⟩ := by
    rw [attributes, List.getElem?_concat_length]
  have length : (d.addAttribute owner a).1.attributes.length = d.attributes.length + 1 := by
    rw [attributes, List.length_append, List.length_singleton]
  rw [attributesOf, attributeIds, length, List.range_succ, List.map_append, List.filter_append, old,
    List.map_singleton]
  by_cases same : n = owner
  · simp [same, new, nextAttribute]
  · simp [same, new, Ne.symm same]

theorem appends_addAttribute (d : Dataset) (owner : Node) (a : Attribute) :
    Appends d (d.addAttribute owner a).1 (.attributes owner) [.ofAttribute d.nextAttribute] := by
  intro q
  cases q with
  | groups k | dimensions k | enums k => rfl
  | vars o => cases o <;> rfl
  | attributes n =>
    simp only [listAt, attributesOf_addAttribute, Place.attributes.injEq]
    split <;> simp

/-- Whatever is declared, at most one list gets longer, by one node at its end. -/
theorem Growth.appends (growth : Growth d e) :
    e.listAt = d.listAt ∨ ∃ p n, Appends d e p [n] := by
  cases growth with
  | group present => exact .inr ⟨_, _, appends_withGroup present _⟩
  | dimension present => exact .inr ⟨_, _, appends_withDimension present _ _⟩
  | anonymous => exact .inl (listAt_congr rfl rfl rfl)
  | enumeration present => exact .inr ⟨_, _, appends_withEnum present _ _ _⟩
  | topLevel present => exact .inr ⟨_, _, @appends_withVariable d (.group _) present (fun _ => nofun) _ _ _⟩
  | field present compound =>
    refine .inr ⟨_, _, @appends_withVariable d (.compound _) present (fun p same => ?_) _ _ _⟩
    cases same
    exact compound
  | attr => exact .inr ⟨_, _, appends_addAttribute _ _ _⟩

/-! ## Standing in one list -/

theorem mem_attributesOf_iff {n : Node} {a : AttrId} :
    a ∈ d.attributesOf n ↔ (d.attributes[a.index]?).map AttributeDeclaration.owner = some n := by
  simp only [attributesOf, attributeIds, List.mem_filter, List.mem_map, List.mem_range,
    Option.any_eq_true, beq_iff_eq, Option.map_eq_some_iff]
  constructor
  · exact And.right
  · rintro ⟨x, found, owner⟩
    exact ⟨⟨a.index, (List.getElem?_eq_some_iff.1 found).1, rfl⟩, x, found, owner⟩

theorem WellFormed.lt_length_of_mem_variablesOf (wf : WellFormed d) {o : Owner} {v : VarId}
    (listed : v ∈ d.variablesOf o) : v.index < d.vars.length := by
  cases o with
  | group g => exact (wf.listing.owned.1 listed).1
  | compound c => exact lt_length_of_owner (wf.forest.owned.1 listed)

/-- A node is in the list that it was entered in, and in no other. -/
theorem mem_listAt_iff (wf : WellFormed d) {p : Place} {n : Node} :
    n ∈ d.listAt p ↔ d.Has n ∧ d.placeOf? n = some p := by
  cases n with
  | ofGroup k =>
    cases p with
    | groups g =>
      simp only [listAt, placeOf?, List.mem_map, Node.ofGroup.injEq, exists_eq_right,
        Option.map_eq_some_iff, Place.groups.injEq]
      refine wf.tree.owned.trans ⟨fun parent => ⟨lt_length_of_parent parent, parent⟩, And.right⟩
    | dimensions | enums | vars | attributes => simp [listAt, placeOf?]
  | ofDimension x =>
    cases p with
    | dimensions g =>
      simp only [listAt, placeOf?, List.mem_map, Node.ofDimension.injEq, exists_eq_right,
        Option.ite_none_right_eq_some, Option.some.injEq, Place.dimensions.injEq]
      refine wf.members.dimension.trans ⟨fun both => ⟨?_, both⟩, And.right⟩
      obtain ⟨name, named⟩ := Option.isSome_iff_exists.1 both.1
      exact lt_length_of_name named
    | groups | enums | vars | attributes => simp [listAt, placeOf?]
  | ofEnumeration y =>
    cases p with
    | enums g =>
      simp only [listAt, placeOf?, List.mem_map, Node.ofEnumeration.injEq, exists_eq_right,
        Option.some.injEq, Place.enums.injEq]
      exact wf.members.enumeration
    | groups | dimensions | vars | attributes => simp [listAt, placeOf?]
  | ofVariable v =>
    cases p with
    | vars o =>
      simp only [listAt, placeOf?, List.mem_map, Node.ofVariable.injEq, exists_eq_right,
        Option.some.injEq, Place.vars.injEq, eq_comm (b := o)]
      refine ⟨fun listed => ?_, fun both => (wf.mem_variablesOf_iff both.1 o).2 both.2⟩
      have below := wf.lt_length_of_mem_variablesOf listed
      exact ⟨below, (wf.mem_variablesOf_iff below o).1 listed⟩
    | groups | dimensions | enums | attributes => simp [listAt, placeOf?]
  | ofAttribute a =>
    cases p with
    | attributes n =>
      simp only [listAt, placeOf?, List.mem_map, Node.ofAttribute.injEq, exists_eq_right,
        mem_attributesOf_iff, Option.map_eq_some_iff, Place.attributes.injEq]
      refine ⟨fun ⟨x, found, owner⟩ => ⟨?_, x, found, owner⟩, And.right⟩
      exact (List.getElem?_eq_some_iff.1 found).1
    | groups | dimensions | enums | vars => simp [listAt, placeOf?]

/-- No list has a node twice. -/
theorem nodup_listAt (wf : WellFormed d) (ascending : Ascending d) (p : Place) :
    (d.listAt p).Nodup := by
  cases p with
  | groups g =>
    exact ((wf.tree.distinct g).of_map _).map fun _ _ same => Node.ofGroup.inj same
  | dimensions g =>
    exact (nodup_of_ascending (ascending.dimensions g)).map fun _ _ same => Node.ofDimension.inj same
  | enums g =>
    exact (nodup_of_ascending (ascending.enums g)).map fun _ _ same => Node.ofEnumeration.inj same
  | vars o => exact (wf.nodup_variablesOf o).map fun _ _ same => Node.ofVariable.inj same
  | attributes n =>
    have handles : d.attributeIds.Nodup := List.nodup_range.map fun _ _ same => AttrId.mk.inj same
    exact (handles.filter _).map fun _ _ same => Node.ofAttribute.inj same

end Dataset

end Hyperslab
