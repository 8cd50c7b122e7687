/-
# `Hyperslab.Proofs.Dataset.DeclarationTree` — a built dataset is a tree of declarations

A dataset says several things twice.  A declaration stores its handle, which is also its place
among those of its kind; it stands in the list of what it belongs to, and names it; a group
stores the way down from the root, and a variable the group that its owners lead up to.
`DeclarationTree` says that all of this agrees, and `declarationTree_built` that no sequence of
attempts at declaring, refused ones among them, ever makes it disagree.

The parts that are needed elsewhere are in the modules on groups, members and fields.  Here are
those that only the whole picture needs: stored handles (`Numbered`), the order of lists
(`Ascending`), and the groups and types of variables (`Homes`, `Typed`).
-/
import Hyperslab.Proofs.Dataset.Address

namespace Hyperslab

/-- The node that owns. -/
def Owner.node : Owner → Node
  | .group g => .ofGroup g
  | .compound v => .ofVariable v

namespace Dataset

variable {d e : Dataset}

/-- The variables that an owner lists. -/
def variablesOf (d : Dataset) : Owner → List VarId
  | .group g => (d.group g).vars
  | .compound v => d.fields v

/-- The first group on the way up from a variable, from owner to owner. -/
inductive NearestGroup (d : Dataset) : VarId → GroupId → Prop
  | own {v : VarId} {g : GroupId} : (d.var v).owner = .group g → NearestGroup d v g
  | up {v p : VarId} {g : GroupId} : (d.var v).owner = .compound p → NearestGroup d p g →
      NearestGroup d v g

/-- The declarations are a tree, and what a dataset says twice agrees. -/
structure DeclarationTree (d : Dataset) : Prop where
  /-- A declaration stores its place among those of its kind. -/
  ids : d.groups.map Group.id = d.groupIds ∧ d.dimensions.map Dimension.id = d.dimensionIds ∧
    d.enums.map Enumeration.id = d.enumIds ∧ d.vars.map Variable.id = d.variableIds ∧
    d.attributes.map AttributeDeclaration.id = d.attributeIds
  root : d.Has (.ofGroup .root) ∧ (d.group .root).parent = none ∧
    (d.group .root).path = [.root] ∧ ∀ k, (d.group k).groups.count .root = 0
  /-- Any other group is listed once by its parent and by no other group. -/
  group : ∀ g, d.Has (.ofGroup g) → g ≠ .root → ∃ p, (d.group g).parent = some p ∧
    p.index < g.index ∧ (d.group g).path = (d.group p).path ++ [g] ∧
    ∀ k, (d.group k).groups.count g = if k = p then 1 else 0
  /-- A variable is listed once by its owner and by no other group or variable. -/
  var : ∀ v, d.Has (.ofVariable v) → d.Has (d.var v).owner.node ∧
    ∀ o, (d.variablesOf o).count v = if o = (d.var v).owner then 1 else 0
  /-- Only structures and sequences own variables, and come before them. -/
  compound : ∀ v p, (d.var v).owner = .compound p → p.index < v.index ∧ (d.var p).isCompound
  nearest : ∀ v, d.Has (.ofVariable v) → ∀ g, d.NearestGroup v g ↔ g = (d.var v).group
  /-- A dimension with a name is listed once by its group and by no other. -/
  dimension : ∀ x, d.Has (.ofDimension x) → (d.dimension x).name.isSome →
    ∀ k, (d.group k).dimensions.count x = if k = (d.dimension x).group then 1 else 0
  enumeration : ∀ y, d.Has (.ofEnumeration y) →
    ∀ k, (d.group k).enums.count y = if k = (d.enumeration y).group then 1 else 0
  /-- Nothing is listed that is not there. -/
  listed : (∀ g n, d.Lists g n → d.Has n) ∧ ∀ c f, f ∈ d.fields c → d.Has (.ofVariable f)
  /-- Two things that one group lists differ in name, whatever their kinds are. -/
  names : ∀ g m n, d.Lists g m → d.Lists g n → d.ownName? m = d.ownName? n → m = n
  fieldNames : ∀ c, ((d.fields c).map fun f => (d.var f).name).Nodup
  used : ∀ v, (∀ x ∈ (d.var v).dimensions, d.Has (.ofDimension x)) ∧
    ∀ y, (d.var v).base? = some (.enumeration y) → d.Has (.ofEnumeration y)

/-! ## Well-formed datasets stay well-formed -/

theorem WellFormed.grow (h : WellFormed d) (growth : Growth d e) : WellFormed e :=
  ⟨h.tree.grow growth, h.listing.grow growth, h.members.grow h.tree h.listing growth,
    h.forest.grow growth⟩

/-- An induction in which all datasets before are known to be well-formed. -/
theorem wellFormed_induction {P : Dataset → Prop} {name : String} (base : P (empty name))
    (step : ∀ {d e : Dataset}, WellFormed d → P d → Growth d e → P e) (xs : List Declaration) :
    P (built name xs) := by
  refine (built_induction (P := fun d => WellFormed d ∧ P d) ⟨wellFormed_built name [], base⟩ ?_ xs).2
  intro d e h growth
  exact ⟨h.1.grow growth, step h.1 h.2 growth⟩

/-! ## Handles -/

/-- Every declaration stores its place. -/
structure Numbered (d : Dataset) : Prop where
  groups : d.groups.map Group.id = d.groupIds
  dimensions : d.dimensions.map Dimension.id = d.dimensionIds
  enums : d.enums.map Enumeration.id = d.enumIds
  vars : d.vars.map Variable.id = d.variableIds
  attributes : d.attributes.map AttributeDeclaration.id = d.attributeIds

/-- A change that keeps what is stored under a key. -/
theorem map_modify {α β : Type} {key : α → β} {f : α → α} (kept : ∀ a, key (f a) = key a)
    (as : List α) (i : Nat) : (as.modify i f).map key = as.map key := by
  refine List.ext_getElem? fun j => ?_
  rw [List.getElem?_map, List.getElem?_map, List.getElem?_modify]
  cases as[j]? with
  | none => rfl
  | some a =>
    by_cases same : i = j
    · simp [same, kept]
    · simp [same]

/-- The next handle comes last. -/
theorem map_concat_range {α β : Type} {key : α → β} {handle : Nat → β} {l : List α} {a : α}
    (old : l.map key = (List.range l.length).map handle) (new : key a = handle l.length) :
    (l ++ [a]).map key = (List.range (l ++ [a]).length).map handle := by
  rw [List.length_append, List.length_singleton, List.range_succ, List.map_append, List.map_append,
    old, List.map_singleton, List.map_singleton, new]

/-- Entering a declaration in a list of a group renumbers no group. -/
theorem Numbered.groups_of_updateGroup (h : Numbered d) {g : GroupId} {f : Group → Group}
    (same : e.groups = (d.updateGroup g f).groups) (kept : ∀ x, (f x).id = x.id) :
    e.groups.map Group.id = e.groupIds := by
  have length : e.groups.length = d.groups.length := by
    rw [same]
    exact List.length_modify ..
  rw [groupIds, length, same]
  exact (map_modify kept _ _).trans h.groups

theorem Numbered.groups_withGroup (h : Numbered d) (parent : GroupId) (name : String) :
    (d.withGroup parent name).groups.map Group.id = (d.withGroup parent name).groupIds := by
  let before := d.updateGroup parent fun p => { p with groups := p.groups ++ [d.nextGroup] }
  refine map_concat_range (h.groups_of_updateGroup (e := before) rfl fun _ => by rfl) ?_
  exact congrArg GroupId.mk (List.length_modify ..).symm

theorem Numbered.vars_withVariable (h : Numbered d) (owner : Owner) (name : String)
    (shape : Shape) (xs : List DimId) : (d.withVariable owner name shape xs).vars.map Variable.id =
      (d.withVariable owner name shape xs).variableIds := by
  refine map_concat_range (l := (d.enterVariable owner).vars) ?_ ?_
  · rw [length_vars_enterVariable]
    refine Eq.trans ?_ h.vars
    cases owner with
    | group g => rfl
    | compound p => exact map_modify (by exact fun _ => rfl) _ _
  · exact congrArg VarId.mk (length_vars_enterVariable d owner).symm

theorem Numbered.grow (h : Numbered d) (growth : Growth d e) : Numbered e := by
  cases growth with
  | group => exact { h with groups := h.groups_withGroup .. }
  | dimension => exact { h with
      groups := h.groups_of_updateGroup rfl fun _ => by rfl
      dimensions := map_concat_range h.dimensions rfl }
  | anonymous => exact { h with dimensions := map_concat_range h.dimensions rfl }
  | enumeration => exact { h with
      groups := h.groups_of_updateGroup rfl fun _ => by rfl
      enums := map_concat_range h.enums rfl }
  | topLevel => exact { h with
      groups := h.groups_of_updateGroup rfl fun _ => by rfl
      vars := h.vars_withVariable .. }
  | field => exact { h with vars := h.vars_withVariable .. }
  | attr => exact { h with attributes := map_concat_range h.attributes rfl }

theorem numbered_built (name : String) (xs : List Declaration) : Numbered (built name xs) :=
  built_induction ⟨rfl, rfl, rfl, rfl, rfl⟩ Numbered.grow xs

/-! ## The order of lists -/

/-- The dimensions and the enumerations of a group are listed in order of declaration. -/
structure Ascending (d : Dataset) : Prop where
  dimensions : ∀ g, (d.group g).dimensions.Pairwise fun x y => x.index < y.index
  enums : ∀ g, (d.group g).enums.Pairwise fun x y => x.index < y.index

theorem pairwise_concat {α : Type} {key : α → Nat} {as : List α} {a : α}
    (old : as.Pairwise fun x y => key x < key y) (new : ∀ x ∈ as, key x < key a) :
    (as ++ [a]).Pairwise fun x y => key x < key y := by
  refine List.pairwise_append.2 ⟨old, List.pairwise_singleton _ _, ?_⟩
  intro x hx y hy
  rw [List.mem_singleton.1 hy]
  exact new x hx

theorem Ascending.of_same (h : Ascending d)
    (same : ∀ g, (e.group g).dimensions = (d.group g).dimensions ∧
      (e.group g).enums = (d.group g).enums) : Ascending e :=
  ⟨fun g => (same g).1 ▸ h.dimensions g, fun g => (same g).2 ▸ h.enums g⟩

theorem Ascending.grow (h : Ascending d) (wf : WellFormed d) (growth : Growth d e) :
    Ascending e := by
  cases growth with
  | @group parent name present =>
    refine h.of_same fun g => ?_
    rw [group_withGroup present]
    split
    · rename_i new
      rw [group_of_length_le (g := g) (new ▸ Nat.le_refl _)]
      exact ⟨rfl, rfl⟩
    · split <;> exact ⟨rfl, rfl⟩
  | @dimension g name size present =>
    have group : ∀ k, (d.withDimension g name size).group k = _ := group_updateGroup present _
    refine ⟨fun k => ?_, fun k => ?_⟩
    · rw [group]
      split
      · exact pairwise_concat (h.dimensions k) fun x hx =>
          wf.has_of_lists (n := .ofDimension x) (g := k) hx
      · exact h.dimensions k
    · rw [group]
      split <;> exact h.enums k
  | @enumeration g name base constants present =>
    have group : ∀ k, (d.withEnum g name base constants).group k = _ := group_updateGroup present _
    refine ⟨fun k => ?_, fun k => ?_⟩
    · rw [group]
      split <;> exact h.dimensions k
    · rw [group]
      split
      · exact pairwise_concat (h.enums k) fun y hy =>
          wf.has_of_lists (n := .ofEnumeration y) (g := k) hy
      · exact h.enums k
  | @topLevel g name shape xs present =>
    refine h.of_same fun k => ?_
    rw [group_withVariable_group present]
    split <;> exact ⟨rfl, rfl⟩
  | anonymous | field | attr => exact h.of_same fun _ => ⟨rfl, rfl⟩

theorem ascending_built (name : String) (xs : List Declaration) : Ascending (built name xs) := by
  refine wellFormed_induction ⟨?_, ?_⟩ (fun wf h growth => h.grow wf growth) xs
  all_goals
    rintro ⟨k⟩
    cases k <;> exact List.Pairwise.nil

/-! ## Groups and types of variables -/

/-- A variable lies in the group of its owner. -/
def Homes (d : Dataset) : Prop := ∀ v, (d.var v).group = d.ownerGroup (d.var v).owner

/-- The enumerations that variables have as types exist. -/
def Typed (d : Dataset) : Prop :=
  ∀ v y, (d.var v).base? = some (.enumeration y) → y.index < d.enums.length

theorem Homes.withVariable (h : Homes d) {owner : Owner}
    (present : ∀ p, owner = .compound p → p.index < d.vars.length)
    (below : ∀ v p, (d.var v).owner = .compound p → p.index < d.vars.length) (name : String)
    (shape : Shape) (xs : List DimId) : Homes (d.withVariable owner name shape xs) := by
  have kept : ∀ {p : VarId}, p.index < d.vars.length →
      ((d.withVariable owner name shape xs).var p).group = (d.var p).group := by
    intro p hp
    rw [group_var_withVariable, if_neg]
    rintro rfl
    exact Nat.lt_irrefl _ hp
  have home : ∀ {o : Owner}, (∀ p, o = .compound p → p.index < d.vars.length) →
      d.ownerGroup o = (d.withVariable owner name shape xs).ownerGroup o := by
    intro o there
    cases o with
    | group g => rfl
    | compound p => exact (kept (there p rfl)).symm
  intro v
  rw [group_var_withVariable, owner_var_withVariable]
  split
  · exact home present
  · rw [h v]
    exact home (below v)

theorem Homes.grow (h : Homes d) (wf : WellFormed d) (growth : Growth d e) : Homes e := by
  have below : ∀ v p, (d.var v).owner = .compound p → p.index < d.vars.length := fun v p owner =>
    Nat.lt_trans (wf.forest.later (wf.forest.owned.2 owner)) (lt_length_of_owner owner)
  cases growth with
  | group | dimension | anonymous | enumeration | attr => exact h
  | topLevel =>
    refine h.withVariable (fun p owner => ?_) below _ _ _
    cases owner
  | field present =>
    refine h.withVariable (fun p owner => ?_) below _ _ _
    cases owner
    exact present

theorem Typed.withVariable (h : Typed d) (owner : Owner) (name : String) {shape : Shape}
    (xs : List DimId) (known : ∀ y, shape = .atomic (.enumeration y) → y.index < d.enums.length) :
    Typed (d.withVariable owner name shape xs) := by
  have enums : (d.withVariable owner name shape xs).enums = d.enums := by cases owner <;> rfl
  intro v y
  rw [enums, var_withVariable]
  split
  · intro base
    cases shape with
    | atomic t => exact known y (congrArg Shape.atomic (Option.some.inj base))
    | struct | sequence => cases base
  · rw [var_enterVariable]
    split
    · intro base
      refine h v y ?_
      unfold Variable.base? at base ⊢
      cases content : (d.var v).content with
      | atomic t => rw [content] at base; exact base
      | struct | sequence => rw [content] at base; cases base
    · exact h v y

theorem Typed.grow (h : Typed d) (growth : Growth d e) : Typed e := by
  cases growth with
  | group | dimension | anonymous | attr => exact h
  | enumeration =>
    intro v y base
    exact Nat.lt_of_lt_of_le (h v y base) (List.sublist_append_left ..).length_le
  | topLevel _ _ _ known | field _ _ _ _ known => exact h.withVariable _ _ _ known

theorem homes_built (name : String) (xs : List Declaration) : Homes (built name xs) :=
  wellFormed_induction (fun _ => rfl) (fun wf h growth => h.grow wf growth) xs

theorem typed_built (name : String) (xs : List Declaration) : Typed (built name xs) :=
  built_induction (P := Typed) (fun _ _ h => nomatch h) Typed.grow xs

/-! ## The whole picture -/

/-- What is listed without repetition is counted once. -/
theorem count_of_nodup {α : Type} [DecidableEq α] {as : List α} {a : α} {P : Prop} [Decidable P]
    (distinct : as.Nodup) (listed : a ∈ as ↔ P) : as.count a = if P then 1 else 0 :=
  (distinct.count (a := a)).trans (if_congr listed rfl rfl)

theorem nodup_of_ascending {α : Type} {key : α → Nat} {as : List α}
    (h : as.Pairwise fun x y => key x < key y) : as.Nodup := by
  refine h.imp ?_
  rintro x y less rfl
  exact Nat.lt_irrefl _ less

/-- An owner lists what it owns. -/
theorem WellFormed.mem_variablesOf_iff (wf : WellFormed d) {v : VarId}
    (below : v.index < d.vars.length) (o : Owner) :
    v ∈ d.variablesOf o ↔ o = (d.var v).owner := by
  cases o with
  | group g => exact (wf.listing.owned.trans (and_iff_right below)).trans eq_comm
  | compound p => exact wf.forest.owned.trans eq_comm

theorem WellFormed.nodup_variablesOf (wf : WellFormed d) (o : Owner) :
    (d.variablesOf o).Nodup := by
  cases o with
  | group g => exact (wf.listing.distinct g).of_map _
  | compound p => exact (wf.forest.distinct p).of_map _

theorem WellFormed.has_owner (wf : WellFormed d) {v : VarId} (below : v.index < d.vars.length) :
    d.Has (d.var v).owner.node := by
  have listed := (wf.mem_variablesOf_iff below _).2 rfl
  generalize (d.var v).owner = o at listed
  cases o with
  | group g => exact lt_length_of_vars listed
  | compound p => exact Nat.lt_trans (wf.forest.later listed) below

/-- The owners of a variable lead up to the group that it stores. -/
theorem nearestGroup_iff (wf : WellFormed d) (homes : Homes d) {v : VarId} {g : GroupId} :
    d.NearestGroup v g ↔ g = (d.var v).group := by
  constructor
  · intro nearest
    induction nearest with
    | @own v g owner => rw [homes v, owner]; rfl
    | @up v p g owner _ ih => rw [homes v, owner]; exact ih
  · rintro rfl
    refine wf.forest.owner_induction (P := fun v => d.NearestGroup v (d.var v).group)
      (fun {v g} owner => ?top) (fun {p f} hf ih => ?field) v
    case top =>
      rw [homes, owner]
      exact .own owner
    case field =>
      have owner := wf.forest.owned.1 hf
      rw [homes, owner]
      exact .up owner ih

theorem WellFormed.count_groups (wf : WellFormed d) (g k : GroupId) :
    (d.group k).groups.count g = if some k = (d.group g).parent then 1 else 0 :=
  count_of_nodup ((wf.tree.distinct k).of_map _) (wf.tree.owned.trans eq_comm)

/-- Whatever is attempted, a dataset that is built is a tree of declarations. -/
theorem declarationTree_built (name : String) (xs : List Declaration) :
    DeclarationTree (built name xs) := by
  have wf := wellFormed_built name xs
  have numbered := numbered_built name xs
  have ascending := ascending_built name xs
  have settled := settled_built name xs
  have homes := homes_built name xs
  have typed := typed_built name xs
  generalize built name xs = d at *
  have orphan : (d.group .root).parent = none := by
    refine Option.eq_none_iff_forall_not_mem.2 fun p parent => ?_
    exact wf.tree.ne_root (wf.tree.owned.2 parent) rfl
  refine {
    ids := ⟨numbered.groups, numbered.dimensions, numbered.enums, numbered.vars,
      numbered.attributes⟩
    root := ⟨wf.tree.root_lt, orphan, wf.tree.path_root, fun k => ?_⟩
    group := fun g has inner => ?_
    var := fun v has => ⟨wf.has_owner has, fun o => ?_⟩
    compound := fun v p owner => ?_
    nearest := fun v _ g => nearestGroup_iff wf homes
    dimension := fun x _ named k => ?_
    enumeration := fun y has k => ?_
    listed := ⟨fun g n => wf.has_of_lists, fun c f hf => lt_length_of_owner (wf.forest.owned.1 hf)⟩
    names := wf.members.distinct
    fieldNames := wf.forest.distinct
    used := fun v => ⟨settled.used v, typed v⟩ }
  case refine_1 =>
    rw [wf.count_groups, orphan]
    rfl
  case refine_2 =>
    obtain ⟨p, parent⟩ := Option.ne_none_iff_exists'.1 (mt (wf.tree.orphan has) inner)
    have listed := wf.tree.owned.2 parent
    refine ⟨p, parent, wf.tree.later listed, wf.tree.path listed, fun k => ?_⟩
    rw [wf.count_groups, parent]
    exact if_congr Option.some_inj rfl rfl
  case refine_3 => exact count_of_nodup (wf.nodup_variablesOf o) (wf.mem_variablesOf_iff has o)
  case refine_4 =>
    have listed := wf.forest.owned.2 owner
    exact ⟨wf.forest.later listed, isCompound_of_mem_fields listed⟩
  case refine_5 =>
    refine count_of_nodup (nodup_of_ascending (ascending.dimensions k)) ?_
    rw [wf.members.dimension, and_iff_right named, eq_comm]
  case refine_6 =>
    refine count_of_nodup (nodup_of_ascending (ascending.enums k)) ?_
    exact wf.members.enumeration.trans ((and_iff_right has).trans eq_comm)

end Dataset

end Hyperslab
