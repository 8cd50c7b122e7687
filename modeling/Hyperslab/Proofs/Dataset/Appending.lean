/-
# `Hyperslab.Proofs.Dataset.Appending` — declarations only append

A dataset that has grown out of another has all that the other has (`Grown`).  Handles mean what
they meant: nothing stored under them has changed, but for the lists of groups and compounds, and
those have only got longer at the end.

`Leads d e` says that some sequence of attempts leads from `d` to `e`; so `e` is a later stage of
the dataset that `d` is an earlier stage of.
-/
import Hyperslab.Proofs.Dataset.Places

namespace Hyperslab

/-! ## What never changes -/

/-- The content without its fields. -/
def Content.bare : Content → Content
  | .atomic t => .atomic t
  | .struct _ => .struct []
  | .sequence _ => .sequence []

/-- The variable without its fields. -/
def Variable.bare (v : Variable) : Variable := { v with content := v.content.bare }

/-- The group without its members. -/
def Group.bare (x : Group) : Group :=
  { x with groups := [], dimensions := [], enums := [], vars := [] }

namespace Content

theorem bare_addField (f : VarId) (c : Content) : (c.addField f).bare = c.bare := by
  cases c <;> rfl

theorem bare_shape (shape : Shape) : shape.content.bare = shape.content := by
  cases shape <;> rfl

end Content

namespace Dataset

variable {d e f : Dataset}

/-! ## Growing -/

/-- The second dataset has what the first one has. -/
structure Grown (d e : Dataset) : Prop where
  name : e.name = d.name
  groups : d.groups.map Group.bare <+: e.groups.map Group.bare
  dimensions : d.dimensions <+: e.dimensions
  enums : d.enums <+: e.enums
  vars : d.vars.map Variable.bare <+: e.vars.map Variable.bare
  attributes : d.attributes <+: e.attributes
  lists : ∀ p, d.listAt p <+: e.listAt p

theorem Grown.refl (d : Dataset) : Grown d d :=
  ⟨rfl, List.prefix_rfl, List.prefix_rfl, List.prefix_rfl, List.prefix_rfl, List.prefix_rfl,
    fun _ => List.prefix_rfl⟩

theorem Grown.trans (h : Grown d e) (k : Grown e f) : Grown d f where
  name := k.name.trans h.name
  groups := h.groups.trans k.groups
  dimensions := h.dimensions.trans k.dimensions
  enums := h.enums.trans k.enums
  vars := h.vars.trans k.vars
  attributes := h.attributes.trans k.attributes
  lists p := (h.lists p).trans (k.lists p)

theorem Growth.isPrefix_lists (growth : Growth d e) (p : Place) : d.listAt p <+: e.listAt p := by
  rcases growth.appends with same | ⟨q, n, appends⟩
  · exact same ▸ List.prefix_rfl
  · rw [appends p]
    split
    · exact List.prefix_append ..
    · exact List.prefix_rfl

/-- A change that does not show, and one thing more. -/
theorem isPrefix_map_of_modify {α β : Type} {key : α → β} {as bs : List α} {f : α → α} {i : Nat}
    (kept : ∀ a, key (f a) = key a) (new : List α) (same : bs = as.modify i f ++ new) :
    as.map key <+: bs.map key := by
  rw [same, List.map_append, map_modify kept]
  exact List.prefix_append ..

theorem Growth.isPrefix_groups (growth : Growth d e) :
    d.groups.map Group.bare <+: e.groups.map Group.bare := by
  cases growth with
  | group => exact isPrefix_map_of_modify (fun _ => by rfl) _ rfl
  | dimension | enumeration | topLevel =>
    exact isPrefix_map_of_modify (fun _ => by rfl) [] (List.append_nil _).symm
  | anonymous | field | attr => exact List.prefix_rfl

theorem Growth.isPrefix_vars (growth : Growth d e) :
    d.vars.map Variable.bare <+: e.vars.map Variable.bare := by
  cases growth with
  | group | dimension | anonymous | enumeration | attr => exact List.prefix_rfl
  | topLevel => exact (List.prefix_append ..).map _
  | field =>
    refine isPrefix_map_of_modify (fun c => ?_) _ rfl
    exact congrArg (fun content => { c with content }) (Content.bare_addField ..)

/-- Growing only appends. -/
theorem Growth.grown (growth : Growth d e) : Grown d e := by
  refine ⟨?_, growth.isPrefix_groups, ?_, ?_, growth.isPrefix_vars, ?_, growth.isPrefix_lists⟩
  all_goals
    cases growth <;> first | rfl | exact List.prefix_rfl | exact List.prefix_append ..

/-! ## Later stages -/

/-- Some attempts lead from the one dataset to the other. -/
def Leads (d e : Dataset) : Prop := ∃ xs : List Declaration, xs.foldl attempt d = e

theorem Leads.refl (d : Dataset) : Leads d d := ⟨[], rfl⟩

theorem Leads.trans (h : Leads d e) (k : Leads e f) : Leads d f := by
  obtain ⟨xs, rfl⟩ := h
  obtain ⟨ys, rfl⟩ := k
  exact ⟨xs ++ ys, List.foldl_append⟩

theorem leads_of_declare? {x : Declaration} {n : Nat} (h : d.declare? x = .ok (e, n)) :
    Leads d e :=
  ⟨[x], attempt_of_ok h⟩

/-- What is kept by growing holds at later stages. -/
theorem Leads.induction {P : Dataset → Prop} (h : Leads d e) (base : P d)
    (step : ∀ {d e : Dataset}, P d → Growth d e → P e) : P e := by
  obtain ⟨xs, rfl⟩ := h
  induction xs using List.reverseRecOn with
  | nil => exact base
  | append_singleton xs x ih =>
    rw [List.foldl_append]
    show P ((xs.foldl attempt d).attempt x)
    cases made : (xs.foldl attempt d).declare? x with
    | error e => rw [attempt_of_error made]; exact ih
    | ok r => rw [attempt_of_ok made]; exact step ih (growth_of_declare? made)

/-- A later stage has what an earlier one has. -/
theorem Leads.grown (h : Leads d e) : Grown d e :=
  h.induction (Grown.refl d) fun old growth => old.trans growth.grown

theorem Leads.wellFormed {name : String} (h : Leads (empty name) d) : WellFormed d := by
  obtain ⟨xs, rfl⟩ := h
  exact wellFormed_built name xs

/-! ## Handles at later stages -/

/-- The next handle exists once something is appended. -/
theorem lt_length_concat {α : Type} (as : List α) (a : α) : as.length < (as ++ [a]).length := by
  rw [List.length_append, List.length_singleton]
  exact Nat.lt_succ_self _

/-- A place in range is the same in a longer list. -/
theorem getElem?_of_isPrefix {α : Type} {as bs : List α} (h : as <+: bs) {i : Nat}
    (below : i < as.length) : bs[i]? = as[i]? := by
  obtain ⟨cs, rfl⟩ := h
  exact List.getElem?_append_left below

/-- What shows of a place in range is the same in a list of which more shows. -/
theorem getD_of_isPrefix_map {α β : Type} {key : α → β} {as bs : List α} {a b : α}
    (h : as.map key <+: bs.map key) {i : Nat} (below : i < as.length) :
    key (bs[i]?.getD b) = key (as[i]?.getD a) := by
  have same := getElem?_of_isPrefix h (i := i) (by rwa [List.length_map])
  rw [List.getElem?_map, List.getElem?_map, List.getElem?_eq_getElem below] at same
  obtain ⟨x, found, eq⟩ := Option.map_eq_some_iff.1 same
  rw [found, List.getElem?_eq_getElem below]
  exact eq

namespace Grown

theorem has (h : Grown d e) {n : Node} (there : d.Has n) : e.Has n := by
  have length := h.groups.length_le
  have lengthVars := h.vars.length_le
  rw [List.length_map, List.length_map] at length lengthVars
  cases n with
  | ofGroup g => exact Nat.lt_of_lt_of_le there length
  | ofDimension x => exact Nat.lt_of_lt_of_le there h.dimensions.length_le
  | ofEnumeration y => exact Nat.lt_of_lt_of_le there h.enums.length_le
  | ofVariable v => exact Nat.lt_of_lt_of_le there lengthVars
  | ofAttribute a => exact Nat.lt_of_lt_of_le there h.attributes.length_le

theorem group (h : Grown d e) {g : GroupId} (there : d.Has (.ofGroup g)) :
    (e.group g).bare = (d.group g).bare :=
  getD_of_isPrefix_map h.groups there

theorem path (h : Grown d e) {g : GroupId} (there : d.Has (.ofGroup g)) :
    (e.group g).path = (d.group g).path := by
  have same := congrArg Group.path (h.group there)
  exact same

theorem parent (h : Grown d e) {g : GroupId} (there : d.Has (.ofGroup g)) :
    (e.group g).parent = (d.group g).parent := by
  have same := congrArg Group.parent (h.group there)
  exact same

theorem dimension (h : Grown d e) {x : DimId} (there : d.Has (.ofDimension x)) :
    e.dimension x = d.dimension x := by
  rw [Dataset.dimension, getElem?_of_isPrefix h.dimensions there]
  rfl

theorem enumeration (h : Grown d e) {y : EnumId} (there : d.Has (.ofEnumeration y)) :
    e.enumeration y = d.enumeration y := by
  rw [Dataset.enumeration, getElem?_of_isPrefix h.enums there]
  rfl

theorem var (h : Grown d e) {v : VarId} (there : d.Has (.ofVariable v)) :
    (e.var v).bare = (d.var v).bare :=
  getD_of_isPrefix_map h.vars there

end Grown

end Dataset

end Hyperslab
