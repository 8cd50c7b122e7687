/-
# `Hyperslab.Proofs.Dataset.Inventory` — all that a loaded dataset has

Building allows attributes on whatever handle, and dimensions without a name that no variable uses
or that several use.  Loading makes neither: attributes are on groups and variables that exist
(`OwnedAttributes`), and each dimension without a name is at one position of one variable
(`AnonymousOnce`).

A description has a place for what groups list, for the fields of variables, for the attributes of
both, and for the dimensions without a name of variables.  What is at such a place, on a way from
the root, is reached (`Reached`); and a loaded dataset has what is reached, and nothing else
(`has_iff_reached`).
-/
import Hyperslab.Proofs.Dataset.LoadSteps
import Hyperslab.Proofs.Dataset.Scoping

namespace Hyperslab.Dataset

variable {d e m : Dataset} {g : GroupId}

/-! ## Attributes -/

/-- Attributes are declared on groups and on variables, and only on such that exist. -/
def OwnedAttributes (d : Dataset) : Prop :=
  ∀ x ∈ d.attributes, d.Has x.owner ∧ bearsAttributes x.owner = true

theorem OwnedAttributes.of_grown (h : OwnedAttributes d) (grown : Grown d e)
    (same : e.attributes = d.attributes) : OwnedAttributes e := by
  intro x hx
  rw [same] at hx
  exact ⟨grown.has (h x hx).1, (h x hx).2⟩

theorem attributes_withVariable (d : Dataset) (owner : Owner) (name : String) (shape : Shape)
    (xs : List DimId) : (d.withVariable owner name shape xs).attributes = d.attributes := by
  cases owner <;> rfl

theorem OwnedAttributes.step (h : OwnedAttributes d) (step : LoadStep d e) :
    OwnedAttributes e := by
  have grown := step.leads.grown
  cases step with
  | @attr owner a there bears =>
    intro x hx
    rcases List.mem_append.1 hx with old | new
    · exact ⟨grown.has (h x old).1, (h x old).2⟩
    · rw [List.mem_singleton.1 new]
      exact ⟨grown.has there, bears⟩
  | dimension | enumeration | group => exact h.of_grown grown rfl
  | var references =>
    exact h.of_grown grown ((attributes_withVariable ..).trans references.same.2.2.2)

theorem OwnedAttributes.steps (h : OwnedAttributes d) (steps : LoadSteps d e) :
    OwnedAttributes e := by
  induction steps with
  | refl => exact h
  | tail _ step ih => exact ih.step step

theorem ownedAttributes_empty (name : String) : OwnedAttributes (empty name) := by
  intro x hx
  cases hx

/-- What does not exist has no attributes. -/
theorem OwnedAttributes.attributesOf_eq_nil (h : OwnedAttributes d) {n : Node}
    (absent : ¬ d.Has n) : d.attributesOf n = [] := by
  refine List.eq_nil_iff_forall_not_mem.2 fun a ha => absent ?_
  obtain ⟨x, found, rfl⟩ := Option.map_eq_some_iff.1 (mem_attributesOf_iff.1 ha)
  exact (h x (List.mem_of_getElem? found)).1

/-! ## Dimensions without a name -/

/-- The dimensions at all positions of all variables. -/
def usedDimensions (d : Dataset) : List DimId := d.vars.flatMap Variable.dimensions

/-- A dimension without a name is used exactly once. -/
def AnonymousOnce (d : Dataset) : Prop :=
  ∀ x, d.Has (.ofDimension x) → (d.dimension x).name = none → d.usedDimensions.count x = 1

/-- Of the dimensions without a name, references use the new ones, once each. -/
theorem Referred.count {cs : List DimensionReference} {xs : List DimId} (h : Referred g d cs m xs)
    {x : DimId} (there : m.Has (.ofDimension x)) (unnamed : (m.dimension x).name = none) :
    xs.count x = if x.index < d.dimensions.length then 0 else 1 := by
  induction h with
  | nil => exact (if_pos there).symm
  | @named d m name y cs xs resolved rest ih =>
    have named := name_of_resolveDimension? resolved
    have other : y ≠ x := by
      rintro rfl
      rw [rest.leads.grown.dimension (lt_length_of_name named), named] at unnamed
      cases unnamed
    rw [List.count_cons_of_ne other, ih there unnamed]
  | @anonymous d m size cs xs _ rest ih =>
    -- the new dimension is old for the references that follow
    have longer : (d.withAnonymous g size).dimensions.length = d.dimensions.length + 1 :=
      List.length_append
    have counted := ih there unnamed
    rw [longer] at counted
    rw [List.count_cons, counted]
    by_cases same : d.nextDimension = x
    · subst same
      simp [nextDimension]
    · have apart : x.index ≠ d.dimensions.length := fun eq => same (DimId.ext eq.symm)
      have bounds : x.index < d.dimensions.length + 1 ↔ x.index < d.dimensions.length := by omega
      simp [same, bounds]

theorem usedDimensions_withVariable (d : Dataset) (owner : Owner) (name : String) (shape : Shape)
    (xs : List DimId) :
    (d.withVariable owner name shape xs).usedDimensions = d.usedDimensions ++ xs := by
  have entered : (d.enterVariable owner).vars.map Variable.dimensions =
      d.vars.map Variable.dimensions := by
    cases owner with
    | group g => rfl
    | compound p => exact map_modify (fun _ => by rfl) _ _
  show ((d.enterVariable owner).vars ++ [_]).flatMap Variable.dimensions = _
  rw [List.flatMap_append, List.flatMap_def, entered, List.flatMap_singleton]
  rfl

theorem AnonymousOnce.step (h : AnonymousOnce d) (wf : Settled d) (step : LoadStep d e) :
    AnonymousOnce e := by
  cases step with
  | attr | enumeration | group => exact h
  | @dimension g name size free =>
    intro x there unnamed
    rw [show (d.withDimension g name size).dimension x = _ from dimension_concat ..] at unnamed
    split at unnamed
    · cases unnamed
    · rename_i old
      refine h x ?_ unnamed
      have length : (d.withDimension g name size).dimensions.length = d.dimensions.length + 1 :=
        List.length_append
      have apart : x.index ≠ d.dimensions.length := fun eq => old (DimId.ext eq)
      have below : x.index < (d.withDimension g name size).dimensions.length := there
      show x.index < d.dimensions.length
      omega
  | @var m g cs xs owner name shape references conditions =>
    intro x there unnamed
    have dimensions : (m.withVariable owner name shape xs).dimensions = m.dimensions := by
      cases owner <;> rfl
    have inM : m.Has (.ofDimension x) := by
      show x.index < m.dimensions.length
      rw [← dimensions]
      exact there
    have unnamedM : (m.dimension x).name = none := by
      unfold dimension at unnamed ⊢
      rwa [dimensions] at unnamed
    have used : m.usedDimensions = d.usedDimensions := by
      rw [usedDimensions, references.same.2.2.1]
      rfl
    rw [usedDimensions_withVariable, List.count_append, used, references.count inM unnamedM]
    split
    · rename_i old
      rw [references.leads.grown.dimension old] at unnamedM
      rw [h x old unnamedM]
    · rename_i new
      -- what variables had used before was there before
      rw [Nat.add_eq_right, List.count_eq_zero]
      intro listed
      obtain ⟨v, hv, hx⟩ := List.mem_flatMap.1 listed
      obtain ⟨i, hi, rfl⟩ := List.getElem_of_mem hv
      refine new (wf.used ⟨i⟩ x ?_)
      rw [Dataset.var, List.getElem?_eq_getElem hi]
      exact hx

theorem LoadSteps.anonymousOnce {name : String} (steps : LoadSteps (empty name) d) :
    AnonymousOnce d := by
  induction steps with
  | refl => exact fun x there => absurd there (Nat.not_lt_zero _)
  | tail before step ih =>
    obtain ⟨xs, rfl⟩ := LoadSteps.leads before
    exact ih.step (settled_built name xs) step

/-! ## What is found from the root -/

/-- A node is found from the root at a place that a description has. -/
inductive Reached (d : Dataset) : Node → Prop
  | root : Reached d (.ofGroup .root)
  | group {g k : GroupId} : Reached d (.ofGroup g) → k ∈ (d.group g).groups →
      Reached d (.ofGroup k)
  | dimension {g : GroupId} {x : DimId} : Reached d (.ofGroup g) → x ∈ (d.group g).dimensions →
      Reached d (.ofDimension x)
  | enumeration {g : GroupId} {y : EnumId} : Reached d (.ofGroup g) → y ∈ (d.group g).enums →
      Reached d (.ofEnumeration y)
  | topLevel {g : GroupId} {v : VarId} : Reached d (.ofGroup g) → v ∈ (d.group g).vars →
      Reached d (.ofVariable v)
  | field {p f : VarId} : Reached d (.ofVariable p) → f ∈ d.fields p → Reached d (.ofVariable f)
  /-- Only dimensions without a name are found where they are used. -/
  | anonymous {v : VarId} {x : DimId} : Reached d (.ofVariable v) → x ∈ (d.var v).dimensions →
      (d.dimension x).name = none → Reached d (.ofDimension x)
  | groupAttribute {g : GroupId} {a : AttrId} : Reached d (.ofGroup g) →
      a ∈ d.attributesOf (.ofGroup g) → Reached d (.ofAttribute a)
  | variableAttribute {v : VarId} {a : AttrId} : Reached d (.ofVariable v) →
      a ∈ d.attributesOf (.ofVariable v) → Reached d (.ofAttribute a)

section Reached

variable (wf : WellFormed d)

include wf

theorem reached_group (there : d.Has (.ofGroup g)) : d.Reached (.ofGroup g) :=
  wf.tree.induction (P := fun g => d.Reached (.ofGroup g)) .root
    (fun member outer => .group outer member) there

/-- What a group lists is found, since the group is. -/
theorem reached_of_lists {n : Node} (listed : d.Lists g n) : d.Reached n := by
  have outer := reached_group wf (lt_length_of_lists listed)
  cases n with
  | ofGroup k => exact .group outer listed
  | ofDimension x => exact .dimension outer listed
  | ofEnumeration y => exact .enumeration outer listed
  | ofVariable v => exact .topLevel outer listed
  | ofAttribute a => exact absurd listed id

theorem reached_variable {v : VarId} (there : d.Has (.ofVariable v)) :
    d.Reached (.ofVariable v) := by
  refine wf.forest.owner_induction
    (P := fun v => d.Has (.ofVariable v) → d.Reached (.ofVariable v))
    (fun {v g} owner there => ?top) (fun {p f} hf ih there => ?field) v there
  case top =>
    have listed := wf.listing.owned.2 ⟨there, owner⟩
    exact reached_of_lists wf (n := .ofVariable v) (g := g) listed
  case field => exact .field (ih (Nat.lt_trans (wf.forest.later hf) there)) hf

/-- A dimension with a name is in the list of the group that it lies in. -/
theorem mem_dimensions_of_name {x : DimId} {name : String} (named : (d.dimension x).name = some name) :
    x ∈ (d.group (d.dimension x).group).dimensions :=
  wf.members.dimension.2 ⟨by rw [named]; rfl, rfl⟩

theorem reached_dimension (once : AnonymousOnce d) {x : DimId} (there : d.Has (.ofDimension x)) :
    d.Reached (.ofDimension x) := by
  cases named : (d.dimension x).name with
  | some name => exact reached_of_lists wf (n := .ofDimension x) (mem_dimensions_of_name wf named)
  | none =>
    have used : x ∈ d.usedDimensions := by
      refine List.count_pos_iff.1 ?_
      rw [once x there named]
      exact Nat.one_pos
    obtain ⟨v, hv, hx⟩ := List.mem_flatMap.1 used
    obtain ⟨i, hi, rfl⟩ := List.getElem_of_mem hv
    refine .anonymous (v := ⟨i⟩) (reached_variable wf hi) ?_ named
    rw [Dataset.var, List.getElem?_eq_getElem hi]
    exact hx

/-- Everything is found from the root. -/
theorem reached (owned : OwnedAttributes d) (once : AnonymousOnce d) {n : Node}
    (there : d.Has n) : d.Reached n := by
  cases n with
  | ofGroup g => exact reached_group wf there
  | ofDimension x => exact reached_dimension wf once there
  | ofEnumeration y =>
    exact reached_of_lists wf (n := .ofEnumeration y) (wf.members.enumeration.2 ⟨there, rfl⟩)
  | ofVariable v => exact reached_variable wf there
  | ofAttribute a =>
    obtain ⟨x, found⟩ : ∃ x, d.attributes[a.index]? = some x :=
      ⟨_, List.getElem?_eq_getElem there⟩
    obtain ⟨has, bears⟩ := owned x (List.mem_of_getElem? found)
    have member : a ∈ d.attributesOf x.owner := by
      rw [mem_attributesOf_iff, found]
      rfl
    generalize x.owner = owner at has bears member
    cases owner with
    | ofGroup g => exact .groupAttribute (reached_group wf has) member
    | ofVariable v => exact .variableAttribute (reached_variable wf has) member
    | ofDimension | ofEnumeration | ofAttribute => cases bears

/-- Only what the dataset has is found. -/
theorem has_of_reached (settled : Settled d) {n : Node} (found : d.Reached n) : d.Has n := by
  cases found with
  | root => exact wf.tree.root_lt
  | @group g k _ member => exact wf.has_of_lists (n := .ofGroup k) (g := g) member
  | @dimension g x _ member => exact wf.has_of_lists (n := .ofDimension x) (g := g) member
  | @enumeration g y _ member => exact wf.has_of_lists (n := .ofEnumeration y) (g := g) member
  | @topLevel g v _ member => exact wf.has_of_lists (n := .ofVariable v) (g := g) member
  | field _ member => exact lt_length_of_owner (wf.forest.owned.1 member)
  | anonymous _ member => exact settled.used _ _ member
  | groupAttribute _ member | variableAttribute _ member =>
    obtain ⟨x, there, -⟩ := Option.map_eq_some_iff.1 (mem_attributesOf_iff.1 member)
    exact (List.getElem?_eq_some_iff.1 there).1

end Reached

/-- A dataset that is loaded has what is found from the root, and nothing else. -/
theorem LoadSteps.has_iff_reached {name : String} (steps : LoadSteps (empty name) d) {n : Node} :
    d.Has n ↔ d.Reached n := by
  have owned := (ownedAttributes_empty name).steps steps
  have once := steps.anonymousOnce
  obtain ⟨xs, rfl⟩ := steps.leads
  have wf := wellFormed_built name xs
  exact ⟨reached wf owned once, has_of_reached wf (settled_built name xs)⟩

end Hyperslab.Dataset
