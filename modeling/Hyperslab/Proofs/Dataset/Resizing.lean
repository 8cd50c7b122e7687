/-
# `Hyperslab.Proofs.Dataset.Resizing` — the same declarations with other sizes

Giving the dimensions of a dataset other sizes touches nothing else: a dimension keeps its
name, its group and its handle, and everything that is not about dimensions is the same,
names of variables and trees of fields among it.  Whether a declaration is accepted does
not depend on sizes either, so a resized dataset is a built dataset again
(`exists_built_resized`).
-/
import Hyperslab.Dataset.Tree
import Hyperslab.Proofs.Dataset.Growth

namespace Hyperslab

namespace Dataset

variable (d : Dataset) (size : DimId → Nat)

/-- The dataset with a size for each dimension. -/
def resized : Dataset :=
  { d with dimensions := d.dimensions.map fun x => x.withSize (size x.id) }

/-! ## What stays -/

@[simp] theorem var_resized : (d.resized size).var = d.var := rfl

@[simp] theorem group_resized : (d.resized size).group = d.group := rfl

theorem dimension_resized (x : DimId) :
    (d.resized size).dimension x =
      if x.index < d.dimensions.length then (d.dimension x).withSize (size (d.dimension x).id)
      else d.dimension x := by
  unfold dimension resized
  dsimp only
  rw [List.getElem?_map]
  split
  · rename_i inside
    rw [List.getElem?_eq_getElem inside]
    rfl
  · rename_i outside
    rw [List.getElem?_eq_none (Nat.le_of_not_lt outside)]
    rfl

@[simp] theorem name_dimension_resized (x : DimId) :
    ((d.resized size).dimension x).name = (d.dimension x).name := by
  rw [dimension_resized]
  split <;> rfl

@[simp] theorem shared_dimension_resized (x : DimId) :
    ((d.resized size).dimension x).shared = (d.dimension x).shared := by
  rw [dimension_resized]
  split <;> rfl

@[simp] theorem group_dimension_resized (x : DimId) :
    ((d.resized size).dimension x).group = (d.dimension x).group := by
  rw [dimension_resized]
  split <;> rfl

@[simp] theorem variableName_resized (v : VarId) :
    (d.resized size).variableName v = d.variableName v := by
  have within : ∀ (depth : Nat) (v : VarId),
      (d.resized size).variableNameWithin depth v = d.variableNameWithin depth v := by
    intro depth
    induction depth with
    | zero => exact fun _ => rfl
    | succ depth ih =>
      intro v
      rw [variableNameWithin, variableNameWithin, var_resized]
      cases (d.var v).owner with
      | group g => rfl
      | compound p => dsimp only; rw [ih]
  exact within v.index v

@[simp] theorem tree_resized (v : VarId) : (d.resized size).tree v = d.tree v := by
  have within : ∀ (depth : Nat) (v : VarId),
      (d.resized size).treeWithin depth v = d.treeWithin depth v := by
    intro depth
    induction depth with
    | zero => exact fun _ => rfl
    | succ depth ih => exact fun v => congrArg _ (List.map_congr_left fun f _ => ih f)
  exact within d.vars.length v

end Dataset

/-! ## Declarations -/

/-- The declaration, with another size if it is one of a dimension. -/
def Declaration.resized (size : Nat) : Declaration → Declaration
  | .dimension g name _ => .dimension g name size
  | .anonymous g _ => .anonymous g size
  | other => other

namespace Dataset

variable (d : Dataset) (size : DimId → Nat)

@[simp] theorem requireFree_resized (g : GroupId) (name : String) :
    (d.resized size).requireFree g name = d.requireFree g name := by
  have named : (d.resized size).childDimension? g name = d.childDimension? g name := by
    simp [childDimension?]
  have declared : (d.resized size).declares g name = d.declares g name := by
    unfold declares
    rw [named]
    rfl
  unfold requireFree
  rw [declared]
  rfl

theorem requireOwner_resized (owner : Owner) (name : String) :
    (d.resized size).requireOwner owner name = d.requireOwner owner name := by
  cases owner with
  | group g => exact d.requireFree_resized size g name
  | compound p =>
    unfold requireOwner requireFreeField
    dsimp only
    rw [variableName_resized]
    rfl

theorem requireVariable_resized (owner : Owner) (name : String) (shape : Shape)
    (xs : List DimId) :
    (d.resized size).requireVariable owner name shape xs =
      d.requireVariable owner name shape xs := by
  have known : (d.resized size).requireDimensions name xs = d.requireDimensions name xs := by
    unfold requireDimensions
    rw [show (d.resized size).dimensions.length = d.dimensions.length from List.length_map _]
  unfold requireVariable
  rw [known, requireOwner_resized]
  cases shape with
  | atomic t => cases t <;> rfl
  | struct | sequence => rfl

@[simp] theorem nextDimension_resized : (d.resized size).nextDimension = d.nextDimension :=
  congrArg DimId.mk (List.length_map _)

theorem resized_withDimension (g : GroupId) (name : String) (k : Nat) :
    (d.withDimension g name k).resized size =
      (d.resized size).withDimension g name (size d.nextDimension) := by
  unfold withDimension
  rw [nextDimension_resized]
  exact congrArg (fun dimensions => Dataset.mk _ _ dimensions _ _ _) List.map_append

theorem resized_withAnonymous (g : GroupId) (k : Nat) :
    (d.withAnonymous g k).resized size =
      (d.resized size).withAnonymous g (size d.nextDimension) := by
  unfold withAnonymous
  rw [nextDimension_resized]
  exact congrArg (fun dimensions => Dataset.mk _ _ dimensions _ _ _) List.map_append

theorem resized_withVariable (owner : Owner) (name : String) (shape : Shape) (xs : List DimId) :
    (d.withVariable owner name shape xs).resized size =
      (d.resized size).withVariable owner name shape xs := by
  cases owner <;> rfl

/-- What a declaration does to a dataset, it does to the resized dataset. -/
theorem declare?_resized (x : Declaration) :
    (d.resized size).declare? (x.resized (size d.nextDimension)) =
      (d.declare? x).map fun r => (r.1.resized size, r.2) := by
  rw [declare?_eq, declare?_eq]
  cases x with
  | group parent name =>
    dsimp only [Declaration.resized, requirement]
    rw [requireFree_resized]
    cases d.requireFree parent name <;> rfl
  | dimension g name k =>
    dsimp only [Declaration.resized, requirement, withDeclared, nextNode, Node.index]
    rw [requireFree_resized, nextDimension_resized, ← resized_withDimension d size g name k]
    cases d.requireFree g name <;> rfl
  | anonymous g k =>
    dsimp only [Declaration.resized, requirement, withDeclared, nextNode, Node.index]
    rw [nextDimension_resized, ← resized_withAnonymous d size g k,
      show (d.resized size).requireGroup g = d.requireGroup g from rfl]
    cases d.requireGroup g <;> rfl
  | enumeration g name base constants =>
    dsimp only [Declaration.resized, requirement]
    rw [requireEnum, requireEnum, requireFree_resized]
    cases d.requireFree g name <;> cases requireBase name base <;> rfl
  | var owner name shape xs =>
    dsimp only [Declaration.resized, requirement, withDeclared]
    rw [requireVariable_resized, ← resized_withVariable]
    cases d.requireVariable owner name shape xs <;> rfl
  | attr owner a => rfl

theorem attempt_resized (x : Declaration) :
    (d.resized size).attempt (x.resized (size d.nextDimension)) = (d.attempt x).resized size := by
  have same := declare?_resized d size x
  cases made : d.declare? x with
  | error cause =>
    rw [made] at same
    rw [attempt_of_error made, attempt_of_error same]
  | ok r =>
    rw [made] at same
    rw [attempt_of_ok made, attempt_of_ok same]

/-- Resizing the dimensions of a built dataset gives a built dataset. -/
theorem exists_built_resized (name : String) (xs : List Declaration) :
    ∃ ys, (built name xs).resized size = built name ys := by
  induction xs using List.reverseRecOn with
  | nil => exact ⟨[], rfl⟩
  | append_singleton xs x ih =>
    obtain ⟨ys, same⟩ := ih
    refine ⟨ys ++ [x.resized (size (built name xs).nextDimension)], ?_⟩
    rw [built_append, built_append, ← same]
    exact (attempt_resized _ size x).symm

end Dataset

end Hyperslab
