/-
# `Hyperslab.Proofs.View.Resizing` — a redefined dimension is a dimension of another size

Redefining dimensions and then finishing comes to the same as finishing over a dataset whose
dimensions were declared with the new sizes (`finish_redefined`).

A redefinition is only remembered while a selection is built, so the history without the
redefinitions builds the same selection, over any dataset (`built_withoutRedefinitions`).
When it is finished, the size of a dimension is asked for in one place, and there the
redefinition and the new declaration give the same number (`finish_resized`).  What comes
later, the closures and the text, does not ask for sizes at all.
-/
import Hyperslab.Proofs.Dataset.Enclosing
import Hyperslab.Proofs.Dataset.Resizing
import Hyperslab.Proofs.View.Finished
import Hyperslab.Proofs.View.Showing

namespace Hyperslab

variable {d : Dataset}

/-! ## What does not ask for sizes -/

namespace Dataset

@[simp] theorem expand_resized (d : Dataset) (size : DimId → Nat) (chosen : List VarId) :
    (d.resized size).expand chosen = d.expand chosen := by
  have run : ∀ (steps : Nat) (s : Expansion),
      Expansion.runWithin (d.resized size) steps s = Expansion.runWithin d steps s := by
    intro steps
    induction steps with
    | zero => exact fun _ => rfl
    | succ steps ih =>
      intro s
      unfold Expansion.runWithin
      cases s.waiting with
      | nil => rfl
      | cons v rest => exact ih _
  exact congrArg Expansion.chosen (run _ _)

@[simp] theorem neededGroups_resized (d : Dataset) (size : DimId → Nat) (segments : List Segment)
    (dimensions : List DimId) (enums : List EnumId) :
    (d.resized size).neededGroups segments dimensions enums =
      d.neededGroups segments dimensions enums := by
  have path : (d.resized size).dimensionPath = d.dimensionPath := by
    funext x
    simp [dimensionPath]
  have paths : (d.resized size).variablePath = d.variablePath ∧
      (d.resized size).enumPath = d.enumPath := ⟨rfl, rfl⟩
  simp [neededGroups, path, paths]

end Dataset

namespace Segment

variable {size size' : DimId → Nat}

theorem resolveSlices_congr {xs : List DimId} (same : ∀ x ∈ xs, size x = size' x)
    (slices : List Slice) : resolveSlices size xs slices = resolveSlices size' xs slices := by
  induction xs generalizing slices with
  | nil => rfl
  | cons x xs ih =>
    rw [List.forall_mem_cons] at same
    unfold resolveSlices
    rw [same.1, ih same.2]

/-- A segment is resolved against the sizes of the dimensions of its variable. -/
theorem resolve_congr {g : Segment} (same : ∀ x ∈ (d.var g.var).dimensions, size x = size' x) :
    g.resolve d size = g.resolve d size' := by
  unfold resolve
  dsimp only
  rw [resolveSlices_congr same]

theorem resolve_resized (d : Dataset) (sizes : DimId → Nat) (g : Segment) :
    g.resolve (d.resized sizes) size = g.resolve d size := by
  unfold resolve
  rw [d.variableName_resized sizes]
  rfl

end Segment

/-- The call gives a dimension another size. -/
def ViewCall.isRedefinition : ViewCall → Bool
  | .addRedefinition _ _ => true
  | _ => false

namespace Selection

/-- The selection over resized dimensions, without redefinitions. -/
def resized (s : Selection) (size : DimId → Nat) : Selection where
  dataset := s.dataset.resized size
  segments := s.segments
  redefinitions := []
  overlays := s.overlays
  outcome := s.outcome.map fun o => { o with redefined := [] }

section Resized

variable (s : Selection) (size : DimId → Nat)

@[simp] theorem dataset_resized : (s.resized size).dataset = s.dataset.resized size := rfl

@[simp] theorem segments_resized : (s.resized size).segments = s.segments := rfl

@[simp] theorem contains_resized : (s.resized size).contains = s.contains := rfl

@[simp] theorem isFinished_resized : (s.resized size).isFinished = s.isFinished := by
  simp [isFinished, resized]

@[simp] theorem dimensions_resized : (s.resized size).dimensions = s.dimensions := by
  cases h : s.outcome <;> simp [dimensions, resized, h]

@[simp] theorem enums_resized : (s.resized size).enums = s.enums := by
  cases h : s.outcome <;> simp [enums, resized, h]

@[simp] theorem groups_resized : (s.resized size).groups = s.groups := by
  cases h : s.outcome <;> simp [groups, resized, h]

/-- Sizes do not show in the text, except as bounds of slices. -/
theorem render_resized (mode : RenderMode) : (s.resized size).render mode = s.render mode :=
  ShowsLike.render_eq ⟨rfl, funext (s.dataset.variableName_resized size),
    funext (s.dataset.tree_resized size), s.isFinished_resized size, rfl⟩

/-! ## Finishing -/

theorem candidates_resized (expand : Bool) :
    (s.resized size).candidates expand = s.candidates expand := by
  have vars : (s.resized size).vars = s.vars := rfl
  simp [candidates, expanded, vars]

theorem outcomeOf_resized (segments : List Segment) :
    (s.resized size).outcomeOf segments = { s.outcomeOf segments with redefined := [] } := by
  have same : (s.dataset.resized size).neededDimensions = s.dataset.neededDimensions ∧
      (s.dataset.resized size).neededEnums = s.dataset.neededEnums := ⟨rfl, rfl⟩
  rw [outcomeOf, outcomeOf, dataset_resized, Dataset.neededGroups_resized, same.1, same.2]
  rfl

end Resized

variable {s : Selection} {size : DimId → Nat}

/-- Where the dimensions are resized to what the redefinitions make of them, finishing does the
same with and without the redefinitions. -/
theorem finish_resized
    (sizes : ∀ v, ∀ x ∈ (s.dataset.var v).dimensions,
      ((s.dataset.resized size).dimension x).size = s.newSize x) (expand : Bool) :
    (s.resized size).finish expand = (s.finish expand).map fun t => t.resized size := by
  have resolves : Segment.resolve (s.resized size).dataset (s.resized size).newSize =
      Segment.resolve s.dataset s.newSize := by
    funext g
    exact (Segment.resolve_resized ..).trans (Segment.resolve_congr (sizes g.var))
  cases state : s.isFinished with
  | true =>
    rw [finish_of_isFinished state, finish_of_isFinished (by simpa using state)]
    rfl
  | false =>
    rw [finish_of_unfinished state, finish_of_unfinished ((s.isFinished_resized size).trans state),
      resolves, candidates_resized, outcomeOf_resized]
    cases (s.candidates expand).mapM (Segment.resolve s.dataset s.newSize) <;> rfl

/-! ## Histories -/

/-- A redefinition is remembered and does nothing else. -/
theorem resized_perform_addRedefinition (unfinished : s.isFinished = false) (x : DimId)
    (slice : Slice) :
    (s.perform (.addRedefinition x slice)).2.resized size = s.resized size := by
  rw [perform_addRedefinition unfinished]
  dsimp only
  split <;> rfl

/-- The calls before finishing do not ask for sizes. -/
theorem perform_resized (unfinished : s.isFinished = false) {c : ViewCall}
    (other : c.isRedefinition = false) (building : ∀ expand, c ≠ .finish expand) :
    ((s.resized size).perform c).2 = (s.perform c).2.resized size := by
  have still : (s.resized size).isFinished = false := (s.isFinished_resized size).trans unfinished
  cases c with
  | addRedefinition => cases other
  | addVariable v slices =>
    rw [perform_addVariable unfinished, perform_addVariable still, contains_resized]
    dsimp only
    split <;> rfl
  | addAttribute n a => rw [perform_addAttribute unfinished, perform_addAttribute still]; rfl
  | setFilter v e => rw [perform_setFilter unfinished, perform_setFilter still]; rfl
  | finish expand => exact absurd rfl (building expand)

/-- Up to finishing, the other calls build the same selection over any sizes. -/
theorem built_withoutRedefinitions {calls : List ViewCall} (size : DimId → Nat)
    (never : ∀ expand, .finish expand ∉ calls) :
    built (d.resized size) (calls.filter fun c => !c.isRedefinition) =
      (built d calls).resized size := by
  induction calls using List.reverseRecOn with
  | nil => rfl
  | append_singleton calls c ih =>
    have before : ∀ expand, .finish expand ∉ calls := fun expand there =>
      never expand (List.mem_append_left _ there)
    have building : ∀ expand, c ≠ .finish expand := fun expand same =>
      never expand (List.mem_append_right _ (List.mem_singleton.2 same.symm))
    have unfinished := isFinished_built_of_not_finish (d := d) before
    rw [List.filter_append, List.filter_singleton, built_concat]
    cases kind : c.isRedefinition with
    | true =>
      rw [Bool.not_true, cond_false, List.append_nil, ih before]
      cases c with
      | addRedefinition x slice => exact (resized_perform_addRedefinition unfinished x slice).symm
      | _ => cases kind
    | false =>
      rw [Bool.not_false, cond_true, built_concat, ih before]
      exact perform_resized unfinished kind building

/-- Finishing a selection with redefinitions, and finishing what the other calls select from the
dataset in which each redefined dimension has its new size, either fail with one error or give
the same segments, closures and texts.  The other dataset can be declared like the first. -/
theorem finish_redefined (name : String) (xs : List Declaration) (calls : List ViewCall)
    (never : ∀ expand, .finish expand ∉ calls) :
    let d := Dataset.built name xs
    let e := d.resized (d.sizeAfter calls)
    let s := built d calls
    let t := built e (calls.filter fun c => !c.isRedefinition)
    (∃ ys, e = Dataset.built name ys) ∧
    ∀ expand,
      (∃ error, s.finish expand = .error error ∧ t.finish expand = .error error) ∨
      ∃ a b, s.finish expand = .ok a ∧ t.finish expand = .ok b ∧
        a.segments = b.segments ∧ a.dimensions = b.dimensions ∧ a.enums = b.enums ∧
        a.groups = b.groups ∧ ∀ mode, a.render mode = b.render mode := by
  intro d e s t
  have same : t = s.resized (d.sizeAfter calls) := built_withoutRedefinitions _ never
  have unfinished : s.isFinished = false := isFinished_built_of_not_finish never
  have sizes : ∀ v, ∀ x ∈ (s.dataset.var v).dimensions,
      ((s.dataset.resized (d.sizeAfter calls)).dimension x).size = s.newSize x := by
    intro v x hx
    rw [show s.dataset = d from dataset_built d calls] at hx ⊢
    have inside := (Dataset.settled_built name xs).used v x hx
    rw [Dataset.dimension_resized, if_pos inside, Dataset.id_dimension_built]
    exact (newSize_built unfinished x).symm
  refine ⟨Dataset.exists_built_resized _ name xs, fun expand => ?_⟩
  rw [same, finish_resized sizes]
  cases s.finish expand with
  | error error => exact .inl ⟨error, rfl, rfl⟩
  | ok a =>
    exact .inr ⟨a, a.resized _, rfl, rfl, rfl, (a.dimensions_resized _).symm,
      (a.enums_resized _).symm, (a.groups_resized _).symm, fun mode => (a.render_resized _ mode).symm⟩

/-- Of every second level all but the first; the second redefinition comes too late. -/
def coarseLevels : List ViewCall :=
  [.addVariable ⟨0⟩ [⟨1, 1, none, true, false⟩], .addRedefinition ⟨0⟩ ⟨0, 2, none, true, false⟩,
    .addVariable ⟨1⟩ [], .addRedefinition ⟨0⟩ (.index 0), .setFilter ⟨1⟩ (.field "depth")]

theorem finish_redefined_coarseLevels :
    (∀ expand, .finish expand ∉ coarseLevels) ∧
    ∃ a b, (built (Dataset.built "mooring" mooring) coarseLevels).finish true = .ok a ∧
      (built ((Dataset.built "mooring" mooring).resized
          ((Dataset.built "mooring" mooring).sizeAfter coarseLevels))
        (coarseLevels.filter fun c => !c.isRedefinition)).finish true = .ok b ∧
      a.slices? ⟨0⟩ = some [⟨1, 1, some 3, true, false⟩] ∧ a.segments = b.segments ∧
      b.render .constraint = .ok "/t[1:2];/profile|depth" := by
  have never : ∀ expand, .finish expand ∉ coarseLevels := by decide
  obtain ⟨-, finishes⟩ := finish_redefined "mooring" mooring coarseLevels never
  rcases finishes true with ⟨_, fails, _⟩ | ⟨a, b, ha, hb, segments, -, -, -, texts⟩
  · cases fails
  · refine ⟨never, a, b, ha, hb, ?_, segments, ?_⟩
    · cases ha
      rfl
    · rw [← texts]
      cases ha
      rfl

end Selection

end Hyperslab
