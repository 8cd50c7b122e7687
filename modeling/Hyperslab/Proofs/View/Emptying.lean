/-
# `Hyperslab.Proofs.View.Emptying` — redefinitions past the end

A redefinition gives a dimension as many indices as its slice has in it, and nobody asks whether
there are any: the calls for it are never refused, and neither is finishing on account of them
(`exists_finish_addRedefinition`).  A projection by the same slice has to fit.

So an open slice that begins at the end of a dimension or later makes the dimension empty, and it
does so exactly where it would be refused as a projection (`Slice.Resizes.refused`).  A slice with
an explicit bound cannot do this, since it is made with the bound past its first index.  After
finishing, the redefined dimensions have indices if and only if all the slices reach into the
dimensions that they were asked for (`nonempty_redefined_iff`).
-/
import Hyperslab.Proofs.Slice.Brackets
import Hyperslab.Proofs.View.Fitting

namespace Hyperslab

/-! ## One redefinition -/

namespace Slice

variable {q : Slice} {length : Nat}

/-- Set against a length, the slice has an index below its bound. -/
def Reaches (q : Slice) (length : Nat) : Prop := q.first < q.stop.getD length

instance (q : Slice) (length : Nat) : Decidable (q.Reaches length) :=
  inferInstanceAs (Decidable (_ < _))

theorem countWithin_eq_zero_iff : q.countWithin length = 0 ↔ ¬ q.Reaches length := by
  rw [countWithin, span_eq_zero_iff, Reaches, Nat.not_lt]

theorem countWithin_pos_iff : 0 < q.countWithin length ↔ q.Reaches length := by
  rw [Nat.pos_iff_ne_zero, Ne, countWithin_eq_zero_iff, not_not]

/-- An explicit bound lies past the first index. -/
theorem reaches_of_bounded? {first stride stop : Nat}
    (made : bounded? first stride (some stop) = .ok q) : q.Reaches length := by
  obtain ⟨-, past, rfl⟩ := bounded?_eq_ok_iff.1 made
  exact past stop rfl

/-- An open slice ends with the dimension, so that it can only begin too late. -/
theorem fits_iff_reaches (unbounded : q.stop = none) :
    q.Fits length ↔ q.Reaches length ∨ length = 0 := by
  rw [Fits, Reaches, unbounded, Option.getD_none]
  exact and_iff_right (Nat.le_refl length)

/-- What a redefinition by a slice makes of the size of a dimension. -/
structure Resizes (q : Slice) (old new : Nat) : Prop where
  count : new = q.countWithin old
  empties : new = 0 ↔ ¬ q.Reaches old
  /-- A slice that is made with an explicit bound does not empty a dimension. -/
  bounded : ∀ first stride stop, bounded? first stride (some stop) = .ok q → 0 < new
  /-- An open slice empties a dimension exactly if it is refused as a projection of it. -/
  refused : q.stop = none → 0 < old →
    (new = 0 ↔ q.complete? old = .error (.doesNotFit q old))

theorem resizes_countWithin (q : Slice) (old : Nat) : q.Resizes old (q.countWithin old) where
  count := rfl
  empties := countWithin_eq_zero_iff
  bounded _ _ _ made := countWithin_pos_iff.2 (reaches_of_bounded? made)
  refused unbounded positive := by
    have misfit : ¬ q.Fits old ↔ ¬ q.Reaches old := by
      rw [fits_iff_reaches unbounded, or_iff_left positive.ne']
    rw [countWithin_eq_zero_iff, complete?_eq_error_iff, misfit, and_iff_left rfl]

end Slice

namespace Selection

variable {s t : Selection}

/-! ## All redefinitions -/

/-- A redefinition alone is not refused, whatever its slice is. -/
theorem exists_finish_addRedefinition (d : Dataset) (x : DimId) (q : Slice) (expand : Bool) :
    ∃ t, (empty d).run [.addRedefinition x q, .finish expand] = ([.ok (), .ok ()], t) := by
  have unfinished : (empty d).isFinished = false := rfl
  have added := perform_addRedefinition unfinished x q
  let asked : Selection := { empty d with redefinitions := [(x, q)] }
  have accepted : ∃ t, asked.finish expand = .ok t := (exists_finish_eq_ok_iff rfl).2 nofun
  obtain ⟨t, done⟩ := accepted
  refine ⟨t, ?_⟩
  rw [run, added]
  show (.ok () :: (asked.run [.finish expand]).1, (asked.run [.finish expand]).2) = _
  rw [run, perform_finish_of_ok done]
  rfl

theorem redefinition?_of_finish {expand : Bool} (unfinished : s.isFinished = false)
    (done : s.finish expand = .ok t) (x : DimId) : t.redefinition? x = s.redefinition? x := by
  obtain ⟨_, _, rfl⟩ := exists_resolved_of_finish unfinished done
  rfl

/-- A finished selection has redefined exactly the dimensions for which the history asked before,
each to the number of indices that the first slice for it has.  The redefined dimensions have
indices, unless they never had any, if and only if each of these slices has an index in its
dimension; and there is no slice for which a redefinition is refused. -/
theorem nonempty_redefined_iff (name : String) (xs : List Declaration) (calls : List ViewCall)
    (finished : (built (Dataset.built name xs) calls).isFinished = true) :
    let d := Dataset.built name xs
    let s := built d calls
    (∀ x q expand, ∃ t,
      (empty d).run [.addRedefinition x q, .finish expand] = ([.ok (), .ok ()], t)) ∧
    (∃ before expand after, calls = before ++ .finish expand :: after ∧
      (built d before).isFinished = false ∧ (built d before).finish expand = .ok s ∧
      ∀ x, s.redefinition? x = askedRedefinition? before x) ∧
    (∀ x, s.redefinition? x = none → s.redefinedDimension? x = none) ∧
    (∀ x q, s.redefinition? x = some q →
      ∃ y, s.redefinedDimension? x = some y ∧ q.Resizes (d.dimension x).size y.size) ∧
    ((∀ x y, s.redefinedDimension? x = some y → 0 < y.size ∨ (d.dimension x).size = 0) ↔
      ∀ x q, s.redefinition? x = some q →
        q.Reaches (d.dimension x).size ∨ (d.dimension x).size = 0) := by
  intro d s
  obtain ⟨before, expand, after, history, unfinished, done⟩ := exists_finish_of_isFinished finished
  have asked := redefinition?_of_finish unfinished done
  have sizes : ∀ x, s.redefinedDimension? x =
      (s.redefinition? x).map (d.dimension x).redefine := by
    intro x
    rw [redefinedDimension?_of_finish unfinished
      (by rw [dataset_built]; exact Dataset.id_dimension_built name xs) done, dataset_built, asked]
  refine ⟨exists_finish_addRedefinition d, ⟨before, expand, after, history, unfinished, done,
    fun x => (asked x).trans (redefinition?_built unfinished x)⟩, ?_, ?_, ?_⟩
  · intro x none
    rw [sizes, none, Option.map_none]
  · intro x q h
    exact ⟨_, by rw [sizes, h, Option.map_some], q.resizes_countWithin _⟩
  · have indices : ∀ x (q : Slice), 0 < ((d.dimension x).redefine q).size ↔
        q.Reaches (d.dimension x).size := fun x q => Slice.countWithin_pos_iff
    simp only [sizes, Option.map_eq_some_iff, forall_exists_index, and_imp,
      forall_apply_eq_imp_iff₂, indices]

/-- Every second level from the seventh on, of five.  As a projection this does not fit. -/
def pastTheEnd : List ViewCall :=
  [.addRedefinition ⟨0⟩ ⟨6, 2, none, true, false⟩, .addVariable ⟨0⟩ [], .finish true]

theorem nonempty_redefined_iff_pastTheEnd :
    let d := Dataset.built "mooring" mooring
    let s := built d pastTheEnd
    let q : Slice := ⟨6, 2, none, true, false⟩
    s.isFinished = true ∧ (d.dimension ⟨0⟩).size = 5 ∧
    (built d [.addVariable ⟨0⟩ [q]]).finish true = .error (.invalidSlice (.doesNotFit q 5)) ∧
    (∃ y, s.redefinedDimension? ⟨0⟩ = some y ∧ y.size = 0 ∧
      q.complete? 5 = .error (.doesNotFit q 5)) ∧
    ¬ ∀ x y, s.redefinedDimension? x = some y → 0 < y.size ∨ (d.dimension x).size = 0 := by
  intro d s q
  have finished : s.isFinished = true := by decide
  obtain ⟨-, -, -, resizes, all⟩ := nonempty_redefined_iff "mooring" mooring pastTheEnd finished
  have short : ¬ q.Reaches 5 := by decide
  obtain ⟨y, redefined, size⟩ := resizes ⟨0⟩ q (by decide)
  have empty : y.size = 0 := size.empties.2 short
  refine ⟨finished, by decide, rfl,
    ⟨y, redefined, empty, (size.refused rfl (by decide)).1 empty⟩, ?_⟩
  intro nonempty
  rcases all.1 nonempty ⟨0⟩ q (by decide) with reaches | none
  · exact short reaches
  · exact absurd none (by decide)

end Selection

end Hyperslab
