/-
# `Hyperslab.Proofs.View.Fitting` — when a selection can be finished

Finishing asks one thing of every variable that a history selects: that the slices asked for it
are not more than its dimensions, and that each of them fits the size of its dimension, the
redefined one where there is one (`Dataset.Accepts`).  Slices without bounds fit everything.

If some variable does not get what it asks for, finishing fails with the first fault of the first
such variable, in the order in which they were selected (`finish_accepts`).  What expanding adds
asks for nothing, so the flag has no part in either answer.
-/
import Hyperslab.Proofs.View.Recall
import Hyperslab.Proofs.View.Retry
import Mathlib.Data.Nat.Find

namespace Hyperslab

/-! ## Slices that fit -/

/-- The bound of the slice is not past the size, which stands for the bound of an open slice; and
the first index is below the bound, unless there are no indices at all. -/
def Slice.Fits (q : Slice) (size : Nat) : Prop :=
  q.stop.getD size ≤ size ∧ (q.first < q.stop.getD size ∨ size = 0)

instance (q : Slice) (size : Nat) : Decidable (q.Fits size) :=
  inferInstanceAs (Decidable (_ ∧ _))

theorem Slice.complete?_eq_error_iff {q : Slice} {size : Nat} {e : SliceError} :
    q.complete? size = .error e ↔ ¬ q.Fits size ∧ e = .doesNotFit q size := by
  unfold complete? Fits
  dsimp only
  split
  · constructor
    · intro h
      cases h
      exact ⟨by omega, rfl⟩
    · rintro ⟨-, rfl⟩
      rfl
  · constructor
    · intro h
      cases h
    · rintro ⟨misfit, -⟩
      omega

namespace Segment

variable {size : DimId → Nat} {xs : List DimId} {slices : List Slice}

theorem resolveSlice_eq_error_iff {n : Nat} {q : Slice} {e : SliceError} :
    resolveSlice n q = .error e ↔ q.constrained = true ∧ ¬ q.Fits n ∧ e = .doesNotFit q n := by
  unfold resolveSlice
  cases q.constrained with
  | true => simp [Slice.complete?_eq_error_iff]
  | false => simp

/-- At this position a slice was asked for that does not fit. -/
def MisfitAt (size : DimId → Nat) (xs : List DimId) (slices : List Slice) (i : Nat) (x : DimId)
    (q : Slice) : Prop :=
  xs[i]? = some x ∧ slices[i]? = some q ∧ q.constrained = true ∧ ¬ q.Fits (size x)

theorem misfitAt_zero_iff {x y : DimId} {q : Slice} :
    MisfitAt size (x :: xs) slices 0 y q ↔
      y = x ∧ slices.head? = some q ∧ q.constrained = true ∧ ¬ q.Fits (size x) := by
  rw [List.head?_eq_getElem?]
  constructor
  · rintro ⟨here, asked⟩
    cases here
    exact ⟨rfl, asked⟩
  · rintro ⟨rfl, asked⟩
    exact ⟨rfl, asked⟩

theorem misfitAt_succ_iff {x y : DimId} {q : Slice} {i : Nat} :
    MisfitAt size (x :: xs) slices (i + 1) y q ↔ MisfitAt size xs slices.tail i y q := by
  rw [MisfitAt, MisfitAt, List.getElem?_cons_succ, List.getElem?_tail]

/-- The first slice is refused exactly if there is one at the first position that does not fit. -/
theorem resolveSlice_sliceAt_eq_error_iff {x : DimId} {e : SliceError} :
    resolveSlice (size x) (sliceAt slices) = .error e ↔
      ∃ q, MisfitAt size (x :: xs) slices 0 x q ∧ e = .doesNotFit q (size x) := by
  rw [resolveSlice_eq_error_iff]
  simp only [misfitAt_zero_iff, true_and]
  cases slices with
  | nil =>
    -- a slice that is made up has no bounds
    refine iff_of_false ?_ ?_
    · rintro ⟨⟨⟩, -⟩
    · rintro ⟨q, ⟨⟨⟩, -⟩, -⟩
  | cons q rest =>
    constructor
    · rintro ⟨bounds, misfit, rfl⟩
      exact ⟨q, ⟨rfl, bounds, misfit⟩, rfl⟩
    · rintro ⟨_, ⟨⟨⟩, bounds, misfit⟩, rfl⟩
      exact ⟨bounds, misfit, rfl⟩

/-- Slices are not resolved because of the first of them that does not fit. -/
theorem resolveSlices_eq_error_iff {e : SliceError} :
    resolveSlices size xs slices = .error e ↔
      ∃ i x q, MisfitAt size xs slices i x q ∧ (∀ j < i, ∀ y r, ¬ MisfitAt size xs slices j y r) ∧
        e = .doesNotFit q (size x) := by
  induction xs generalizing slices with
  | nil =>
    refine iff_of_false nofun ?_
    rintro ⟨i, x, q, ⟨none, -⟩, -⟩
    cases none
  | cons x xs ih =>
    have head := @resolveSlice_sliceAt_eq_error_iff size xs slices x
    constructor
    · intro fails
      rcases error_of_bind_eq_error fails with here | ⟨s, passes, fails⟩
      · obtain ⟨q, misfit, rfl⟩ := head.1 here
        exact ⟨0, x, q, misfit, nofun, rfl⟩
      · rcases error_of_bind_eq_error fails with later | ⟨_, _, ⟨⟩⟩
        obtain ⟨i, y, q, misfit, first, rfl⟩ := ih.1 later
        refine ⟨i + 1, y, q, misfitAt_succ_iff.2 misfit, fun j lt z r earlier => ?_, rfl⟩
        cases j with
        | zero =>
          obtain ⟨rfl, asked⟩ := misfitAt_zero_iff.1 earlier
          have refused := head.2 ⟨r, misfitAt_zero_iff.2 ⟨rfl, asked⟩, rfl⟩
          cases passes.symm.trans refused
        | succ j => exact first j (Nat.lt_of_succ_lt_succ lt) z r (misfitAt_succ_iff.1 earlier)
    · rintro ⟨i, y, q, misfit, first, rfl⟩
      rw [resolveSlices]
      cases i with
      | zero =>
        obtain ⟨rfl, asked⟩ := misfitAt_zero_iff.1 misfit
        rw [head.2 ⟨q, misfit, rfl⟩]
        rfl
      | succ i =>
        cases here : resolveSlice (size x) (sliceAt slices) with
        | error e =>
          obtain ⟨r, earlier, -⟩ := head.1 here
          exact absurd earlier (first 0 (Nat.succ_pos i) x r)
        | ok s =>
          have later := ih.2 ⟨i, y, q, misfitAt_succ_iff.1 misfit, fun j lt z r earlier =>
            first (j + 1) (Nat.succ_lt_succ lt) z r (misfitAt_succ_iff.2 earlier), rfl⟩
          exact congrArg (· >>= fun rest => .ok (s :: rest)) later

end Segment

/-! ## Variables that get what they ask for -/

namespace Dataset

/-- The slices can be resolved for the variable: there are not too many of them, and those with
bounds fit the dimension at their position. -/
def Accepts (d : Dataset) (size : DimId → Nat) (v : VarId) (slices : List Slice) : Prop :=
  slices.length ≤ d.rank v ∧
    ∀ (i : Nat) (x : DimId) (q : Slice), (d.var v).dimensions[i]? = some x → slices[i]? = some q →
      q.constrained = true → q.Fits (size x)

/-- What is wrong first with slices for a variable: that there are too many, or else the first
that does not fit. -/
inductive FirstFault (d : Dataset) (size : DimId → Nat) (v : VarId) (slices : List Slice) :
    ViewError → Prop
  | tooMany : d.rank v < slices.length →
      FirstFault d size v slices (.rankMismatch (d.variableName v) (d.rank v) slices.length)
  | misfit {i : Nat} {x : DimId} {q : Slice} : slices.length ≤ d.rank v →
      Segment.MisfitAt size (d.var v).dimensions slices i x q →
      (∀ j < i, ∀ y r, ¬ Segment.MisfitAt size (d.var v).dimensions slices j y r) →
      FirstFault d size v slices (.invalidSlice (.doesNotFit q (size x)))

theorem FirstFault.kind {d : Dataset} {size : DimId → Nat} {v : VarId} {slices : List Slice}
    {e : ViewError} (h : d.FirstFault size v slices e) :
    Reported.kind e = if d.rank v < slices.length then .schemaInconsistency else .invalidSlice := by
  cases h with
  | tooMany many => exact (if_pos many).symm
  | misfit few => exact (if_neg (Nat.not_lt.2 few)).symm

end Dataset

namespace Segment

variable {d : Dataset} {size : DimId → Nat} {g : Segment}

theorem resolve_eq_error_iff {e : ViewError} :
    g.resolve d size = .error e ↔ d.FirstFault size g.var g.slices e := by
  unfold resolve
  dsimp only
  split
  · rename_i many
    constructor
    · rintro ⟨⟩
      exact .tooMany many
    · intro fault
      cases fault with
      | tooMany => rfl
      | misfit few => exact absurd many (Nat.not_lt.2 few)
  · rename_i few
    cases h : resolveSlices size (d.var g.var).dimensions g.slices with
    | ok slices =>
      refine iff_of_false nofun fun fault => ?_
      cases fault with
      | tooMany many => exact few many
      | misfit _ misfit first =>
        cases h.symm.trans (resolveSlices_eq_error_iff.2 ⟨_, _, _, misfit, first, rfl⟩)
    | error cause =>
      constructor
      · rintro ⟨⟩
        obtain ⟨i, x, q, misfit, first, rfl⟩ := resolveSlices_eq_error_iff.1 h
        exact .misfit (Nat.not_lt.1 few) misfit first
      · intro fault
        cases fault with
        | tooMany many => exact absurd many few
        | misfit _ misfit first =>
          cases h.symm.trans (resolveSlices_eq_error_iff.2 ⟨_, _, _, misfit, first, rfl⟩)
          rfl

end Segment

namespace Dataset

variable {d : Dataset} {size : DimId → Nat} {v : VarId} {slices : List Slice}

/-- Among the positions that do not fit there is a first one. -/
theorem exists_firstFault_of_not_accepts (refused : ¬ d.Accepts size v slices) :
    ∃ e, d.FirstFault size v slices e := by
  by_cases few : slices.length ≤ d.rank v
  · have some : ∃ i x q, Segment.MisfitAt size (d.var v).dimensions slices i x q := by
      by_contra none
      refine refused ⟨few, fun i x q hx hq bounds => ?_⟩
      by_contra misfit
      exact none ⟨i, x, q, hx, hq, bounds, misfit⟩
    classical
    obtain ⟨x, q, misfit⟩ := Nat.find_spec some
    exact ⟨_, .misfit few misfit fun j lt y r earlier => Nat.find_min some lt ⟨y, r, earlier⟩⟩
  · exact ⟨_, .tooMany (Nat.not_le.1 few)⟩

theorem FirstFault.not_accepts {e : ViewError} (fault : d.FirstFault size v slices e) :
    ¬ d.Accepts size v slices := by
  rintro ⟨few, fits⟩
  cases fault with
  | tooMany many => exact absurd few (Nat.not_le.2 many)
  | misfit _ misfit =>
    obtain ⟨hx, hq, bounds, misfit⟩ := misfit
    exact misfit (fits _ _ _ hx hq bounds)

theorem exists_resolve_eq_ok_iff {g : Segment} :
    (∃ r, g.resolve d size = .ok r) ↔ d.Accepts size g.var g.slices := by
  constructor
  · rintro ⟨r, resolves⟩
    by_contra refused
    obtain ⟨e, fault⟩ := exists_firstFault_of_not_accepts refused
    cases resolves.symm.trans (Segment.resolve_eq_error_iff.2 fault)
  · intro accepts
    cases h : g.resolve d size with
    | ok r => exact ⟨r, rfl⟩
    | error e => exact absurd accepts (Segment.resolve_eq_error_iff.1 h).not_accepts

end Dataset

/-! ## Finishing -/

namespace Selection

/-- Finishing fails with the first fault of the first segment whose slices are not accepted. -/
theorem finish_eq_error_iff_firstFault {s : Selection} {expand : Bool} {e : ViewError}
    (unfinished : s.isFinished = false) :
    s.finish expand = .error e ↔ ∃ before g after, s.segments = before ++ g :: after ∧
      (∀ f ∈ before, s.dataset.Accepts s.newSize f.var f.slices) ∧
      s.dataset.FirstFault s.newSize g.var g.slices e := by
  rw [finish_eq_error_iff unfinished, mapM_eq_error_iff]
  simp only [Dataset.exists_resolve_eq_ok_iff, Segment.resolve_eq_error_iff]

theorem exists_finish_eq_ok_iff {s : Selection} {expand : Bool}
    (unfinished : s.isFinished = false) :
    (∃ t, s.finish expand = .ok t) ↔
      ∀ g ∈ s.segments, s.dataset.Accepts s.newSize g.var g.slices := by
  constructor
  · rintro ⟨t, done⟩ g hg
    obtain ⟨resolved, all, -⟩ := exists_resolved_of_finish unfinished done
    have candidate : g ∈ s.candidates expand := by
      cases expand with
      | false => exact hg
      | true => exact List.mem_append_left _ hg
    obtain ⟨r, -, resolves⟩ := forall₂_mem_right all.flip candidate
    exact Dataset.exists_resolve_eq_ok_iff.1 ⟨r, resolves⟩
  · intro all
    cases h : s.finish expand with
    | ok t => exact ⟨t, rfl⟩
    | error e =>
      obtain ⟨before, g, after, eq, -, fault⟩ := (finish_eq_error_iff_firstFault unfinished).1 h
      exact absurd (all g (eq ▸ List.mem_append_right _ List.mem_cons_self)) fault.not_accepts

/-- Up to finishing, the segments are those that the history asks for. -/
theorem segments_built {d : Dataset} {calls : List ViewCall}
    (unfinished : (built d calls).isFinished = false) :
    (built d calls).segments = (askedVars calls).map fun v =>
      ⟨v, (askedSlices? calls v).getD [], askedFilter? calls v⟩ := by
  rw [← vars_built unfinished, vars, List.map_map]
  refine (List.map_id _).symm.trans (List.map_congr_left fun g hg => ?_)
  have found := (segment?_of_mem (nodup_vars_built d calls) hg).symm.trans
    (segment?_built unfinished g.var)
  obtain ⟨slices, asked, eq⟩ := Option.map_eq_some_iff.1 found.symm
  rw [Function.comp_apply, asked]
  exact eq.symm

/-- Finishing succeeds exactly if every variable that was selected accepts the slices of its first
call, with the dimensions as they are redefined by then.  Otherwise the error is the first fault
of the first variable that does not, in the order of the first calls. -/
theorem finish_accepts (name : String) (xs : List Declaration) (calls : List ViewCall)
    (unfinished : (built (Dataset.built name xs) calls).isFinished = false) (expand : Bool) :
    let d := Dataset.built name xs
    let s := built d calls
    let slices := fun v => (askedSlices? calls v).getD []
    ((∃ t, s.finish expand = .ok t ∧ t.isFinished = true) ↔
      ∀ v ∈ askedVars calls, d.Accepts (d.sizeAfter calls) v (slices v)) ∧
    ∀ e, s.finish expand = .error e ↔
      ∃ before v after, askedVars calls = before ++ v :: after ∧
        (∀ w ∈ before, d.Accepts (d.sizeAfter calls) w (slices w)) ∧
        d.FirstFault (d.sizeAfter calls) v (slices v) e ∧
        Reported.kind e =
          if d.rank v < (slices v).length then .schemaInconsistency else .invalidSlice := by
  intro d s slices
  have size : s.newSize = d.sizeAfter calls := funext (newSize_built unfinished)
  have segments := segments_built unfinished
  constructor
  · have done : (∃ t, s.finish expand = .ok t ∧ t.isFinished = true) ↔
        ∃ t, s.finish expand = .ok t :=
      exists_congr fun t => and_iff_left_of_imp isFinished_of_finish
    rw [done, exists_finish_eq_ok_iff unfinished, dataset_built, size, segments,
      List.forall_mem_map]
  · intro e
    rw [finish_eq_error_iff_firstFault unfinished, dataset_built, size, segments]
    constructor
    · rintro ⟨front, g, back, eq, passes, fault⟩
      obtain ⟨before, rest, asked, rfl, split⟩ := List.map_eq_append_iff.1 eq
      obtain ⟨v, after, rfl, rfl, -⟩ := List.map_eq_cons_iff.1 split
      exact ⟨before, v, after, asked, List.forall_mem_map.1 passes, fault, fault.kind⟩
    · rintro ⟨before, v, after, eq, passes, fault, -⟩
      rw [eq, List.map_append, List.map_cons]
      exact ⟨_, _, _, rfl, List.forall_mem_map.2 passes, fault⟩

/-- Indices from 7 on, of levels that are redefined to none at all, which is fine, and then two
slices for a sequence without dimensions. -/
def crowded : List ViewCall :=
  [.addVariable ⟨0⟩ [⟨7, 1, none, true, false⟩],
    .addVariable ⟨3⟩ [.index 0, .unconstrained],
    .addRedefinition ⟨0⟩ ⟨9, 1, none, true, false⟩]

theorem finish_accepts_crowded :
    (built (Dataset.built "mooring" mooring) crowded).isFinished = false ∧
    (built (Dataset.built "mooring" mooring) crowded).finish true =
      .error (.rankMismatch "/profile.cast" 0 2) ∧
    ¬ ∃ t, (built (Dataset.built "mooring" mooring) crowded).finish false = .ok t ∧
      t.isFinished = true := by
  have unfinished : (built (Dataset.built "mooring" mooring) crowded).isFinished = false := by decide
  have ⟨_, error⟩ := finish_accepts "mooring" mooring crowded unfinished true
  have ⟨done, _⟩ := finish_accepts "mooring" mooring crowded unfinished false
  have fits : ∀ w ∈ [VarId.mk 0], (Dataset.built "mooring" mooring).Accepts
      ((Dataset.built "mooring" mooring).sizeAfter crowded) w
      ((askedSlices? crowded w).getD []) := by
    refine List.forall_mem_singleton.2 ⟨by decide, fun i x q hx hq _ => ?_⟩
    match i, hx, hq with
    | 0, hx, hq => cases hx; cases hq; decide
  refine ⟨unfinished, (error _).2 ⟨[⟨0⟩], ⟨3⟩, [], by decide, fits, .tooMany (by decide), rfl⟩, ?_⟩
  intro success
  exact absurd ((done.1 success) ⟨3⟩ (by decide)).1 (by decide)

end Selection

end Hyperslab
