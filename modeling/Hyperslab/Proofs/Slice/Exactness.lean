/-
# `Hyperslab.Proofs.Slice.Exactness` — what a completed slice selects

Which indices a slice means can be said without counting steps: those from the first one on, below
the length and below the bound, at a distance from the first that the stride divides (`meant`).  A
slice that is completed selects exactly these, in ascending order.  Their number is the count, also
as it is foretold before completing, the greatest of them is the last index, and completing once
more against the same length changes nothing (`closesTo_of_complete?`).

All of this holds of slices of words and of words computed from words: for a slice that can be made
no step of counting leaves the range of 64 bits (`arithmetic_exact`).
-/
import Hyperslab.Proofs.Slice.Words
import Mathlib.Data.List.Sort

namespace Hyperslab.Slice

variable {s t : Slice} {length : Nat}

/-! ## Indices -/

/-- The indices of a dimension that the numbers of a slice stand for. -/
def meant (s : Slice) (length : Nat) : List Nat :=
  (List.range length).filter fun i =>
    s.first ≤ i ∧ (∀ stop ∈ s.stop, i < stop) ∧ s.stride ∣ i - s.first

theorem mem_meant {i : Nat} : i ∈ s.meant length ↔
    i < length ∧ s.first ≤ i ∧ (∀ stop ∈ s.stop, i < stop) ∧ s.stride ∣ i - s.first := by
  rw [meant, List.mem_filter, List.mem_range, decide_eq_true_eq]

theorem pairwise_lt_meant (s : Slice) (length : Nat) : (s.meant length).Pairwise (· < ·) :=
  List.pairwise_lt_range.filter _

/-- Steps lead upwards. -/
theorem pairwise_lt_indices (positive : 0 < s.stride) : s.indices.Pairwise (· < ·) := by
  refine List.pairwise_map.2 (List.pairwise_lt_range.imp fun less => ?_)
  exact Nat.add_lt_add_left (Nat.mul_lt_mul_of_pos_right less positive) _

/-- The steps from the first index end up at the distances that the stride divides. -/
theorem mem_indices_iff_dvd (positive : 0 < s.stride) {stop : Nat} (closed : s.stop = some stop)
    {i : Nat} : i ∈ s.indices ↔ s.first ≤ i ∧ i < stop ∧ s.stride ∣ i - s.first := by
  rw [mem_indices]
  unfold count
  rw [closed]
  constructor
  · rintro ⟨k, below, rfl⟩
    refine ⟨Nat.le_add_right .., (lt_span_iff positive).1 below, ?_⟩
    rw [Nat.add_sub_cancel_left]
    exact Nat.dvd_mul_left ..
  · rintro ⟨le, below, k, distance⟩
    have there : i = s.first + k * s.stride := by
      rw [Nat.mul_comm, ← distance, Nat.add_sub_cancel' le]
    exact ⟨k, (lt_span_iff positive).2 (there ▸ below), there⟩

/-- In ascending order, the greatest number is the last. -/
theorem max?_eq_getLast? {ns : List Nat} (ascending : ns.Pairwise (· < ·)) :
    ns.max? = ns.getLast? := by
  rcases List.eq_nil_or_concat' ns with rfl | ⟨before, n, rfl⟩
  · rfl
  · rw [List.getLast?_concat, List.max?_eq_some_iff]
    obtain ⟨-, -, last⟩ := List.pairwise_append.1 ascending
    refine ⟨List.mem_append_right _ (List.mem_singleton_self n), fun m hm => ?_⟩
    rcases List.mem_append.1 hm with early | late
    · exact Nat.le_of_lt (last m early n (List.mem_singleton_self n))
    · exact Nat.le_of_eq (List.mem_singleton.1 late)

/-! ## Completing -/

/-- The second slice is what the first one means in a dimension of the length. -/
structure ClosesTo (s : Slice) (length : Nat) (t : Slice) : Prop where
  indices : t.indices = s.meant length
  count : t.count = (s.meant length).length
  foretold : s.countWithin length = t.count
  last : t.last? = (s.meant length).max?
  again : t.complete? length = .ok t

/-- Below the bound of the completed slice is what is below both bounds that there were. -/
theorem lt_getD_stop_iff (inside : s.stop.getD length ≤ length) {i : Nat} :
    i < s.stop.getD length ↔ i < length ∧ ∀ stop ∈ s.stop, i < stop := by
  cases bound : s.stop with
  | none => simp
  | some stop =>
    rw [bound] at inside
    simp only [Option.getD_some, Option.mem_some_iff, forall_eq'] at inside ⊢
    omega

theorem closesTo_of_complete? (positive : 0 < s.stride) (done : s.complete? length = .ok t) :
    s.ClosesTo length t := by
  obtain ⟨⟨inside, fits⟩, completed⟩ := complete?_eq_ok_iff.1 done
  have first : t.first = s.first := by rw [completed]
  have stride : t.stride = s.stride := by rw [completed]
  have closed : t.stop = some (s.stop.getD length) := by rw [completed]
  have indices : t.indices = s.meant length := by
    have positive : 0 < t.stride := stride ▸ positive
    refine (pairwise_lt_indices positive).eq_of_mem_iff (pairwise_lt_meant s length) fun i => ?_
    rw [mem_indices_iff_dvd positive closed, mem_meant, lt_getD_stop_iff inside, first, stride]
    constructor
    · rintro ⟨le, ⟨short, bounded⟩, steps⟩
      exact ⟨short, le, bounded, steps⟩
    · rintro ⟨short, le, bounded, steps⟩
      exact ⟨le, ⟨short, bounded⟩, steps⟩
  refine ⟨indices, ?_, ?_, ?_, ?_⟩
  · rw [← length_indices, indices]
  · rw [countWithin, count, closed, first, stride]
  · rw [← getLast?_indices, indices, max?_eq_getLast? (pairwise_lt_meant s length)]
  · refine complete?_eq_ok_iff.2 ⟨?_, ?_⟩
    · rw [closed, first]
      exact ⟨inside, fits⟩
    · rw [completed]
      rfl

/-! ## Exactness -/

/-- For every slice that can be made and every length: completing gives what the slice means in a
dimension of that length, or changes nothing; and counting, before or after the call, goes through
in words and gives the numbers. -/
theorem arithmetic_exact (made : s.Reachable) (length : UInt64) :
    (∀ t, s.completeInPlace length.toNat = (.ok (), t) →
      s.complete? length.toNat = .ok t ∧ t.Reachable ∧ s.ClosesTo length.toNat t) ∧
    (∀ e t, s.completeInPlace length.toNat = (.error e, t) →
      s.complete? length.toNat = .error e ∧ t = s) ∧
    ∃ w : WordSlice, w.toSlice = s ∧ Word.Gives w.count? s.count ∧
      Word.Gives (w.countWithin? length) (s.countWithin length.toNat) ∧
      w.last?.map (Option.map UInt64.toNat) = some s.last? := by
  refine ⟨fun t call => ?_, fun e t call => completeInPlace_eq_error_iff.1 call, ?_⟩
  · have done := completeInPlace_eq_ok_iff.1 call
    have reachable := made.complete length
    rw [call] at reachable
    exact ⟨done, reachable, closesTo_of_complete? made.sound.stride_pos done⟩
  · obtain ⟨w, rfl, positive⟩ := made.sound.exists_words
    exact ⟨w, rfl, w.gives_count positive, w.gives_countWithin positive length,
      w.last?_eq positive⟩

/-- From the second index on in steps of half the range of words, up to the greatest length. -/
theorem arithmetic_exact_longSteps :
    let s : Slice := ⟨1, 2 ^ 63, none, true, false⟩
    let length : UInt64 := 18446744073709551615
    s.Reachable ∧ s.countWithin length.toNat = 2 ∧ s.meant length.toNat = [1, 2 ^ 63 + 1] := by
  intro s length
  have made : s.Reachable := .bounded 1 9223372036854775808 none rfl
  obtain ⟨closes, -⟩ := arithmetic_exact made length
  obtain ⟨-, -, closed⟩ := closes ⟨1, 2 ^ 63, some length.toNat, true, false⟩ rfl
  exact ⟨made, closed.foretold.trans (by decide), closed.indices.symm.trans (by decide)⟩

end Hyperslab.Slice
