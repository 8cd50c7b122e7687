/-
# `Hyperslab.Proofs.Slice.Covering` — the mark `whole`

The mark is set by comparing numbers: a slice is whole if it begins at zero, goes on in steps of
one and ends with the dimension.  Such a slice selects every index.  Conversely, a slice that
selects every index begins at zero if there is an index at all, and takes steps of one if there is
a second index to step to (`bounds_of_covers`).

So in dimensions of two or more indices the mark says exactly that every index is selected, and in
shorter ones it says more: a slice that takes longer steps, or begins later where there is nothing
to begin with, selects all there is and is not marked (`whole_iff_covers`).
-/
import Hyperslab.Proofs.Slice.Exactness

namespace Hyperslab.Slice

variable {s t : Slice} {length : Nat}

theorem whole_iff_of_complete? (done : s.complete? length = .ok t) :
    t.whole = true ↔ s.first = 0 ∧ s.stride = 1 ∧ s.stop.getD length = length := by
  obtain ⟨-, rfl⟩ := complete?_eq_ok_iff.1 done
  simp only [Bool.and_eq_true, beq_iff_eq, and_assoc]

/-- As many indices as the dimension has are all of them. -/
theorem covers_iff_count_eq (positive : 0 < s.stride) (done : s.complete? length = .ok t) :
    (∀ i < length, i ∈ t.indices) ↔ t.count = length := by
  have closed := closesTo_of_complete? positive done
  have part : (s.meant length).Sublist (List.range length) := List.filter_sublist
  rw [closed.indices, closed.count]
  constructor
  · intro covers
    have all : List.range length ⊆ s.meant length := fun i hi => covers i (List.mem_range.1 hi)
    have le := List.nodup_range.length_le_of_subset all
    have ge := part.length_le
    rw [List.length_range] at le ge
    exact Nat.le_antisymm ge le
  · intro many i hi
    rw [part.eq_of_length (many.trans List.length_range.symm)]
    exact List.mem_range.2 hi

/-- What a slice that means every index is like, so far as there are indices to tell. -/
theorem bounds_of_covers (covers : ∀ i < length, i ∈ s.meant length)
    (inside : s.stop.getD length ≤ length) :
    (0 < length → s.first = 0) ∧ (1 < length → s.stride = 1) ∧ s.stop.getD length = length := by
  have first : 0 < length → s.first = 0 := fun some =>
    Nat.le_zero.1 (mem_meant.1 (covers 0 some)).2.1
  refine ⟨first, fun several => ?_, ?_⟩
  · obtain ⟨-, -, -, steps⟩ := mem_meant.1 (covers 1 several)
    rw [first (Nat.zero_lt_of_lt several)] at steps
    exact Nat.dvd_one.1 steps
  · -- the last index, if there is one, lies below the bound
    refine Nat.le_antisymm inside (Nat.not_lt.1 fun short => ?_)
    have member := mem_meant.1 (covers _ short)
    have below := (lt_getD_stop_iff inside).2 ⟨short, member.2.2.1⟩
    exact Nat.lt_irrefl _ below

/-- After completing, a slice that was made is marked as whole exactly if it selects as many indices
as the dimension has, which are then all of them, and besides has steps of one if there is no second
index, and begins at zero if there is no index at all. -/
theorem whole_iff_covers (made : s.Reachable) {length : UInt64}
    (done : s.complete? length.toNat = .ok t) :
    ((∀ i < length.toNat, i ∈ t.indices) ↔ t.count = length.toNat) ∧
    (t.whole = true ↔ t.count = length.toNat ∧
      (length.toNat ≤ 1 → s.stride = 1) ∧ (length.toNat = 0 → s.first = 0)) := by
  have positive := made.sound.stride_pos
  have covers := covers_iff_count_eq positive done
  have inside := (complete?_eq_ok_iff.1 done).1.1
  refine ⟨covers, ?_⟩
  rw [whole_iff_of_complete? done]
  constructor
  · rintro ⟨first, stride, stop⟩
    have count : s.countWithin length.toNat = length.toNat := by
      rw [countWithin, first, stride, stop, span_one, Nat.sub_zero]
    exact ⟨(closesTo_of_complete? positive done).foretold.symm.trans count, fun _ => stride,
      fun _ => first⟩
  · rintro ⟨all, short, none⟩
    rw [← covers, (closesTo_of_complete? positive done).indices] at all
    obtain ⟨first, stride, stop⟩ := bounds_of_covers all inside
    exact ⟨length.toNat.eq_zero_or_pos.elim none first,
      (Nat.lt_or_ge 1 length.toNat).elim stride short, stop⟩

/-- Every second index of a dimension with one index. -/
theorem whole_iff_covers_onlyIndex :
    let s : Slice := ⟨0, 2, none, true, false⟩
    let t : Slice := ⟨0, 2, some 1, true, false⟩
    s.Reachable ∧ s.complete? 1 = .ok t ∧ (∀ i < 1, i ∈ t.indices) ∧
      ¬ (t.whole = true ↔ t.count = 1) := by
  intro s t
  have made : s.Reachable := .bounded 0 2 none rfl
  have done : s.complete? (1 : UInt64).toNat = .ok t := rfl
  obtain ⟨covers, marked⟩ := whole_iff_covers made done
  have count : t.count = 1 := by decide
  refine ⟨made, done, covers.2 count, fun same => ?_⟩
  obtain ⟨-, short, -⟩ := marked.1 (same.2 count)
  exact absurd (short (Nat.le_refl 1)) (by decide)

end Hyperslab.Slice
