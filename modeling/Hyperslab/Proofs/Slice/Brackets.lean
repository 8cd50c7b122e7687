/-
# `Hyperslab.Proofs.Slice.Brackets` — a bracket says which indices are meant

The short bracket of a closed slice holds at most three numbers (`numbers`): none, the only
index, the first and the last index, or these with the stride between.  They determine the
indices (`indices_eq_of_numbers_eq`), and the bracket determines them, whatever stands
behind it (`bracket_append_inj`).

The empty bracket has two meanings: the dimension is taken whole without asking, or nothing
is selected.  Among slices that were resolved against one size the two never differ, because
bounds are only accepted without an index where there is no index at all.
-/
import Hyperslab.Proofs.Text.Words
import Hyperslab.View.Rendering
import Hyperslab.View.Resolution

namespace Hyperslab

namespace Slice

/-! ## Numbers -/

/-- The numbers in the bracket of a closed slice. -/
def numbers (s : Slice) : List Nat :=
  match s.last? with
  | none => []
  | some last =>
    if last = s.first then [s.first]
    else if s.stride = 1 then [s.first, last]
    else [s.first, s.stride, last]

theorem span_eq_zero_iff {first stride stop : Nat} :
    span first stride stop = 0 ↔ stop ≤ first := by
  unfold span
  constructor
  · intro none
    split at none
    · assumption
    · -- rounded up, only zero has the quotient zero
      have parts := Nat.div_add_mod (stop - first) stride
      unfold quotientUp at none
      split at none
      · rename_i exact
        rw [exact, none, Nat.mul_zero] at parts
        omega
      · cases none
  · intro le
    rw [if_pos le]

/-- Steps of zero stay at one index. -/
theorem span_zero_le (first stop : Nat) : span first 0 stop ≤ 1 := by
  unfold span quotientUp
  split
  · exact Nat.zero_le 1
  · split <;> simp

theorem last?_eq_none_iff {s : Slice} : s.last? = none ↔ s.count = 0 := by
  unfold last?
  cases s.count <;> simp

theorem last?_eq_some_iff {s : Slice} {last : Nat} :
    s.last? = some last ↔ ∃ n, s.count = n + 1 ∧ last = s.first + n * s.stride := by
  unfold last?
  cases s.count with
  | zero => simp
  | succ n => simp [eq_comm]

/-- A slice of several indices takes steps. -/
theorem stride_pos {s : Slice} {n : Nat} (h : s.count = n + 2) : 0 < s.stride := by
  refine Nat.pos_of_ne_zero fun zero => ?_
  unfold count at h
  cases hs : s.stop with
  | none => rw [hs] at h; cases h
  | some stop =>
    simp only [hs, zero] at h
    have := span_zero_le s.first stop
    omega

theorem numbers_eq_nil_iff {s : Slice} : s.numbers = [] ↔ s.count = 0 := by
  rw [← last?_eq_none_iff]
  unfold numbers
  cases s.last? with
  | none => simp
  | some last =>
    dsimp only
    split
    · simp
    · split <;> simp

/-- What the numbers of a slice are, by the number of its indices. -/
theorem numbers_of_count {s : Slice} :
    (s.count = 0 ∧ s.numbers = []) ∨ (s.count = 1 ∧ s.numbers = [s.first]) ∨
      ∃ n, s.count = n + 2 ∧ 0 < s.stride ∧
        s.numbers = if s.stride = 1 then [s.first, s.first + (n + 1) * s.stride]
          else [s.first, s.stride, s.first + (n + 1) * s.stride] := by
  cases hc : s.count with
  | zero => exact .inl ⟨rfl, numbers_eq_nil_iff.2 hc⟩
  | succ n =>
    have last := last?_eq_some_iff.2 ⟨n, hc, rfl⟩
    cases n with
    | zero =>
      refine .inr (.inl ⟨rfl, ?_⟩)
      unfold numbers
      simp [last]
    | succ n =>
      have pos := stride_pos hc
      have apart : s.first + (n + 1) * s.stride ≠ s.first := by
        have : 0 < (n + 1) * s.stride := Nat.mul_pos (Nat.succ_pos n) pos
        omega
      refine .inr (.inr ⟨n, rfl, pos, ?_⟩)
      unfold numbers
      simp only [last]
      rw [if_neg apart]

theorem indices_of_count_zero {s : Slice} (h : s.count = 0) : s.indices = [] := by
  simp [indices, h]

theorem indices_of_count_one {s : Slice} (h : s.count = 1) : s.indices = [s.first] := by
  simp [indices, h]

/-- The numbers of a slice say which indices it selects. -/
theorem indices_eq_of_numbers_eq {s t : Slice} (h : s.numbers = t.numbers) :
    s.indices = t.indices := by
  rcases numbers_of_count (s := s) with ⟨cs, hs⟩ | ⟨cs, hs⟩ | ⟨n, cs, ps, hs⟩ <;>
    rcases numbers_of_count (s := t) with ⟨ct, ht⟩ | ⟨ct, ht⟩ | ⟨m, ct, pt, ht⟩ <;>
    rw [hs, ht] at h
  case inl.inl => rw [indices_of_count_zero cs, indices_of_count_zero ct]
  case inr.inl.inr.inl =>
    rw [indices_of_count_one cs, indices_of_count_one ct, List.cons.inj h |>.1]
  case inr.inr.inr.inr =>
    have parts : s.first = t.first ∧ s.stride = t.stride ∧
        s.first + (n + 1) * s.stride = t.first + (m + 1) * t.stride := by
      split at h <;> split at h <;> simp at h <;> omega
    obtain ⟨first, stride, last⟩ := parts
    have count : n + 1 = m + 1 := by
      rw [first, stride] at last
      exact Nat.eq_of_mul_eq_mul_right pt (Nat.add_left_cancel last)
    have same : s.count = t.count := by omega
    rw [indices, indices, first, stride, same]
  -- lists of different lengths
  all_goals
    exfalso
    try split at h
    all_goals simp at h

/-! ## Resolved slices -/

/-- A slice resolved against a dimension: whole without asking, or closed inside the
dimension, and empty only where the dimension is. -/
def Resolved (size : Nat) (s : Slice) : Prop :=
  s = fill size ∨ s.constrained = true ∧
    ∃ stop, s.stop = some stop ∧ stop ≤ size ∧ (s.first < stop ∨ size = 0)

/-- The numbers that are written for a slice in a constraint. -/
def shown (s : Slice) : List Nat := if s.whole && !s.constrained then [] else s.numbers

namespace Resolved

variable {size : Nat} {s t : Slice}

theorem isSome_stop (h : s.Resolved size) : s.stop.isSome := by
  rcases h with rfl | ⟨_, stop, closed, _⟩
  · rfl
  · rw [closed]
    rfl

/-- What is not asked for is whole. -/
theorem eq_fill (h : s.Resolved size) (free : s.constrained = false) : s = fill size := by
  rcases h with rfl | ⟨asked, _⟩
  · rfl
  · exact absurd (free.symm.trans asked) Bool.false_ne_true

theorem shown_of_constrained (asked : s.constrained = true) : s.shown = s.numbers := by
  simp [shown, asked]

/-- A slice with an empty bracket is the dimension from end to end. -/
theorem indices_of_shown_nil (h : s.Resolved size) (empty : s.shown = []) :
    s.indices = (fill size).indices := by
  rcases h with rfl | ⟨asked, stop, closed, _, fits⟩
  · rfl
  · rw [shown_of_constrained asked] at empty
    have none := numbers_eq_nil_iff.1 empty
    have le : stop ≤ s.first := by
      simpa only [count, closed, span_eq_zero_iff] using none
    have zero : size = 0 := by omega
    rw [indices_of_count_zero none, zero, indices_of_count_zero (count_fill 0)]

/-- The same numbers mean the same indices. -/
theorem indices_eq_of_shown_eq (hs : s.Resolved size) (ht : t.Resolved size)
    (same : s.shown = t.shown) : s.indices = t.indices := by
  by_cases empty : s.shown = []
  · rw [hs.indices_of_shown_nil empty, ht.indices_of_shown_nil (same.symm.trans empty)]
  · have asked : ∀ {r : Slice}, r.Resolved size → r.shown ≠ [] → r.constrained = true := by
      intro r hr full
      refine (Bool.eq_false_or_eq_true _).resolve_right fun free => full ?_
      rw [hr.eq_fill free]
      rfl
    have full : t.shown ≠ [] := by rwa [← same]
    rw [shown_of_constrained (asked hs empty), shown_of_constrained (asked ht full)] at same
    exact indices_eq_of_numbers_eq same

end Resolved

/-! ## Brackets -/

/-- A bracket with numbers in it. -/
def bracket (ns : List Nat) : List Char :=
  '[' :: [':'].intercalate (ns.map (Nat.toDigits 10)) ++ [']']

theorem toList_constraint {s : Slice} (closed : s.stop.isSome) :
    s.constraint.toList = bracket s.numbers := by
  obtain ⟨stop, hs⟩ := Option.isSome_iff_exists.1 closed
  unfold constraint numbers bracket
  rw [hs]
  cases s.last? with
  | none => simp
  | some last =>
    dsimp only
    split
    · simp
    · split <;> simp [List.intercalate_cons_cons]

theorem toList_render {s : Slice} (closed : s.stop.isSome) :
    (s.render .constraint).toList = bracket s.shown := by
  unfold render shown
  split
  · rfl
  · exact toList_constraint closed

/-- A bracket ends where it is closed. -/
theorem bracket_append_inj {ms ns : List Nat} {q r : List Char}
    (same : bracket ms ++ q = bracket ns ++ r) : ms = ns ∧ q = r := by
  have word : ∀ ks : List Nat, ∀ w ∈ ks.map (Nat.toDigits 10), w ≠ [] ∧ Text.Free [':', ']'] w := by
    intro ks w hw
    obtain ⟨k, _, rfl⟩ := List.mem_map.1 hw
    exact ⟨Nat.toDigits_ne_nil, Text.free_toDigits (by decide) k⟩
  unfold bracket at same
  simp only [List.cons_append, List.append_assoc, List.nil_append, List.cons.injEq,
    true_and] at same
  obtain ⟨numbers, rest⟩ := Text.intercalate_append_inj (by decide) (word ms) (word ns)
    (Text.stops_cons (List.mem_singleton_self _) q) (Text.stops_cons (List.mem_singleton_self _) r)
    same
  exact ⟨(List.map_injective_iff.2 fun _ _ h => Text.toDigits_inj h) numbers,
    (List.cons.inj rest).2⟩

/-- Equally many brackets end together. -/
theorem brackets_append_inj {ss ts : List Slice} {q r : List Char} (length : ss.length = ts.length)
    (same : ss.flatMap (fun s => bracket s.shown) ++ q =
      ts.flatMap (fun t => bracket t.shown) ++ r) :
    ss.map shown = ts.map shown ∧ q = r := by
  induction ss generalizing ts with
  | nil =>
    cases ts with
    | nil => exact ⟨rfl, same⟩
    | cons t ts => cases length
  | cons s ss ih =>
    cases ts with
    | nil => cases length
    | cons t ts =>
      rw [List.flatMap_cons, List.flatMap_cons, List.append_assoc, List.append_assoc] at same
      obtain ⟨head, rest⟩ := bracket_append_inj same
      obtain ⟨tail, last⟩ := ih (Nat.succ.inj length) rest
      exact ⟨by rw [List.map_cons, List.map_cons, head, tail], last⟩

end Slice

end Hyperslab
