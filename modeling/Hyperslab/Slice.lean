/-
# `Hyperslab.Slice` — one position of a hyperslab

A slice picks indices of a single dimension: it starts at `first`, steps by
`stride`, and stays below the exclusive bound `stop`.  Two marks travel with the
numbers, and both are load-bearing for everything built on top:

  * `constrained` — somebody asked for bounds.  A slice without the mark is a
    *placeholder*: whatever dimension it meets, it is taken from end to end;
  * `whole` — the bounds were compared with an actual dimension and cover it.
    Only `fill` and `complete?` know a dimension, so only they may set it.

An open slice (`stop = none`) runs to the end of a dimension nobody has named
yet.  `complete?` is where the dimension is named: it closes the bound, refuses
bounds that do not fit, and recomputes `whole`.

The arithmetic is on natural numbers.  Everything printed or stored is at most
the larger of the bounds and the dimension's length, so nothing here leaves the
range of the numbers it was given.
-/
import Hyperslab.ErrorKind

namespace Hyperslab

/-- The indices `first`, `first + stride`, … below `stop`. -/
structure Slice where
  first : Nat
  stride : Nat
  /-- The exclusive bound; `none` leaves the slice open. -/
  stop : Option Nat
  /-- Bounds were asked for at this position. -/
  constrained : Bool
  /-- The slice covers the dimension it was completed against. -/
  whole : Bool
deriving DecidableEq, Repr

/-- What can be wrong with the bounds of a slice. -/
inductive SliceError where
  /-- A step of zero. -/
  | zeroStride (first : Nat)
  /-- An explicit bound at or below the first index. -/
  | emptyRange (first stop : Nat)
  /-- Bounds that reach past a dimension, or miss it altogether. -/
  | doesNotFit (slice : Slice) (length : Nat)
deriving DecidableEq, Repr

namespace Slice

/-! ## Constructors -/

/-- The placeholder for a position that was left alone. -/
def unconstrained : Slice := ⟨0, 1, none, false, false⟩

instance : Inhabited Slice := ⟨unconstrained⟩

/-- A slice with bounds.  The stride is positive, and an explicit bound lies
past the first index. -/
def bounded? (first stride : Nat) (stop : Option Nat) : Except SliceError Slice :=
  if stride = 0 then .error (.zeroStride first)
  else match stop with
    | none => .ok ⟨first, stride, none, true, false⟩
    | some last =>
      if last ≤ first then .error (.emptyRange first last)
      else .ok ⟨first, stride, some last, true, false⟩

/-- The single index `i`. -/
def index (i : Nat) : Slice := ⟨i, 1, some (i + 1), true, false⟩

/-- The first `count` indices. -/
def ofCount? (count : Nat) : Except SliceError Slice := bounded? 0 1 (some count)

/-- A whole dimension of the given length, taken without asking. -/
def fill (length : Nat) : Slice := ⟨0, 1, some length, false, true⟩

/-! ## Counting -/

/-- A quotient rounded up. -/
def quotientUp (n divisor : Nat) : Nat :=
  if n % divisor = 0 then n / divisor else n / divisor + 1

/-- How many of `first`, `first + stride`, … lie below `stop`: the distance
divided by the stride, rounded up. -/
def span (first stride stop : Nat) : Nat :=
  if stop ≤ first then 0 else quotientUp (stop - first) stride

/-- The number of selected indices; zero while the slice is open. -/
def count (s : Slice) : Nat :=
  match s.stop with
  | some stop => span s.first s.stride stop
  | none => 0

/-- The number of indices once an open bound is set to `length`. -/
def countWithin (s : Slice) (length : Nat) : Nat :=
  span s.first s.stride (s.stop.getD length)

/-- The greatest selected index. -/
def last? (s : Slice) : Option Nat :=
  match s.count with
  | 0 => none
  | n + 1 => some (s.first + n * s.stride)

/-- The selected indices in ascending order. -/
def indices (s : Slice) : List Nat :=
  (List.range s.count).map fun k => s.first + k * s.stride

/-! ### What the numbers say -/

/-- Rounded up, a quotient is the least number of steps that reach the end. -/
theorem quotientUp_le_iff {n divisor k : Nat} (h : 0 < divisor) :
    quotientUp n divisor ≤ k ↔ n ≤ k * divisor := by
  have parts := Nat.div_add_mod n divisor
  have small := Nat.mod_lt n h
  rw [Nat.mul_comm] at parts
  unfold quotientUp
  constructor
  · intro le
    split at le
    · have := Nat.mul_le_mul_right divisor le
      omega
    · have := Nat.mul_le_mul_right divisor le
      rw [Nat.add_mul] at this
      omega
  · intro le
    split
    · exact Nat.div_le_of_le_mul (by rw [Nat.mul_comm]; exact le)
    · apply Nat.lt_of_mul_lt_mul_right (a := divisor)
      omega

@[simp] theorem quotientUp_one (n : Nat) : quotientUp n 1 = n := by
  simp [quotientUp, Nat.mod_one]

/-- An index of a progression lies below the bound exactly if its number is below the
span. -/
theorem lt_span_iff {first stride stop k : Nat} (h : 0 < stride) :
    k < span first stride stop ↔ first + k * stride < stop := by
  unfold span
  split
  · omega
  · rw [← Nat.not_le, quotientUp_le_iff h]
    omega

@[simp] theorem span_one (first stop : Nat) : span first 1 stop = stop - first := by
  unfold span
  split
  · omega
  · exact quotientUp_one _

@[simp] theorem count_fill (length : Nat) : (fill length).count = length := span_one 0 length

@[simp] theorem count_index (i : Nat) : (index i).count = 1 := by
  show span i 1 (i + 1) = 1
  rw [span_one]
  omega

theorem mem_indices {s : Slice} {i : Nat} :
    i ∈ s.indices ↔ ∃ k, k < s.count ∧ i = s.first + k * s.stride := by
  simp only [indices, List.mem_map, List.mem_range]
  exact ⟨fun ⟨k, hk, h⟩ => ⟨k, hk, h.symm⟩, fun ⟨k, hk, h⟩ => ⟨k, hk, h.symm⟩⟩

@[simp] theorem length_indices (s : Slice) : s.indices.length = s.count := by
  simp only [indices, List.length_map, List.length_range]

theorem getLast?_indices (s : Slice) : s.indices.getLast? = s.last? := by
  unfold indices last?
  cases s.count with
  | zero => rfl
  | succ n => simp [List.range_succ]

/-! ## Completion -/

/-- The slice closed against a dimension of the given length.  The bound must not
pass the end, and unless the dimension is empty the first index must lie below
the bound. -/
def complete? (s : Slice) (length : Nat) : Except SliceError Slice :=
  let stop := s.stop.getD length
  if length < stop ∨ (stop ≤ s.first ∧ 0 < length) then .error (.doesNotFit s length)
  else .ok { s with
    stop := some stop
    whole := s.first == 0 && s.stride == 1 && stop == length }

/-- A slice is made exactly from a positive stride and bounds in order. -/
theorem bounded?_eq_ok_iff {first stride : Nat} {stop : Option Nat} {s : Slice} :
    bounded? first stride stop = .ok s ↔
      0 < stride ∧ (∀ last ∈ stop, first < last) ∧ s = ⟨first, stride, stop, true, false⟩ := by
  unfold bounded?
  by_cases h : stride = 0
  · simp [h]
  · cases stop with
    | none => simp [h, Nat.pos_of_ne_zero h, eq_comm]
    | some last =>
      by_cases hl : last ≤ first
      · simp [h, hl, Nat.not_lt.2 hl]
      · simp [h, hl, Nat.pos_of_ne_zero h, Nat.lt_of_not_le hl, eq_comm]

/-- A slice is completed exactly if its bounds fit, and then only the bound and the mark
`whole` are new. -/
theorem complete?_eq_ok_iff {s t : Slice} {length : Nat} :
    s.complete? length = .ok t ↔
      (s.stop.getD length ≤ length ∧ (s.first < s.stop.getD length ∨ length = 0)) ∧
      t = { s with
        stop := some (s.stop.getD length)
        whole := s.first == 0 && s.stride == 1 && s.stop.getD length == length } := by
  unfold complete?
  dsimp only
  split
  · constructor
    · intro h; cases h
    · rintro ⟨fits, _⟩; omega
  · constructor
    · intro h
      cases h
      exact ⟨by omega, rfl⟩
    · rintro ⟨_, rfl⟩; rfl

/-! ## Texts -/

/-- The long form: `[first:stride:last]`, `[first:stride:]` while open, and `[]`
for a closed slice that selects nothing. -/
def display (s : Slice) : String :=
  match s.stop, s.last? with
  | none, _ => "[" ++ toString s.first ++ ":" ++ toString s.stride ++ ":]"
  | some _, none => "[]"
  | some _, some last =>
    "[" ++ toString s.first ++ ":" ++ toString s.stride ++ ":" ++ toString last ++ "]"

/-- The short form: a stride of one is dropped, and a single index stands
alone. -/
def constraint (s : Slice) : String :=
  match s.stop, s.last? with
  | none, _ =>
    if s.stride = 1 then "[" ++ toString s.first ++ ":]"
    else "[" ++ toString s.first ++ ":" ++ toString s.stride ++ ":]"
  | some _, none => "[]"
  | some _, some last =>
    if last = s.first then "[" ++ toString s.first ++ "]"
    else if s.stride = 1 then "[" ++ toString s.first ++ ":" ++ toString last ++ "]"
    else "[" ++ toString s.first ++ ":" ++ toString s.stride ++ ":" ++ toString last ++ "]"

end Slice

/-- The sentence that reports the fault. -/
def SliceError.message : SliceError → String
  | .zeroStride first => s!"stride must be positive in [{first}:0:...]"
  | .emptyRange first stop => s!"empty range: first {first} >= stop {stop}"
  | .doesNotFit slice length =>
    slice.display ++ s!" does not fit a dimension of length {length}"

instance : Reported SliceError := ⟨fun _ => .invalidSlice, SliceError.message⟩

end Hyperslab
