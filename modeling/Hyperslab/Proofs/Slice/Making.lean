/-
# `Hyperslab.Proofs.Slice.Making` — the slices that can be made

A slice is made in one of six ways, from words of 64 bits, and from then on it is only ever
completed, against one length after the other.  It is completed where it stands: the call sets
the bound and then the mark `whole`.  A call that is refused has set neither, and one that is
accepted has set both, so the state after it is the slice that `complete?` gives
(`completeInPlace_eq`).

Whatever the calls are, the stride stays positive and every number stays a word
(`Reachable.sound`).
-/
import Hyperslab.Request.Basic
import Mathlib.Algebra.Group.Nat.Defs

namespace Hyperslab.Slice

variable {s t : Slice}

/-! ## Completing in place -/

/-- Closes the slice that is the state, unless it does not fit the length. -/
def completing (length : Nat) : ExceptT SliceError (StateM Slice) Unit := do
  let s ← get
  let stop := s.stop.getD length
  if length < stop ∨ (stop ≤ s.first ∧ 0 < length) then
    throw (.doesNotFit s length)
  modify fun t => { t with stop := some stop }
  modify fun t => { t with whole := t.first == 0 && t.stride == 1 && stop == length }

/-- The answer to a call of `completing`, and the slice after it. -/
def completeInPlace (s : Slice) (length : Nat) : Except SliceError Unit × Slice :=
  Id.run ((completing length).run.run s)

/-- The call puts the slice that `complete?` gives in the place of the slice, or leaves it. -/
theorem completeInPlace_eq (s : Slice) (length : Nat) :
    s.completeInPlace length = match s.complete? length with
      | .ok t => (.ok (), t)
      | .error e => (.error e, s) := by
  dsimp only [complete?]
  show (if _ then _ else _ : ExceptT SliceError (StateM Slice) Unit) s = _
  by_cases misfit : length < s.stop.getD length ∨ (s.stop.getD length ≤ s.first ∧ 0 < length)
  · rw [if_pos misfit, if_pos misfit]
    rfl
  · rw [if_neg misfit, if_neg misfit]
    rfl

theorem completeInPlace_eq_ok_iff {length : Nat} :
    s.completeInPlace length = (.ok (), t) ↔ s.complete? length = .ok t := by
  rw [completeInPlace_eq]
  cases s.complete? length <;> simp

theorem completeInPlace_eq_error_iff {length : Nat} {e : SliceError} :
    s.completeInPlace length = (.error e, t) ↔ s.complete? length = .error e ∧ t = s := by
  rw [completeInPlace_eq]
  cases s.complete? length <;> simp [eq_comm]

/-! ## Reachable slices -/

/-- The slice is made from words, and completed some number of times, with or without success. -/
inductive Reachable : Slice → Prop
  | unconstrained : Reachable .unconstrained
  | bounded (first stride : UInt64) (stop : Option UInt64) {s : Slice} :
      bounded? first.toNat stride.toNat (stop.map UInt64.toNat) = .ok s → Reachable s
  | ofCount {count : UInt64} {s : Slice} : ofCount? count.toNat = .ok s → Reachable s
  /-- The bound of the last index would not be a word. -/
  | index {i : UInt64} : i.toNat + 1 < 2 ^ 64 → Reachable (.index i.toNat)
  | fill (length : UInt64) : Reachable (.fill length.toNat)
  | ofBounds {first stride stop : Option UInt64} {s : Slice} :
      SliceBounds.slice? ⟨first.map UInt64.toNat, stride.map UInt64.toNat,
        stop.map UInt64.toNat⟩ = .ok s → Reachable s
  | complete {s : Slice} (length : UInt64) :
      Reachable s → Reachable (s.completeInPlace length.toNat).2

/-- The slice takes steps, and its numbers are words. -/
structure Sound (s : Slice) : Prop where
  stride_pos : 0 < s.stride
  first_lt : s.first < 2 ^ 64
  stride_lt : s.stride < 2 ^ 64
  stop_lt : ∀ stop ∈ s.stop, stop < 2 ^ 64

theorem lt_of_mem_map_toNat {a : Option UInt64} : ∀ n ∈ a.map UInt64.toNat, n < 2 ^ 64 := by
  rintro n hn
  obtain ⟨word, -, rfl⟩ := Option.map_eq_some_iff.1 hn
  exact word.toNat_lt

theorem getD_map_toNat_lt {a : Option UInt64} {n : Nat} (h : n < 2 ^ 64) :
    (a.map UInt64.toNat).getD n < 2 ^ 64 := by
  cases a with
  | none => exact h
  | some word => exact word.toNat_lt

theorem Sound.of_stride_one (unit : s.stride = 1) (first_lt : s.first < 2 ^ 64)
    (stop_lt : ∀ stop ∈ s.stop, stop < 2 ^ 64) : Sound s :=
  ⟨by omega, first_lt, by omega, stop_lt⟩

theorem Sound.of_bounded? {first stride : Nat} {stop : Option Nat} (hf : first < 2 ^ 64)
    (hs : stride < 2 ^ 64) (hb : ∀ n ∈ stop, n < 2 ^ 64)
    (made : bounded? first stride stop = .ok s) : Sound s := by
  obtain ⟨positive, -, rfl⟩ := bounded?_eq_ok_iff.1 made
  exact ⟨positive, hf, hs, hb⟩

/-- A bound that is set is the length, which is a word as well. -/
theorem Sound.complete? (h : Sound s) {length : Nat} (word : length < 2 ^ 64)
    (done : s.complete? length = .ok t) : Sound t := by
  obtain ⟨⟨inside, -⟩, rfl⟩ := complete?_eq_ok_iff.1 done
  refine ⟨h.stride_pos, h.first_lt, h.stride_lt, ?_⟩
  rintro stop ⟨⟩
  exact Nat.lt_of_le_of_lt inside word

theorem Reachable.sound (h : Reachable s) : Sound s := by
  induction h with
  | unconstrained => exact .of_stride_one rfl (Nat.two_pow_pos 64) nofun
  | bounded first stride stop made =>
    exact .of_bounded? (UInt64.toNat_lt _) (UInt64.toNat_lt _) lt_of_mem_map_toNat made
  | @ofCount count _ made =>
    refine .of_bounded? (by decide) (by decide) ?_ made
    rintro _ ⟨⟩
    exact count.toNat_lt
  | @index i room =>
    refine .of_stride_one rfl i.toNat_lt ?_
    rintro _ ⟨⟩
    exact room
  | fill length =>
    refine .of_stride_one rfl (Nat.two_pow_pos 64) ?_
    rintro _ ⟨⟩
    exact length.toNat_lt
  | ofBounds made =>
    unfold SliceBounds.slice? at made
    split at made
    · cases made
      exact .of_stride_one rfl (Nat.two_pow_pos 64) nofun
    · exact .of_bounded? (getD_map_toNat_lt (by decide)) (getD_map_toNat_lt (by decide))
        lt_of_mem_map_toNat made
  | @complete s length _ ih =>
    rw [completeInPlace_eq]
    cases done : s.complete? length.toNat with
    | ok t => exact ih.complete? length.toNat_lt done
    | error e => exact ih

end Hyperslab.Slice
