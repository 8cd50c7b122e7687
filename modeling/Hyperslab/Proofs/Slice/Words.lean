/-
# `Hyperslab.Proofs.Slice.Words` — counting in words

Counting is defined on natural numbers, where nothing is too large.  Here it is done on words of
64 bits, operation by operation, and an operation has no result if the exact one is not a word:
a sum or a product that is too large, a difference below zero, a quotient by zero.

For a slice with a positive stride there is always a result, and it is the natural number
(`WordSlice.gives_count`, `.gives_countWithin`, `.last?_eq`).  A quotient rounded up is not above
the number that is divided, and the last index, with the product that leads to it, lies below the
bound.
-/
import Hyperslab.Proofs.Slice.Making

namespace Hyperslab

/-- An index of a slice lies below its bound. -/
theorem Slice.exists_stop_of_lt_count {s : Slice} {k : Nat} (positive : 0 < s.stride)
    (h : k < s.count) : ∃ stop, s.stop = some stop ∧ s.first + k * s.stride < stop := by
  unfold count at h
  cases closed : s.stop with
  | none =>
    rw [closed] at h
    exact absurd h (Nat.not_lt_zero k)
  | some stop =>
    rw [closed] at h
    exact ⟨stop, rfl, (lt_span_iff positive).1 h⟩

/-! ## Words -/

namespace Word

def add? (a b : UInt64) : Option UInt64 :=
  if a.toNat + b.toNat < 2 ^ 64 then some (a + b) else none

def sub? (a b : UInt64) : Option UInt64 := if b ≤ a then some (a - b) else none

def mul? (a b : UInt64) : Option UInt64 :=
  if a.toNat * b.toNat < 2 ^ 64 then some (a * b) else none

def div? (a b : UInt64) : Option UInt64 := if b = 0 then none else some (a / b)

def mod? (a b : UInt64) : Option UInt64 := if b = 0 then none else some (a % b)

/-- A quotient rounded up. -/
def quotientUp? (a b : UInt64) : Option UInt64 := do
  let quotient ← div? a b
  let rest ← mod? a b
  if rest = 0 then return quotient
  add? quotient 1

/-- How many of `first`, `first + stride`, … lie below `stop`. -/
def span? (first stride stop : UInt64) : Option UInt64 := do
  if stop ≤ first then return 0
  let distance ← sub? stop first
  quotientUp? distance stride

/-- There is a result, and it is the number. -/
def Gives (result : Option UInt64) (n : Nat) : Prop := ∃ a, result = some a ∧ a.toNat = n

variable {a b : UInt64}

theorem gives_some (a : UInt64) : Gives (some a) a.toNat := ⟨a, rfl, rfl⟩

theorem Gives.bind {result : Option UInt64} {next : UInt64 → Option UInt64} {m n : Nat}
    (h : Gives result m) (rest : ∀ a, a.toNat = m → Gives (next a) n) :
    Gives (result >>= next) n := by
  obtain ⟨a, rfl, ha⟩ := h
  exact rest a ha

theorem gives_add? (fits : a.toNat + b.toNat < 2 ^ 64) : Gives (add? a b) (a.toNat + b.toNat) :=
  ⟨a + b, if_pos fits, by rw [UInt64.toNat_add, Nat.mod_eq_of_lt fits]⟩

theorem gives_sub? (le : b ≤ a) : Gives (sub? a b) (a.toNat - b.toNat) :=
  ⟨a - b, if_pos le, UInt64.toNat_sub_of_le a b le⟩

theorem gives_mul? (fits : a.toNat * b.toNat < 2 ^ 64) : Gives (mul? a b) (a.toNat * b.toNat) :=
  ⟨a * b, if_pos fits, by rw [UInt64.toNat_mul, Nat.mod_eq_of_lt fits]⟩

theorem gives_div? (positive : b ≠ 0) : Gives (div? a b) (a.toNat / b.toNat) :=
  ⟨a / b, if_neg positive, UInt64.toNat_div a b⟩

theorem gives_mod? (positive : b ≠ 0) : Gives (mod? a b) (a.toNat % b.toNat) :=
  ⟨a % b, if_neg positive, UInt64.toNat_mod a b⟩

theorem eq_zero_iff : a = 0 ↔ a.toNat = 0 := by
  rw [← UInt64.toNat_inj]
  rfl

/-- Rounded up, a quotient is not above the number that is divided. -/
theorem quotientUp_le {n divisor : Nat} (positive : 0 < divisor) :
    Slice.quotientUp n divisor ≤ n :=
  (Slice.quotientUp_le_iff positive).2 (Nat.le_mul_of_pos_right n positive)

theorem gives_quotientUp? (positive : b ≠ 0) :
    Gives (quotientUp? a b) (Slice.quotientUp a.toNat b.toNat) := by
  have le : Slice.quotientUp a.toNat b.toNat ≤ a.toNat :=
    quotientUp_le (Nat.pos_of_ne_zero (mt eq_zero_iff.2 positive))
  refine (gives_div? positive).bind fun quotient hq => (gives_mod? positive).bind fun rest hr => ?_
  unfold Slice.quotientUp at le ⊢
  rw [← hq, ← hr] at le ⊢
  by_cases exact : rest = 0
  · rw [if_pos exact, if_pos (eq_zero_iff.1 exact)]
    exact gives_some quotient
  · rw [if_neg exact, if_neg (mt eq_zero_iff.2 exact)]
    rw [if_neg (mt eq_zero_iff.2 exact)] at le
    exact gives_add? (Nat.lt_of_le_of_lt le a.toNat_lt)

theorem gives_span? {first stride stop : UInt64} (positive : stride ≠ 0) :
    Gives (span? first stride stop) (Slice.span first.toNat stride.toNat stop.toNat) := by
  unfold span? Slice.span
  by_cases none : stop ≤ first
  · rw [if_pos none, if_pos (UInt64.le_iff_toNat_le.1 none)]
    exact gives_some 0
  · rw [if_neg none, if_neg (mt UInt64.le_iff_toNat_le.2 none)]
    have le : first ≤ stop := (UInt64.le_total first stop).resolve_right none
    refine (gives_sub? le).bind fun distance hd => ?_
    rw [← hd]
    exact gives_quotientUp? positive

end Word

/-! ## Slices of words -/

/-- A slice as it is stored: every number is a word. -/
structure WordSlice where
  first : UInt64
  stride : UInt64
  stop : Option UInt64
  constrained : Bool
  whole : Bool
deriving DecidableEq, Repr

namespace WordSlice

open Word

/-- The slice that is stored. -/
def toSlice (w : WordSlice) : Slice :=
  ⟨w.first.toNat, w.stride.toNat, w.stop.map UInt64.toNat, w.constrained, w.whole⟩

def count? (w : WordSlice) : Option UInt64 :=
  match w.stop with
  | some stop => span? w.first w.stride stop
  | none => some 0

def countWithin? (w : WordSlice) (length : UInt64) : Option UInt64 :=
  span? w.first w.stride (w.stop.getD length)

/-- The index after some steps. -/
def step? (w : WordSlice) (steps : UInt64) : Option UInt64 := do
  let distance ← mul? steps w.stride
  add? w.first distance

/-- The greatest index, unless there is none; or nothing, if an operation has no result. -/
def last? (w : WordSlice) : Option (Option UInt64) := do
  let count ← w.count?
  if count = 0 then return none
  let steps ← sub? count 1
  let last ← w.step? steps
  return some last

variable {w : WordSlice}

theorem gives_count (positive : w.stride ≠ 0) : Gives w.count? w.toSlice.count := by
  unfold count? Slice.count toSlice
  cases w.stop with
  | none => exact gives_some 0
  | some stop => exact gives_span? positive

theorem gives_countWithin (positive : w.stride ≠ 0) (length : UInt64) :
    Gives (w.countWithin? length) (w.toSlice.countWithin length.toNat) := by
  unfold countWithin? Slice.countWithin toSlice
  cases w.stop with
  | none => exact gives_span? positive
  | some stop => exact gives_span? positive

theorem lt_of_mem_stop {stop : Nat} (h : w.toSlice.stop = some stop) : stop < 2 ^ 64 := by
  obtain ⟨word, -, rfl⟩ := Option.map_eq_some_iff.1 h
  exact word.toNat_lt

theorem gives_step? {steps : UInt64}
    (fits : w.first.toNat + steps.toNat * w.stride.toNat < 2 ^ 64) :
    Gives (w.step? steps) (w.first.toNat + steps.toNat * w.stride.toNat) := by
  have distance : steps.toNat * w.stride.toNat < 2 ^ 64 :=
    Nat.lt_of_le_of_lt (Nat.le_add_left ..) fits
  refine (gives_mul? distance).bind fun product hp => ?_
  rw [← hp] at fits ⊢
  exact gives_add? fits

theorem last?_eq (positive : w.stride ≠ 0) :
    w.last?.map (Option.map UInt64.toNat) = some w.toSlice.last? := by
  obtain ⟨count, counted, hc⟩ := gives_count positive
  unfold last? Slice.last?
  rw [counted]
  show (if count = 0 then _ else _ : Option (Option UInt64)).map _ = _
  cases hn : w.toSlice.count with
  | zero =>
    rw [if_pos (eq_zero_iff.2 (hc.trans hn))]
    rfl
  | succ n =>
    have amount : count.toNat = n + 1 := hc.trans hn
    have nonzero : count ≠ 0 := by
      rintro rfl
      cases amount
    have one : (1 : UInt64) ≤ count :=
      UInt64.le_iff_toNat_le.2 (by rw [amount]; exact Nat.le_add_left ..)
    obtain ⟨steps, before, hs⟩ := gives_sub? one
    have hs : steps.toNat = n := by
      rw [hs, amount]
      rfl
    -- the last index lies below the bound, which is a word
    obtain ⟨stop, closed, below⟩ := Slice.exists_stop_of_lt_count (s := w.toSlice) (k := n)
      (Nat.pos_of_ne_zero (mt eq_zero_iff.2 positive)) (by rw [hn]; exact Nat.lt_succ_self n)
    have fits := Nat.lt_trans below (lt_of_mem_stop closed)
    rw [← hs] at fits ⊢
    obtain ⟨last, reached, hl⟩ := gives_step? fits
    rw [if_neg nonzero, before]
    show ((w.step? steps >>= _).map _ : Option (Option Nat)) = _
    rw [reached]
    exact congrArg (Option.some ∘ Option.some) hl

end WordSlice

/-! ## Sound slices -/

namespace Slice

variable {s : Slice}

/-- The slice is stored in words. -/
theorem Sound.exists_words (h : Sound s) : ∃ w : WordSlice, w.toSlice = s ∧ w.stride ≠ 0 := by
  have toNat : ∀ {n : Nat}, n < 2 ^ 64 → (UInt64.ofNat n).toNat = n := UInt64.toNat_ofNat_of_lt'
  refine ⟨⟨.ofNat s.first, .ofNat s.stride, s.stop.map .ofNat, s.constrained, s.whole⟩, ?_, ?_⟩
  · have stop : (s.stop.map UInt64.ofNat).map UInt64.toNat = s.stop := by
      cases closed : s.stop with
      | none => rfl
      | some stop => exact congrArg some (toNat (h.stop_lt stop closed))
    unfold WordSlice.toSlice
    rw [toNat h.first_lt, toNat h.stride_lt, stop]
  · intro zero
    have positive := h.stride_pos
    rw [← toNat h.stride_lt, Word.eq_zero_iff.1 zero] at positive
    exact Nat.lt_irrefl 0 positive

end Slice

end Hyperslab
