/-
# `Hyperslab.Unicode.Ranges` — sets of codes as ranges

A set of codes is a list of ranges, both ends included, in ascending order; neither do
they overlap nor does one begin right behind another.  The operations on sets take such
lists to such lists.

A code is a number, but not every number is a character: nothing stands between U+D7FF
and U+E000.  So the neighbours of a code are found by `next` and `previous`, which know
of that gap, and the complement of a set is made of what lies between its ranges.
-/
import Hyperslab.Text.Split

namespace Hyperslab.Unicode

/-- Ranges of codes, both ends included. -/
abbrev Ranges := List (Nat × Nat)

/-- The greatest code. -/
def lastCode : Nat := 0x10FFFF

/-- The code of the character behind another. -/
def next (code : Nat) : Nat := if code = 0xD7FF then 0xE000 else code + 1

/-- The code of the character before another. -/
def previous (code : Nat) : Nat := if code = 0xE000 then 0xD7FF else code - 1

namespace Ranges

/-- Some range holds the code. -/
def holds (rs : Ranges) (code : Nat) : Bool := rs.any fun r => r.1 ≤ code && code ≤ r.2

theorem holds_iff {rs : Ranges} {code : Nat} :
    rs.holds code = true ↔ ∃ r ∈ rs, r.1 ≤ code ∧ code ≤ r.2 := by
  simp [holds]

/-- The set holds the character. -/
def contains (rs : Ranges) (c : Char) : Bool := rs.holds c.toNat

/-- The set of one character. -/
def single (c : Char) : Ranges := [(c.toNat, c.toNat)]

theorem contains_single (c d : Char) : (single c).contains d = decide (d = c) := by
  have h : (c.toNat ≤ d.toNat ∧ d.toNat ≤ c.toNat) ↔ d = c := by
    constructor
    · intro h
      exact Char.toNat_inj.1 (Nat.le_antisymm h.2 h.1)
    · rintro rfl
      exact ⟨Nat.le_refl _, Nat.le_refl _⟩
  simp [single, contains, holds, ← Bool.decide_and, h]

/-- All characters from one to another. -/
def span (a b : Char) : Ranges := [(a.toNat, b.toNat)]

theorem contains_span (a b c : Char) :
    (span a b).contains c = decide (a.toNat ≤ c.toNat ∧ c.toNat ≤ b.toNat) := by
  simp [span, contains, holds]

/-- The set with all codes moved by a distance. -/
def shift (rs : Ranges) (distance : Int) : Ranges :=
  rs.map fun r => ((r.1 + distance).toNat, (r.2 + distance).toNat)

/-! ## Operations -/

/-- The ranges of two lists in ascending order; `steps` bounds their number. -/
def mergeWithin : (steps : Nat) → Ranges → Ranges → Ranges
  | 0, _, _ => []
  | _ + 1, [], bs => bs
  | _ + 1, as, [] => as
  | steps + 1, a :: as, b :: bs =>
    if a.1 ≤ b.1 then a :: mergeWithin steps as (b :: bs)
    else b :: mergeWithin steps (a :: as) bs

/-- A range and the ascending ones behind it, with those joined that meet. -/
def coalesce : Nat × Nat → Ranges → Ranges
  | r, [] => [r]
  | r, s :: rest =>
    if s.1 ≤ r.2 + 1 then coalesce (r.1, max r.2 s.2) rest else r :: coalesce s rest

/-- The codes of one set or the other. -/
def union (as bs : Ranges) : Ranges :=
  match mergeWithin (as.length + bs.length + 1) as bs with
  | [] => []
  | r :: rest => coalesce r rest

/-- The parts that two lists have in common; `steps` bounds the number of ranges. -/
def interWithin : (steps : Nat) → Ranges → Ranges → Ranges
  | 0, _, _ => []
  | _ + 1, [], _ => []
  | _ + 1, _, [] => []
  | steps + 1, a :: as, b :: bs =>
    let rest :=
      if a.2 < b.2 then interWithin steps as (b :: bs) else interWithin steps (a :: as) bs
    if max a.1 b.1 ≤ min a.2 b.2 then (max a.1 b.1, min a.2 b.2) :: rest else rest

/-- The codes of both sets. -/
def inter (as bs : Ranges) : Ranges := interWithin (as.length + bs.length) as bs

/-- The parts of one list that another leaves; `steps` bounds the number of ranges. -/
def diffWithin : (steps : Nat) → Ranges → Ranges → Ranges
  | 0, _, _ => []
  | _ + 1, [], _ => []
  | _ + 1, as, [] => as
  | steps + 1, a :: as, b :: bs =>
    if b.2 < a.1 then diffWithin steps (a :: as) bs
    else if a.2 < b.1 then a :: diffWithin steps as (b :: bs)
    else
      let rest :=
        if b.2 < a.2 then diffWithin steps ((next b.2, a.2) :: as) bs
        else diffWithin steps as (b :: bs)
      if a.1 < b.1 then (a.1, previous b.1) :: rest else rest

/-- The codes of the first set that are not in the second. -/
def diff (as bs : Ranges) : Ranges := diffWithin (as.length + bs.length + 1) as bs

/-- The codes of exactly one of two sets. -/
def symmDiff (as bs : Ranges) : Ranges := (as.union bs).diff (as.inter bs)

/-- The range between two codes, whichever is greater.  Between U+D7FF and U+E000 lies
nothing, and there the two themselves are taken. -/
def between (a b : Nat) : Nat × Nat := if a ≤ b then (a, b) else (b, a)

/-- What lies between ascending ranges and behind them, past a code that is taken. -/
def gapsBehind : Nat → Ranges → Ranges
  | high, [] => if high < lastCode then [(next high, lastCode)] else []
  | high, r :: rest => between (next high) (previous r.1) :: gapsBehind r.2 rest

/-- All codes that are not in a set. -/
def complement : Ranges → Ranges
  | [] => [(0, lastCode)]
  | r :: rest => (if 0 < r.1 then [(0, previous r.1)] else []) ++ gapsBehind r.2 rest

/-! ## Ranges as texts -/

/-- The value of a hexadecimal digit in capitals. -/
def digitValue (c : Char) : Nat :=
  if c.isDigit then c.toNat - '0'.toNat else c.toNat - 'A'.toNat + 10

/-- The value of hexadecimal digits. -/
def hexValue (ds : List Char) : Nat := ds.foldl (fun n c => 16 * n + digitValue c) 0

/-- The codes from one to another, or every second one and so on, one by one. -/
def stepped (low high step : Nat) : Ranges :=
  (List.range ((high - low) / step + 1)).map fun i => (low + i * step, low + i * step)

/-- The ranges that one word writes: `41`, `41-5A`, or `100-12E/2` for every second code. -/
def ofWord (word : List Char) : Ranges :=
  match Text.splitAll '-' word with
  | low :: high :: _ =>
    match Text.splitAll '/' high with
    | high :: step :: _ => stepped (hexValue low) (hexValue high) (hexValue step)
    | _ => [(hexValue low, hexValue high)]
  | _ => if word.isEmpty then [] else [(hexValue word, hexValue word)]

/-- The ranges that a text lists in ascending order. -/
def ofText (text : String) : Ranges :=
  (Text.splitAll ' ' (text.toList.map fun c => if c = '\n' then ' ' else c)).flatMap ofWord

end Ranges

end Hyperslab.Unicode
