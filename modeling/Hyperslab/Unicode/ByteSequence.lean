/-
# `Hyperslab.Unicode.ByteSequence` — characters as bytes

A character is written by one to four bytes.  The first one tells their number and holds
the leading bits of the code, the others hold six bits each.  So a code is a number to
the base 64, and a range of codes falls apart into sequences of ranges of bytes, such that
any choice of one byte from each range writes one character of the range.
-/
import Hyperslab.Unicode.Ranges

namespace Hyperslab.Unicode

/-- A range of bytes, both ends included. -/
abbrev ByteRange := Nat × Nat

/-- Codes that are written alike: from `low` to `high`, by a byte that is `mark` and the
leading bits, and `more` bytes behind it. -/
structure ByteForm where
  low : Nat
  high : Nat
  mark : Nat
  more : Nat
deriving DecidableEq, Repr

/-- The forms of all characters. -/
def byteForms : List ByteForm := [
  ⟨0, 0x7F, 0, 0⟩, ⟨0x80, 0x7FF, 0xC0, 1⟩, ⟨0x800, 0xD7FF, 0xE0, 2⟩, ⟨0xE000, 0xFFFF, 0xE0, 2⟩,
  ⟨0x10000, 0x10FFFF, 0xF0, 3⟩]

/-- The number of bytes of a code. -/
def byteCount (code : Nat) : Nat :=
  if code ≤ 0x7F then 1 else if code ≤ 0x7FF then 2 else if code ≤ 0xFFFF then 3 else 4

/-- The number of bytes of codes. -/
def byteLength (codes : List Nat) : Nat := codes.foldl (fun n c => n + byteCount c) 0

/-- The digits of a number to the base 64, and what is left before them. -/
def digits64 : (count : Nat) → Nat → List Nat
  | 0, n => [n]
  | count + 1, n => digits64 count (n / 64) ++ [n % 64]

/-- Digits with the marks of their bytes. -/
def ByteForm.marked (f : ByteForm) : List Nat → List Nat
  | [] => []
  | d :: rest => (f.mark + d) :: rest.map (0x80 + ·)

/-- The bytes of a code. -/
def bytesOf (code : Nat) : List Nat :=
  match byteForms.find? fun f => f.low ≤ code && code ≤ f.high with
  | some f => f.marked (digits64 f.more code)
  | none => []

/-- The numbers of which only the digits behind the first one are free: all choices for
`count` digits. -/
def allDigits (count : Nat) : List ByteRange := List.replicate count (0, 63)

/-- The numbers from `low` to `high` as sequences of ranges of digits, one leading digit
and `count` more. -/
def digitRanges : (count : Nat) → (low high : Nat) → List (List ByteRange)
  | 0, low, high => [[(low, high)]]
  | count + 1, low, high =>
    let block := Nat.pow 64 (count + 1)
    let first := low / block
    let last := high / block
    let below (r : List ByteRange) (lead : Nat) : List ByteRange := (lead, lead) :: r
    if first = last then
      (digitRanges count (low % block) (high % block)).map (below · first)
    else
      let lowWhole := low % block = 0
      let highWhole := high % block = block - 1
      let start := if lowWhole then first else first + 1
      let stop := if highWhole then last + 1 else last
      (if lowWhole then []
        else (digitRanges count (low % block) (block - 1)).map (below · first))
      ++ (if start < stop then [(start, stop - 1) :: allDigits (count + 1)] else [])
      ++ (if highWhole then []
        else (digitRanges count 0 (high % block)).map (below · last))

/-- Ranges of digits with the marks of their bytes. -/
def ByteForm.markedRanges (f : ByteForm) : List ByteRange → List ByteRange
  | [] => []
  | r :: rest => (f.mark + r.1, f.mark + r.2) :: rest.map fun d => (0x80 + d.1, 0x80 + d.2)

/-- The sequences of bytes that write the codes from `low` to `high`, in ascending order. -/
def byteSequences (low high : Nat) : List (List ByteRange) :=
  byteForms.flatMap fun f =>
    let low := max low f.low
    let high := min high f.high
    if low ≤ high then (digitRanges f.more low high).map f.markedRanges else []

end Hyperslab.Unicode
