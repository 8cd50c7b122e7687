/-
# `Hyperslab.Decimal.Shortest` — the fewest digits that read back

Every real in the rounding interval of a binary number rounds to that number, so
any decimal in the interval may stand for it in print.  `shortest` takes a
decimal with the fewest digits, and among those one closest to the number; the
rule for an exact tie is a parameter, because writers of numbers differ in it.

The search walks decimal *grids*, the multiples of one power of ten, from coarse
to fine.  On each grid only the two neighbours of the number have to be tried: if
any point of the grid lies in the interval, one of them does.  Everything is
decided by comparing products of natural numbers.

Lengths are measured in quarters of the significand's unit, so that both ends of
the interval are integers: `4m + 2` above, and `4m - 2` below, or `4m - 1` where
the numbers below are packed twice as tightly.
-/
import Hyperslab.Decimal.Numeral

namespace Hyperslab

/-- Where an exact tie between two decimals goes. -/
inductive Tie where
  | up
  | even
deriving DecidableEq, Repr

namespace Decimal.Shortest

/-- The rounding interval of a positive number, in quarters of the unit
`2 ^ (power + 2)`. -/
structure Interval where
  low : Nat
  middle : Nat
  high : Nat
  /-- Both ends belong to the interval. -/
  closed : Bool
  /-- The power of two of one quarter. -/
  power : Int
deriving Repr

/-- The interval of reals that round to a positive finite number. -/
def Interval.of (x : Binary64) : Interval where
  low := if x.significand = Binary64.unit ∧ 0 < x.scale then 4 * x.significand - 1
    else 4 * x.significand - 2
  middle := 4 * x.significand
  high := 4 * x.significand + 2
  closed := x.significand % 2 == 0
  power := (x.scale : Int) - 1076

/-- The grid of multiples of `10 ^ exponent`, as the ratio `step / quarter`
between its step and a quarter of the interval. -/
structure Grid where
  exponent : Int
  step : Nat
  quarter : Nat
deriving Repr

/-- The grid with the given exponent, measured against an interval. -/
def Interval.grid (i : Interval) (exponent : Int) : Grid where
  exponent := exponent
  step := Nat.pow 2 (-i.power).toNat * Nat.pow 10 exponent.toNat
  quarter := Nat.pow 2 i.power.toNat * Nat.pow 10 (-exponent).toNat

/-- The `c`-th point of the grid lies in the interval. -/
def Interval.holds (i : Interval) (g : Grid) (c : Nat) : Bool :=
  let point := c * g.step
  if i.closed then i.low * g.quarter ≤ point && point ≤ i.high * g.quarter
  else i.low * g.quarter < point && point < i.high * g.quarter

/-- The best point of a grid, if one lies in the interval. -/
def Interval.pick? (i : Interval) (tie : Tie) (g : Grid) : Option Numeral :=
  let exact := i.middle * g.quarter
  let below := exact / g.step
  let choose (c : Nat) : Option Numeral := some ⟨false, c, g.exponent⟩
  match i.holds g below, i.holds g (below + 1) with
  | false, false => none
  | true, false => choose below
  | false, true => choose (below + 1)
  | true, true =>
    let toBelow := exact - below * g.step
    let toAbove := (below + 1) * g.step - exact
    if toBelow < toAbove then choose below
    else if toAbove < toBelow then choose (below + 1)
    else match tie with
      | .up => choose (below + 1)
      | .even => choose (if below % 2 = 0 then below else below + 1)

/-- The exponent of the coarsest grid with a point beside the number: one past
its leading digit. -/
def Interval.order (i : Interval) : Int :=
  let num := i.middle * Nat.pow 2 i.power.toNat
  let den := Nat.pow 2 (-i.power).toNat
  if den ≤ num then decimalLength (num / den)
  else 1 - (decimalLength ((den - 1) / num) : Int)

/-- Trailing zeros moved from the digits into the exponent. -/
def stripZeros : Nat → Numeral → Numeral
  | 0, n => n
  | fuel + 1, n =>
    if n.digits ≠ 0 ∧ n.digits % 10 = 0 then
      stripZeros fuel { n with digits := n.digits / 10, exponent := n.exponent + 1 }
    else n

/-- The first grid with a point in the interval.  Seventeen digits always
suffice. -/
def Interval.search (i : Interval) (tie : Tie) : Option Numeral :=
  (List.range 18).findSome? fun (k : Nat) => i.pick? tie (i.grid (i.order - k))

end Decimal.Shortest

open Decimal.Shortest in
/-- The shortest decimal that reads back as a finite number. -/
def Binary64.shortest (tie : Tie) (x : Binary64) : Numeral :=
  if x.magnitude = 0 then ⟨x.negative, 0, 0⟩
  else match (Interval.of x).search tie with
    | some n => { stripZeros 20 n with negative := x.negative }
    | none => ⟨x.negative, 0, 0⟩

end Hyperslab
