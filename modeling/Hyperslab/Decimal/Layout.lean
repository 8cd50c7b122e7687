/-
# `Hyperslab.Decimal.Layout` — how a decimal is laid out

The digits of a number are one decision (`Binary64.shortest`), their layout is
another: how far the point may wander before an exponent is written, whether an
integral value keeps its `.0`, and which of two equally near decimals is taken.  A
`FloatLayout` holds these decisions as plain data; the formats that write numbers
own one value of it each.
-/
import Hyperslab.Decimal.Shortest

namespace Hyperslab

/-- The decisions of one number format. -/
structure FloatLayout where
  /-- Exponents of the leading digit below this are written with an exponent. -/
  positionalFrom : Option Int
  /-- Exponents of the leading digit above this are written with an exponent. -/
  positionalTo : Option Int
  /-- An integral value ends in `.0`. -/
  pointZero : Bool
  tie : Tie
deriving DecidableEq, Repr

namespace FloatLayout

/-- The digits of a natural number, most significant first. -/
def digits (n : Nat) : List Char := Nat.toDigits 10 n

/-- A run of zeros. -/
def zeros (n : Nat) : List Char := List.replicate n '0'

/-- Digits with the point `point` places after the first of them. -/
def positional (layout : FloatLayout) (ds : List Char) (point : Int) : List Char :=
  if point ≤ 0 then '0' :: '.' :: zeros (-point).toNat ++ ds
  else
    let whole := point.toNat
    if ds.length ≤ whole then
      ds ++ zeros (whole - ds.length) ++ (if layout.pointZero then ['.', '0'] else [])
    else ds.take whole ++ '.' :: ds.drop whole

/-- One digit before the point, and a signed exponent. -/
def scientific (ds : List Char) (exponent : Int) : List Char :=
  let fraction := if ds.length ≤ 1 then [] else '.' :: ds.drop 1
  let sign := if exponent < 0 then '-' else '+'
  ds.take 1 ++ fraction ++ 'e' :: sign :: digits exponent.natAbs

/-- The exponent of the leading digit allows a plain point. -/
def isPositional (layout : FloatLayout) (exponent : Int) : Bool :=
  (layout.positionalFrom.all (· ≤ exponent)) && (layout.positionalTo.all (exponent ≤ ·))

/-- The text of a numeral. -/
def lay (layout : FloatLayout) (n : Numeral) : List Char :=
  let ds := digits n.digits
  let point := (ds.length : Int) + n.exponent
  let body :=
    if n.digits = 0 then layout.positional ds 1
    else if layout.isPositional (point - 1) then layout.positional ds point
    else scientific ds (point - 1)
  if n.negative then '-' :: body else body

/-- The text of a finite number. -/
def text (layout : FloatLayout) (x : Binary64) : String :=
  String.ofList (layout.lay (x.shortest layout.tie))

end FloatLayout

/-- Plain notation: the point is always written in place, an integral value has
none, and an exact tie between two shortest decimals goes up. -/
def FloatLayout.plain : FloatLayout where
  positionalFrom := none
  positionalTo := none
  pointZero := false
  tie := .up

/-- The plain notation of any number, with words for the special ones. -/
def Binary64.plainText (x : Binary64) : String :=
  if x.isNaN then "NaN"
  else if x.isInfinite then (if x.negative then "-inf" else "inf")
  else FloatLayout.plain.text x

end Hyperslab
