/-
# `Hyperslab.Decimal.Numeral` — decimal numerals

A numeral is a sign, an integer of decimal digits, and a power of ten.  This is
what a program reads before it rounds: `1.50e3` is `150 · 10^1`.  The digits are
kept exactly and rounded once, by `Numeral.toBinary64`.

A numeral is read from `[sign] digits [. digits] [e [sign] digits]`, where one of
the two groups of digits may be missing.  `Binary64.ofText?` adds the words for
infinity and for a value that is not a number, in any mixture of cases.
-/
import Hyperslab.Decimal.Binary64

namespace Hyperslab

/-- The value `± digits · 10 ^ exponent`. -/
structure Numeral where
  negative : Bool
  digits : Nat
  exponent : Int
deriving DecidableEq, Repr

/-- The value of a run of decimal digits, most significant first. -/
def decimalValue (ds : List Char) : Nat :=
  ds.foldl (fun n c => 10 * n + (c.toNat - '0'.toNat)) 0

/-- The number of decimal digits of a natural number. -/
def decimalLength (n : Nat) : Nat := (Nat.toDigits 10 n).length

namespace Numeral

/-- The closest binary number.  A numeral too long to matter on either side is
decided by its length, so that no astronomic power is ever computed. -/
def toBinary64 (n : Numeral) : Binary64 :=
  let order := (decimalLength n.digits : Int) + n.exponent
  if n.digits = 0 then .zero n.negative
  else if 400 < order then .infinity n.negative
  else if order < -400 then .zero n.negative
  else if 0 ≤ n.exponent then .nearest n.negative (n.digits * Nat.pow 10 n.exponent.toNat) 1
  else .nearest n.negative n.digits (Nat.pow 10 (-n.exponent).toNat)

/-- An optional sign, and what follows it. -/
def splitSign : List Char → Bool × List Char
  | '-' :: cs => (true, cs)
  | '+' :: cs => (false, cs)
  | cs => (false, cs)

/-- The exponent part of a numeral, which must reach the end of the text. -/
def exponent? : List Char → Option Int
  | [] => some 0
  | c :: cs =>
    let (negative, ds) := splitSign cs
    if (c == 'e' || c == 'E') && !ds.isEmpty && ds.all Char.isDigit then
      let value : Int := decimalValue ds
      some (if negative then -value else value)
    else none

/-- A numeral without its sign. -/
def unsigned? (negative : Bool) (cs : List Char) : Option Numeral :=
  let whole := cs.takeWhile Char.isDigit
  let (fraction, rest) := match cs.dropWhile Char.isDigit with
    | '.' :: tail => (tail.takeWhile Char.isDigit, tail.dropWhile Char.isDigit)
    | tail => ([], tail)
  if whole.isEmpty && fraction.isEmpty then none
  else do
    let exponent ← exponent? rest
    some ⟨negative, decimalValue (whole ++ fraction), exponent - fraction.length⟩

end Numeral

/-- The number that a text writes, if it writes one. -/
def Binary64.ofText? (cs : List Char) : Option Binary64 :=
  let (negative, body) := Numeral.splitSign cs
  let word := String.ofList (body.map Char.toLower)
  if word = "inf" ∨ word = "infinity" then some (.infinity negative)
  else if word = "nan" then some { Binary64.notANumber with negative }
  else (Numeral.unsigned? negative body).map Numeral.toBinary64

end Hyperslab
