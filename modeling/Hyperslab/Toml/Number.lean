/-
# `Hyperslab.Toml.Number` — integers and floating-point numbers

Digits may be grouped by single underscores between them.  A decimal integer has
no leading zero, and every integer fits in 64 bits with a sign.  A decimal with a
point or an exponent is a floating-point number; it may overflow to negative, but
not to positive infinity.
-/
import Hyperslab.Toml.Value
import Hyperslab.Toml.Scan
import Hyperslab.Toml.Text

namespace Hyperslab.Toml

/-- Further digits of a run, without the underscores between them. -/
def moreDigits (digit : Char → Bool) : List Char → Option (List Char × List Char)
  | [] => some ([], [])
  | c :: rest =>
    if digit c then (moreDigits digit rest).map fun r => (c :: r.1, r.2)
    else if c = '_' then
      match rest with
      | [] => none
      | next :: _ => if digit next then moreDigits digit rest else none
    else some ([], c :: rest)

/-- A run of digits, which starts with one. -/
def digitRun? (digit : Char → Bool) : Reader (List Char)
  | [] => none
  | c :: rest => if digit c then moreDigits digit (c :: rest) else none

/-- A run of decimal digits without a leading zero; a zero stands alone. -/
def decimalRun? : Reader (List Char)
  | '0' :: rest => some (['0'], rest)
  | cs => digitRun? Char.isDigit cs

/-- `2^63`, below which integers have to stay. -/
def integerBound : Int := 9223372036854775808

/-- An integer, if it fits. -/
def integerValue? (i : Int) : Option Value :=
  if -integerBound ≤ i ∧ i < integerBound then some (.integer i) else none

/-- The value of digits in a base of two, eight or sixteen. -/
def radixValue (base : Nat) (ds : List Char) : Nat :=
  ds.foldl (fun n c => base * n + (hexDigit? c).getD 0) 0

/-- An integer in a base, after its mark. -/
def radixInteger? (base : Nat) (cs : List Char) : Option (Value × List Char) := do
  let (ds, rest) ← digitRun? (fun c => (hexDigit? c).any (· < base)) cs
  let v ← integerValue? (radixValue base ds)
  return (v, rest)

/-- The exponent of a decimal, if one follows. -/
def exponentPart? : List Char → Option (Int × List Char)
  | [] => none
  | c :: rest =>
    if c = 'e' ∨ c = 'E' then do
      let (negative, rest) := Numeral.splitSign rest
      let (ds, rest) ← digitRun? Char.isDigit rest
      let value : Int := decimalValue ds
      return (if negative then -value else value, rest)
    else none

/-- The next character begins an exponent. -/
def startsExponent : List Char → Bool
  | c :: _ => c == 'e' || c == 'E'
  | [] => false

/-- A floating-point number, unless it is too large. -/
def floatValue? (n : Numeral) : Option Value :=
  let x := n.toBinary64
  if x = .infinity false then none else some (.float x)

/-- What follows the integer digits of a number. -/
def decimalTail? (negative : Bool) (whole : List Char) : Reader Value
  | '.' :: rest => do
    let (fraction, rest) ← digitRun? Char.isDigit rest
    let (exponent, rest) ← if startsExponent rest then exponentPart? rest else some (0, rest)
    let v ← floatValue? ⟨negative, decimalValue (whole ++ fraction), exponent - fraction.length⟩
    return (v, rest)
  | rest =>
    if startsExponent rest then do
      let (exponent, rest) ← exponentPart? rest
      let v ← floatValue? ⟨negative, decimalValue whole, exponent⟩
      return (v, rest)
    else do
      let value : Int := decimalValue whole
      let v ← integerValue? (if negative then -value else value)
      return (v, rest)

/-- A number after its sign: a word for a special one, or decimal digits. -/
def signedNumber? (negative : Bool) : Reader Value
  | 'i' :: 'n' :: 'f' :: rest => some (.float (.infinity negative), rest)
  | 'n' :: 'a' :: 'n' :: rest => some (.float { Binary64.notANumber with negative }, rest)
  | cs => do
    let (whole, rest) ← decimalRun? cs
    decimalTail? negative whole rest

/-- A number.  Only decimal ones have a sign. -/
def number? : Reader Value
  | '0' :: 'x' :: rest => radixInteger? 16 rest
  | '0' :: 'o' :: rest => radixInteger? 8 rest
  | '0' :: 'b' :: rest => radixInteger? 2 rest
  | cs =>
    let (negative, rest) := Numeral.splitSign cs
    signedNumber? negative rest

end Hyperslab.Toml
