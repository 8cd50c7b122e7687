/-
# `Hyperslab.Decimal.Binary64` — binary floating-point numbers of 64 bits

A number is a sign and a *magnitude*: the 63 bits below the sign, read as one
natural number.  The encoding makes magnitudes monotone, so the order of two
numbers is the order of two integers, and no case distinction between normal
and subnormal numbers is ever needed:

    magnitude = scale · 2^52 + significand,   value = significand · 2^(scale - 1074)

with `significand < 2^53`, and `2^52 ≤ significand` unless the scale is zero.
Magnitudes above that of infinity are not numbers.

`nearest` rounds a quotient of natural numbers to the closest number, a tie going
to the even significand.  It is the only place where precision is lost.
-/

namespace Hyperslab

/-- A binary floating-point number: its sign and the 63 bits below it. -/
structure Binary64 where
  negative : Bool
  magnitude : Nat
deriving DecidableEq, Repr

namespace Binary64

/-- `2^52`, the number of magnitudes that share a scale. -/
def unit : Nat := 4503599627370496

/-- The magnitude of infinity: an exponent of ones and no fraction. -/
def infinite : Nat := 2047 * unit

/-- A signed infinity. -/
def infinity (negative : Bool) : Binary64 := ⟨negative, infinite⟩

/-- A value that is not a number. -/
def notANumber : Binary64 := ⟨false, infinite + unit / 2⟩

/-- A signed zero. -/
def zero (negative : Bool) : Binary64 := ⟨negative, 0⟩

def isNaN (x : Binary64) : Bool := infinite < x.magnitude

def isInfinite (x : Binary64) : Bool := x.magnitude == infinite

/-! ## The value of a finite number -/

/-- The power of two that the significand counts, shifted by 1074. -/
def scale (x : Binary64) : Nat := x.magnitude / unit - 1

/-- The integer that the power of two multiplies. -/
def significand (x : Binary64) : Nat := x.magnitude - x.scale * unit

/-! ## Order -/

/-- The position on the line of numbers; both zeros stand at the origin. -/
def position (x : Binary64) : Int :=
  if x.negative then -(x.magnitude : Int) else x.magnitude

/-- The order of two numbers, if both are numbers. -/
def order? (x y : Binary64) : Option Ordering :=
  if x.isNaN || y.isNaN then none else some (compare x.position y.position)

/-! ## Rounding -/

/-- The quotient rounded to an integer, a tie to the even neighbour. -/
def roundQuotient (num den : Nat) : Nat :=
  let q := num / den
  let r := num % den
  if 2 * r < den then q
  else if den < 2 * r then q + 1
  else if q % 2 = 0 then q else q + 1

/-- A rounded quotient is at most half a unit too small. -/
theorem two_mul_le_roundQuotient (num : Nat) {den : Nat} (h : 0 < den) :
    2 * num ≤ 2 * roundQuotient num den * den + den := by
  have parts := Nat.div_add_mod num den
  have small := Nat.mod_lt num h
  have down : 2 * (num / den) * den = 2 * (den * (num / den)) := by
    rw [Nat.mul_assoc, Nat.mul_comm (num / den)]
  have up : 2 * (num / den + 1) * den = 2 * (den * (num / den)) + 2 * den := by
    rw [Nat.mul_add, Nat.add_mul, down]
  unfold roundQuotient
  dsimp only
  repeat' split
  all_goals omega

/-- A rounded quotient is at most half a unit too great. -/
theorem roundQuotient_le_two_mul (num : Nat) {den : Nat} (h : 0 < den) :
    2 * roundQuotient num den * den ≤ 2 * num + den := by
  have parts := Nat.div_add_mod num den
  have small := Nat.mod_lt num h
  have down : 2 * (num / den) * den = 2 * (den * (num / den)) := by
    rw [Nat.mul_assoc, Nat.mul_comm (num / den)]
  have up : 2 * (num / den + 1) * den = 2 * (den * (num / den)) + 2 * den := by
    rw [Nat.mul_add, Nat.add_mul, down]
  unfold roundQuotient
  dsimp only
  repeat' split
  all_goals omega

/-- A tie goes to the even neighbour. -/
theorem even_roundQuotient_of_tie {num den : Nat} (h : 2 * (num % den) = den) :
    roundQuotient num den % 2 = 0 := by
  unfold roundQuotient
  dsimp only
  rw [if_neg (by omega), if_neg (by omega)]
  split <;> omega

/-- The number closest to `num / den`, for a positive `den`. -/
def nearest (negative : Bool) (num den : Nat) : Binary64 :=
  let scaled := num * Nat.pow 2 1074
  let scale := Nat.log2 (scaled / den) - 52
  let magnitude := scale * unit + roundQuotient scaled (den * Nat.pow 2 scale)
  ⟨negative, min magnitude infinite⟩

/-- The number closest to an integer. -/
def ofInt (i : Int) : Binary64 := nearest (i < 0) i.natAbs 1

end Binary64

end Hyperslab
