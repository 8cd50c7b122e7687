/-
# `Hyperslab.Filter.Comparison` — comparing two values

Values of one type have an order: the one of numbers, of texts by their characters,
and false before true.  An integer and a binary number are compared as binary
numbers, two integers exactly.  Where something is not a number nothing holds but
being different.

Values that have no order at all are different too, but to ask which is the smaller
is an error.
-/
import Hyperslab.Filter.Scalar

namespace Hyperslab

/-- The relations between two values. -/
inductive Relation where
  | lt
  | le
  | gt
  | ge
  | eq
  | ne
deriving DecidableEq, Repr

namespace Relation

/-- The relation asks for an order. -/
def isOrdering : Relation → Bool
  | .lt | .le | .gt | .ge => true
  | .eq | .ne => false

/-- The relation between two things in a given order. -/
def admits : Relation → Ordering → Bool
  | .lt, o => o == .lt
  | .le, o => o != .gt
  | .gt, o => o == .gt
  | .ge, o => o != .lt
  | .eq, o => o == .eq
  | .ne, o => o != .eq

def symbol : Relation → String
  | .lt => "<"
  | .le => "<="
  | .gt => ">"
  | .ge => ">="
  | .eq => "=="
  | .ne => "!="

end Relation

/-- How two values stand to each other. -/
inductive Comparison where
  | ordered (o : Ordering)
  /-- One of them is not a number. -/
  | unordered
  /-- Values of different types. -/
  | incompatible
deriving DecidableEq, Repr

namespace Comparison

/-- The order of two binary numbers. -/
def ofNumbers (x y : Binary64) : Comparison :=
  match x.order? y with
  | some o => .ordered o
  | none => .unordered

/-- The comparison of two values. -/
def ofScalars : Scalar → Scalar → Comparison
  | .text s, .text t => .ordered (compare s t)
  | .bool a, .bool b => .ordered (compare a.toNat b.toNat)
  | .int i, .int j => .ordered (compare i j)
  | .int i, .float y => ofNumbers (.ofInt i) y
  | .float x, .int j => ofNumbers x (.ofInt j)
  | .float x, .float y => ofNumbers x y
  | _, _ => .incompatible

/-- The relation holds between two values that compare so; `none` when an order is asked
for where there cannot be one. -/
def satisfies? : Comparison → Relation → Option Bool
  | .ordered o, r => some (r.admits o)
  | .unordered, r => some (r == .ne)
  | .incompatible, r => if r.isOrdering then none else some (r == .ne)

end Comparison

/-- The relation holds between two values. -/
def Relation.holds? (r : Relation) (x y : Scalar) : Option Bool :=
  (Comparison.ofScalars x y).satisfies? r

end Hyperslab
