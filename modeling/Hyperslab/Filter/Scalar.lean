/-
# `Hyperslab.Filter.Scalar` — single values

The values that records hold and that filters are written with.  A scalar has two
texts: `display` is the bare value, and `literal` the way it stands in a filter,
where a string is quoted so that it cannot be taken for anything else.
-/
import Hyperslab.Decimal.Layout

namespace Hyperslab

/-- A single value. -/
inductive Scalar where
  | bool (b : Bool)
  | int (i : Int)
  | float (x : Binary64)
  | text (s : String)
deriving DecidableEq, Repr

namespace Scalar

/-- The word for the type of a value. -/
def typeName : Scalar → String
  | .bool _ => "boolean"
  | .int _ => "integer"
  | .float _ => "float"
  | .text _ => "string"

/-- The truth value, if the value is one. -/
def bool? : Scalar → Option Bool
  | .bool b => some b
  | _ => none

/-- The number as a binary one, if the value is a number. -/
def number? : Scalar → Option Binary64
  | .int i => some (.ofInt i)
  | .float x => some x
  | _ => none

/-- The bare text of a value. -/
def display : Scalar → String
  | .bool b => if b then "true" else "false"
  | .int i => toString i
  | .float x => x.plainText
  | .text s => s

/-- One character of a quoted string: a backslash stands before quotes and
backslashes. -/
def escape (c : Char) : List Char :=
  if c = '\x22' ∨ c = '\\' then ['\\', c] else [c]

/-- A string in quotes. -/
def quote (s : String) : String :=
  "\x22" ++ String.ofList (s.toList.flatMap escape) ++ "\x22"

/-- The text of a value inside a filter. -/
def literal : Scalar → String
  | .text s => quote s
  | v => v.display

end Scalar

end Hyperslab
