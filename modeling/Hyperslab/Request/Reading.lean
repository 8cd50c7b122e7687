/-
# `Hyperslab.Request.Reading` — requests as documents

A request is written as a document of records, none of which may have keys that mean
nothing.  A record may also be an array of its members, and then what comes after the
last member is ignored.

A filter is a table with a single entry, whose key says what kind of filter it is.
-/
import Hyperslab.Filter.Record
import Hyperslab.Request.Basic

namespace Hyperslab

open Toml (Form Members Value)

namespace SliceBounds

def form : Form :=
  ⟨[("first", .omittable), ("stride", .omittable), ("stop", .omittable)], true, false⟩

/-- The bounds that a value writes. -/
def ofValue? (v : Value) : Option SliceBounds := do
  let ms ← form.members? v
  return ⟨← ms.find? "first" Value.natural?, ← ms.find? "stride" Value.natural?,
    ← ms.find? "stop" Value.natural?⟩

end SliceBounds

namespace Projection

def form : Form := ⟨[("variable", .required), ("slices", .defaulted)], true, false⟩

/-- The projection that a value writes. -/
def ofValue? (v : Value) : Option Projection := do
  let ms ← form.members? v
  return ⟨← ms.get? "variable" Value.string?,
    ← ms.find? "slices" (Value.list? SliceBounds.ofValue?)⟩

end Projection

namespace Redefinition

def form : Form := ⟨[("dimension", .required), ("slice", .required)], true, false⟩

/-- The redefinition that a value writes. -/
def ofValue? (v : Value) : Option Redefinition := do
  let ms ← form.members? v
  return ⟨← ms.get? "dimension" Value.string?, ← ms.get? "slice" SliceBounds.ofValue?⟩

end Redefinition

namespace Overlay

def form : Form :=
  ⟨[("node", .required), ("name", .required), ("type", .defaulted), ("values", .defaulted)],
    true, false⟩

/-- The overlay that a value writes. -/
def ofValue? (v : Value) : Option Overlay := do
  let ms ← form.members? v
  return ⟨← ms.get? "node" Value.string?, ← ms.get? "name" Value.string?,
    ← ms.getD? "type" Value.string? "string",
    ← ms.getD? "values" (Value.list? Value.string?) []⟩

end Overlay

/-! ## Filters -/

/-- The entry of a table that has only one. -/
def Toml.Value.single? : Value → Option (String × Value)
  | .table [entry] => some entry
  | _ => none

/-- A table or an array with nothing in it. -/
def Toml.Value.isHollow : Value → Bool
  | .table [] => true
  | .array [] => true
  | _ => false

/-- The operator that a value writes: its symbol, or a table with the symbol as its only
key. -/
def Operator.ofValue? : Value → Option Operator
  | .string s => ofSymbol? s
  | v => do
    let (symbol, content) ← v.single?
    if content.isHollow then ofSymbol? symbol else none

/-- The key is a decimal numeral for a number. -/
def isKeyOf (n : Nat) (key : String) : Bool :=
  let ds := match key.toList with
    | '+' :: ds => ds
    | ds => ds
  !ds.isEmpty && ds.all Char.isDigit && decimalValue ds == n

/-- Two values in an array, or in a table under their numbers. -/
def Toml.Value.pair? : Value → Option (Value × Value)
  | .array [a, b] => some (a, b)
  | .table [(k, a), (l, b)] => if isKeyOf 0 k && isKeyOf 1 l then some (a, b) else none
  | _ => none

namespace Expr

def comparisonForm : Form :=
  ⟨[("op", .required), ("lhs", .required), ("rhs", .required)], true, false⟩

/-- The filter that a value of limited height writes. -/
def ofValueWithin? : (height : Nat) → Value → Option Expr
  | 0, _ => none
  | height + 1, v => do
    let (key, content) ← v.single?
    if key = "and" then
      let (a, b) ← content.pair?
      return .and (← ofValueWithin? height a) (← ofValueWithin? height b)
    else if key = "compare" then
      let ms ← comparisonForm.members? content
      return .compare (← ms.get? "op" Operator.ofValue?)
        (← ms.get? "lhs" (ofValueWithin? height)) (← ms.get? "rhs" (ofValueWithin? height))
    else if key = "field" then content.string?.map .field
    else if key = "literal" then content.scalar?.map .literal
    else none

/-- The filter that a value writes. -/
def ofValue? (v : Value) : Option Expr := ofValueWithin? (v.height + 1) v

end Expr

namespace FilterRequest

def form : Form := ⟨[("variable", .required), ("expr", .required)], true, false⟩

/-- The filter request that a value writes. -/
def ofValue? (v : Value) : Option FilterRequest := do
  let ms ← form.members? v
  return ⟨← ms.get? "variable" Value.string?, ← ms.get? "expr" Expr.ofValue?⟩

end FilterRequest

/-! ## Whole requests -/

namespace Request

def form : Form :=
  ⟨[("universal", .defaulted), ("expand", .omittable), ("project", .defaulted),
    ("redef", .defaulted), ("filter", .defaulted), ("attribute", .defaulted)], true, false⟩

/-- The request that a value writes. -/
def ofValue? (v : Value) : Option Request := do
  let ms ← form.members? v
  return ⟨← ms.getD? "universal" Value.boolean? false,
    ← ms.find? "expand" Value.boolean?,
    ← ms.getD? "project" (Value.list? Projection.ofValue?) [],
    ← ms.getD? "redef" (Value.list? Redefinition.ofValue?) [],
    ← ms.getD? "filter" (Value.list? FilterRequest.ofValue?) [],
    ← ms.getD? "attribute" (Value.list? Overlay.ofValue?) []⟩

/-- The request that a document writes. -/
def read? (text : String) : Option Request := (Toml.read? text).bind ofValue?

end Request

end Hyperslab
