/-
# `Hyperslab.Toml.Value` — the data of a TOML document

Tables keep their entries in the order in which the document made them.  A date
and time has no use anywhere in this library; it is kept as its normalized text,
and where a table is wanted it counts as the table of one entry, `dateTimeKey`.
-/
import Hyperslab.Decimal.Numeral

namespace Hyperslab.Toml

/-- A value of a document. -/
inductive Value where
  | string (s : String)
  | integer (i : Int)
  | float (x : Binary64)
  | boolean (b : Bool)
  | dateTime (text : String)
  | array (items : List Value)
  | table (entries : List (String × Value))
deriving Repr

namespace Value

/-- The key of the only entry of a date and time. -/
def dateTimeKey : String := "$__toml_private_datetime"

/-- The entries of what counts as a table. -/
def entries? : Value → Option (List (String × Value))
  | .table entries => some entries
  | .dateTime text => some [(dateTimeKey, .string text)]
  | _ => none

mutual

/-- How deeply tables and arrays are nested. -/
def height : Value → Nat
  | .array items => itemsHeight items + 1
  | .table entries => entriesHeight entries + 1
  | .string _ => 0
  | .integer _ => 0
  | .float _ => 0
  | .boolean _ => 0
  | .dateTime _ => 0

/-- The height of the highest item. -/
def itemsHeight : List Value → Nat
  | [] => 0
  | v :: rest => max v.height (itemsHeight rest)

/-- The height of the highest entry. -/
def entriesHeight : List (String × Value) → Nat
  | [] => 0
  | (_, v) :: rest => max v.height (entriesHeight rest)

end

end Value

end Hyperslab.Toml
