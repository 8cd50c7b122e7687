/-
# `Hyperslab.Unicode.Table` — tables of the standard

The standard lists some sets of characters code by code, and describes others by what
they are made of.  A `Table` keeps either: a text of hexadecimal codes, or sets put
together.  Nothing is computed before the ranges of a table are asked for.
-/
import Hyperslab.Unicode.Ranges

namespace Hyperslab.Unicode

/-- A set of codes as it is written. -/
inductive Table where
  /-- Codes and ranges of codes in ascending order. -/
  | codes (text : String)
  | union (a b : Table)
  | inter (a b : Table)
  | diff (a b : Table)
  /-- All other codes. -/
  | others (a : Table)

namespace Table

instance : Union Table := ⟨.union⟩

instance : Inter Table := ⟨.inter⟩

instance : SDiff Table := ⟨.diff⟩

/-- No codes. -/
def empty : Table := .codes ""

/-- The codes of all tables of a list. -/
def unionOf : List Table → Table
  | [] => empty
  | [t] => t
  | t :: rest => t ∪ unionOf rest

/-- The ranges of a table. -/
def ranges : Table → Ranges
  | .codes text => .ofText text
  | .union a b => a.ranges.union b.ranges
  | .inter a b => a.ranges.inter b.ranges
  | .diff a b => a.ranges.diff b.ranges
  | .others a => a.ranges.complement

end Table

/-- A table and its names, in small letters without blanks, hyphens and underscores. -/
structure NamedTable where
  names : List String
  table : Table

/-- The table with a name. -/
def findTable? (tables : List NamedTable) (name : String) : Option Table :=
  (tables.find? fun t => t.names.contains name).map NamedTable.table

end Hyperslab.Unicode
