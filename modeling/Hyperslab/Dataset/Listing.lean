/-
# `Hyperslab.Dataset.Listing` — the indented listing of a dataset

One line for each named declaration, two blanks deeper for each group or compound
around it.  A group lists its dimensions, enumerations and variables with their
fields, and then its subgroups.
-/
import Hyperslab.Dataset.Tree

namespace Hyperslab

/-- A line of a listing: how deep it stands, and what it says. -/
structure ListingLine where
  depth : Nat
  words : String
deriving DecidableEq, Repr

/-- The line with its indentation and its end. -/
def ListingLine.text (l : ListingLine) : String :=
  String.ofList (List.replicate (2 * l.depth) ' ') ++ l.words ++ "\n"

namespace Dataset

/-- The word for the type of a variable. -/
def typeWord (d : Dataset) (v : VarId) : String :=
  match (d.var v).content with
  | .atomic (.enumeration e) => (d.enumeration e).name
  | .atomic t => t.name
  | .struct _ => "structure"
  | .sequence _ => "sequence"

/-- The name of a dimension in brackets, or its size. -/
def dimensionWord (d : Dataset) (x : DimId) : String :=
  match (d.dimension x).name with
  | some name => "[" ++ name ++ "]"
  | none => "[" ++ toString (d.dimension x).size ++ "]"

/-- The words of a variable's line. -/
def variableWords (d : Dataset) (v : VarId) : String :=
  d.typeWord v ++ " " ++ (d.var v).name ++ String.join ((d.var v).dimensions.map d.dimensionWord)

mutual

/-- The lines of a variable and of its fields below it. -/
def variableLines (d : Dataset) (depth : Nat) : VariableTree → List ListingLine
  | .node v fields => ⟨depth, d.variableWords v⟩ :: d.fieldLines (depth + 1) fields

/-- The lines of the fields of a variable. -/
def fieldLines (d : Dataset) (depth : Nat) : List VariableTree → List ListingLine
  | [] => []
  | t :: rest => d.variableLines depth t ++ d.fieldLines depth rest

end

/-- The line of a dimension. -/
def dimensionLine (d : Dataset) (depth : Nat) (x : DimId) : ListingLine :=
  ⟨depth, "dimension " ++ (d.dimension x).name.getD "?" ++ " = " ++ toString (d.dimension x).size⟩

/-- The line of an enumeration. -/
def enumLine (d : Dataset) (depth : Nat) (e : EnumId) : ListingLine :=
  ⟨depth, "enum " ++ (d.enumeration e).name ++ " : " ++ (d.enumeration e).base.name⟩

/-- The lines of what a group declares, except for its subgroups. -/
def contentLines (d : Dataset) (depth : Nat) (g : GroupId) : List ListingLine :=
  (d.group g).dimensions.map (d.dimensionLine depth)
    ++ (d.group g).enums.map (d.enumLine depth)
    ++ (d.group g).vars.flatMap fun v => d.variableLines depth (d.tree v)

/-- The lines below a group at a depth, down to a number of levels of subgroups. -/
def groupLines (d : Dataset) : (levels : Nat) → (depth : Nat) → GroupId → List ListingLine
  | 0, depth, g => d.contentLines depth g
  | levels + 1, depth, g =>
    d.contentLines depth g ++ (d.group g).groups.flatMap fun h =>
      ⟨depth, "group " ++ (d.group h).name⟩ :: d.groupLines levels (depth + 1) h

/-- All lines of the listing. -/
def listing (d : Dataset) : List ListingLine :=
  ⟨0, "dataset " ++ d.name⟩ :: d.groupLines d.groups.length 1 .root

/-- The text of the listing. -/
def describe (d : Dataset) : String := String.join (d.listing.map ListingLine.text)

end Dataset

end Hyperslab
