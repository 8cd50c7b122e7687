/-
# `Hyperslab.Dataset.Name` — qualified names and what they denote

A group is named by the path from the root, `/a/b`; a declaration in it by one
more component, `/a/b/v`; a field by points after its variable, `/a/b/v.f.g`.  The
root is `/`.

The way back is by *search*: each component picks the first child of that name.
Slashes may be doubled, left out in front, or left over at the end of a group's
name, and the search does not mind.  A name that fits several kinds of
declarations denotes the variable first, then the dimension, then the
enumeration, then the group.
-/
import Hyperslab.Dataset.Basic
import Hyperslab.Text.Split

namespace Hyperslab.Dataset

/-! ## From handles to names -/

/-- The qualified name of a group. -/
def groupName (d : Dataset) (g : GroupId) : String :=
  match (d.group g).path.drop 1 with
  | [] => "/"
  | below => String.join (below.map fun h => "/" ++ (d.group h).name)

/-- The name of a declaration in a group. -/
def qualify (d : Dataset) (g : GroupId) (name : String) : String :=
  let group := d.groupName g
  if group = "/" then "/" ++ name else group ++ "/" ++ name

/-- The qualified name of a variable that lies below at most `depth` compounds. -/
def variableNameWithin (d : Dataset) : (depth : Nat) → VarId → String
  | 0, v => d.qualify (d.var v).group (d.var v).name
  | depth + 1, v =>
    match (d.var v).owner with
    | .group g => d.qualify g (d.var v).name
    | .compound p => d.variableNameWithin depth p ++ "." ++ (d.var v).name

/-- The qualified name of a variable.  An owner has a smaller number than what it
owns, so the number of a variable bounds its depth. -/
def variableName (d : Dataset) (v : VarId) : String := d.variableNameWithin v.index v

/-- The qualified name of a dimension, if it has a name. -/
def dimensionName? (d : Dataset) (x : DimId) : Option String :=
  (d.dimension x).name.map (d.qualify (d.dimension x).group)

/-- The qualified name of an enumeration. -/
def enumName (d : Dataset) (e : EnumId) : String :=
  d.qualify (d.enumeration e).group (d.enumeration e).name

/-- The label of a dimension: its qualified name, or else its size. -/
def dimensionLabel (d : Dataset) (x : DimId) : String :=
  (d.dimensionName? x).getD s!"[{(d.dimension x).size}]"

/-! ## Children by name -/

/-- The subgroup of a group with a name of its own. -/
def childGroup? (d : Dataset) (g : GroupId) (name : String) : Option GroupId :=
  (d.group g).groups.find? fun h => (d.group h).name == name

/-- The dimension that a group declares under a name. -/
def childDimension? (d : Dataset) (g : GroupId) (name : String) : Option DimId :=
  (d.group g).dimensions.find? fun x => (d.dimension x).name == some name

/-- The enumeration that a group declares under a name. -/
def childEnum? (d : Dataset) (g : GroupId) (name : String) : Option EnumId :=
  (d.group g).enums.find? fun e => (d.enumeration e).name == name

/-- The variable that a group declares under a name. -/
def childVariable? (d : Dataset) (g : GroupId) (name : String) : Option VarId :=
  (d.group g).vars.find? fun v => (d.var v).name == name

/-- The direct field of a variable under a name. -/
def field? (d : Dataset) (v : VarId) (name : String) : Option VarId :=
  (d.fields v).find? fun f => (d.var f).name == name

/-! ## From names to handles -/

/-- The group reached from a group by names, one after the other. -/
def descendGroups? (d : Dataset) (g : GroupId) : List String → Option GroupId
  | [] => some g
  | name :: rest => (d.childGroup? g name).bind fun h => d.descendGroups? h rest

/-- The field reached from a variable by names, one after the other. -/
def descendFields? (d : Dataset) (v : VarId) : List String → Option VarId
  | [] => some v
  | name :: rest => (d.field? v name).bind fun f => d.descendFields? f rest

/-- The components of a group's name; empty ones do not count. -/
def components (name : List Char) : List String :=
  ((Text.splitAll '/' name).filter fun piece => !piece.isEmpty).map String.ofList

/-- The part of a name that names a group, and the part after it. -/
def splitName (name : String) : List Char × List Char :=
  (Text.splitLast? '/' name.toList).getD ([], name.toList)

/-- The group with a qualified name. -/
def findGroup? (d : Dataset) (name : String) : Option GroupId :=
  d.descendGroups? .root (components name.toList)

/-- The group that the first part of a qualified name denotes. -/
def findHome? (d : Dataset) (name : String) : Option GroupId :=
  d.descendGroups? .root (components (splitName name).1)

/-- The variable or field with a qualified name. -/
def findVariable? (d : Dataset) (name : String) : Option VarId := do
  let home ← d.findHome? name
  match (Text.splitAll '.' (splitName name).2).map String.ofList with
  | [] => none
  | first :: rest =>
    let v ← d.childVariable? home first
    d.descendFields? v rest

/-- The dimension with a qualified name. -/
def findDimension? (d : Dataset) (name : String) : Option DimId := do
  let home ← d.findHome? name
  d.childDimension? home (String.ofList (splitName name).2)

/-- The enumeration with a qualified name. -/
def findEnum? (d : Dataset) (name : String) : Option EnumId := do
  let home ← d.findHome? name
  d.childEnum? home (String.ofList (splitName name).2)

/-- Whatever a qualified name denotes. -/
def lookup? (d : Dataset) (name : String) : Option Node :=
  if name = "/" ∨ name = "" then some (.ofGroup .root)
  else
    ((d.findVariable? name).map Node.ofVariable)
      <|> ((d.findDimension? name).map Node.ofDimension)
      <|> ((d.findEnum? name).map Node.ofEnumeration)
      <|> ((d.findGroup? name).map Node.ofGroup)

end Hyperslab.Dataset
