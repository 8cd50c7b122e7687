/-
# `Hyperslab.Dataset.Tree` — walks along the tree

Three walks: up from a node to the groups that enclose it, down from a group to
its subgroups, and down from a variable to its fields.  Downward walks go through
larger and larger numbers and upward walks of attributes through their owners, so
each is cut off by a count of declarations that it cannot exceed.
-/
import Hyperslab.Dataset.Name

namespace Hyperslab

namespace Dataset

/-! ## Upwards -/

/-- The group that a declaration other than an attribute lies in; a group lies in
itself. -/
def groupOf? (d : Dataset) : Node → Option GroupId
  | .ofGroup g => some g
  | .ofDimension x => some (d.dimension x).group
  | .ofEnumeration e => some (d.enumeration e).group
  | .ofVariable v => some (d.var v).group
  | .ofAttribute _ => none

/-- The declaration at the end of a chain of at most `length` attributes that own
one another. -/
def finalOwnerWithin? (d : Dataset) : (length : Nat) → Node → Option Node
  | 0, .ofAttribute _ => none
  | length + 1, .ofAttribute a =>
    (d.attributes[a.index]?).bind fun x => d.finalOwnerWithin? length x.owner
  | _, n => some n

/-- The groups from the root down to the one that owns a node, both included. -/
def groupPath? (d : Dataset) (n : Node) : Option (List GroupId) := do
  let owner ← d.finalOwnerWithin? d.attributes.length n
  let g ← d.groupOf? owner
  return (d.group g).path

/-- The groups from the root down to the one that owns a variable. -/
def variablePath (d : Dataset) (v : VarId) : List GroupId := (d.group (d.var v).group).path

/-- The groups from the root down to the one that declares a dimension. -/
def dimensionPath (d : Dataset) (x : DimId) : List GroupId :=
  (d.group (d.dimension x).group).path

/-- The groups from the root down to the one that declares an enumeration. -/
def enumPath (d : Dataset) (e : EnumId) : List GroupId :=
  (d.group (d.enumeration e).group).path

/-! ## Downwards through groups -/

/-- A group followed by everything below it, parents first, down to a depth. -/
def groupsBelow (d : Dataset) : (depth : Nat) → GroupId → List GroupId
  | 0, g => [g]
  | depth + 1, g => g :: (d.group g).groups.flatMap (d.groupsBelow depth)

/-- All groups, each before its subgroups and those before its next sibling. -/
def groupOrder (d : Dataset) : List GroupId := d.groupsBelow d.groups.length .root

/-- The variables declared directly in groups, group after group. -/
def topLevelVariables (d : Dataset) : List VarId :=
  d.groupOrder.flatMap fun g => (d.group g).vars

end Dataset

/-! ## Downwards through fields -/

/-- A variable with the trees of its fields. -/
inductive VariableTree where
  | node (v : VarId) (fields : List VariableTree)
deriving Repr

/-- The variable at the top of a tree. -/
def VariableTree.top : VariableTree → VarId
  | .node v _ => v

namespace Dataset

/-- The tree of a variable down to a depth. -/
def treeWithin (d : Dataset) : (depth : Nat) → VarId → VariableTree
  | 0, v => .node v []
  | depth + 1, v => .node v ((d.fields v).map (d.treeWithin depth))

/-- The tree of a variable.  Fields have larger numbers than their owner, so no
tree is deeper than there are variables. -/
def tree (d : Dataset) (v : VarId) : VariableTree := d.treeWithin d.vars.length v

end Dataset

end Hyperslab
