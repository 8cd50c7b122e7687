/-
# `Hyperslab.Dataset.Node` — handles to declarations

Each kind of declaration is numbered from zero in order of declaration, and a
handle is such a number.  Handles of different kinds are different types, so a
dimension cannot be taken for a variable; a `Node` is a handle together with its
kind.  A handle by itself promises nothing about any dataset.
-/

namespace Hyperslab

@[ext] structure GroupId where
  index : Nat
deriving DecidableEq, Repr

@[ext] structure DimId where
  index : Nat
deriving DecidableEq, Repr

@[ext] structure EnumId where
  index : Nat
deriving DecidableEq, Repr

@[ext] structure VarId where
  index : Nat
deriving DecidableEq, Repr

@[ext] structure AttrId where
  index : Nat
deriving DecidableEq, Repr

/-- The group that is the dataset itself. -/
def GroupId.root : GroupId := ⟨0⟩

def GroupId.text (g : GroupId) : String := s!"GroupId({g.index})"
def DimId.text (d : DimId) : String := s!"DimId({d.index})"
def EnumId.text (e : EnumId) : String := s!"EnumId({e.index})"
def VarId.text (v : VarId) : String := s!"VarId({v.index})"
def AttrId.text (a : AttrId) : String := s!"AttrId({a.index})"

/-- Any declaration of a dataset. -/
inductive Node where
  | ofGroup (g : GroupId)
  | ofDimension (d : DimId)
  | ofEnumeration (e : EnumId)
  | ofVariable (v : VarId)
  | ofAttribute (a : AttrId)
deriving DecidableEq, Repr

namespace Node

/-- The kind of a node, which tells the root apart from other groups. -/
inductive Kind where
  | dataset
  | group
  | dimension
  | enumeration
  | var
  | attr
deriving DecidableEq, Repr

def kind : Node → Kind
  | .ofGroup g => if g = .root then .dataset else .group
  | .ofDimension _ => .dimension
  | .ofEnumeration _ => .enumeration
  | .ofVariable _ => .var
  | .ofAttribute _ => .attr

/-- Part of the tree of declarations; attributes only hang on it. -/
def isStructural : Node → Bool
  | .ofAttribute _ => false
  | _ => true

/-- A node with its handle spelt out. -/
def text : Node → String
  | .ofGroup g => "Group(" ++ g.text ++ ")"
  | .ofDimension d => "Dimension(" ++ d.text ++ ")"
  | .ofEnumeration e => "Enumeration(" ++ e.text ++ ")"
  | .ofVariable v => "Variable(" ++ v.text ++ ")"
  | .ofAttribute a => "Attribute(" ++ a.text ++ ")"

end Node

/-- The word for a kind of node. -/
def Node.Kind.word : Node.Kind → String
  | .dataset => "dataset"
  | .group => "group"
  | .dimension => "dimension"
  | .enumeration => "enumeration"
  | .var => "variable"
  | .attr => "attribute"

end Hyperslab
