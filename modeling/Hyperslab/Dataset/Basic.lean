/-
# `Hyperslab.Dataset.Basic` — what a dataset declares

A dataset is a tree of groups.  A group declares dimensions, enumerations,
variables and further groups; a variable is atomic, or a structure or sequence
with fields that are variables again.  Attributes hang on any of these.

The tree is kept flat: one list of declarations for each kind, in order of
declaration, with handles for the edges in both directions.  A child is declared
after its parent, so its number is larger; every walk along the edges ends for
that reason, and the walks of this library count it down.

Looking up a handle that the dataset does not have gives an empty declaration.
Nothing is ever attached to one: `Dataset.Declaration` refuses such handles.
-/
import Hyperslab.Dataset.AtomicType

namespace Hyperslab

/-- A group, or the dataset itself. -/
structure Group where
  id : GroupId
  name : String
  parent : Option GroupId
  /-- The groups from the root down to this one, both included. -/
  path : List GroupId
  groups : List GroupId
  dimensions : List DimId
  enums : List EnumId
  vars : List VarId
deriving DecidableEq, Repr

/-- A dimension.  Shared dimensions have a name and are declared in a group; an
anonymous one is just a size at one position of one variable. -/
structure Dimension where
  id : DimId
  name : Option String
  size : Nat
  shared : Bool
  group : GroupId
deriving DecidableEq, Repr

/-- The same dimension with another size. -/
def Dimension.withSize (d : Dimension) (size : Nat) : Dimension := { d with size }

/-- An enumeration: a base type and named constants. -/
structure Enumeration where
  id : EnumId
  name : String
  base : AtomicType
  constants : List (String × Int)
  group : GroupId
deriving DecidableEq, Repr

/-- What a variable belongs to. -/
inductive Owner where
  | group (g : GroupId)
  /-- A structure or sequence that the variable is a field of. -/
  | compound (v : VarId)
deriving DecidableEq, Repr

/-- What a variable consists of. -/
inductive Content where
  | atomic (base : AtomicType)
  | struct (fields : List VarId)
  /-- A structure whose instances come as a stream of records. -/
  | sequence (fields : List VarId)
deriving DecidableEq, Repr

namespace Content

/-- The fields of a structure or sequence. -/
def fields : Content → List VarId
  | .atomic _ => []
  | .struct fs => fs
  | .sequence fs => fs

/-- One more field at the end. -/
def addField (f : VarId) : Content → Content
  | .atomic t => .atomic t
  | .struct fs => .struct (fs ++ [f])
  | .sequence fs => .sequence (fs ++ [f])

/-- Only structures and sequences take fields. -/
theorem fields_addField (f : VarId) (c : Content) :
    (c.addField f).fields = match c with
      | .atomic _ => []
      | _ => c.fields ++ [f] := by
  cases c <;> rfl

end Content

structure Variable where
  id : VarId
  name : String
  owner : Owner
  /-- The nearest enclosing group. -/
  group : GroupId
  dimensions : List DimId
  content : Content
deriving DecidableEq, Repr

namespace Variable

def rank (v : Variable) : Nat := v.dimensions.length

/-- Declared directly in a group. -/
def isTopLevel (v : Variable) : Bool :=
  match v.owner with
  | .group _ => true
  | .compound _ => false

/-- A structure or a sequence. -/
def isCompound (v : Variable) : Bool :=
  match v.content with
  | .atomic _ => false
  | _ => true

def isSequence (v : Variable) : Bool :=
  match v.content with
  | .sequence _ => true
  | _ => false

/-- The type of an atomic variable. -/
def base? (v : Variable) : Option AtomicType :=
  match v.content with
  | .atomic t => some t
  | _ => none

def fields (v : Variable) : List VarId := v.content.fields

end Variable

/-- A name, a type and values. -/
structure Attribute where
  name : String
  type : AtomicType
  values : List String
deriving DecidableEq, Repr

/-- An attribute on the declaration that owns it. -/
structure AttributeDeclaration where
  id : AttrId
  owner : Node
  attr : Attribute
deriving DecidableEq, Repr

/-- A tree of declarations, kept flat. -/
structure Dataset where
  name : String
  groups : List Group
  dimensions : List Dimension
  enums : List Enumeration
  vars : List Variable
  attributes : List AttributeDeclaration
deriving DecidableEq, Repr

namespace Dataset

/-- A group with nothing in it. -/
def emptyGroup (id : GroupId) (name : String) (parent : Option GroupId) (path : List GroupId) :
    Group :=
  ⟨id, name, parent, path, [], [], [], []⟩

/-- A dataset with nothing but its root. -/
def empty (name : String) : Dataset where
  name := name
  groups := [emptyGroup .root name none [.root]]
  dimensions := []
  enums := []
  vars := []
  attributes := []

/-! ## Handles -/

def group (d : Dataset) (g : GroupId) : Group :=
  d.groups[g.index]?.getD (emptyGroup g "" none [])

def dimension (d : Dataset) (x : DimId) : Dimension :=
  d.dimensions[x.index]?.getD ⟨x, none, 0, false, .root⟩

def enumeration (d : Dataset) (e : EnumId) : Enumeration :=
  d.enums[e.index]?.getD ⟨e, "", .int32, [], .root⟩

def var (d : Dataset) (v : VarId) : Variable :=
  d.vars[v.index]?.getD ⟨v, "", .group .root, .root, [], .atomic .string⟩

def rank (d : Dataset) (v : VarId) : Nat := (d.var v).rank

def fields (d : Dataset) (v : VarId) : List VarId := (d.var v).fields

/-- The handles of all groups, in order of declaration. -/
def groupIds (d : Dataset) : List GroupId := (List.range d.groups.length).map GroupId.mk

/-- The handles of all dimensions, in order of declaration. -/
def dimensionIds (d : Dataset) : List DimId := (List.range d.dimensions.length).map DimId.mk

/-- The handles of all enumerations, in order of declaration. -/
def enumIds (d : Dataset) : List EnumId := (List.range d.enums.length).map EnumId.mk

/-- The handles of all variables, in order of declaration. -/
def variableIds (d : Dataset) : List VarId := (List.range d.vars.length).map VarId.mk

/-- The handles of all attributes, in order of declaration. -/
def attributeIds (d : Dataset) : List AttrId := (List.range d.attributes.length).map AttrId.mk

/-- The attributes declared on a node, in order of declaration. -/
def attributesOf (d : Dataset) (n : Node) : List AttrId :=
  d.attributeIds.filter fun a => (d.attributes[a.index]?).any fun x => x.owner == n

end Dataset

end Hyperslab
