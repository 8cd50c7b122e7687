/-
# `Hyperslab.Dataset.Loading` — from descriptions to datasets

Loading makes the declarations of a description one after the other and stops at the
first that is refused.  A group comes in this order: its attributes, dimensions,
enumerations, variables, and then its subgroups, each of them completely.  A variable
comes before its attributes and these before its fields.

Names are resolved when they are met, against what has been declared by then.
-/
import Hyperslab.Dataset.Declaration
import Hyperslab.Dataset.Description
import Hyperslab.Dataset.Scope

namespace Hyperslab

/-- Why a description gives no dataset. -/
inductive LoadError where
  /-- The text is no description. -/
  | malformed
  | refused (cause : DeclarationError)
  | unknownType (name : String)
  | unknownDimension (name : String)
  | unknownBase (name base : String)
  /-- A variable of an atomic type for which fields are described. -/
  | fieldsOfAtomic (name : String)
deriving DecidableEq, Repr

/-- The sentence that reports the cause. -/
def LoadError.message : LoadError → String
  | .malformed => ""
  | .refused cause => cause.message
  | .unknownType name => s!"unknown type '{name}'"
  | .unknownDimension name => s!"dimension '{name}'"
  | .unknownBase name base => s!"enumeration '{name}' has unknown base type '{base}'"
  | .fieldsOfAtomic name => s!"atomic variable '{name}' cannot declare fields"

instance : Reported LoadError where
  kind
    | .malformed => .malformed
    | .unknownDimension _ => .notFound
    | .refused cause => Reported.kind cause
    | _ => .schema
  message := LoadError.message

namespace Dataset

/-- What a declaration gives, or why it is refused. -/
def orRefused {α : Type} (x : Except DeclarationError α) : Except LoadError α :=
  x.mapError .refused

/-- The type that a name denotes in a group. -/
def loadType (d : Dataset) (g : GroupId) (name : String) : Except LoadError AtomicType :=
  match d.resolveType? g name with
  | some t => .ok t
  | none => .error (.unknownType name)

/-- Declares attributes; their types are resolved in a group. -/
def loadAttributes (d : Dataset) (g : GroupId) (owner : Node) :
    List AttributeDescription → Except LoadError Dataset
  | [] => .ok d
  | a :: rest => do
    let t ← d.loadType g a.type
    (d.addAttribute owner ⟨a.name, t, a.values⟩).1.loadAttributes g owner rest

/-- Declares shared dimensions. -/
def loadDimensions (d : Dataset) (g : GroupId) :
    List DimensionDescription → Except LoadError Dataset
  | [] => .ok d
  | x :: rest => do
    let (d, _) ← orRefused (d.addDimension? g x.name x.size)
    d.loadDimensions g rest

/-- Declares enumerations. -/
def loadEnums (d : Dataset) (g : GroupId) : List EnumDescription → Except LoadError Dataset
  | [] => .ok d
  | e :: rest =>
    match AtomicType.ofName? e.base with
    | none => .error (.unknownBase e.name e.base)
    | some base => do
      let (d, _) ← orRefused (d.addEnum? g e.name base e.constants)
      d.loadEnums g rest

/-- The dimensions that references denote in a group; anonymous ones are declared. -/
def loadReferences (d : Dataset) (g : GroupId) :
    List DimensionReference → Except LoadError (Dataset × List DimId)
  | [] => .ok (d, [])
  | .named name :: rest =>
    match d.resolveDimension? g name with
    | none => .error (.unknownDimension name)
    | some x => do
      let (d, xs) ← d.loadReferences g rest
      return (d, x :: xs)
  | .anonymous size :: rest => do
    let (d, x) ← orRefused (d.addAnonymous? g size)
    let (d, xs) ← d.loadReferences g rest
    return (d, x :: xs)

/-- The shape that a type name denotes in a group.  Only structures and sequences have
fields. -/
def loadShape (d : Dataset) (g : GroupId) (v : VariableDescription) : Except LoadError Shape :=
  if v.type = "structure" then .ok .struct
  else if v.type = "sequence" then .ok .sequence
  else do
    let t ← d.loadType g v.type
    if !v.fields.isEmpty then throw (.fieldsOfAtomic v.name)
    return .atomic t

/-- Declares a variable without its fields. -/
def loadVariableAlone (d : Dataset) (g : GroupId) (owner : Owner) (v : VariableDescription) :
    Except LoadError (Dataset × VarId) := do
  let (d, xs) ← d.loadReferences g v.dims
  let shape ← d.loadShape g v
  let (d, id) ← orRefused (d.addVariable? owner v.name shape xs)
  let d ← d.loadAttributes g (.ofVariable id) v.attributes
  return (d, id)

mutual

/-- Declares a variable with its fields. -/
def loadVariable (d : Dataset) (g : GroupId) (owner : Owner) :
    VariableDescription → Except LoadError Dataset
  | ⟨name, type, dims, fields, attributes⟩ => do
    let (d, id) ← d.loadVariableAlone g owner ⟨name, type, dims, fields, attributes⟩
    loadVariables d g (.compound id) fields

/-- Declares variables with their fields. -/
def loadVariables (d : Dataset) (g : GroupId) (owner : Owner) :
    List VariableDescription → Except LoadError Dataset
  | [] => .ok d
  | v :: rest => do
    let d ← loadVariable d g owner v
    loadVariables d g owner rest

end

/-- Declares what a group contains, except for its subgroups. -/
def loadContents (d : Dataset) (g : GroupId) (c : GroupDescription) :
    Except LoadError Dataset := do
  let d ← d.loadAttributes g (.ofGroup g) c.attributes
  let d ← d.loadDimensions g c.dimensions
  let d ← d.loadEnums g c.enums
  d.loadVariables g (.group g) c.vars

mutual

/-- Declares what a group contains. -/
def loadGroup (d : Dataset) (g : GroupId) : GroupDescription → Except LoadError Dataset
  | ⟨name, dimensions, enums, vars, groups, attributes⟩ => do
    let d ← d.loadContents g ⟨name, dimensions, enums, vars, groups, attributes⟩
    loadGroups d g groups

/-- Declares groups inside a group, with what they contain. -/
def loadGroups (d : Dataset) (parent : GroupId) :
    List GroupDescription → Except LoadError Dataset
  | [] => .ok d
  | c :: rest => do
    let (d, g) ← orRefused (d.addGroup? parent c.name)
    let d ← loadGroup d g c
    loadGroups d parent rest

end

/-- The dataset that a description describes. -/
def ofDescription? (c : GroupDescription) : Except LoadError Dataset :=
  loadGroup (empty c.name) .root c

/-- The dataset that a document describes. -/
def ofText? (text : String) : Except LoadError Dataset :=
  match GroupDescription.read? text with
  | none => .error .malformed
  | some c => ofDescription? c

end Dataset

end Hyperslab
