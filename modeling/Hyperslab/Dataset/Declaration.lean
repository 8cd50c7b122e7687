/-
# `Hyperslab.Dataset.Declaration` — building a dataset

A dataset is built in place, by one declaration at a time.  A declaration first looks
whether its conditions hold and is refused with a cause if one does not.  Then it puts
what it declares at the end of the list of all things of that kind, under the next free
number, and enters the number where it belongs.  There is no other way to make a
dataset, so what holds of the empty one and is kept by every declaration holds of all.

A group may not declare two things of one name, whatever their kinds, and neither
may a compound have two fields of one name.  Attributes are not names and are
never refused.
-/
import Hyperslab.Dataset.Name
import Hyperslab.ErrorKind

namespace Hyperslab

/-- Why a declaration is refused. -/
inductive DeclarationError where
  | unknownGroup (g : GroupId)
  | unknownVariable (v : VarId)
  | unknownEnumeration (e : EnumId)
  | unknownDimension (name : String) (x : DimId)
  /-- A name that the group, given by its qualified name, has already. -/
  | duplicateName (name group : String)
  /-- A name that a field of the variable, given by its qualified name, has already. -/
  | duplicateField (name owner : String)
  /-- A field of a variable that has no fields. -/
  | fieldOfAtomic (name owner : String)
  /-- An enumeration over something else than an integer type. -/
  | enumerationBase (name : String) (base : AtomicType)
deriving DecidableEq, Repr

/-- The sentence that reports the cause. -/
def DeclarationError.message : DeclarationError → String
  | .unknownGroup g => "unknown group " ++ g.text
  | .unknownVariable v => "unknown variable " ++ v.text
  | .unknownEnumeration e => "unknown enumeration " ++ e.text
  | .unknownDimension name x => s!"variable '{name}' uses unknown dimension " ++ x.text
  | .duplicateName name group => s!"duplicate declaration '{name}' in group {group}"
  | .duplicateField name owner => s!"duplicate field '{name}' in '{owner}'"
  | .fieldOfAtomic name owner => s!"cannot add field '{name}' to atomic variable '{owner}'"
  | .enumerationBase name base =>
    s!"enumeration '{name}' needs an integer base type, got " ++ base.name

instance : Reported DeclarationError := ⟨fun _ => .schema, DeclarationError.message⟩

/-- What a new variable consists of, before it has any fields. -/
inductive Shape where
  | atomic (base : AtomicType)
  | struct
  | sequence
deriving DecidableEq, Repr

/-- The content of a new variable. -/
def Shape.content : Shape → Content
  | .atomic t => .atomic t
  | .struct => .struct []
  | .sequence => .sequence []

/-- One step of building a dataset. -/
inductive Declaration where
  | group (parent : GroupId) (name : String)
  | dimension (group : GroupId) (name : String) (size : Nat)
  /-- A dimension without a name, which no group lists. -/
  | anonymous (group : GroupId) (size : Nat)
  | enumeration (group : GroupId) (name : String) (base : AtomicType)
      (constants : List (String × Int))
  | var (owner : Owner) (name : String) (shape : Shape) (dimensions : List DimId)
  | attr (owner : Node) (attr : Attribute)
deriving DecidableEq, Repr

namespace Dataset

/-! ## Conditions -/

/-- The group exists. -/
def requireGroup (d : Dataset) (g : GroupId) : Except DeclarationError Unit :=
  if g.index < d.groups.length then .ok () else .error (.unknownGroup g)

/-- Some child of the group has the name. -/
def declares (d : Dataset) (g : GroupId) (name : String) : Bool :=
  (d.childGroup? g name).isSome || (d.childVariable? g name).isSome
    || (d.childEnum? g name).isSome || (d.childDimension? g name).isSome

/-- The group exists, and the name is free in it. -/
def requireFree (d : Dataset) (g : GroupId) (name : String) : Except DeclarationError Unit := do
  d.requireGroup g
  if d.declares g name then throw (.duplicateName name (d.groupName g))

/-- The compound exists, has fields, and none of the name. -/
def requireFreeField (d : Dataset) (v : VarId) (name : String) : Except DeclarationError Unit :=
  if d.vars.length ≤ v.index then .error (.unknownVariable v)
  else if !(d.var v).isCompound then .error (.fieldOfAtomic name (d.var v).name)
  else if (d.field? v name).isSome then .error (.duplicateField name (d.variableName v))
  else .ok ()

/-- The base type of an atomic variable exists. -/
def requireShape (d : Dataset) : Shape → Except DeclarationError Unit
  | .atomic (.enumeration e) =>
    if e.index < d.enums.length then .ok () else .error (.unknownEnumeration e)
  | _ => .ok ()

/-- All dimensions exist; the first that does not is the cause. -/
def requireDimensions (d : Dataset) (name : String) (xs : List DimId) :
    Except DeclarationError Unit :=
  match xs.find? fun x => d.dimensions.length ≤ x.index with
  | some x => .error (.unknownDimension name x)
  | none => .ok ()

/-- The base type of an enumeration is an integer type. -/
def requireBase (name : String) (base : AtomicType) : Except DeclarationError Unit :=
  if base.isEnumerable then .ok () else .error (.enumerationBase name base)

/-- The conditions on a new enumeration; its name is looked at first. -/
def requireEnum (d : Dataset) (g : GroupId) (name : String) (base : AtomicType) :
    Except DeclarationError Unit := do
  d.requireFree g name
  requireBase name base

/-- The owner of a new variable exists and has no other of the name. -/
def requireOwner (d : Dataset) (owner : Owner) (name : String) : Except DeclarationError Unit :=
  match owner with
  | .group g => d.requireFree g name
  | .compound p => d.requireFreeField p name

/-- The conditions on a new variable; its type is looked at first, then its dimensions,
and its name last. -/
def requireVariable (d : Dataset) (owner : Owner) (name : String) (shape : Shape)
    (dimensions : List DimId) : Except DeclarationError Unit := do
  d.requireShape shape
  d.requireDimensions name dimensions
  d.requireOwner owner name

/-! ## Handles and changes -/

/-- The handle of the next group, and so on for the other kinds. -/
def nextGroup (d : Dataset) : GroupId := ⟨d.groups.length⟩
def nextDimension (d : Dataset) : DimId := ⟨d.dimensions.length⟩
def nextEnum (d : Dataset) : EnumId := ⟨d.enums.length⟩
def nextVariable (d : Dataset) : VarId := ⟨d.vars.length⟩
def nextAttribute (d : Dataset) : AttrId := ⟨d.attributes.length⟩

/-- The dataset with a group changed. -/
def updateGroup (d : Dataset) (g : GroupId) (f : Group → Group) : Dataset :=
  { d with groups := d.groups.modify g.index f }

/-- The dataset with a variable changed. -/
def updateVariable (d : Dataset) (v : VarId) (f : Variable → Variable) : Dataset :=
  { d with vars := d.vars.modify v.index f }

/-- The group that a variable of an owner lies in. -/
def ownerGroup (d : Dataset) : Owner → GroupId
  | .group g => g
  | .compound p => (d.var p).group

end Dataset

/-! ## Building -/

/-- A call on the dataset that is being built.  It gives an answer or is refused, and there is a
dataset after it either way. -/
abbrev Building := ExceptT DeclarationError (StateM Dataset)

namespace Building

/-- The answer to a call, and the dataset after it. -/
def call {α : Type} (b : Building α) (d : Dataset) : Except DeclarationError α × Dataset :=
  Id.run (b.run.run d)

/-- Goes on if the dataset meets a condition, and is refused if not. -/
def require (condition : Dataset → Except DeclarationError Unit) : Building Unit := do
  match condition (← get) with
  | .ok () => return
  | .error cause => throw cause

/-- A new group inside a group. -/
def addGroup (parent : GroupId) (name : String) : Building GroupId := do
  require (·.requireFree parent name)
  let d ← get
  let g := d.nextGroup
  let path := (d.group parent).path ++ [g]
  modify fun d => { d with groups := d.groups ++ [Dataset.emptyGroup g name (some parent) path] }
  modify fun d => d.updateGroup parent fun p => { p with groups := p.groups ++ [g] }
  return g

/-- A new shared dimension. -/
def addDimension (g : GroupId) (name : String) (size : Nat) : Building DimId := do
  require (·.requireFree g name)
  let x := (← get).nextDimension
  modify fun d => { d with dimensions := d.dimensions ++ [⟨x, some name, size, true, g⟩] }
  modify fun d => d.updateGroup g fun p => { p with dimensions := p.dimensions ++ [x] }
  return x

/-- A new dimension without a name, which is entered in no group. -/
def addAnonymous (g : GroupId) (size : Nat) : Building DimId := do
  require (·.requireGroup g)
  let x := (← get).nextDimension
  modify fun d => { d with dimensions := d.dimensions ++ [⟨x, none, size, false, g⟩] }
  return x

/-- A new enumeration. -/
def addEnum (g : GroupId) (name : String) (base : AtomicType) (constants : List (String × Int)) :
    Building EnumId := do
  require (·.requireEnum g name base)
  let y := (← get).nextEnum
  modify fun d => { d with enums := d.enums ++ [⟨y, name, base, constants, g⟩] }
  modify fun d => d.updateGroup g fun p => { p with enums := p.enums ++ [y] }
  return y

/-- Enters a variable in the list of its owner. -/
def enterVariable (v : VarId) : Owner → Building Unit
  | .group g => modify fun d => d.updateGroup g fun p => { p with vars := p.vars ++ [v] }
  | .compound p => modify fun d => d.updateVariable p fun c =>
    { c with content := c.content.addField v }

/-- A new variable in a group, or a new field of a compound. -/
def addVariable (owner : Owner) (name : String) (shape : Shape) (dimensions : List DimId) :
    Building VarId := do
  require (·.requireVariable owner name shape dimensions)
  let d ← get
  let v := d.nextVariable
  let home := d.ownerGroup owner
  modify fun d => { d with vars := d.vars ++ [⟨v, name, owner, home, dimensions, shape.content⟩] }
  enterVariable v owner
  return v

/-- A new attribute. -/
def addAttribute (owner : Node) (attr : Attribute) : Building AttrId := do
  let a := (← get).nextAttribute
  modify fun d => { d with attributes := d.attributes ++ [⟨a, owner, attr⟩] }
  return a

/-- One declaration; the answer is its number among those of its kind. -/
def declare : Declaration → Building Nat
  | .group parent name => return (← addGroup parent name).index
  | .dimension g name size => return (← addDimension g name size).index
  | .anonymous g size => return (← addAnonymous g size).index
  | .enumeration g name base constants => return (← addEnum g name base constants).index
  | .var owner name shape xs => return (← addVariable owner name shape xs).index
  | .attr owner a => return (← addAttribute owner a).index

/-- The dataset after a call and its answer; after a refused call the dataset is given up. -/
def result {α : Type} (b : Building α) (d : Dataset) : Except DeclarationError (Dataset × α) :=
  match b.call d with
  | (.ok a, d') => .ok (d', a)
  | (.error cause, _) => .error cause

end Building

namespace Dataset

/-! ## Declarations -/

/-- A new group inside a group. -/
def addGroup? (d : Dataset) (parent : GroupId) (name : String) :
    Except DeclarationError (Dataset × GroupId) :=
  (Building.addGroup parent name).result d

/-- A new shared dimension. -/
def addDimension? (d : Dataset) (g : GroupId) (name : String) (size : Nat) :
    Except DeclarationError (Dataset × DimId) :=
  (Building.addDimension g name size).result d

/-- A new dimension without a name. -/
def addAnonymous? (d : Dataset) (g : GroupId) (size : Nat) :
    Except DeclarationError (Dataset × DimId) :=
  (Building.addAnonymous g size).result d

/-- A new enumeration. -/
def addEnum? (d : Dataset) (g : GroupId) (name : String) (base : AtomicType)
    (constants : List (String × Int)) : Except DeclarationError (Dataset × EnumId) :=
  (Building.addEnum g name base constants).result d

/-- A new variable in a group, or a new field of a compound. -/
def addVariable? (d : Dataset) (owner : Owner) (name : String) (shape : Shape)
    (dimensions : List DimId) : Except DeclarationError (Dataset × VarId) :=
  (Building.addVariable owner name shape dimensions).result d

/-- A new attribute, which is never refused. -/
def addAttribute (d : Dataset) (owner : Node) (attr : Attribute) : Dataset × AttrId :=
  ({ d with attributes := d.attributes ++ [⟨d.nextAttribute, owner, attr⟩] }, d.nextAttribute)

/-- One declaration, and the number that it got among those of its kind. -/
def declare? (d : Dataset) (x : Declaration) : Except DeclarationError (Dataset × Nat) :=
  (Building.declare x).result d

/-- The dataset after one attempt, which may have been refused. -/
def attempt (d : Dataset) (x : Declaration) : Dataset := ((Building.declare x).call d).2

/-- The dataset after a sequence of attempts, starting from nothing but a root. -/
def built (name : String) (xs : List Declaration) : Dataset := xs.foldl attempt (empty name)

theorem built_append (name : String) (xs ys : List Declaration) :
    built name (xs ++ ys) = ys.foldl attempt (built name xs) :=
  List.foldl_append

end Dataset

end Hyperslab
