/-
# `Hyperslab.Dataset.Description` — datasets as they are written down

A description says what a dataset declares without handles: dimensions and types are
named, and the names have yet to be resolved.  The dataset itself is described like a
group, by its name and its contents.

A description is written as a document.  A group is always a table; every smaller
record may also be an array of its members.  Keys that mean nothing are ignored.
-/
import Hyperslab.Toml.Document
import Hyperslab.Toml.Form

namespace Hyperslab

structure DimensionDescription where
  name : String
  size : Nat
deriving DecidableEq, Repr

structure EnumDescription where
  name : String
  /-- The name of the base type. -/
  base : String
  constants : List (String × Int)
deriving DecidableEq, Repr

/-- A dimension of a variable. -/
inductive DimensionReference where
  /-- A shared dimension. -/
  | named (name : String)
  /-- A dimension of this one position. -/
  | anonymous (size : Nat)
deriving DecidableEq, Repr

structure AttributeDescription where
  name : String
  /-- The name of the type. -/
  type : String
  values : List String
deriving DecidableEq, Repr

structure VariableDescription where
  name : String
  /-- The name of an atomic type, or the word for a structure or a sequence. -/
  type : String
  dims : List DimensionReference
  fields : List VariableDescription
  attributes : List AttributeDescription
deriving Repr

structure GroupDescription where
  name : String
  dimensions : List DimensionDescription
  enums : List EnumDescription
  vars : List VariableDescription
  groups : List GroupDescription
  attributes : List AttributeDescription
deriving Repr

open Toml (Form Members Value)

namespace DimensionDescription

def form : Form := ⟨[("name", .required), ("size", .required)], false, true⟩

/-- The description that a value writes. -/
def ofValue? (v : Value) : Option DimensionDescription := do
  let ms ← form.members? v
  return ⟨← ms.get? "name" Value.string?, ← ms.get? "size" Value.natural?⟩

end DimensionDescription

namespace EnumDescription

def constantForm : Form := ⟨[("name", .required), ("value", .required)], false, true⟩

/-- The constant that a value writes. -/
def constant? (v : Value) : Option (String × Int) := do
  let ms ← constantForm.members? v
  return (← ms.get? "name" Value.string?, ← ms.get? "value" Value.integer?)

def form : Form :=
  ⟨[("name", .required), ("base", .defaulted), ("constants", .defaulted)], false, true⟩

/-- The description that a value writes. -/
def ofValue? (v : Value) : Option EnumDescription := do
  let ms ← form.members? v
  return ⟨← ms.get? "name" Value.string?,
    ← ms.getD? "base" Value.string? "int32",
    ← ms.getD? "constants" (Value.list? constant?) []⟩

end EnumDescription

/-- The reference that a value writes. -/
def DimensionReference.ofValue? (v : Value) : Option DimensionReference :=
  (v.string?.map .named) <|> (v.natural?.map .anonymous)

namespace AttributeDescription

def form : Form :=
  ⟨[("name", .required), ("type", .defaulted), ("values", .defaulted)], false, true⟩

/-- The description that a value writes. -/
def ofValue? (v : Value) : Option AttributeDescription := do
  let ms ← form.members? v
  return ⟨← ms.get? "name" Value.string?,
    ← ms.getD? "type" Value.string? "string",
    ← ms.getD? "values" (Value.list? Value.string?) []⟩

end AttributeDescription

namespace VariableDescription

def form : Form :=
  ⟨[("name", .required), ("type", .required), ("dims", .defaulted), ("fields", .defaulted),
    ("attributes", .defaulted)], false, true⟩

/-- The description that a value of limited height writes. -/
def ofValueWithin? : (height : Nat) → Value → Option VariableDescription
  | 0, _ => none
  | height + 1, v => do
    let ms ← form.members? v
    return ⟨← ms.get? "name" Value.string?,
      ← ms.get? "type" Value.string?,
      ← ms.getD? "dims" (Value.list? DimensionReference.ofValue?) [],
      ← ms.getD? "fields" (Value.list? (ofValueWithin? height)) [],
      ← ms.getD? "attributes" (Value.list? AttributeDescription.ofValue?) []⟩

/-- The description that a value writes. -/
def ofValue? (v : Value) : Option VariableDescription := ofValueWithin? (v.height + 1) v

end VariableDescription

namespace GroupDescription

def form : Form :=
  ⟨[("name", .required), ("dimension", .defaulted), ("enum", .defaulted),
    ("variable", .defaulted), ("group", .defaulted), ("attributes", .defaulted)], false, true⟩

/-- The description that a value of limited height writes. -/
def ofValueWithin? : (height : Nat) → Value → Option GroupDescription
  | 0, _ => none
  | height + 1, v => do
    let ms ← form.ofEntries? (← v.entries?)
    return ⟨← ms.get? "name" Value.string?,
      ← ms.getD? "dimension" (Value.list? DimensionDescription.ofValue?) [],
      ← ms.getD? "enum" (Value.list? EnumDescription.ofValue?) [],
      ← ms.getD? "variable" (Value.list? VariableDescription.ofValue?) [],
      ← ms.getD? "group" (Value.list? (ofValueWithin? height)) [],
      ← ms.getD? "attributes" (Value.list? AttributeDescription.ofValue?) []⟩

/-- The description that a value writes. -/
def ofValue? (v : Value) : Option GroupDescription := ofValueWithin? (v.height + 1) v

/-- The description that a document writes. -/
def read? (text : String) : Option GroupDescription := (Toml.read? text).bind ofValue?

end GroupDescription

end Hyperslab
