/-
# `Hyperslab.Toml.Form` — values of an expected shape

Descriptions and requests are read from values by shape: a string, a count, a list
of something, or a record with named members.  A record is written as a table, or
as an array that lists its members in their order; what may be left out differs
between the two, and is part of the record's *form*.
-/
import Hyperslab.Toml.Value

namespace Hyperslab.Toml

namespace Value

def string? : Value → Option String
  | .string s => some s
  | _ => none

def integer? : Value → Option Int
  | .integer i => some i
  | _ => none

/-- An integer that is not negative. -/
def natural? : Value → Option Nat
  | .integer (.ofNat n) => some n
  | _ => none

def boolean? : Value → Option Bool
  | .boolean b => some b
  | _ => none

/-- An array, all of whose items have a shape. -/
def list? {α : Type} (item : Value → Option α) : Value → Option (List α)
  | .array items => items.mapM item
  | _ => none

end Value

/-- When a member of a record may be left out. -/
inductive Presence where
  | required
  /-- A table may do without the member, an array may not. -/
  | omittable
  /-- The member has a default. -/
  | defaulted
deriving DecidableEq, Repr

/-- The members of a kind of records. -/
structure Form where
  members : List (String × Presence)
  /-- A table may not have other keys. -/
  closed : Bool
  /-- An array may not have more items than there are members. -/
  exact : Bool
deriving Repr

/-- The members of one record that are there. -/
abbrev Members := List (String × Value)

namespace Form

/-- The members that a table gives. -/
def ofEntries? (form : Form) (entries : List (String × Value)) : Option Members :=
  let missing := form.members.any fun m =>
    m.2 == .required && (entries.lookup m.1).isNone
  let foreign := entries.any fun e => (form.members.lookup e.1).isNone
  if missing || (form.closed && foreign) then none else some entries

/-- The members that an array gives. -/
def ofItems? (form : Form) (items : List Value) : Option Members :=
  let missing := (form.members.drop items.length).any fun m => m.2 != .defaulted
  if missing || (form.exact && form.members.length < items.length) then none
  else some ((form.members.map Prod.fst).zip items)

/-- The members of a record. -/
def members? (form : Form) : Value → Option Members
  | .array items => form.ofItems? items
  | v => v.entries?.bind form.ofEntries?

end Form

namespace Members

/-- A member that has to be there. -/
def get? {α : Type} (ms : Members) (name : String) (shape : Value → Option α) : Option α :=
  (ms.lookup name).bind shape

/-- A member with a default. -/
def getD? {α : Type} (ms : Members) (name : String) (shape : Value → Option α)
    (fallback : α) : Option α :=
  match ms.lookup name with
  | none => some fallback
  | some v => shape v

/-- A member that may be absent. -/
def find? {α : Type} (ms : Members) (name : String) (shape : Value → Option α) :
    Option (Option α) :=
  match ms.lookup name with
  | none => some none
  | some v => (shape v).map some

end Members

end Hyperslab.Toml
