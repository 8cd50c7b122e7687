/-
# `Hyperslab.Filter.Record` — records and where they come from

A record gives values to names.  A source has a number of records, read one at a time
by their index; reading may fail for one index and succeed for the next.  Records that
are held in memory make such a source, which fails past its end.  Other sources have other
things for records, and errors of their own, and they may be in another state when a record
has been read.

Records can be written as a document: a list of tables under the key `record`.
-/
import Hyperslab.ErrorKind
import Hyperslab.Filter.Scalar
import Hyperslab.Toml.Document
import Hyperslab.Toml.Form

namespace Hyperslab

/-- Why a record or a value in it cannot be had. -/
inductive RecordError where
  | missingField (name : String)
  /-- There are only `held` records. -/
  | outOfRange (index held : Nat)
  /-- Whatever else a source reports. -/
  | other (kind : ErrorKind) (message : String)
deriving DecidableEq, Repr

/-- The sentence that reports the cause. -/
def RecordError.message : RecordError → String
  | .missingField name => s!"record has no field '{name}'"
  | .outOfRange index held => s!"record {index} out of range ({held} records)"
  | .other _ message => message

instance : Reported RecordError where
  kind
    | .other kind _ => kind
    | _ => .recordSource
  message := RecordError.message

/-- What can be asked for the values of its fields. -/
class FieldReader (ρ : Type) where
  readField : ρ → String → Except RecordError Scalar

/-- Values under names, in ascending order of the names. -/
structure Record where
  fields : List (String × Scalar)
deriving DecidableEq, Repr

namespace Record

/-- A record without fields. -/
def empty : Record := ⟨[]⟩

/-- The fields with one put in its place; a field of that name is replaced. -/
def put (name : String) (v : Scalar) : List (String × Scalar) → List (String × Scalar)
  | [] => [(name, v)]
  | (n, w) :: rest =>
    if name = n then (name, v) :: rest
    else if name < n then (name, v) :: (n, w) :: rest
    else (n, w) :: put name v rest

/-- The record with one more field. -/
def set (r : Record) (name : String) (v : Scalar) : Record := ⟨put name v r.fields⟩

/-- The record of a list of fields; of two fields of one name the later counts. -/
def ofFields (fields : List (String × Scalar)) : Record :=
  fields.foldl (fun r f => r.set f.1 f.2) empty

/-- The value of a field. -/
def field? (r : Record) (name : String) : Except RecordError Scalar :=
  match r.fields.lookup name with
  | some v => .ok v
  | none => .error (.missingField name)

instance : FieldReader Record := ⟨field?⟩

@[simp] theorem lookup_put_self (name : String) (v : Scalar) (fields : List (String × Scalar)) :
    (put name v fields).lookup name = some v := by
  induction fields with
  | nil => exact List.lookup_cons_self
  | cons f rest ih =>
    obtain ⟨n, w⟩ := f
    unfold put
    split
    · exact List.lookup_cons_self
    · rename_i hn
      split
      · exact List.lookup_cons_self
      · rw [List.lookup_cons, beq_eq_false_iff_ne.2 hn]
        exact ih

theorem lookup_put_of_ne {name other : String} (h : other ≠ name) (v : Scalar)
    (fields : List (String × Scalar)) :
    (put name v fields).lookup other = fields.lookup other := by
  have differs : (other == name) = false := beq_eq_false_iff_ne.2 h
  induction fields with
  | nil => rw [put, List.lookup_cons, differs]
  | cons f rest ih =>
    obtain ⟨n, w⟩ := f
    unfold put
    split
    · rename_i hn
      rw [← hn, List.lookup_cons, List.lookup_cons, differs]
    · split
      · rw [List.lookup_cons, differs]
      · rw [List.lookup_cons, List.lookup_cons, ih]

/-- A field that was set has the value it was set to. -/
@[simp] theorem field?_set_self (r : Record) (name : String) (v : Scalar) :
    (r.set name v).field? name = .ok v := by
  unfold field? set
  rw [lookup_put_self]

/-- Setting a field leaves the others alone. -/
theorem field?_set_of_ne {name other : String} (h : other ≠ name) (r : Record) (v : Scalar) :
    (r.set name v).field? other = r.field? other := by
  unfold field? set
  rw [lookup_put_of_ne h]

end Record

/-- Records by index.  Reading one may change the state of the source. -/
structure RecordSource (ρ : Type := Record) (σ : Type := Unit) where
  count : Nat
  state : σ
  /-- What is given for an index in a state, and the state afterwards. -/
  respond : Nat → σ → Except RecordError ρ × σ

namespace RecordSource

/-- The records of a list. -/
def ofList (records : List Record) : RecordSource where
  count := records.length
  state := ()
  respond i _ := match records[i]? with
    | some r => (.ok r, ())
    | none => (.error (.outOfRange i records.length), ())

variable {ρ σ : Type}

/-- Reads the record at an index; the source afterwards comes with it. -/
def readAt (s : RecordSource ρ σ) (i : Nat) : Except RecordError ρ × RecordSource ρ σ :=
  let (r, state) := s.respond i s.state
  (r, { s with state })

/-- The record at an index, if it is read now. -/
def read (s : RecordSource ρ σ) (i : Nat) : Except RecordError ρ := (s.readAt i).1

/-- The same records, of which another number is claimed. -/
def claiming (s : RecordSource ρ σ) (count : Nat) : RecordSource ρ σ := { s with count }

end RecordSource

/-! ## Records of a document -/

/-- A value of a document that is a scalar. -/
def Toml.Value.scalar? : Toml.Value → Option Scalar
  | .boolean b => some (.bool b)
  | .integer i => some (.int i)
  | .float x => some (.float x)
  | .string s => some (.text s)
  | _ => none

namespace Record

/-- The record of a table of scalars. -/
def ofValue? (v : Toml.Value) : Option Record := do
  let entries ← v.entries?
  let fields ← entries.mapM fun (name, v) => v.scalar?.map fun s => (name, s)
  return ofFields fields

/-- A document of records; other keys are ignored. -/
def documentForm : Toml.Form := ⟨[("record", .defaulted)], false, true⟩

/-- The records of a document. -/
def readAll? (text : String) : Option (List Record) := do
  let doc ← Toml.read? text
  let ms ← documentForm.members? doc
  Toml.Members.getD? ms "record" (Toml.Value.list? ofValue?) []

end Record

end Hyperslab
