/-
# `Hyperslab.Toml.Table` — tables under construction

While a document is read, a table remembers how it came to be, because that decides
what may still be added to it:

  * `header` — a bracketed header opened it; it cannot be opened again, and dotted
    keys cannot reach into it from outside;
  * `implied` — it stands on the way to the table of a header; one header of its
    own may still open it;
  * `dotted` — dotted keys made it, and only dotted keys add to it.

Values that are written out, inline tables included, take nothing more at all.
Every operation fails if the document contradicts itself, and otherwise adds
entries behind those that are there.
-/
import Hyperslab.Toml.Value

namespace Hyperslab.Toml

/-- How a table came to be. -/
inductive Origin where
  | header
  | implied
  | dotted
deriving DecidableEq, Repr

/-- What a key of a table under construction holds. -/
inductive Entry where
  | value (v : Value)
  | table (origin : Origin) (entries : List (String × Entry))
  /-- Tables that headers in double brackets opened, one after the other. -/
  | tables (elements : List (List (String × Entry)))

namespace Entry

mutual

/-- The finished value of an entry. -/
def toValue : Entry → Value
  | .value v => v
  | .table _ entries => .table (values entries)
  | .tables elements => .array (elementValues elements)

/-- The finished entries of a table. -/
def values : List (String × Entry) → List (String × Value)
  | [] => []
  | (key, e) :: rest => (key, e.toValue) :: values rest

/-- The finished tables of an array. -/
def elementValues : List (List (String × Entry)) → List Value
  | [] => []
  | entries :: rest => .table (values entries) :: elementValues rest

end

end Entry

/-- The entry of a key. -/
def find? (key : String) (entries : List (String × Entry)) : Option Entry :=
  entries.lookup key

/-- The entries with another entry for a key that is there. -/
def replace (key : String) (e : Entry) (entries : List (String × Entry)) :
    List (String × Entry) :=
  entries.map fun old => if old.1 = key then (key, e) else old

/-- The entries without a key. -/
def remove (key : String) (entries : List (String × Entry)) : List (String × Entry) :=
  entries.filter fun old => old.1 ≠ key

/-- Changes the last of several tables. -/
def updateLast? (f : List (String × Entry) → Option (List (String × Entry))) :
    List (List (String × Entry)) → Option (List (List (String × Entry)))
  | [] => none
  | [entries] => (f entries).map ([·])
  | entries :: rest => (updateLast? f rest).map (entries :: ·)

/-! ## Assignments -/

/-- Puts a value under a dotted key.  The table at the end of the path has to be
`ready`: the one that the path starts from, or one made by dotted keys. -/
def assignIn? (ready : Bool) (key : String) (v : Value) :
    (path : List String) → List (String × Entry) → Option (List (String × Entry))
  | [], entries =>
    if ready ∧ (find? key entries).isNone then some (entries ++ [(key, .value v)]) else none
  | step :: path, entries =>
    match find? step entries with
    | none => (assignIn? true key v path []).map fun sub =>
        entries ++ [(step, .table .dotted sub)]
    | some (.value _) => none
    | some (.table .header _) => none
    | some (.table .implied sub) => (assignIn? false key v path sub).map fun sub =>
        replace step (.table .implied sub) entries
    | some (.table .dotted sub) => (assignIn? true key v path sub).map fun sub =>
        replace step (.table .dotted sub) entries
    | some (.tables elements) =>
      (updateLast? (assignIn? false key v path) elements).map fun elements =>
        replace step (.tables elements) entries

/-- Puts a value under a path of keys. -/
def assign? (path : List String) (v : Value) (entries : List (String × Entry)) :
    Option (List (String × Entry)) :=
  match path.getLast? with
  | none => none
  | some key => assignIn? true key v path.dropLast entries

/-! ## Headers -/

/-- Changes the table at the end of a path of headers.  Tables on the way are made
where they are missing, and the way through several tables is the last of them. -/
def descend? (f : List (String × Entry) → Option (List (String × Entry))) :
    (path : List String) → List (String × Entry) → Option (List (String × Entry))
  | [], entries => f entries
  | step :: path, entries =>
    match find? step entries with
    | none => (descend? f path []).map fun sub => entries ++ [(step, .table .implied sub)]
    | some (.value _) => none
    | some (.table origin sub) => (descend? f path sub).map fun sub =>
        replace step (.table origin sub) entries
    | some (.tables elements) => (updateLast? (descend? f path) elements).map fun elements =>
        replace step (.tables elements) entries

/-- Opens a table, which may so far have been implied at most. -/
def openTable? (key : String) (entries : List (String × Entry)) :
    Option (List (String × Entry)) :=
  match find? key entries with
  | none => some (entries ++ [(key, .table .header [])])
  | some (.table .implied sub) => some (remove key entries ++ [(key, .table .header sub)])
  | some _ => none

/-- Opens one more table behind those that headers in double brackets opened. -/
def openElement? (key : String) (entries : List (String × Entry)) :
    Option (List (String × Entry)) :=
  match find? key entries with
  | none => some (entries ++ [(key, .tables [[]])])
  | some (.tables elements) => some (replace key (.tables (elements ++ [[]])) entries)
  | some _ => none

end Hyperslab.Toml
