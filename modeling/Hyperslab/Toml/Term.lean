/-
# `Hyperslab.Toml.Term` — written values

Scalars, arrays over several lines, and inline tables on one.  The first character
decides which it is.  An inline table is closed as soon as it is written: its
entries, and the tables that its dotted keys make, take nothing more afterwards.

Recursion is on the number of levels that may still be opened, so the limit of
nesting is also what makes reading end.
-/
import Hyperslab.Toml.Number
import Hyperslab.Toml.DateTime
import Hyperslab.Toml.Table

namespace Hyperslab.Toml

/-- One of two words. -/
def boolean? : Reader Value
  | 't' :: 'r' :: 'u' :: 'e' :: rest => some (.boolean true, rest)
  | 'f' :: 'a' :: 'l' :: 's' :: 'e' :: rest => some (.boolean false, rest)
  | _ => none

/-- A date, a time, or a number. -/
def figure? (cs : List Char) : Option (Value × List Char) :=
  if startsDate cs then (dateAndTime? cs).map fun r => (.dateTime r.1, r.2)
  else if startsTime cs then (time? cs).map fun r => (.dateTime r.1, r.2)
  else number? cs

/-- A value that is neither an array nor an inline table. -/
def scalar? (cs : List Char) : Option (Value × List Char) :=
  match cs with
  | '\x22' :: _ => (string? cs).map fun r => (.string r.1, r.2)
  | '\x27' :: _ => (string? cs).map fun r => (.string r.1, r.2)
  | 't' :: _ => boolean? cs
  | 'f' :: _ => boolean? cs
  | _ => figure? cs

/-- The items of an array after its opening bracket, at most `steps` of them. -/
def itemsWithin (item : Reader Value) : (steps : Nat) → Reader (List Value)
  | 0, _ => none
  | steps + 1, cs =>
    match skipLines cs with
    | ']' :: rest => some ([], rest)
    | start => do
      let (v, rest) ← item start
      match skipLines rest with
      | ',' :: rest =>
        let (vs, rest) ← itemsWithin item steps rest
        return (v :: vs, rest)
      | ']' :: rest => return ([v], rest)
      | _ => none

/-- A path of keys, an equals sign and a value. -/
def assignment? (item : Reader Value) (cs : List Char) :
    Option ((List String × Value) × List Char) := do
  let (path, rest) ← keyPath? cs
  let rest ← skipChar? '=' rest
  let (v, rest) ← item (skipBlanks rest)
  return ((path, v), skipBlanks rest)

/-- The assignments of an inline table after its first, at most `steps` of them. -/
def assignmentsWithin (item : Reader Value) (entries : List (String × Entry)) :
    (steps : Nat) → Reader (List (String × Entry))
  | 0, _ => none
  | steps + 1, cs => do
    let ((path, v), rest) ← assignment? item cs
    let entries ← assign? path v entries
    match rest with
    | ',' :: rest => assignmentsWithin item entries steps rest
    | '\x7d' :: rest => return (entries, rest)
    | _ => none

/-- An inline table after its opening brace. -/
def inlineTable? (item : Reader Value) (cs : List Char) : Option (Value × List Char) :=
  match skipBlanks cs with
  | '\x7d' :: rest => some (.table [], rest)
  | start => (assignmentsWithin item [] start.length start).map fun r =>
      (.table (Entry.values r.1), r.2)

/-- A value in which at most `levels` more arrays and tables may be opened. -/
def term? : (levels : Nat) → Reader Value
  | _, [] => none
  | levels, c :: rest =>
    if c = '[' then
      match levels with
      | 0 => none
      | levels + 1 => (itemsWithin (term? levels) (rest.length + 1) rest).map fun r =>
          (.array r.1, r.2)
    else if c = '\x7b' then
      match levels with
      | 0 => none
      | levels + 1 => inlineTable? (term? levels) rest
    else scalar? (c :: rest)

end Hyperslab.Toml
