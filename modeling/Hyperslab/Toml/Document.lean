/-
# `Hyperslab.Toml.Document` — whole documents

A document is a sequence of lines: blank, a comment, a header that opens a table,
or an assignment to the table opened last.  Reading goes line by line and keeps the
tables made so far together with the path of the open one; the root is open at the
beginning.
-/
import Hyperslab.Toml.Term

namespace Hyperslab.Toml

/-- What has been read of a document. -/
structure Document where
  entries : List (String × Entry)
  /-- The path of the table that assignments go to. -/
  opened : List String

namespace Document

/-- A header: the path of its table, and whether its brackets were doubled. -/
def header? : Reader (List String × Bool)
  | '[' :: '[' :: cs => do
    let (path, rest) ← keyPath? cs
    let rest ← skipChar? ']' rest
    let rest ← skipChar? ']' rest
    return ((path, true), rest)
  | '[' :: cs => do
    let (path, rest) ← keyPath? cs
    let rest ← skipChar? ']' rest
    return ((path, false), rest)
  | _ => none

/-- The document after a header. -/
def openPath? (doc : Document) (path : List String) (doubled : Bool) : Option Document := do
  let key ← path.getLast?
  let change := if doubled then openElement? key else openTable? key
  let entries ← descend? change path.dropLast doc.entries
  return ⟨entries, path⟩

/-- The document after an assignment. -/
def assign? (doc : Document) (path : List String) (v : Value) : Option Document := do
  let entries ← descend? (Toml.assign? path v) doc.opened doc.entries
  return { doc with entries }

/-- The document after one line, and the text behind the line. -/
def line? (doc : Document) (cs : List Char) : Option (Document × List Char) :=
  match skipBlanks cs with
  | [] => some (doc, [])
  | c :: rest =>
    if c = '[' then do
      let ((path, doubled), rest) ← header? (c :: rest)
      let rest ← finishLine? rest
      let doc ← doc.openPath? path doubled
      return (doc, rest)
    else if c = '#' ∨ c = '\n' ∨ c = '\r' then
      (finishLine? (c :: rest)).map fun rest => (doc, rest)
    else do
      let ((path, v), rest) ← assignment? (term? (nestingLimit - 1)) (c :: rest)
      let rest ← finishLine? rest
      let doc ← doc.assign? path v
      return (doc, rest)

/-- The document after at most `steps` lines, if they are the whole text. -/
def linesWithin? (doc : Document) : (steps : Nat) → List Char → Option Document
  | _, [] => some doc
  | 0, _ => none
  | steps + 1, cs => (doc.line? cs).bind fun r => r.1.linesWithin? steps r.2

end Document

/-- The table that a text describes.  A byte order mark in front does not count. -/
def read? (text : String) : Option Value :=
  let cs := match text.toList with
    | '\uFEFF' :: rest => rest
    | cs => cs
  (Document.linesWithin? ⟨[], []⟩ (cs.length + 1) cs).map fun doc =>
    .table (Entry.values doc.entries)

end Hyperslab.Toml
