/-
# `Hyperslab.Toml.Scan` — blanks, comments and line ends

A reader takes a value off the front of the text and returns the rest, or fails
for good: the grammar can always decide by the next few characters, so no reader
is ever tried twice.  Loops run on a count of steps that the length of the text
bounds, since each step takes at least one character.
-/

namespace Hyperslab.Toml

/-- Takes a value off the front of a text. -/
abbrev Reader (α : Type) := List Char → Option (α × List Char)

/-- A blank or a tab. -/
def isBlank (c : Char) : Bool := c == ' ' || c == '\t'

/-- A character that may stand in a comment or a string: no control character but
the tab. -/
def isPrintable (c : Char) : Bool := c == '\t' || (32 ≤ c.toNat && c.toNat != 127)

/-- The text after its leading blanks. -/
def skipBlanks (cs : List Char) : List Char := cs.dropWhile isBlank

/-- The text after one line end. -/
def lineEnd? : List Char → Option (List Char)
  | '\n' :: rest => some rest
  | '\r' :: '\n' :: rest => some rest
  | _ => none

/-- The text after a comment, up to the line end. -/
def skipComment : List Char → List Char
  | '#' :: rest => rest.dropWhile isPrintable
  | cs => cs

/-- The text after the rest of a line: blanks, perhaps a comment, and the end of the
line or of the text. -/
def finishLine? (cs : List Char) : Option (List Char) :=
  match skipComment (skipBlanks cs) with
  | [] => some []
  | rest => lineEnd? rest

/-- The text after blanks, comments and line ends, for at most `steps` lines. -/
def skipLinesWithin : (steps : Nat) → List Char → List Char
  | 0, cs => cs
  | steps + 1, cs =>
    let rest := skipBlanks cs
    match lineEnd? (skipComment rest) with
    | some next => skipLinesWithin steps next
    | none => rest

/-- The text after blanks, comments and line ends. -/
def skipLines (cs : List Char) : List Char := skipLinesWithin cs.length cs

/-- One step of reading a text piece by piece. -/
inductive Piece where
  /-- The text is complete; the rest follows it. -/
  | last (rest : List Char)
  /-- Some characters of the text, and what follows. -/
  | more (chars : List Char) (rest : List Char)
  | invalid

/-- The characters of all pieces, for at most `steps` of them. -/
def readPieces (next : List Char → Piece) : (steps : Nat) → Reader (List Char)
  | 0, _ => none
  | steps + 1, cs =>
    match next cs with
    | .invalid => none
    | .last rest => some ([], rest)
    | .more chars rest =>
      (readPieces next steps rest).map fun r => (chars ++ r.1, r.2)

end Hyperslab.Toml
