/-
# `Hyperslab.Toml.Text` — strings and keys

Four kinds of strings: with escapes between double quotes, without between single
quotes, and both over several lines between tripled quotes.  Over several lines,
one or two quotes stand for themselves even right before the closing three, a line
end right after the opening ones is dropped, and every line end reads as a single
line feed.

A key is a bare word or a string on one line; keys joined by points make a path.
-/
import Hyperslab.Toml.Scan

namespace Hyperslab.Toml

/-! ## Escapes -/

/-- The character with a code, unless no character has it. -/
def charOfCode? (n : Nat) : Option Char :=
  let c := Char.ofNat n
  if c.toNat = n then some c else none

/-- The value of a hexadecimal digit. -/
def hexDigit? (c : Char) : Option Nat :=
  if '0' ≤ c ∧ c ≤ '9' then some (c.toNat - '0'.toNat)
  else if 'a' ≤ c ∧ c ≤ 'f' then some (c.toNat - 'a'.toNat + 10)
  else if 'A' ≤ c ∧ c ≤ 'F' then some (c.toNat - 'A'.toNat + 10)
  else none

/-- The value of hexadecimal digits. -/
def hexValue? (ds : List Char) : Option Nat :=
  ds.foldlM (fun n c => (hexDigit? c).map (16 * n + ·)) 0

/-- The character that exactly `width` hexadecimal digits name. -/
def codeEscape (width : Nat) (cs : List Char) : Piece :=
  let ds := cs.take width
  match if ds.length = width then (hexValue? ds).bind charOfCode? else none with
  | some c => .more [c] (cs.drop width)
  | none => .invalid

/-- What a backslash and the characters after it stand for. -/
def escapePiece : List Char → Piece
  | 'b' :: rest => .more ['\x08'] rest
  | 't' :: rest => .more ['\t'] rest
  | 'n' :: rest => .more ['\n'] rest
  | 'f' :: rest => .more ['\x0c'] rest
  | 'r' :: rest => .more ['\r'] rest
  | '\x22' :: rest => .more ['\x22'] rest
  | '\\' :: rest => .more ['\\'] rest
  | 'u' :: rest => codeEscape 4 rest
  | 'U' :: rest => codeEscape 8 rest
  | _ => .invalid

/-! ## The pieces of the four kinds -/

/-- A character that stands for itself. -/
def plainPiece (c : Char) (rest : List Char) : Piece :=
  if isPrintable c then .more [c] rest else .invalid

/-- A piece between double quotes. -/
def basicPiece : List Char → Piece
  | [] => .invalid
  | '\x22' :: rest => .last rest
  | '\\' :: rest => escapePiece rest
  | c :: rest => plainPiece c rest

/-- A piece between single quotes. -/
def literalPiece : List Char → Piece
  | [] => .invalid
  | '\x27' :: rest => .last rest
  | c :: rest => plainPiece c rest

/-- A line break that a backslash takes away, together with all blanks and line
breaks after it. -/
def joinedLines? (cs : List Char) : Option (List Char) :=
  (lineEnd? (skipBlanks cs)).map fun rest =>
    rest.dropWhile fun c => isBlank c || c == '\n' || c == '\r'

/-- A carriage return stands only in front of a line feed. -/
def returnsPaired : List Char → Bool
  | [] => true
  | '\r' :: '\n' :: rest => returnsPaired rest
  | '\r' :: _ => false
  | _ :: rest => returnsPaired rest

/-- A run of quotes inside a text between tripled quotes.  Three close the text; one
or two more in front of them belong to it. -/
def quotesPiece (quote : Char) (cs : List Char) : Piece :=
  let run := (cs.takeWhile (· == quote)).length
  if run < 3 then .more (List.replicate run quote) (cs.drop run)
  else if run = 3 then .last (cs.drop 3)
  else if run ≤ 5 then .more (List.replicate (run - 3) quote) (cs.drop (run - 3))
  else .invalid

/-- A piece between tripled double quotes. -/
def longBasicPiece : List Char → Piece
  | [] => .invalid
  | '\\' :: rest =>
    match joinedLines? rest with
    | some next =>
      if returnsPaired (rest.take (rest.length - next.length)) then .more [] next else .invalid
    | none => escapePiece rest
  | c :: rest =>
    if c = '\x22' then quotesPiece '\x22' (c :: rest)
    else match lineEnd? (c :: rest) with
      | some next => .more ['\n'] next
      | none => plainPiece c rest

/-- A piece between tripled single quotes. -/
def longLiteralPiece : List Char → Piece
  | [] => .invalid
  | c :: rest =>
    if c = '\x27' then quotesPiece '\x27' (c :: rest)
    else match lineEnd? (c :: rest) with
      | some next => .more ['\n'] next
      | none => plainPiece c rest

/-! ## Strings -/

/-- The text of all pieces. -/
def readText (next : List Char → Piece) (cs : List Char) : Option (String × List Char) :=
  (readPieces next (cs.length + 1) cs).map fun r => (String.ofList r.1, r.2)

/-- The text after a line end right behind tripled quotes. -/
def dropFirstLineEnd (cs : List Char) : List Char := (lineEnd? cs).getD cs

/-- A string on one line. -/
def shortString? : Reader String
  | '\x22' :: rest => readText basicPiece rest
  | '\x27' :: rest => readText literalPiece rest
  | _ => none

/-- A string of any kind. -/
def string? : Reader String
  | '\x22' :: '\x22' :: '\x22' :: rest => readText longBasicPiece (dropFirstLineEnd rest)
  | '\x27' :: '\x27' :: '\x27' :: rest => readText longLiteralPiece (dropFirstLineEnd rest)
  | cs => shortString? cs

/-! ## Keys -/

/-- A letter, a digit, an underscore or a hyphen, all of ASCII. -/
def isBareKeyChar (c : Char) : Bool := c.isAlphanum || c == '_' || c == '-'

/-- One key. -/
def simpleKey? (cs : List Char) : Option (String × List Char) :=
  match cs with
  | '\x22' :: _ => shortString? cs
  | '\x27' :: _ => shortString? cs
  | _ =>
    let word := cs.takeWhile isBareKeyChar
    if word.isEmpty then none else some (String.ofList word, cs.drop word.length)

/-- A path of at most `steps` keys, with blanks around each. -/
def keyPathWithin : (steps : Nat) → Reader (List String)
  | 0, _ => none
  | steps + 1, cs => do
    let (key, rest) ← simpleKey? (skipBlanks cs)
    match skipBlanks rest with
    | '.' :: more =>
      let (keys, rest) ← keyPathWithin steps more
      return (key :: keys, rest)
    | rest => return ([key], rest)

/-- The number of levels below which tables and arrays may be nested. -/
def nestingLimit : Nat := 80

/-- A path of keys, which has to stay below the limit of nesting. -/
def keyPath? : Reader (List String) := keyPathWithin (nestingLimit - 1)

end Hyperslab.Toml
