/-
# `Hyperslab.Regex.Escape` — single characters, escapes and blanks

The smallest parts of a pattern text: a character that stands for itself, what a
backslash makes of the characters after it, and what lies between the parts when
blanks and comments do not count.
-/
import Hyperslab.Regex.Pattern

namespace Hyperslab.Regex

/-! ## Blanks and comments -/

/-- The text after blanks and comments. -/
def skipSpaced : (inComment : Bool) → List Char → List Char
  | _, [] => []
  | true, c :: cs => skipSpaced (c != '\n') cs
  | false, c :: cs =>
    if Unicode.isWhiteSpace c then skipSpaced false cs
    else if c = '#' then skipSpaced true cs
    else c :: cs

/-- The text after what does not count. -/
def skipSpace (spaced : Bool) (cs : List Char) : List Char :=
  if spaced then skipSpaced false cs else cs

/-- The character behind the first one, looking past blanks and the mark of a
comment. -/
def peekSpaced (spaced : Bool) (cs : List Char) : Option Char :=
  let behind := cs.drop 1
  if !spaced then behind.head?
  else
    let next := match behind.dropWhile Unicode.isWhiteSpace with
      | '#' :: more => more.dropWhile Unicode.isWhiteSpace
      | more => more
    next.head? <|> behind.head?

/-! ## Digits -/

/-- The value of a hexadecimal digit. -/
def hexDigit? (c : Char) : Option Nat :=
  if '0' ≤ c ∧ c ≤ '9' then some (c.toNat - '0'.toNat)
  else if 'a' ≤ c ∧ c ≤ 'f' then some (c.toNat - 'a'.toNat + 10)
  else if 'A' ≤ c ∧ c ≤ 'F' then some (c.toNat - 'A'.toNat + 10)
  else none

/-- The character with a code. -/
def charOfCode? (n : Nat) : Option Char :=
  let c := Char.ofNat n
  if c.toNat = n then some c else none

/-- The value of exactly `width` more hexadecimal digits. -/
def fixedHex? (spaced : Bool) : (width : Nat) → (value : Nat) → List Char →
    Option (Nat × List Char)
  | 0, value, cs => some (value, cs)
  | width + 1, value, cs =>
    match cs with
    | [] => none
    | c :: rest => (hexDigit? c).bind fun d =>
        fixedHex? spaced width (16 * value + d) (skipSpace spaced rest)

/-- The value of hexadecimal digits up to a closing brace, and whether there were
any; `steps` bounds their number. -/
def bracedHex? (spaced : Bool) : (steps : Nat) → (value : Option Nat) → List Char →
    Option (Nat × List Char)
  | 0, _, _ => none
  | steps + 1, value, cs =>
    match skipSpace spaced cs with
    | [] => none
    | c :: rest =>
      if c = '\x7d' then value.map fun n => (n, rest)
      else (hexDigit? c).bind fun d =>
        bracedHex? spaced steps (some (16 * value.getD 0 + d)) rest

/-- A character by its code, after the letter that introduces it. -/
def hexLiteral? (spaced : Bool) (width : Nat) (cs : List Char) :
    Option (Literal × List Char) := do
  match skipSpace spaced cs with
  | [] => none
  | '\x7b' :: rest =>
    let (n, rest) ← bracedHex? spaced (rest.length + 1) none rest
    let c ← charOfCode? n
    return (⟨c, false⟩, skipSpace spaced rest)
  | start =>
    let (n, rest) ← fixedHex? spaced width 0 start
    let c ← charOfCode? n
    return (⟨c, width == 2⟩, rest)

/-- A decimal number, with white space around it; `none` inside when there are no
digits. -/
def decimal? (spaced : Bool) (cs : List Char) : Option Nat × List Char :=
  let start := cs.dropWhile Unicode.isWhiteSpace
  let rec digits : (steps : Nat) → Option Nat → List Char → Option Nat × List Char
    | 0, n, cs => (n, cs)
    | steps + 1, n, cs =>
      match cs with
      | [] => (n, [])
      | c :: rest =>
        if c.isDigit then
          digits steps (some (10 * n.getD 0 + (c.toNat - '0'.toNat))) (skipSpace spaced rest)
        else (n, c :: rest)
  let (n, rest) := digits (start.length + 1) none start
  (n, rest.dropWhile Unicode.isWhiteSpace)

/-! ## Classes by name -/

/-- The text up to a closing brace, and what stands behind the brace; `steps` bounds its
length. -/
def braced? (spaced : Bool) : (steps : Nat) → List Char → Option (List Char × List Char)
  | 0, _ => none
  | steps + 1, cs =>
    match skipSpace spaced cs with
    | [] => none
    | c :: rest =>
      if c = '\x7d' then some ([], rest)
      else (braced? spaced steps rest).map fun r => (c :: r.1, r.2)

/-- The parts beside the first `!=`. -/
def splitUnequal : List Char → Option (List Char × List Char)
  | [] => none
  | '!' :: '=' :: rest => some ([], rest)
  | c :: rest => (splitUnequal rest).map fun r => (c :: r.1, r.2)

/-- The parts beside the first occurrence of a sign. -/
def splitSign (sign : Char) : List Char → Option (List Char × List Char)
  | [] => none
  | c :: rest =>
    if c = sign then some ([], rest)
    else (splitSign sign rest).map fun r => (c :: r.1, r.2)

/-- The class that a text in braces names: one name, or a pair of names.  A pair joined by
`!=` stands for all other characters. -/
def classOfBody (inside : Bool) (body : List Char) : SetTerm :=
  match splitUnequal body with
  | some (name, value) => .valued (!inside) name value
  | none =>
    match splitSign ':' body <|> splitSign '=' body with
    | some (name, value) => .valued inside name value
    | none => .named inside body

/-- A class by name, after the letter that introduces it: one character, or a text in
braces. -/
def className? (spaced : Bool) (inside : Bool) (cs : List Char) :
    Option (SetTerm × List Char) :=
  match skipSpace spaced cs with
  | [] => none
  | '\x7b' :: rest =>
    (braced? spaced (rest.length + 1) rest).map fun r => (classOfBody inside r.1, r.2)
  | c :: rest =>
    if c = '\\' then none else some (.named inside [c], skipSpace spaced rest)

/-! ## Escapes -/

/-- A part of a pattern without parts. -/
inductive Primitive where
  | literal (l : Literal)
  | dot
  | anchor (a : Anchor)
  | set (s : SetTerm)

/-- The pattern that a part is. -/
def Primitive.toPattern : Primitive → Pattern
  | .literal l => .literal l
  | .dot => .dot
  | .anchor a => .anchor a
  | .set s => .set s

/-- Any sign of ASCII stands for itself behind a backslash, except for the angle
brackets. -/
def isEscapable (c : Char) : Bool :=
  c.toNat < 128 && !c.isAlphanum && c != '<' && c != '>'

/-- The condition in braces behind `\b`.  If the braces do not begin with a letter or a
hyphen they belong to a repetition. -/
def boundaryName? (spaced : Bool) (cs : List Char) : Option (Anchor × List Char) :=
  match cs with
  | '\x7b' :: rest =>
    let start := skipSpace spaced rest
    match start with
    | [] => none
    | c :: _ =>
      if !isNameChar c then some (.wordBoundary, cs)
      else
        let (name, after) := letters (start.length + 1) start
        match after with
        | '\x7d' :: after =>
          let name := String.ofList name
          if name = "start" then some (.wordStart, after)
          else if name = "end" then some (.wordEnd, after)
          else if name = "start-half" then some (.wordStartHalf, after)
          else if name = "end-half" then some (.wordEndHalf, after)
          else none
        | _ => none
  | _ => some (.wordBoundary, cs)
where
  /-- A letter of ASCII or a hyphen. -/
  isNameChar (c : Char) : Bool := c.isAlpha || c == '-'
  /-- The letters and hyphens at the beginning. -/
  letters : (steps : Nat) → List Char → List Char × List Char
    | 0, cs => ([], cs)
    | steps + 1, cs =>
      match cs with
      | [] => ([], [])
      | c :: rest =>
        if isNameChar c then
          let r := letters steps (skipSpace spaced rest)
          (c :: r.1, r.2)
        else ([], c :: rest)

/-- What stands behind a backslash. -/
def escape? (spaced : Bool) : List Char → Option (Primitive × List Char)
  | [] => none
  | c :: rest =>
    let char (code : Nat) : Option (Primitive × List Char) :=
      some (.literal ⟨Char.ofNat code, false⟩, rest)
    let anchor (a : Anchor) : Option (Primitive × List Char) := some (.anchor a, rest)
    let short (s : Shorthand) (inside : Bool) : Option (Primitive × List Char) :=
      some (.set (.shorthand s inside), rest)
    let code (width : Nat) : Option (Primitive × List Char) :=
      (hexLiteral? spaced width rest).map fun r => (.literal r.1, r.2)
    let named (inside : Bool) : Option (Primitive × List Char) :=
      (className? spaced inside rest).map fun r => (.set r.1, r.2)
    match c with
    | 'x' => code 2
    | 'u' => code 4
    | 'U' => code 8
    | 'p' => named true
    | 'P' => named false
    | 'd' => short .digit true
    | 'D' => short .digit false
    | 's' => short .space true
    | 'S' => short .space false
    | 'w' => short .word true
    | 'W' => short .word false
    | 'a' => char 7
    | 'f' => char 12
    | 't' => char 9
    | 'n' => char 10
    | 'r' => char 13
    | 'v' => char 11
    | 'A' => anchor .textStart
    | 'z' => anchor .textEnd
    | 'b' => (boundaryName? spaced rest).map fun r => (.anchor r.1, r.2)
    | 'B' => anchor .notWordBoundary
    | '<' => anchor .wordStart
    | '>' => anchor .wordEnd
    | _ => if isEscapable c then some (.literal ⟨c, false⟩, rest) else none

/-- A part that is neither a group, a bracketed set nor a repetition. -/
def primitive? (spaced : Bool) : List Char → Option (Primitive × List Char)
  | [] => none
  | c :: rest =>
    match c with
    | '\\' => escape? spaced rest
    | '.' => some (.dot, rest)
    | '^' => some (.anchor .lineStart, rest)
    | '$' => some (.anchor .lineEnd, rest)
    | _ => some (.literal ⟨c, false⟩, rest)

end Hyperslab.Regex
