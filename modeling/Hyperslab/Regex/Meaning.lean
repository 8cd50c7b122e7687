/-
# `Hyperslab.Regex.Meaning` — from patterns to regular expressions

Flags give a pattern its meaning.  They change at a change of flags and keep their
values to the end of the group, past the bars between its branches; behind the group
those from before it hold again.

Where the unicode flag is off, a set may hold characters of ASCII only, so nothing may
be negated and a dot has no meaning.

A pattern whose expression would be too large has no meaning either.
-/
import Hyperslab.Regex.Budget
import Hyperslab.Regex.Reading
import Hyperslab.Unicode.CaseFolding
import Hyperslab.Unicode.PropertyName

namespace Hyperslab

namespace Regex

/-- The flags that bear on a meaning. -/
structure Flags where
  caseInsensitive : Bool
  multiLine : Bool
  dotAll : Bool
  unicode : Bool
  crlf : Bool
  swapGreed : Bool
deriving DecidableEq, Repr

namespace Flags

/-- The flags at the beginning of a pattern. -/
def initial : Flags := ⟨false, false, false, true, false, false⟩

/-- One flag set or cleared. -/
def set (f : Flags) (flag : Flag) (value : Bool) : Flags :=
  match flag with
  | .caseInsensitive => { f with caseInsensitive := value }
  | .multiLine => { f with multiLine := value }
  | .dotAll => { f with dotAll := value }
  | .unicode => { f with unicode := value }
  | .crlf => { f with crlf := value }
  | .swapGreed => { f with swapGreed := value }
  | .spaced => f

/-- The flags after a change. -/
def apply (f : Flags) (change : FlagChange) : Flags :=
  change.foldl (fun f c => f.set c.1 c.2) f

/-- The kind of words under the flags. -/
def wordKind (f : Flags) : WordKind := if f.unicode then .unicode else .ascii

end Flags

/-! ## Sets -/

/-- A set, with the other cases of its characters if case does not count. -/
def foldedUnder (f : Flags) (s : Unicode.Ranges) : Unicode.Ranges :=
  if f.caseInsensitive then (if f.unicode then s.folded else s.foldedAscii) else s

/-- A set or all other characters; there are no others to speak of without the unicode
flag. -/
def insideUnder? (f : Flags) (inside : Bool) (s : Unicode.Ranges) : Option Unicode.Ranges :=
  if inside then some s else if f.unicode then some s.complement else none

/-- The character of a literal; a byte past ASCII is none. -/
def Literal.charUnder? (l : Literal) (f : Flags) : Option Char :=
  if !f.unicode && l.byte && 127 < l.char.toNat then none else some l.char

/-- The character of a literal inside brackets. -/
def Literal.memberUnder? (l : Literal) (f : Flags) : Option Char :=
  if !f.unicode && 127 < l.char.toNat then none else some l.char

/-- The ranges of a class with a letter of its own. -/
def Shorthand.ranges (f : Flags) : Shorthand → Unicode.Ranges
  | .digit => if f.unicode then Unicode.decimalDigits else [(48, 57)]
  | .space => if f.unicode then Unicode.whiteSpaces else [(9, 13), (32, 32)]
  | .word => if f.unicode then Unicode.wordCharacters
      else [(48, 57), (65, 90), (95, 95), (97, 122)]

/-- A class found by name, which only the unicode flag allows.  It is closed under changes
of case before it is negated. -/
def namedSet? (f : Flags) (inside : Bool) (found : Option Unicode.Ranges) :
    Option Unicode.Ranges := do
  let s ← if f.unicode then found else none
  insideUnder? f inside (foldedUnder f s)

/-- The result of an operation between sets. -/
def SetOperation.apply : SetOperation → Unicode.Ranges → Unicode.Ranges → Unicode.Ranges
  | .inter => .inter
  | .diff => .diff
  | .symmDiff => .symmDiff

namespace SetTerm

mutual

/-- The characters of a set as written. -/
def meaning? (f : Flags) : SetTerm → Option Unicode.Ranges
  | .literal l => (l.memberUnder? f).map .single
  | .span low high => do
    let a ← low.memberUnder? f
    let b ← high.memberUnder? f
    return .span a b
  | .shorthand s inside => insideUnder? f inside (s.ranges f)
  | .ascii rs inside => insideUnder? f inside (foldedUnder f rs)
  | .named inside name => namedSet? f inside (Unicode.setNamed? name)
  | .valued inside name value => namedSet? f inside (Unicode.setValued? name value)
  | .bracketed inside content =>
    (content.meaning? f).bind fun s => insideUnder? f inside (foldedUnder f s)
  | .union items => itemsMeaning? f items
  | .operation op a b => do
    let x ← a.meaning? f
    let y ← b.meaning? f
    return op.apply (foldedUnder f x) (foldedUnder f y)

/-- The characters of items side by side. -/
def itemsMeaning? (f : Flags) : List SetTerm → Option Unicode.Ranges
  | [] => some []
  | t :: rest => do
    let s ← t.meaning? f
    let others ← itemsMeaning? f rest
    return s.union others

end

end SetTerm

/-! ## Parts -/

/-- The condition that an anchor stands for. -/
def Anchor.look (f : Flags) : Anchor → Look
  | .lineStart =>
    if f.multiLine then (if f.crlf then .lineStartCrlf else .lineStart) else .textStart
  | .lineEnd => if f.multiLine then (if f.crlf then .lineEndCrlf else .lineEnd) else .textEnd
  | .textStart => .textStart
  | .textEnd => .textEnd
  | .wordBoundary => .wordBoundary f.wordKind
  | .notWordBoundary => .notWordBoundary f.wordKind
  | .wordStart => .wordStart f.wordKind
  | .wordEnd => .wordEnd f.wordKind
  | .wordStartHalf => .wordStartHalf f.wordKind
  | .wordEndHalf => .wordEndHalf f.wordKind

/-- The characters of a dot: any but the ends of lines. -/
def dotSet? (f : Flags) : Option Unicode.Ranges :=
  let ends : Unicode.Ranges :=
    if f.dotAll then [] else if f.crlf then [(10, 10), (13, 13)] else [(10, 10)]
  if f.unicode then some ends.complement else none

/-- One character of a set. -/
def ofSet (s : Unicode.Ranges) : Regex := .leaf (.set s)

namespace Pattern

mutual

/-- The expression of a pattern, and the flags behind it. -/
def meaning? (f : Flags) : Pattern → Option (Regex × Flags)
  | .empty => some (.empty, f)
  | .flags change => some (.empty, f.apply change)
  | .literal l => (l.charUnder? f).map fun c => (ofSet (foldedUnder f (.single c)), f)
  | .dot => (dotSet? f).map fun s => (ofSet s, f)
  | .anchor a => some (.leaf (.look (a.look f)), f)
  | .set s => (s.meaning? f).map fun s => (ofSet s, f)
  | .rep p least most isLazy =>
    (p.meaning? f).map fun r => (.rep r.1 least most (isLazy == f.swapGreed), r.2)
  | .group change p => (p.meaning? (f.apply change)).map fun r => (.group none r.1, f)
  | .capture index p => (p.meaning? f).map fun r => (.group (some index) r.1, f)
  | .sequence ps => (listMeaning? f ps).map fun r => (.ofSequence r.1, r.2)
  | .alternation ps => (listMeaning? f ps).map fun r => (.ofChoice r.1, r.2)

/-- The expressions of patterns that stand one behind the other, and the flags behind
them. -/
def listMeaning? (f : Flags) : List Pattern → Option (List Regex × Flags)
  | [] => some ([], f)
  | p :: rest => do
    let (r, f) ← p.meaning? f
    let (rs, f) ← listMeaning? f rest
    return (r :: rs, f)

end

end Pattern

/-! ## Compilation -/

/-- The regular expression that a text denotes. -/
def compile? (text : String) : Option Regex := do
  let p ← Pattern.read? text.toList
  let (r, _) ← p.meaning? .initial
  if isAffordable r then return r else none

end Regex

end Hyperslab
