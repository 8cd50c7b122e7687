/-
# `Hyperslab.Regex.Pattern` — patterns as they are written

The shape of a pattern text, before any of its flags has been given a meaning.  Only
the flag that lets blanks and comments into a pattern is spent already, because it
decides how the text is read.

`nesting` measures a pattern the way the limit on it counts: every group,
repetition, choice, sequence and bracketed set is one level.
-/
import Hyperslab.Regex.Basic

namespace Hyperslab.Regex

/-- The flags of a pattern. -/
inductive Flag where
  | caseInsensitive
  | multiLine
  | dotAll
  | swapGreed
  | unicode
  | crlf
  /-- Blanks and comments do not count. -/
  | spaced
deriving DecidableEq, Repr

/-- Flags that are set or cleared together; none is named twice. -/
abbrev FlagChange := List (Flag × Bool)

/-- The classes with a letter of their own. -/
inductive Shorthand where
  | digit
  | space
  | word
deriving DecidableEq, Repr

/-- A character of a pattern.  One written by exactly two hexadecimal digits means a
byte where the unicode flag is off. -/
structure Literal where
  char : Char
  byte : Bool
deriving DecidableEq, Repr

/-- Operations between sets. -/
inductive SetOperation where
  | inter
  | diff
  | symmDiff
deriving DecidableEq, Repr

/-- A set of characters as written. -/
inductive SetTerm where
  | literal (l : Literal)
  | span (low high : Literal)
  | shorthand (s : Shorthand) (inside : Bool)
  /-- A class of ASCII, by its ranges. -/
  | ascii (rs : Unicode.Ranges) (inside : Bool)
  | named (inside : Bool) (name : List Char)
  | valued (inside : Bool) (name value : List Char)
  | bracketed (inside : Bool) (content : SetTerm)
  | union (items : List SetTerm)
  | operation (op : SetOperation) (a b : SetTerm)

/-- Conditions as written. -/
inductive Anchor where
  | lineStart
  | lineEnd
  | textStart
  | textEnd
  | wordBoundary
  | notWordBoundary
  | wordStart
  | wordEnd
  | wordStartHalf
  | wordEndHalf
deriving DecidableEq, Repr

/-- A pattern as written. -/
inductive Pattern where
  | empty
  | flags (change : FlagChange)
  | literal (l : Literal)
  | dot
  | anchor (a : Anchor)
  | set (s : SetTerm)
  /-- Repeated, and rather less often if `isLazy`. -/
  | rep (p : Pattern) (least : Nat) (most : Option Nat) (isLazy : Bool)
  | group (change : FlagChange) (p : Pattern)
  /-- A group that captures, with its number. -/
  | capture (index : Nat) (p : Pattern)
  | alternation (ps : List Pattern)
  | sequence (ps : List Pattern)

namespace SetTerm

mutual

/-- The levels of a set. -/
def nesting : SetTerm → Nat
  | .literal _ => 0
  | .span _ _ => 0
  | .shorthand _ _ => 0
  | .ascii _ _ => 0
  | .named _ _ => 0
  | .valued _ _ _ => 0
  | .bracketed _ content => content.nesting + 1
  | .union [] => 0
  | .union (t :: rest) => nestingOfItems (t :: rest) + 1
  | .operation _ a b => max a.nesting b.nesting + 1

/-- The levels of the deepest item. -/
def nestingOfItems : List SetTerm → Nat
  | [] => 0
  | t :: rest => max t.nesting (nestingOfItems rest)

end

/-- Items side by side; a single one stands for itself. -/
def ofItems : List SetTerm → SetTerm
  | [t] => t
  | items => .union items

end SetTerm

namespace Pattern

mutual

/-- The levels of a pattern. -/
def nesting : Pattern → Nat
  | .empty => 0
  | .flags _ => 0
  | .literal _ => 0
  | .dot => 0
  | .anchor _ => 0
  | .set s => s.nesting
  | .rep p _ _ _ => p.nesting + 1
  | .group _ p => p.nesting + 1
  | .capture _ p => p.nesting + 1
  | .alternation ps => nestingOfList ps + 1
  | .sequence ps => nestingOfList ps + 1

/-- The levels of the deepest pattern. -/
def nestingOfList : List Pattern → Nat
  | [] => 0
  | p :: rest => max p.nesting (nestingOfList rest)

end

/-- One after the other; a single pattern stands for itself. -/
def ofSequence : List Pattern → Pattern
  | [] => .empty
  | [p] => p
  | ps => .sequence ps

/-- One or the other; a single pattern stands for itself. -/
def ofChoice : List Pattern → Pattern
  | [] => .empty
  | [p] => p
  | ps => .alternation ps

/-- Something that a repetition can follow. -/
def isRepeatable : Pattern → Bool
  | .empty => false
  | .flags _ => false
  | _ => true

end Pattern

end Hyperslab.Regex
