/-
# `Hyperslab.Regex.Basic` — regular expressions

A regular expression is made of atoms, sets of characters and conditions on a place, by
concatenation, choice and counted repetition.  What a pattern text adds by flags and names
has been resolved before.

A place in a text is what stands right before and right after it, and that is all that a
condition may look at.

The shape of an expression is a type of its own, `Shape`, with anything at its leaves: the
atoms become moves between the places of a text when it is matched, and stretches of text
when its size is measured.  Groups and greed are part of the shape, though neither decides
whether a text matches, because they keep apart what is else the same.
-/
import Hyperslab.Unicode.Property

namespace Hyperslab

namespace Regex

/-- A place in a text: the characters beside it. -/
structure Place where
  before : Option Char
  after : Option Char
deriving DecidableEq, Repr

/-- Which characters make words. -/
inductive WordKind where
  | unicode
  | ascii
deriving DecidableEq, Repr

/-- The character makes words. -/
def WordKind.holds : WordKind → Char → Bool
  | .unicode, c => Unicode.isWordCharacter c
  | .ascii, c => c.isAlphanum || c == '_'

/-- Conditions on a place. -/
inductive Look where
  | textStart
  | textEnd
  | lineStart
  | lineEnd
  /-- Line ends are carriage returns, line feeds, and the two together. -/
  | lineStartCrlf
  | lineEndCrlf
  | wordBoundary (k : WordKind)
  | notWordBoundary (k : WordKind)
  | wordStart (k : WordKind)
  | wordEnd (k : WordKind)
  | wordStartHalf (k : WordKind)
  | wordEndHalf (k : WordKind)
deriving DecidableEq, Repr

/-- The place fulfils the condition. -/
def Look.holds (p : Place) : Look → Bool
  | .textStart => p.before.isNone
  | .textEnd => p.after.isNone
  | .lineStart => p.before.isNone || p.before == some '\n'
  | .lineEnd => p.after.isNone || p.after == some '\n'
  | .lineStartCrlf => p.before.isNone || p.before == some '\n'
      || (p.before == some '\r' && p.after != some '\n')
  | .lineEndCrlf => p.after.isNone || p.after == some '\r'
      || (p.after == some '\n' && p.before != some '\r')
  | .wordBoundary k => p.before.any k.holds != p.after.any k.holds
  | .notWordBoundary k => p.before.any k.holds == p.after.any k.holds
  | .wordStart k => !p.before.any k.holds && p.after.any k.holds
  | .wordEnd k => p.before.any k.holds && !p.after.any k.holds
  | .wordStartHalf k => !p.before.any k.holds
  | .wordEndHalf k => !p.after.any k.holds

/-! ## Shapes -/

/-- Leaves put together to an expression. -/
inductive Shape (α : Type) where
  /-- Nothing but the empty text. -/
  | empty
  | leaf (a : α)
  /-- Parentheses, with a number if they capture. -/
  | group (index : Option Nat) (r : Shape α)
  /-- At least `least` and at most `most` times, and rather more often if `greedy`. -/
  | rep (r : Shape α) (least : Nat) (most : Option Nat) (greedy : Bool)
  | seq (a b : Shape α)
  | alt (a b : Shape α)
deriving DecidableEq, Repr

namespace Shape

variable {α β : Type}

/-- The same shape with other leaves. -/
def map (f : α → β) : Shape α → Shape β
  | .empty => .empty
  | .leaf a => .leaf (f a)
  | .group index r => .group index (r.map f)
  | .rep r least most greedy => .rep (r.map f) least most greedy
  | .seq a b => .seq (a.map f) (b.map f)
  | .alt a b => .alt (a.map f) (b.map f)

/-- The leaves from left to right. -/
def leaves : Shape α → List α
  | .empty => []
  | .leaf a => [a]
  | .group _ r => r.leaves
  | .rep r _ _ _ => r.leaves
  | .seq a b => a.leaves ++ b.leaves
  | .alt a b => a.leaves ++ b.leaves

/-- One after the other. -/
def ofSequence : List (Shape α) → Shape α
  | [] => .empty
  | [r] => r
  | r :: rest => .seq r (ofSequence rest)

/-- One or the other; the list is not empty. -/
def ofChoice : List (Shape α) → Shape α
  | [] => .empty
  | [r] => r
  | r :: rest => .alt r (ofChoice rest)

end Shape

/-- The parts of an expression that have no parts. -/
inductive Atom where
  /-- One character of a set. -/
  | set (s : Unicode.Ranges)
  /-- The empty text at certain places. -/
  | look (l : Look)
deriving DecidableEq, Repr

end Regex

/-- A regular expression. -/
abbrev Regex := Regex.Shape Regex.Atom

end Hyperslab
