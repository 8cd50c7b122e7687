/-
# `Hyperslab.Regex.Normal` — normal forms

Expressions that say the same thing in different words are brought to one form before
their size is measured.  In a normal form

* characters one after the other are one stretch of text, and no sequence stands directly
  in a sequence, nor a choice in a choice;
* a choice between single characters, or between sets of them, is one set;
* what all branches of a choice begin with stands before the choice;
* what can only be empty is repeated at most once, and nothing is repeated exactly once.

A sequence of more than two parts is a sequence of its first part and of those behind it,
and a choice likewise.
-/
import Hyperslab.Regex.Basic
import Hyperslab.Unicode.ByteSequence

namespace Hyperslab

namespace Regex

/-- The parts of a normal form that have no parts. -/
inductive Part where
  /-- Characters one after the other, by their codes. -/
  | text (codes : List Nat)
  | set (s : Unicode.Ranges)
  | look (l : Look)
deriving DecidableEq, Repr

/-- An expression in normal form. -/
abbrev Normal := Shape Part

/-! ## Traits -/

/-- What is known of all matches of an expression: how many bytes they have at least and
at most, where that is known, and whether they stand at the beginning and at the end of
the text. -/
structure Traits where
  least : Option Nat
  most : Option Nat
  opening : Bool
  closing : Bool
deriving DecidableEq, Repr

/-- The number that two known numbers give. -/
def both (f : Nat → Nat → Nat) (x y : Option Nat) : Option Nat :=
  x.bind fun x => y.map (f x)

namespace Traits

/-- No match has any bytes. -/
def isEmpty (t : Traits) : Bool := t.most == some 0

/-- Every match has some bytes. -/
def isFilled (t : Traits) : Bool := t.least.any (0 < ·)

/-- Of bytes of some number. -/
def ofBytes (least most : Option Nat) : Traits := ⟨least, most, false, false⟩

/-- Of one thing after another. -/
def seq (a b : Traits) : Traits where
  least := both (· + ·) a.least b.least
  most := both (· + ·) a.most b.most
  opening := a.opening || (a.isEmpty && b.opening)
  closing := b.closing || (b.isEmpty && a.closing)

/-- Of one thing or another. -/
def alt (a b : Traits) : Traits where
  least := both min a.least b.least
  most := both max a.most b.most
  opening := a.opening && b.opening
  closing := a.closing && b.closing

/-- Of a repetition. -/
def rep (t : Traits) (least : Nat) (most : Option Nat) : Traits where
  least := t.least.map (· * least)
  most := both (· * ·) t.most most
  opening := 0 < least && t.opening
  closing := 0 < least && t.closing

end Traits

/-- The traits of a part. -/
def Part.traits : Part → Traits
  | .text codes =>
    .ofBytes (some (Unicode.byteLength codes)) (some (Unicode.byteLength codes))
  | .set s =>
    .ofBytes (s.head?.map fun r => Unicode.byteCount r.1)
      (s.getLast?.map fun r => Unicode.byteCount r.2)
  | .look l => ⟨some 0, some 0, l == .textStart, l == .textEnd⟩

namespace Normal

/-- The traits of a normal form. -/
def traits : Normal → Traits
  | .empty => .ofBytes (some 0) (some 0)
  | .leaf p => p.traits
  | .group _ r => traits r
  | .rep r least most _ => (traits r).rep least most
  | .seq a b => (traits a).seq (traits b)
  | .alt a b => (traits a).alt (traits b)

/-! ## Putting together -/

/-- A set of characters; a set of one is a text. -/
def ofSet (s : Unicode.Ranges) : Normal :=
  match s with
  | [(a, b)] => .leaf (if a = b then .text [a] else .set s)
  | s => .leaf (.set s)

/-- The form of an atom. -/
def ofAtom : Atom → Normal
  | .set s => ofSet s
  | .look l => .leaf (.look l)

/-- Something that is no sequence, and what stands behind it. -/
def before : Normal → Normal → Normal
  | .empty, b => b
  | a, .empty => a
  | .leaf (.text cs), .leaf (.text ds) => .leaf (.text (cs ++ ds))
  | .leaf (.text cs), .seq (.leaf (.text ds)) rest => .seq (.leaf (.text (cs ++ ds))) rest
  | a, b => .seq a b

/-- One after the other. -/
def followedBy : Normal → Normal → Normal
  | .seq a b, c => before a (followedBy b c)
  | a, c => before a c

/-- The parts of a sequence. -/
def parts : Normal → List Normal
  | .seq a b => a :: parts b
  | r => [r]

/-- The parts of a sequence of at least two. -/
def sequenceParts? : Normal → Option (List Normal)
  | .seq a b => some (a :: parts b)
  | _ => none

/-- The branches of a choice. -/
def branches : Normal → List Normal
  | .alt a b => a :: branches b
  | r => [r]

/-- The set that a single character is. -/
def single? : Normal → Option Unicode.Ranges
  | .leaf (.text [c]) => some [(c, c)]
  | _ => none

/-- The set that a form is. -/
def set? : Normal → Option Unicode.Ranges
  | .leaf (.set s) => some s
  | _ => none

/-- All sets of a list together, if there is one for every form. -/
def unionOf? (view : Normal → Option Unicode.Ranges) (rs : List Normal) :
    Option Unicode.Ranges :=
  (rs.mapM view).map fun sets => sets.foldl Unicode.Ranges.union []

/-- What two lists begin with. -/
def commonStart : List Normal → List Normal → List Normal
  | a :: as, b :: bs => if a = b then a :: commonStart as bs else []
  | _, _ => []

/-- What all lists begin with. -/
def commonStartOf : List (List Normal) → List Normal
  | [] => []
  | ps :: rest => rest.foldl commonStart ps

/-- A choice between branches of which none is a choice; branches that are all
characters or all sets are one set. -/
def choose (rs : List Normal) : Normal :=
  match unionOf? single? rs, unionOf? set? rs with
  | some s, _ => ofSet s
  | _, some s => ofSet s
  | none, none => Shape.ofChoice rs

/-- One or the other of several.  What all of them begin with, if all are sequences,
stands before the choice between the rests. -/
def oneOf : List Normal → Normal
  | [r] => r
  | rs =>
    let all := rs.flatMap branches
    match all.mapM sequenceParts? with
    | none => choose all
    | some sequences =>
      match commonStartOf sequences with
      | [] => choose all
      | start =>
        let rests := sequences.map fun ps => Shape.ofSequence (ps.drop start.length)
        followedBy (Shape.ofSequence start) (choose (rests.flatMap branches))

/-- A repetition. -/
def repeated (r : Normal) (least : Nat) (most : Option Nat) (greedy : Bool) : Normal :=
  let short := (traits r).isEmpty
  let least := if short then min least 1 else least
  let most := if short then some (min (most.getD 1) 1) else most
  if most = some 0 then .empty
  else if least = 1 ∧ most = some 1 then r
  else .rep r least most greedy

end Normal

/-- The normal forms of the branches of an expression. -/
def Shape.normals : Shape Atom → List Normal
  | .empty => [.empty]
  | .leaf a => [Normal.ofAtom a]
  | .group none r => [Normal.oneOf r.normals]
  | .group (some index) r => [.group (some index) (Normal.oneOf r.normals)]
  | .rep r least most greedy => [Normal.repeated (Normal.oneOf r.normals) least most greedy]
  | .seq a b => [Normal.followedBy (Normal.oneOf a.normals) (Normal.oneOf b.normals)]
  | .alt a b => a.normals ++ b.normals

/-- The normal form of an expression. -/
def normal (r : Regex) : Normal := Normal.oneOf r.normals

end Regex

end Hyperslab
