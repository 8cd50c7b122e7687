/-
# `Hyperslab.Regex.Matching` — which texts an expression matches

The places of a text are numbered from its beginning, and a set of places is a number
whose bits are the members.  An expression takes a set of places, where it may begin, to
the set of those where it may end: a set of characters moves over the characters that
belong to it, all at once, and a condition keeps the places that fulfil it.

So a repetition is a repeated step from set to set.  A step only ever leads on, so after
as many steps as there are places nothing changes any more, and no count, however large,
costs more than that: a repetition ends as soon as a step changes nothing.
-/
import Hyperslab.Regex.Basic

namespace Hyperslab

namespace Regex

/-! ## Places -/

/-- The places of a text, given what stands before it. -/
def placesFrom (before : Option Char) : List Char → List Place
  | [] => [⟨before, none⟩]
  | c :: cs => ⟨before, some c⟩ :: placesFrom (some c) cs

/-- The places of a text. -/
def places (text : List Char) : List Place := placesFrom none text

/-- A set of places, by the bits of a number. -/
abbrev PlaceSet := Nat

namespace PlaceSet

/-- The places that pass a test. -/
def ofTest (test : Place → Bool) : List Place → PlaceSet
  | [] => 0
  | p :: rest => 2 * ofTest test rest + (test p).toNat

/-- Every place. -/
def all (ps : List Place) : PlaceSet := ofTest (fun _ => true) ps

/-- The places behind those of a set. -/
def advance (s : PlaceSet) : PlaceSet := 2 * s

/-- A step taken a number of times. -/
def iterate (step : PlaceSet → PlaceSet) : (times : Nat) → PlaceSet → PlaceSet
  | 0, s => s
  | times + 1, s =>
    let t := step s
    if t = s then s else iterate step times t

/-- What is reached by taking a step up to a number of times. -/
def gather (step : PlaceSet → PlaceSet) : (times : Nat) → PlaceSet → PlaceSet
  | 0, s => s
  | times + 1, s =>
    let t := s ||| step s
    if t = s then s else gather step times t

/-! Stopping early changes nothing. -/

theorem iterate_of_eq {step : PlaceSet → PlaceSet} {s : PlaceSet} (h : step s = s)
    (times : Nat) : iterate step times s = s := by
  cases times with
  | zero => rfl
  | succ times => simp [iterate, h]

theorem iterate_succ (step : PlaceSet → PlaceSet) (times : Nat) (s : PlaceSet) :
    iterate step (times + 1) s = iterate step times (step s) := by
  by_cases h : step s = s
  · rw [h, iterate_of_eq h, iterate_of_eq h]
  · simp [iterate, h]

theorem gather_of_eq {step : PlaceSet → PlaceSet} {s : PlaceSet} (h : s ||| step s = s)
    (times : Nat) : gather step times s = s := by
  cases times with
  | zero => rfl
  | succ times => simp [gather, h]

theorem gather_succ (step : PlaceSet → PlaceSet) (times : Nat) (s : PlaceSet) :
    gather step (times + 1) s = gather step times (s ||| step s) := by
  by_cases h : s ||| step s = s
  · rw [h, gather_of_eq h, gather_of_eq h]
  · simp [gather, h]

end PlaceSet

/-! ## Matching -/

/-- What an atom does to the places of one text. -/
inductive Move where
  /-- From these places to the ones behind them. -/
  | over (s : PlaceSet)
  /-- Only at these places. -/
  | at (s : PlaceSet)
deriving DecidableEq, Repr

/-- The places from which a move leads on, led on. -/
def Move.ends : Move → PlaceSet → PlaceSet
  | .over s, start => PlaceSet.advance (start &&& s)
  | .at s, start => start &&& s

/-- What an atom does to the places of a text. -/
def Atom.move (ps : List Place) : Atom → Move
  | .set s => .over (.ofTest (fun p => p.after.any s.contains) ps)
  | .look l => .at (.ofTest l.holds ps)

/-- Values of a function for a list of arguments. -/
def tabulate {α β : Type} (f : α → β) (xs : List α) : List (α × β) := xs.map fun x => (x, f x)

/-- A value of a function, by a table if it is there. -/
def lookUp {α β : Type} [BEq α] (f : α → β) (table : List (α × β)) (x : α) : β :=
  (table.lookup x).getD (f x)

theorem lookUp_tabulate {α β : Type} [BEq α] [LawfulBEq α] (f : α → β) (xs : List α) (x : α) :
    lookUp f (tabulate f xs) x = f x := by
  induction xs with
  | nil => rfl
  | cons y ys ih =>
    unfold lookUp tabulate at ih ⊢
    rw [List.map_cons, List.lookup_cons]
    cases h : x == y with
    | true => rw [eq_of_beq h]; rfl
    | false => exact ih

/-- Where moves may end that begin at places of a set; `count` is the number of all
places. -/
def Shape.ends (count : Nat) : Shape Move → PlaceSet → PlaceSet
  | .empty, s => s
  | .leaf m, s => m.ends s
  | .group _ r, s => r.ends count s
  | .rep r least most _, s =>
    .gather (r.ends count) (most.elim count (· - least)) (.iterate (r.ends count) least s)
  | .seq a b, s => b.ends count (a.ends count s)
  | .alt a b, s => a.ends count s ||| b.ends count s

end Regex

open Regex in
/-- Some part of the text matches.  Atoms that are the same make the same move, which is
found only once. -/
def Regex.isMatch (r : Regex) (text : String) : Bool :=
  let ps := places text.toList
  let moves := tabulate (Atom.move ps) r.leaves.eraseDups
  (r.map (lookUp (Atom.move ps) moves)).ends ps.length (.all ps) != 0

end Hyperslab
