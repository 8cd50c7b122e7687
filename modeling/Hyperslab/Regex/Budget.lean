/-
# `Hyperslab.Regex.Budget` — expressions that are too large

An expression is refused if an automaton for it would take more memory than a fixed
budget, either the one that reads texts forwards or the one that reads them backwards.
What they would take is counted along the normal form, in the order in which their states
would be made.  Repetitions are written out, so a part counts as often as it has to be
copied; counting ends as soon as the budget is exceeded.
-/
import Hyperslab.Regex.Normal
import Hyperslab.Regex.Tally

namespace Hyperslab

namespace Regex

/-- The most memory that an automaton may take. -/
def budget : Nat := 10485760

/-- The bytes of a text in the order in which they are read. -/
def readBytes (d : Direction) (codes : List Nat) : List Nat :=
  let bytes := codes.flatMap Unicode.bytesOf
  match d with
  | .forwards => bytes
  | .backwards => bytes.reverse

namespace Tally

/-- The memory exceeds the budget. -/
def isOver (t : Tally) : Bool := budget < t.bytes

/-- A tally with copies of something. -/
def addCopies (add : Tally → Tally) : (count : Nat) → Tally → Tally
  | 0, t => t
  | count + 1, t => if t.isOver then t else addCopies add count (add t)

/-- A tally with a repetition of something, which may be empty or not. -/
def addRepeated (isFilled : Bool) (add : Tally → Tally) (least : Nat) (most : Option Nat)
    (t : Tally) : Tally :=
  match most with
  | none =>
    if 0 < least then addCopies add least t + forking 2
    else if isFilled then add (t + forking 2)
    else add t + forking 2 + forking 2 + plain 1
  | some most =>
    if least = most then addCopies add least t
    else if least = 0 ∧ most = 1 then add (t + forking 2) + plain 1
    else
      let required := if least = 0 then t + plain 1 else addCopies add least t
      addCopies (fun t => add (t + forking 2)) (most - least) (required + plain 1)

/-- A tally with a part. -/
def addPart (d : Direction) (t : Tally) : Part → Tally
  | .text codes => t + plain (Unicode.byteLength codes)
  | .set s => t.addSet d s
  | .look _ => t + plain 1

end Tally

/-- Where something stands: by itself, as the second branch of a choice, or as a later
branch.  Only with its second branch does something become a choice. -/
inductive Standing where
  | alone
  | second
  | later
deriving DecidableEq, Repr

/-- What holds a branch and those before it together. -/
def Standing.joint : Standing → Tally
  | .alone => .plain 0
  | .second => .forking 2 + .plain 1
  | .later => .ways 1

namespace Normal

/-- The texts of a choice between texts. -/
def texts? : Normal → Option (List (List Nat))
  | .leaf (.text codes) => some [codes]
  | .alt a b => do
    let xs ← texts? a
    let ys ← texts? b
    return xs ++ ys
  | _ => none

/-- A tally with a normal form.  Groups are remembered only on the way forwards. -/
def addTo (d : Direction) : Normal → Standing → Tally → Tally
  | .empty, p, t => t + .plain 1 + p.joint
  | .leaf a, p, t => t.addPart d a + p.joint
  | .group _ r, p, t =>
    match d with
    | .forwards => addTo d r .alone (t + .plain 1) + .plain 1 + p.joint
    | .backwards => addTo d r .alone t + p.joint
  | .rep r least most _, p, t =>
    t.addRepeated (traits r).isFilled (addTo d r .alone) least most + p.joint
  | .seq a b, p, t =>
    match d with
    | .forwards => addTo d b .alone (addTo d a .alone t) + p.joint
    | .backwards => addTo d a .alone (addTo d b .alone t) + p.joint
  | .alt a b, .alone, t =>
    match texts? (.alt a b) with
    | some texts => t + .ofWords (texts.map (readBytes d))
    | none => addTo d b .second (addTo d a .alone t)
  | .alt a b, p, t => addTo d b .later (addTo d a .alone t + p.joint)

/-- The automaton for a form.  Where matches need not begin at the end where reading begins,
bytes are skipped first.  Forwards, the whole is a group of its own. -/
def automaton (d : Direction) (r : Normal) : Tally :=
  let anchored := match d with
    | .forwards => (traits r).opening
    | .backwards => (traits r).closing
  let start : Tally :=
    if anchored then .plain 1 else .forking 2 + .plain 1 + .branching 1
  match d with
  | .forwards => addTo d r .alone (start + .plain 1) + .plain 2
  | .backwards => addTo d r .alone start + .plain 1

end Normal

/-- The automata for an expression are within the budget. -/
def isAffordable (r : Regex) : Bool :=
  let n := r.normal
  !(n.automaton .forwards).isOver && !(n.automaton .backwards).isOver

end Regex

end Hyperslab
