/-
# `Hyperslab.Regex.Tally` — what sets and words take in an automaton

An automaton that reads bytes is made of states, numbered in the order in which they are
made.  It is never built here, only its states and their memory are counted: a `Tally` is
the number of states, which is also the number of the next one, and the memory that they
need besides.

A state takes 32 bytes.  To these come 8 for each range in a state that tells ranges of
bytes apart, and 4 for each way out of a state that leads several ways without reading.
-/
import Hyperslab.Unicode.ByteSequence
import Std.Data.TreeMap

namespace Hyperslab.Regex

/-- States, and memory besides. -/
structure Tally where
  states : Nat
  extra : Nat
deriving DecidableEq, Repr

namespace Tally

instance : Add Tally := ⟨fun a b => ⟨a.states + b.states, a.extra + b.extra⟩⟩

/-- The whole memory. -/
def bytes (t : Tally) : Nat := 32 * t.states + t.extra

/-- States that need nothing besides. -/
def plain (count : Nat) : Tally := ⟨count, 0⟩

/-- A state that tells ranges of bytes apart. -/
def branching (count : Nat) : Tally := ⟨1, 8 * count⟩

/-- More ways out of a state. -/
def ways (count : Nat) : Tally := ⟨0, 4 * count⟩

/-- A state that leads several ways. -/
def forking (count : Nat) : Tally := plain 1 + ways count

/-- The sum of tallies. -/
def total (ts : List Tally) : Tally := ts.foldl (· + ·) ⟨0, 0⟩

end Tally

/-- Which way an automaton reads. -/
inductive Direction where
  | forwards
  | backwards
deriving DecidableEq, Repr

/-! ## Sets of characters

States that do the same are shared as far as they are remembered.  The memory for them has
a fixed number of slots; what a state does decides its slot by a hash, and a slot keeps only
the last state that came to it. -/

/-- A hash with one more number. -/
def stir (hash : UInt64) (n : Nat) : UInt64 := (hash ^^^ n.toUInt64) * 1099511628211

/-- The hash of numbers. -/
def hashOf (key : List Nat) : Nat := (key.foldl stir 14695981039346656037).toNat

/-- The slots with a state in them: what it does, and its number. -/
structure Slots where
  size : Nat
  filled : Std.TreeMap Nat (List Nat × Nat)

namespace Slots

/-- Slots without states. -/
def empty (size : Nat) : Slots := ⟨size, ∅⟩

/-- The number of the state that does something, if it is remembered. -/
def find? (s : Slots) (key : List Nat) : Option Nat :=
  match s.filled.get? (hashOf key % s.size) with
  | some (known, number) => if known = key then some number else none
  | none => none

/-- The slots with one more state remembered. -/
def put (s : Slots) (key : List Nat) (number : Nat) : Slots :=
  { s with filled := s.filled.insert (hashOf key % s.size) (key, number) }

/-- What is put is remembered. -/
theorem find?_put (s : Slots) (key : List Nat) (number : Nat) :
    (s.put key number).find? key = some number := by
  simp [find?, put, Std.TreeMap.get?_eq_getElem?]

/-- Slots on the way forwards. -/
def forwardSize : Nat := 10000

/-- Slots on the way backwards. -/
def backwardSize : Nat := 1000

end Slots

/-- A tally, and the states that can be shared. -/
structure Sharing where
  tally : Tally
  slots : Slots

/-- The number of a state that does something; a new one with its cost if none is
remembered. -/
def Sharing.state (s : Sharing) (key : List Nat) (cost : Tally) : Nat × Sharing :=
  match s.slots.find? key with
  | some number => (number, s)
  | none => (s.tally.states, ⟨s.tally + cost, s.slots.put key s.tally.states⟩)

/-- The sequences of bytes that write the characters of a set. -/
def setSequences (s : Unicode.Ranges) : List (List Unicode.ByteRange) :=
  s.flatMap fun r => Unicode.byteSequences r.1 r.2

/-- Sequences that stand together, by the range they begin with: each of these ranges, with
what follows it. -/
def byFirst : List (List Unicode.ByteRange) →
    List (Unicode.ByteRange × List (List Unicode.ByteRange))
  | [] => []
  | [] :: rest => byFirst rest
  | (r :: rs) :: rest =>
    match byFirst rest with
    | (first, tails) :: others =>
      if r = first then (r, rs :: tails) :: others
      else (r, [rs]) :: (first, tails) :: others
    | [] => [(r, [rs])]

/-- The state that reads sequences and ends in `last`, where `depth` bounds their length:
its number, after the states behind it.  It is the same as another if it tells the same
ranges apart and they lead to the same states. -/
def readingState (last : Nat) : (depth : Nat) → List (List Unicode.ByteRange) → Sharing →
    Nat × Sharing
  | 0, _, s => (last, s)
  | depth + 1, sequences, s =>
    if sequences.contains [] then (last, s)
    else
      let branches := byFirst sequences
      let (key, s) := branches.foldl (fun (done : List Nat × Sharing) g =>
        let (next, s) := readingState last depth g.2 done.2
        (done.1 ++ [g.1.1, g.1.2, next], s)) ([], s)
      s.state key (.branching branches.length)

/-- The states that read one sequence backwards and end in `last`: the number of the first
of them.  Its beginning is shared with other sequences. -/
def readingChain (last : Nat) (sequence : List Unicode.ByteRange) (s : Sharing) :
    Nat × Sharing :=
  sequence.foldl (fun (behind : Nat × Sharing) r =>
    behind.2.state [behind.1, r.1, r.2] (.plain 1)) (last, s)

/-- A tally with a set of characters.  Characters of ASCII are bytes and need no
sequences. -/
def Tally.addSet (d : Direction) (s : Unicode.Ranges) (t : Tally) : Tally :=
  if s.all (·.2 ≤ 127) then t + .plain 1 + .branching s.length
  else
    let sequences := setSequences s
    match d with
    | .forwards =>
      (readingState t.states 5 sequences ⟨t + .plain 1, .empty Slots.forwardSize⟩).2.tally
    | .backwards =>
      let last := t.states + 1
      (sequences.foldl (fun s sequence => (readingChain last sequence s).2)
        ⟨t + .plain 1 + .forking sequences.length, .empty Slots.backwardSize⟩).tally

/-! ## Words -/

/-- Words of which some have come to their end: a new stretch begins behind each of these.
Before any word goes on, all words that end count as one. -/
def stretches (words : List (List Nat)) : List (List (List Nat)) :=
  words.foldl (fun done w =>
    match w with
    | [] => if 1 < done.length && done.all List.isEmpty then done else done ++ [[]]
    | w => done.dropLast ++ [done.getLastD [] ++ [w]]) [[]]

/-- A state that reads the first bytes of words, and the states behind it, where `depth`
bounds the length of the words. -/
def wordStates : (depth : Nat) → List (List Nat) → Tally
  | 0, _ => .plain 0
  | depth + 1, words =>
    let parts := stretches words
    let filled := parts.filter fun part => !part.isEmpty
    let below := filled.map fun part =>
      let firsts := (part.filterMap List.head?).eraseDups
      let tails := firsts.map fun b =>
        part.filterMap fun w => if w.head? = some b then some w.tail else none
      (if firsts.length = 1 then Tally.plain 1 else .branching firsts.length)
        + .total (tails.map fun ws =>
            if ws.all List.isEmpty then .plain 0 else wordStates depth ws)
    .forking (filled.length + (parts.length - 1)) + .total below

/-- One of several words. -/
def Tally.ofWords (words : List (List Nat)) : Tally :=
  .plain 1 + wordStates ((words.map List.length).foldl max 0 + 1) words

end Hyperslab.Regex
