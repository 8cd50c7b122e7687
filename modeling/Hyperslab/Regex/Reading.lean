/-
# `Hyperslab.Regex.Reading` — from texts to patterns

Reading goes from left to right and never back.  A group is read by reading its parts
up to what closes it, which the reader of the parts leaves in the text; the whole
pattern is read like the parts of a group that nothing closes.

Three things travel along: whether blanks and comments count at this place, the groups
that capture so far, and what has been read of the group under way, its finished branches
and the parts of the branch under way.
-/
import Hyperslab.Regex.Escape

namespace Hyperslab.Regex

/-! ## Repetitions -/

/-- How often something is repeated, and whether rather less often. -/
structure Bounds where
  least : Nat
  most : Option Nat
  isLazy : Bool
deriving DecidableEq, Repr

/-- Bounds, with the mark of a lazy repetition if it follows. -/
def withLaziness (least : Nat) (most : Option Nat) : List Char → Bounds × List Char
  | '?' :: cs => (⟨least, most, true⟩, cs)
  | cs => (⟨least, most, false⟩, cs)

/-- The largest count that can be written. -/
def countLimit : Nat := 4294967295

/-- A count, which must be there and must not be too large. -/
def countNumber? (spaced : Bool) (cs : List Char) : Option (Nat × List Char) :=
  match decimal? spaced cs with
  | (some n, rest) => if n ≤ countLimit then some (n, rest) else none
  | (none, _) => none

/-- The bounds behind an opening brace. -/
def countedBounds? (spaced : Bool) (cs : List Char) : Option (Bounds × List Char) := do
  let (least, rest) ← countNumber? spaced (skipSpace spaced cs)
  match rest with
  | '\x7d' :: rest => return withLaziness least (some least) (skipSpace spaced rest)
  | ',' :: rest =>
    match skipSpace spaced rest with
    | '\x7d' :: rest => return withLaziness least none (skipSpace spaced rest)
    | rest =>
      let (most, rest) ← countNumber? spaced rest
      match rest with
      | '\x7d' :: rest =>
        if least ≤ most then return withLaziness least (some most) (skipSpace spaced rest)
        else none
      | _ => none
  | _ => none

/-- The character begins a repetition. -/
def opensBounds (c : Char) : Bool := c == '*' || c == '+' || c == '?' || c == '\x7b'

/-- The bounds that a character and the text behind it write. -/
def bounds? (spaced : Bool) (c : Char) (cs : List Char) : Option (Bounds × List Char) :=
  if c = '*' then some (withLaziness 0 none cs)
  else if c = '+' then some (withLaziness 1 none cs)
  else if c = '?' then some (withLaziness 0 (some 1) cs)
  else countedBounds? spaced cs

/-- The parts with the last one repeated. -/
def repeatLast? (items : List Pattern) (b : Bounds) : Option (List Pattern) := do
  let p ← items.getLast?
  if p.isRepeatable then return items.dropLast ++ [.rep p b.least b.most b.isLazy] else none

/-! ## Sets in brackets -/

/-- The classes of ASCII by name. -/
def asciiClasses : List (String × Unicode.Ranges) := [
  ("alnum", [(48, 57), (65, 90), (97, 122)]),
  ("alpha", [(65, 90), (97, 122)]),
  ("ascii", [(0, 127)]),
  ("blank", [(9, 9), (32, 32)]),
  ("cntrl", [(0, 31), (127, 127)]),
  ("digit", [(48, 57)]),
  ("graph", [(33, 126)]),
  ("lower", [(97, 122)]),
  ("print", [(32, 126)]),
  ("punct", [(33, 47), (58, 64), (91, 96), (123, 126)]),
  ("space", [(9, 13), (32, 32)]),
  ("upper", [(65, 90)]),
  ("word", [(48, 57), (65, 90), (95, 95), (97, 122)]),
  ("xdigit", [(48, 57), (65, 70), (97, 102)])]

/-- A class such as `[:alpha:]`, behind its opening bracket. -/
def asciiClass? (cs : List Char) : Option (SetTerm × List Char) := do
  let cs ← match cs with
    | ':' :: cs => some cs
    | _ => none
  let (inside, cs) := match cs with
    | '^' :: cs => (false, cs)
    | cs => (true, cs)
  let rs ← asciiClasses.lookup (String.ofList (cs.takeWhile (· != ':')))
  match cs.dropWhile (· != ':') with
  | ':' :: ']' :: rest => return (.ascii rs inside, rest)
  | _ => none

/-- The operation between sets that a text begins with. -/
def setOperation? : List Char → Option (SetOperation × List Char)
  | '&' :: '&' :: rest => some (.inter, rest)
  | '-' :: '-' :: rest => some (.diff, rest)
  | '~' :: '~' :: rest => some (.symmDiff, rest)
  | _ => none

/-- A part without parts that is a set. -/
def Primitive.toSetTerm? : Primitive → Option SetTerm
  | .literal l => some (.literal l)
  | .set s => some s
  | .dot => none
  | .anchor _ => none

/-- A character or an escape inside brackets. -/
def setAtom? (spaced : Bool) : List Char → Option (Primitive × List Char)
  | [] => none
  | '\\' :: rest => escape? spaced rest
  | c :: rest => some (.literal ⟨c, false⟩, rest)

/-- From one character to another. -/
def spanTerm? : Primitive → Primitive → Option SetTerm
  | .literal low, .literal high => if low.char ≤ high.char then some (.span low high) else none
  | _, _ => none

/-- A character, an escape, or a range.  A hyphen before the closing bracket or before
another hyphen makes no range. -/
def setItem? (spaced : Bool) (cs : List Char) : Option (SetTerm × List Char) := do
  let (low, rest) ← setAtom? spaced cs
  let rest := skipSpace spaced rest
  let alone : Option (SetTerm × List Char) := low.toSetTerm?.map fun t => (t, rest)
  match rest with
  | '-' :: more =>
    let behind := peekSpaced spaced rest
    if behind = some ']' ∨ behind = some '-' then alone
    else
      let (high, rest) ← setAtom? spaced (skipSpace spaced more)
      (spanTerm? low high).map fun t => (t, rest)
  | _ => alone

/-- The hyphens that a text begins with, and what stands behind them; `steps` bounds their
number. -/
def leadingHyphens (spaced : Bool) : (steps : Nat) → List Char → List SetTerm × List Char
  | steps + 1, '-' :: cs =>
    let r := leadingHyphens spaced steps (skipSpace spaced cs)
    (.literal ⟨'-', false⟩ :: r.1, r.2)
  | _, cs => ([], cs)

/-- What stands behind an opening bracket: whether the set is what is listed, or all but
that; and hyphens, or else one closing bracket, that stand for themselves. -/
def setOpening (spaced : Bool) (cs : List Char) : Bool × List SetTerm × List Char :=
  let (inside, cs) := match skipSpace spaced cs with
    | '^' :: cs => (false, skipSpace spaced cs)
    | cs => (true, cs)
  match leadingHyphens spaced cs.length cs with
  | ([], ']' :: cs) => (inside, [.literal ⟨']', false⟩], skipSpace spaced cs)
  | (hyphens, cs) => (inside, hyphens, cs)

/-- The set of the items, joined to what stands left of them. -/
def joinSets (left : Option (SetTerm × SetOperation)) (items : List SetTerm) : SetTerm :=
  match left with
  | none => .ofItems items
  | some (a, op) => .operation op a (.ofItems items)

/-- The content of a set up to its closing bracket, and what stands behind that: `left` is
what an operation waits to be applied to, `items` are those read since.  All operations
bind alike, from left to right. -/
def setBody? (spaced : Bool) : (steps : Nat) → (left : Option (SetTerm × SetOperation)) →
    (items : List SetTerm) → List Char → Option (SetTerm × List Char)
  | 0, _, _, _ => none
  | steps + 1, left, items, cs =>
    match skipSpace spaced cs with
    | [] => none
    | c :: rest =>
      if c = ']' then some (joinSets left items, rest)
      else if c = '[' then
        match asciiClass? rest with
        | some (t, rest) => setBody? spaced steps left (items ++ [t]) rest
        | none =>
          let (inside, start, rest) := setOpening spaced rest
          (setBody? spaced steps none start rest).bind fun (content, rest) =>
            setBody? spaced steps left (items ++ [.bracketed inside content]) rest
      else
        match setOperation? (c :: rest) with
        | some (op, rest) => setBody? spaced steps (some (joinSets left items, op)) [] rest
        | none => (setItem? spaced (c :: rest)).bind fun (t, rest) =>
            setBody? spaced steps left (items ++ [t]) rest

/-- A set, behind its opening bracket. -/
def bracketedSet? (spaced : Bool) (cs : List Char) : Option (SetTerm × List Char) :=
  let (inside, start, rest) := setOpening spaced cs
  (setBody? spaced (rest.length + 1) none start rest).map fun (content, rest) =>
    (.bracketed inside content, rest)

/-! ## Groups -/

/-- The flag that a letter names. -/
def flagNamed? (c : Char) : Option Flag :=
  if c = 'i' then some .caseInsensitive
  else if c = 'm' then some .multiLine
  else if c = 's' then some .dotAll
  else if c = 'U' then some .swapGreed
  else if c = 'u' then some .unicode
  else if c = 'R' then some .crlf
  else if c = 'x' then some .spaced
  else none

/-- Flags up to the colon or parenthesis behind them, which stays in the text.  A hyphen
clears the flags after it; there is at most one, and some flag follows it. -/
def flagChange? : (done : FlagChange) → (clearing dangling : Bool) → List Char →
    Option (FlagChange × List Char)
  | _, _, _, [] => none
  | done, clearing, dangling, c :: cs =>
    if c = ':' ∨ c = ')' then if dangling then none else some (done, c :: cs)
    else if c = '-' then if clearing then none else flagChange? done true true cs
    else
      (flagNamed? c).bind fun flag =>
        if done.any fun d => d.1 == flag then none
        else flagChange? (done ++ [(flag, !clearing)]) clearing false cs

/-- Whether blanks and comments are skipped after a change of flags. -/
def spacedAfter (change : FlagChange) (spaced : Bool) : Bool :=
  (change.lookup .spaced).getD spaced

/-- A character of ASCII or a letter that may begin the name of a group. -/
def beginsName (c : Char) : Bool := c == '_' || Unicode.alphabetics.holds c.toNat

/-- A character that may stand in the name of a group. -/
def continuesName (c : Char) : Bool :=
  c == '_' || c == '.' || c == '[' || c == ']' || Unicode.alphabetics.holds c.toNat
    || Unicode.numerics.holds c.toNat

/-- The name of a group up to its closing angle bracket, and what stands behind that. -/
def groupName? (cs : List Char) : Option (List Char × List Char) :=
  let name := cs.takeWhile (· != '>')
  match name, cs.dropWhile (· != '>') with
  | first :: others, '>' :: rest =>
    if beginsName first && others.all continuesName then some (name, rest) else none
  | _, _ => none

/-- What stands behind an opening parenthesis. -/
inductive GroupOpening where
  /-- Flags for the rest of the group around. -/
  | flags (change : FlagChange)
  /-- A group with flags for its inside. -/
  | group (change : FlagChange)
  /-- A group that captures, perhaps with a name. -/
  | capture (name : Option (List Char))

/-- Flags between parentheses, or flags of a group. -/
def flagOpening? (cs : List Char) : Option (GroupOpening × List Char) := do
  let (change, rest) ← flagChange? [] false false cs
  match rest with
  | ':' :: rest => return (.group change, rest)
  | ')' :: rest => if change.isEmpty then none else return (.flags change, rest)
  | _ => none

/-- What stands behind an opening parenthesis.  Conditions on what stands before or after
a place are not supported. -/
def groupOpening? (spaced : Bool) (cs : List Char) : Option (GroupOpening × List Char) :=
  match skipSpace spaced cs with
  | '?' :: '=' :: _ => none
  | '?' :: '!' :: _ => none
  | '?' :: '<' :: '=' :: _ => none
  | '?' :: '<' :: '!' :: _ => none
  | '?' :: 'P' :: '<' :: rest => (groupName? rest).map fun r => (.capture (some r.1), r.2)
  | '?' :: '<' :: rest => (groupName? rest).map fun r => (.capture (some r.1), r.2)
  | '?' :: rest => flagOpening? rest
  | rest => some (.capture none, rest)

/-- The groups that capture: how many there are, and the names of some. -/
structure Captures where
  count : Nat
  names : List (List Char)
deriving DecidableEq, Repr

/-- One group more; a name must be new. -/
def Captures.open? (cs : Captures) : Option (List Char) → Option Captures
  | none => some ⟨cs.count + 1, cs.names⟩
  | some name =>
    if cs.names.contains name then none else some ⟨cs.count + 1, name :: cs.names⟩

/-- What has been read of a group. -/
structure Progress where
  spaced : Bool
  captures : Captures
  branches : List Pattern
  items : List Pattern

namespace Progress

/-- One more part. -/
def add (s : Progress) (p : Pattern) : Progress := { s with items := s.items ++ [p] }

/-- The branch is finished. -/
def nextBranch (s : Progress) : Progress :=
  { s with branches := s.branches ++ [.ofSequence s.items], items := [] }

/-- The pattern that has been read. -/
def pattern (s : Progress) : Pattern := .ofChoice (s.nextBranch).branches

/-- Behind a group whose inside has been read. -/
def close (s : Progress) (captures : Captures) (p : Pattern) : Progress :=
  { s.add p with captures }

end Progress

/-- The parts of a group up to what closes it: the pattern and all groups that capture, and
the text that begins with the closing parenthesis or is at its end. -/
def parts? : (steps : Nat) → Progress → List Char → Option ((Pattern × Captures) × List Char)
  | 0, _, _ => none
  | steps + 1, s, cs =>
    match skipSpace s.spaced cs with
    | [] => some ((s.pattern, s.captures), [])
    | c :: rest =>
      if c = ')' then some ((s.pattern, s.captures), c :: rest)
      else if c = '|' then parts? steps s.nextBranch rest
      else if c = '(' then
        match groupOpening? s.spaced rest with
        | none => none
        | some (.flags change, rest) =>
          parts? steps { s.add (.flags change) with spaced := spacedAfter change s.spaced } rest
        | some (.group change, rest) =>
          match parts? steps ⟨spacedAfter change s.spaced, s.captures, [], []⟩ rest with
          | some ((p, captures), ')' :: rest) =>
            parts? steps (s.close captures (.group change p)) rest
          | _ => none
        | some (.capture name, rest) =>
          (s.captures.open? name).bind fun opened =>
            match parts? steps ⟨s.spaced, opened, [], []⟩ rest with
            | some ((p, captures), ')' :: rest) =>
              parts? steps (s.close captures (.capture opened.count p)) rest
            | _ => none
      else if c = '[' then
        (bracketedSet? s.spaced rest).bind fun (t, rest) => parts? steps (s.add (.set t)) rest
      else if opensBounds c then
        (bounds? s.spaced c rest).bind fun (b, rest) =>
          (repeatLast? s.items b).bind fun items => parts? steps { s with items } rest
      else
        (primitive? s.spaced (c :: rest)).bind fun (p, rest) =>
          parts? steps (s.add p.toPattern) rest

/-- The deepest nesting that is accepted. -/
def nestingLimit : Nat := 250

/-- The pattern that a text writes. -/
def Pattern.read? (text : List Char) : Option Pattern :=
  match parts? (text.length + 1) ⟨false, ⟨0, []⟩, [], []⟩ text with
  | some ((p, _), []) => if p.nesting ≤ nestingLimit then some p else none
  | _ => none

end Hyperslab.Regex
