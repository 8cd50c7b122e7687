/-
# `Hyperslab.Proofs.Regex.Enclosing` — patterns between parentheses

The parts of a pattern follow themselves when a parenthesis is put behind them (`parts?_follows`).  The step
is taken apart once (`parts?_succ`): blanks, then the end or a parenthesis, or else a part and the parts
behind it.  That reading never goes backwards is proved first (`suffix_parts?`), by the same step, because
the repetition that an escape leaves behind needs it.
-/
import Hyperslab.Proofs.Regex.Brackets
import Hyperslab.Proofs.Regex.Groups

namespace Hyperslab.Regex

variable {α : Type} {limit : Nat}

/-! ## Repetitions -/

theorem skipSpaced_skipSpaced (inComment : Bool) (cs : List Char) :
    skipSpaced false (skipSpaced inComment cs) = skipSpaced inComment cs := by
  induction cs generalizing inComment with
  | nil => cases inComment <;> rfl
  | cons c cs ih =>
    cases inComment with
    | true => exact ih _
    | false =>
      simp only [skipSpaced]
      split
      · exact ih false
      · split
        · exact ih true
        · simp only [skipSpaced]
          grind

theorem skipSpace_skipSpace (spaced : Bool) (cs : List Char) :
    skipSpace spaced (skipSpace spaced cs) = skipSpace spaced cs := by
  cases spaced with
  | true => exact skipSpaced_skipSpaced false cs
  | false => rfl

/-- A repetition that begins at a parenthesis, or beyond it, ends beyond it. -/
theorem countedBounds?_of_inside {spaced : Bool} {cs u r : List Char} {b : Bounds}
    (inside : skipSpace spaced cs <:+ ')' :: u) (read : countedBounds? spaced cs = some (b, r)) :
    r <:+ u := by
  have again : countedBounds? spaced (skipSpace spaced cs) = some (b, r) := by
    rw [← read, countedBounds?, skipSpace_skipSpace]
    rfl
  rcases List.suffix_cons_iff.1 inside with same | further
  · rw [countedBounds?, skipSpace_skipSpace, same] at again
    cases again
  · exact ((steady_countedBounds? spaced 0).suffix again).trans further

theorem steady_bounds? (spaced : Bool) (c : Char) : Steady (bounds? spaced c) :=
  .ite (P := c = '*') (steady_withLaziness 0 none) (.ite (P := c = '+') (steady_withLaziness 1 none)
    (.ite (P := c = '?') (steady_withLaziness 0 (some 1)) (steady_countedBounds? spaced)))

/-- What is read behind a character or an escape. -/
theorem Reader.primitive (spaced : Bool) {k : Primitive → List Char → Option (α × List Char)}
    {l : Primitive → List Char → List Char → Option (α × List Char)}
    (next : ∀ p, Reader limit (k p) (l p))
    (brace : 0 < limit → ∀ rest u b r, skipSpace spaced rest <:+ ')' :: u →
      l (.anchor .wordBoundary) u ('\x7b' :: rest) = some (b, r) → r <:+ u) (c : Char) :
    Reader limit (fun cs => (primitive? spaced (c :: cs)).bind fun p => k p.1 p.2)
      fun u cs => (primitive? spaced (c :: cs)).bind fun p => l p.1 u p.2 := by
  by_cases backslash : c = '\\'
  · subst backslash
    exact .escape spaced next brace
  · obtain ⟨p, plain⟩ : ∃ p, ∀ cs, primitive? spaced (c :: cs) = some (p, cs) := by
      unfold primitive?
      by_cases dot : c = '.'
      · exact ⟨.dot, by simp [dot]⟩
      by_cases start : c = '^'
      · exact ⟨.anchor .lineStart, by simp [start]⟩
      by_cases stop : c = '$'
      · exact ⟨.anchor .lineEnd, by simp [stop]⟩
      · exact ⟨.literal ⟨c, false⟩, by simp [*]⟩
    simp only [plain, Option.bind_some]
    exact next p

/-! ## Parts -/

/-- What stands behind the closing parenthesis of a group. -/
def closing (k : List Char → Option (α × List Char)) : List Char → Option (α × List Char)
  | [] => none
  | c :: rest => if c = ')' then k rest else none

theorem match_eq_closing (x : Option ((Pattern × Captures) × List Char))
    (k : Pattern → Captures → List Char → Option ((Pattern × Captures) × List Char)) :
    (match x with
      | some ((p, captures), ')' :: rest) => k p captures rest
      | _ => none) = x.bind fun p => closing (k p.1.1 p.1.2) p.2 := by
  rcases x with _ | ⟨⟨p, captures⟩, _ | ⟨c, rest⟩⟩
  · rfl
  · rfl
  · simp only [Option.bind_some, closing]
    grind

/-- What stands behind the opening of a group. -/
def opened (steps : Nat) (s : Progress) (opening : GroupOpening) (cs : List Char) :
    Option ((Pattern × Captures) × List Char) :=
  match opening with
  | .flags change =>
    parts? steps { s.add (.flags change) with spaced := spacedAfter change s.spaced } cs
  | .group change =>
    (parts? steps ⟨spacedAfter change s.spaced, s.captures, [], []⟩ cs).bind fun p =>
      closing (parts? steps (s.close p.1.2 (.group change p.1.1))) p.2
  | .capture name =>
    (s.captures.open? name).bind fun opened =>
      (parts? steps ⟨s.spaced, opened, [], []⟩ cs).bind fun p =>
        closing (parts? steps (s.close p.1.2 (.capture opened.count p.1.1))) p.2

/-- What a part begins with, other than a closing parenthesis. -/
def part (steps : Nat) (s : Progress) (c : Char) (cs : List Char) :
    Option ((Pattern × Captures) × List Char) :=
  if c = '|' then parts? steps s.nextBranch cs
  else if c = '(' then (groupOpening? s.spaced cs).bind fun p => opened steps s p.1 p.2
  else if c = '[' then
    (bracketedSet? s.spaced cs).bind fun p => parts? steps (s.add (.set p.1)) p.2
  else if opensBounds c then
    (bounds? s.spaced c cs).bind fun p =>
      (repeatLast? s.items p.1).bind fun items => parts? steps { s with items } p.2
  else
    (primitive? s.spaced (c :: cs)).bind fun p => parts? steps (s.add p.1.toPattern) p.2

theorem parts?_succ (steps : Nat) (s : Progress) (cs : List Char) :
    parts? (steps + 1) s cs = match skipSpace s.spaced cs with
      | [] => some ((s.pattern, s.captures), [])
      | c :: rest =>
        if c != ')' then part steps s c rest else some ((s.pattern, s.captures), c :: rest) := by
  rw [parts?]
  rcases skipSpace s.spaced cs with _ | ⟨c, rest⟩
  · rfl
  by_cases parenthesis : c = ')'
  · simp [parenthesis]
  simp only [bne_iff_ne, ne_eq, parenthesis, not_false_eq_true, if_true, if_false, part]
  by_cases bar : c = '|'
  · simp [bar]
  by_cases group : c = '('
  · simp only [group, Char.reduceEq, if_true, if_false]
    rcases groupOpening? s.spaced rest with _ | ⟨_ | _ | _, rest⟩
    · rfl
    · rfl
    · exact match_eq_closing _ _
    · exact congrArg (Option.bind _) (funext fun opened => match_eq_closing _ _)
  · simp only [group, if_false]

/-- A brace begins a repetition, which ends beyond the parenthesis if its count does. -/
theorem suffix_repetition (forward : ∀ steps s {cs r a}, parts? steps s cs = some (a, r) → r <:+ cs)
    {steps : Nat} {s : Progress} {rest u r : List Char} {a : Pattern × Captures}
    (inside : skipSpace s.spaced rest <:+ ')' :: u)
    (read : parts? steps s ('\x7b' :: rest) = some (a, r)) : r <:+ u := by
  have brace : skipSpace s.spaced ('\x7b' :: rest) = '\x7b' :: rest := by
    cases s.spaced <;> rfl
  cases steps with
  | zero => cases read
  | succ steps =>
    rw [parts?_succ, brace] at read
    obtain ⟨⟨b, more⟩, counted, read⟩ := Option.bind_eq_some_iff.1 read
    obtain ⟨items, -, read⟩ := Option.bind_eq_some_iff.1 read
    exact (forward steps _ read).trans (countedBounds?_of_inside inside counted)

theorem Reader.closing {f : List Char → Option (α × List Char)}
    {g : List Char → List Char → Option (α × List Char)} (h : Reader limit f g) :
    Reader limit (Regex.closing f) fun u => Regex.closing (g u) := by
  refine .congr (fun cs => ?_) (fun u cs => ?_) ((Reader.head fun c => .ite (P := c = ')') h (.fail limit)).mono
    (Nat.le_succ limit))
  · cases cs <;> rfl
  · cases cs <;> rfl

/-- A part is a reader if the parts behind it are read by readers.  For the brace that an escape leaves
to a repetition all readers behind it have to read forward. -/
theorem Reader.part {n : Nat} {m : List Char → Nat}
    (ih : ∀ s, Reader limit (parts? n s) fun u => parts? (m u) s)
    (forward : 0 < limit → ∀ steps s {cs r a}, parts? steps s cs = some (a, r) → r <:+ cs)
    (s : Progress) (c : Char) : Reader limit (part n s c) fun u => Regex.part (m u) s c := by
  have opening (o : GroupOpening) : Reader limit (opened n s o) fun u => opened (m u) s o := by
    cases o with
    | flags change => exact ih _
    | group change =>
      exact (ih ⟨spacedAfter change s.spaced, s.captures, [], []⟩).bind fun p =>
        (ih (s.close p.2 (.group change p.1))).closing
    | capture name =>
      exact .ofOption (s.captures.open? name) fun opened =>
        (ih ⟨s.spaced, opened, [], []⟩).bind fun p =>
          (ih (s.close p.2 (.capture opened.count p.1))).closing
  refine .ite (ih _) (.ite ((steady_groupOpening? s.spaced limit).bind opening)
    (.ite ((steady_bracketedSet? s.spaced limit).bind fun t => ih (s.add (.set t)))
      (.ite ((steady_bounds? s.spaced c limit).bind fun b => .ofOption (repeatLast? s.items b)
        fun items => ih { s with items })
        (.primitive s.spaced (fun p => ih (s.add p.toPattern)) (fun some rest u b r inside read => ?_) c))))
  exact suffix_repetition (s := s.add (.anchor .wordBoundary)) (forward some) inside read

theorem Reader.parts {n : Nat} {m : List Char → Nat}
    (ih : ∀ s, Reader limit (parts? n s) fun u => parts? (m u) s)
    (forward : 0 < limit → ∀ steps s {cs r a}, parts? steps s cs = some (a, r) → r <:+ cs)
    (s : Progress) : Reader (limit + 1) (parts? (n + 1) s) fun u => parts? (m u + 1) s :=
  .congr (parts?_succ n s) (fun u => parts?_succ (m u) s)
    (.skip s.spaced (.branch (p := (· != ')')) rfl (.part ih forward s) (.pure _ (s.pattern, s.captures))))

theorem suffix_parts? (steps : Nat) (s : Progress) {cs r : List Char} {a : Pattern × Captures}
    (read : parts? steps s cs = some (a, r)) : r <:+ cs := by
  induction steps generalizing s cs a r with
  | zero => cases read
  | succ steps ih =>
    have before (s : Progress) : Reader 0 (parts? steps s) fun _ => parts? steps s :=
      ⟨ih s, ih s, nofun⟩
    exact (Reader.parts (m := fun _ => steps) before nofun s).suffix read

/-- What is read with enough steps, by itself and with a parenthesis behind. -/
theorem parts?_follows (s : Progress) (cs : List Char) {m : List Char → Nat}
    (many : ∀ u, cs.length + u.length + 2 ≤ m u) :
    Follows cs (parts? (cs.length + 1) s cs) fun u => parts? (m u) s (cs ++ ')' :: u) := by
  have enough (u : List Char) : cs.length + 1 + u.length + 1 ≤ m u := by
    have := many u
    omega
  exact (Reader.stepwise (F := parts?) (fun _ => .fail 0)
    (fun _ _ _ ih => .parts ih fun _ => suffix_parts?) enough s).follows cs (Nat.lt_succ_self _)

theorem closing_eq_some {k : List Char → Option (α × List Char)} {cs : List Char} {x : α × List Char}
    (read : closing k cs = some x) : ∃ rest, cs = ')' :: rest ∧ k rest = some x := by
  unfold closing at read
  split at read
  · cases read
  · split at read
    · rename_i parenthesis
      exact ⟨_, by rw [parenthesis], read⟩
    · cases read

/-- Behind every part there are other parts, at least none. -/
theorem part_eq_some {steps : Nat} {s : Progress} {c : Char} {cs : List Char}
    {x : (Pattern × Captures) × List Char} (read : part steps s c cs = some x) :
    ∃ s' cs', parts? steps s' cs' = some x := by
  unfold part at read
  split at read
  · exact ⟨_, _, read⟩
  split at read
  · obtain ⟨⟨o, more⟩, -, read⟩ := Option.bind_eq_some_iff.1 read
    cases o with
    | flags change => exact ⟨_, _, read⟩
    | group change =>
      obtain ⟨p, -, read⟩ := Option.bind_eq_some_iff.1 read
      obtain ⟨rest, -, read⟩ := closing_eq_some read
      exact ⟨_, _, read⟩
    | capture name =>
      obtain ⟨captures, -, read⟩ := Option.bind_eq_some_iff.1 read
      obtain ⟨p, -, read⟩ := Option.bind_eq_some_iff.1 read
      obtain ⟨rest, -, read⟩ := closing_eq_some read
      exact ⟨_, _, read⟩
  split at read
  · obtain ⟨p, -, read⟩ := Option.bind_eq_some_iff.1 read
    exact ⟨_, _, read⟩
  split at read
  · obtain ⟨p, -, read⟩ := Option.bind_eq_some_iff.1 read
    obtain ⟨items, -, read⟩ := Option.bind_eq_some_iff.1 read
    exact ⟨_, _, read⟩
  · obtain ⟨p, -, read⟩ := Option.bind_eq_some_iff.1 read
    exact ⟨_, _, read⟩

/-- Reading stops at the end of the text or at a closing parenthesis. -/
theorem parts?_stop (steps : Nat) (s : Progress) {cs r : List Char} {a : Pattern × Captures}
    (read : parts? steps s cs = some (a, r)) : r = [] ∨ ∃ u, r = ')' :: u := by
  induction steps generalizing s cs with
  | zero => cases read
  | succ steps ih =>
    rw [parts?_succ] at read
    split at read
    · cases read
      exact .inl rfl
    · rename_i c rest _
      split at read
      · obtain ⟨s', cs', read⟩ := part_eq_some read
        exact ih s' read
      · cases read
        have parenthesis : c = ')' := by simp_all
        exact .inr ⟨rest, by rw [parenthesis]⟩

end Hyperslab.Regex
