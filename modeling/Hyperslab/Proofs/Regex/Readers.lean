/-
# `Hyperslab.Proofs.Regex.Readers` — numbers, names and escapes with a parenthesis behind

The readers of the smallest parts of a pattern follow themselves (`Steady`): each is written as a
combination of pieces, which are the steps of its definition in their order.

One reader does not.  Behind `\b` an opening brace may begin the name of a condition, or the count of a
repetition, and what tells them apart is the character behind it.  At the end of the text there is none, so
the brace is an error; with a parenthesis behind, the brace is left where it is (`boundaryName?_append`).
That does no harm, because the count of a repetition cannot begin with a parenthesis; so an escape is
compared together with what is read behind it (`Reader.escape`).
-/
import Hyperslab.Proofs.Regex.Following

namespace Hyperslab.Regex

variable {α : Type}

/-! ## Hexadecimal digits -/

theorem steady_fixedHex? (spaced : Bool) (width value : Nat) :
    Steady (fixedHex? spaced width value) := by
  induction width generalizing value with
  | zero => exact .pure value
  | succ width ih =>
    exact .head fun c => .ofOption (hexDigit? c) fun d => (ih (16 * value + d)).skip spaced

theorem steady_bracedHex? (spaced : Bool) (value : Option Nat) :
    Steady fun cs => bracedHex? spaced (cs.length + 1) value cs := by
  refine .counted (fun _ => .fail 0) (fun n m limit ih value => ?_) value
  refine .skip spaced (.head fun c => .ite ?_ (.ofOption (hexDigit? c) fun d => ih _))
  simp only [Option.map_eq_bind]
  exact .ofOption value fun n => .pure limit n

theorem steady_hexLiteral? (spaced : Bool) (width : Nat) :
    Steady (hexLiteral? spaced (width + 1)) := by
  have coded (byte : Bool) (n : Nat) : Steady fun cs =>
      (charOfCode? n).bind fun c => some ((⟨c, byte⟩ : Literal), cs) :=
    .ofOption _ fun c => .pure _
  have braced := (steady_bracedHex? spaced none).bind fun n => (coded false n).skip spaced
  have fixed := (steady_fixedHex? spaced (width + 1) 0).bind (coded (width + 1 == 2))
  refine .congr (fun cs => ?_) (.skip spaced (.branch (p := (· == '\x7b')) rfl (fun _ => braced) fixed))
  unfold hexLiteral?
  rcases skipSpace spaced cs with _ | ⟨c, rest⟩
  · rfl
  · by_cases brace : c = '\x7b'
    · subst brace
      rfl
    · simp only [beq_iff_eq, brace, if_false]
      split <;> simp_all

/-! ## Numbers and names -/

theorem steady_digits (spaced : Bool) (n : Option Nat) :
    Steady fun cs => some (decimal?.digits spaced (cs.length + 1) n cs) := by
  refine .counted (F := fun steps n cs => some (decimal?.digits spaced steps n cs))
    (fun n => .pure 0 n) (fun k m limit ih n => ?_) n
  have next (c : Char) := (ih (some (10 * n.getD 0 + (c.toNat - '0'.toNat)))).skip spaced
  refine .congr (fun cs => ?_) (fun u cs => ?_) (.branch (p := Char.isDigit) rfl next (.pure _ n))
  all_goals
    rcases cs with _ | ⟨c, rest⟩
    · rfl
    · exact apply_ite some _ _ _

theorem steady_decimal? (spaced : Bool) : Steady fun cs => some (decimal? spaced cs) :=
  (Steady.bind (steady_digits spaced none) fun n =>
    (Steady.pure n).dropping (p := Unicode.isWhiteSpace) rfl).dropping rfl

theorem steady_countNumber? (spaced : Bool) : Steady (countNumber? spaced) := by
  refine .congr (fun cs => ?_) ((steady_decimal? spaced).bind fun n =>
    .ofOption n fun n => .ite (P := n ≤ countLimit) (.pure n) .fail)
  unfold countNumber?
  rcases decimal? spaced cs with ⟨_ | n, rest⟩ <;> rfl

theorem steady_withLaziness (least : Nat) (most : Option Nat) :
    Steady fun cs => some (withLaziness least most cs) := by
  refine .congr (fun cs => ?_) (.branch (p := (· == '?')) rfl
    (fun _ => .pure (⟨least, most, true⟩ : Bounds)) (.pure ⟨least, most, false⟩))
  unfold withLaziness
  rcases cs with _ | ⟨c, rest⟩
  · rfl
  · simp only [beq_iff_eq]
    split <;> simp_all

theorem steady_countedBounds? (spaced : Bool) : Steady (countedBounds? spaced) := by
  have closed (least : Nat) (most : Option Nat) :=
    (steady_withLaziness least most).skip spaced
  have upTo (least : Nat) := (steady_countNumber? spaced).bind fun most =>
    .head fun c => .ite (P := c = '\x7d') (.ite (P := least ≤ most) (closed least (some most)) .fail)
      .fail
  refine .congr (fun cs => ?_) (((steady_countNumber? spaced).bind fun least =>
    .head fun c => .ite (P := c = '\x7d') (closed least (some least))
      (.ite (P := c = ',') (.skip spaced (.branch (p := (· == '\x7d')) rfl (fun _ => closed least none)
        (upTo least))) .fail)).skip spaced)
  refine congrArg (Option.bind _) (funext fun ⟨least, rest⟩ => ?_)
  rcases rest with _ | ⟨c, rest⟩
  · rfl
  by_cases brace : c = '\x7d'
  · subst brace
    rfl
  by_cases comma : c = ','
  · subst comma
    simp only [brace, if_false, if_true]
    rcases skipSpace spaced rest with _ | ⟨c, rest⟩
    · rfl
    by_cases brace : c = '\x7d'
    · subst brace
      rfl
    simp only [beq_iff_eq, brace, if_false]
    split
    · simp_all
    · refine congrArg (Option.bind _) (funext fun ⟨most, rest⟩ => ?_)
      clear closed upTo
      grind
  · simp_all

/-! ## Classes and escapes -/

theorem steady_braced? (spaced : Bool) : Steady fun cs => braced? spaced (cs.length + 1) cs := by
  refine .counted (F := fun steps (_ : Unit) => braced? spaced steps) (fun _ => .fail 0)
    (fun n m limit ih _ => ?_) ()
  exact .skip spaced (.head fun c => .ite (.pure limit []) ((ih ()).map (c :: ·)))

theorem steady_className? (spaced inside : Bool) : Steady (className? spaced inside) := by
  refine .congr (fun cs => ?_) (.skip spaced (.head fun c => .ite (P := c = '\x7b')
    ((steady_braced? spaced).map (classOfBody inside))
    (.ite (P := c = '\\') .fail (.skip spaced (.pure (.named inside [c]))))))
  unfold className?
  rcases skipSpace spaced cs with _ | ⟨c, rest⟩
  · rfl
  · grind

/-- All escapes but one read on no matter what is behind. -/
theorem steady_escape? (spaced : Bool) {c : Char} (other : c ≠ 'b') :
    Steady fun cs => escape? spaced (c :: cs) := by
  have code (width : Nat) := (steady_hexLiteral? spaced width).map Primitive.literal
  have named (inside : Bool) := (steady_className? spaced inside).map Primitive.set
  -- the cases of the definition tell the letters apart
  generalize letter : [c] = cs
  fun_cases escape? spaced cs <;> try obtain ⟨rfl, -⟩ := List.cons.inj letter
  case case1 => contradiction
  case case2 | case3 | case4 => exact code _
  case case5 | case6 => exact named _
  case case21 => contradiction
  case case25 => exact .congr (fun cs => by simp_all [escape?]) (.pure (.literal ⟨c, false⟩))
  case case26 => exact .congr (fun cs => by simp_all [escape?]) .fail
  all_goals exact .pure _

/-! ## Boundaries of words -/

theorem steady_letters (spaced : Bool) :
    Steady fun cs => some (boundaryName?.letters spaced (cs.length + 1) cs) := by
  refine .counted (F := fun steps (_ : Unit) cs => some (boundaryName?.letters spaced steps cs))
    (fun _ => .pure 0 []) (fun k m limit ih _ => ?_) ()
  have next (c : Char) := ((ih ()).map (c :: ·)).skip spaced
  refine .congr (fun cs => ?_) (fun u cs => ?_)
    (.branch (p := boundaryName?.isNameChar) rfl next (.pure _ []))
  all_goals
    rcases cs with _ | ⟨c, rest⟩
    · rfl
    · exact apply_ite some _ _ _

/-- The condition that a name stands for. -/
def boundaryOf? (name : List Char) : Option Anchor :=
  if String.ofList name = "start" then some .wordStart
  else if String.ofList name = "end" then some .wordEnd
  else if String.ofList name = "start-half" then some .wordStartHalf
  else if String.ofList name = "end-half" then some .wordEndHalf
  else none

/-- A name up to the brace behind it. -/
def boundaryNamed? (spaced : Bool) (cs : List Char) : Option (Anchor × List Char) :=
  (some (boundaryName?.letters spaced (cs.length + 1) cs)).bind fun p =>
    match p.2 with
    | [] => none
    | c :: after => if c = '\x7d' then (boundaryOf? p.1).bind fun a => some (a, after) else none

theorem steady_boundaryNamed? (spaced : Bool) : Steady (boundaryNamed? spaced) :=
  (steady_letters spaced).bind fun name =>
    .head fun c => .ite (P := c = '\x7d') (.ofOption (boundaryOf? name) fun a => .pure a) .fail

theorem boundaryName?_brace (spaced : Bool) (rest : List Char) :
    boundaryName? spaced ('\x7b' :: rest) = match skipSpace spaced rest with
      | [] => none
      | c :: more =>
        if boundaryName?.isNameChar c then boundaryNamed? spaced (c :: more)
        else some (.wordBoundary, '\x7b' :: rest) := by
  simp only [boundaryName?, boundaryNamed?, boundaryOf?, Option.bind_some]
  rcases skipSpace spaced rest with _ | ⟨c, more⟩
  · rfl
  · cases letter : boundaryName?.isNameChar c
    · simp [letter]
    · simp only [letter]
      grind

theorem boundaryName?_of_ne (spaced : Bool) {cs : List Char}
    (other : ∀ rest, cs = '\x7b' :: rest → False) :
    boundaryName? spaced cs = some (.wordBoundary, cs) := by
  unfold boundaryName?
  split
  · exact (other _ rfl).elim
  · rfl

theorem suffix_boundaryName? {spaced : Bool} {cs : List Char} {a : Anchor} {r : List Char}
    (read : boundaryName? spaced cs = some (a, r)) : r <:+ cs := by
  by_cases brace : ∃ rest, cs = '\x7b' :: rest
  · obtain ⟨rest, rfl⟩ := brace
    rw [boundaryName?_brace] at read
    split at read
    · cases read
    · rename_i c more start
      split at read
      · have inside := (steady_boundaryNamed? spaced 0).suffix read
        exact (inside.trans (start ▸ suffix_skipSpace spaced rest)).trans (List.suffix_cons _ _)
      · cases read
        exact List.suffix_rfl
  · rw [boundaryName?_of_ne spaced fun rest e => brace ⟨rest, e⟩] at read
    cases read
    exact List.suffix_rfl

/-- The one reader that reads differently when something is behind: at the end of the text an opening
brace is an error, but with a parenthesis behind its blanks it is left for a repetition. -/
theorem boundaryName?_append (spaced : Bool) (cs : List Char) :
    Follows cs (boundaryName? spaced cs) (fun u => boundaryName? spaced (cs ++ ')' :: u)) ∨
      boundaryName? spaced cs = none ∧ ∀ u a r, boundaryName? spaced (cs ++ ')' :: u) = some (a, r) →
        r <:+ u ∨ a = .wordBoundary ∧ ∃ rest, r = '\x7b' :: rest ∧ skipSpace spaced rest <:+ ')' :: u := by
  by_cases brace : ∃ rest, cs = '\x7b' :: rest
  · obtain ⟨rest, rfl⟩ := brace
    simp only [List.cons_append, boundaryName?_brace]
    cases start : skipSpace spaced rest with
    | cons c more =>
      left
      have apart (u : List Char) : skipSpace spaced (rest ++ ')' :: u) = c :: (more ++ ')' :: u) := by
        rcases skipSpace_append spaced rest with apart | ⟨⟨none, -⟩, -⟩
        · rw [apart, start, List.cons_append]
        · simp [start] at none
      simp only [apart]
      split
      · have part := (start ▸ suffix_skipSpace spaced rest).trans (List.suffix_cons '\x7b' rest)
        exact ((steady_boundaryNamed? spaced _).follows (c :: more) (Nat.lt_succ_self _)).mono part
      · exact .same rfl fun u => rfl
    | nil =>
      refine .inr ⟨rfl, fun u a r read => ?_⟩
      have inside : skipSpace spaced (rest ++ ')' :: u) <:+ ')' :: u := by
        rcases skipSpace_append spaced rest with apart | ⟨-, inside⟩
        · have same : skipSpace spaced (rest ++ ')' :: u) = ')' :: u := by rw [apart, start]; rfl
          exact ⟨[], same⟩
        · exact (inside u).trans (List.suffix_cons _ _)
      split at read
      · cases read
      · rename_i c more begins
        rw [begins] at inside
        split at read
        · rename_i letter
          have further : c :: more <:+ u := by
            rcases List.suffix_cons_iff.1 inside with same | further
            · cases same
              exact absurd letter (by decide)
            · exact further
          exact .inl (((steady_boundaryNamed? spaced 0).suffix read).trans further)
        · cases read
          exact .inr ⟨rfl, _, rfl, begins ▸ inside⟩
  · left
    rw [boundaryName?_of_ne spaced fun rest e => brace ⟨rest, e⟩]
    refine .same rfl fun u => boundaryName?_of_ne spaced fun rest e => ?_
    cases cs with
    | nil => cases e
    | cons c cs =>
      obtain ⟨rfl, -⟩ := List.cons.inj e
      exact brace ⟨cs, rfl⟩

/-- What is read behind an escape.  Where a brace is left for a repetition, that repetition has to be
read beyond the parenthesis. -/
theorem Reader.escape {limit : Nat} (spaced : Bool) {k : Primitive → List Char → Option (α × List Char)}
    {l : Primitive → List Char → List Char → Option (α × List Char)}
    (next : ∀ p, Reader limit (k p) (l p))
    (brace : 0 < limit → ∀ rest u b r, skipSpace spaced rest <:+ ')' :: u →
      l (.anchor .wordBoundary) u ('\x7b' :: rest) = some (b, r) → r <:+ u) :
    Reader limit (fun cs => (escape? spaced cs).bind fun p => k p.1 p.2)
      fun u cs => (escape? spaced cs).bind fun p => l p.1 u p.2 := by
  have word (cs : List Char) : escape? spaced ('b' :: cs) =
      (boundaryName? spaced cs).map fun r => (.anchor r.1, r.2) := rfl
  have suffix {cs : List Char} {p : Primitive} {r : List Char}
      (read : escape? spaced cs = some (p, r)) : r <:+ cs := by
    cases cs with
    | nil => cases read
    | cons c rest =>
      refine .trans ?_ (List.suffix_cons c rest)
      by_cases other : c = 'b'
      · subst other
        obtain ⟨⟨a, s⟩, named, eq⟩ := Option.map_eq_some_iff.1 (word rest ▸ read)
        cases eq
        exact suffix_boundaryName? named
      · exact (steady_escape? spaced other 0).suffix read
  refine ⟨fun read => ?_, fun read => ?_, fun cs short => ?_⟩
  · obtain ⟨⟨p, s⟩, first, second⟩ := Option.bind_eq_some_iff.1 read
    exact ((next p).suffix second).trans (suffix first)
  · obtain ⟨⟨p, s⟩, first, second⟩ := Option.bind_eq_some_iff.1 read
    exact ((next p).suffixAfter second).trans (suffix first)
  · cases cs with
    | nil =>
      refine .past nofun fun u b r read => ?_
      obtain ⟨⟨p, s⟩, first, second⟩ := Option.bind_eq_some_iff.1 read
      have inside := (steady_escape? spaced (c := ')') (by decide) 0).suffix first
      exact ((next p).suffixAfter second).trans inside
    | cons c rest =>
      by_cases other : c = 'b'
      · subst other
        simp only [List.cons_append, word, Option.bind_map, Function.comp_def]
        rcases boundaryName?_append spaced rest with named | ⟨alone, behind⟩
        · exact (named.bind (fun a => next (.anchor a)) (fun _ _ => suffix_boundaryName?)
            (Nat.lt_of_succ_lt short)).mono (List.suffix_cons 'b' rest)
        · refine .past (fun b r both => ?_) fun u b r both => ?_
          · simp [alone] at both
          · obtain ⟨⟨a, s⟩, first, second⟩ := Option.bind_eq_some_iff.1 both
            rcases behind u a s first with inside | ⟨rfl, rest, rfl, inside⟩
            · exact ((next _).suffixAfter second).trans inside
            · exact brace (Nat.zero_lt_of_lt short) rest u b r inside second
      · exact (((steady_escape? spaced other limit).bind next).follows rest
          (Nat.lt_of_succ_lt short)).mono (List.suffix_cons c rest)

end Hyperslab.Regex
