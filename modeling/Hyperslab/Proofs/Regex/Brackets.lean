/-
# `Hyperslab.Proofs.Regex.Brackets` — sets in brackets with a parenthesis behind

Inside brackets a parenthesis stands for itself, so a set that the text leaves open is read beyond the
parenthesis.  Where the reader of a set looks ahead, the parenthesis makes no difference: it is no part of
the name of a class (`asciiClass?_append`) nor of an operation (`setOperation?_append`), and neither of the
characters that keep a hyphen from making a range (`peekSpaced_append`).
-/
import Hyperslab.Proofs.Regex.Readers

namespace Hyperslab.Regex

variable {α : Type}

/-! ## Classes and operations -/

theorem not_mem_of_asciiClass {name : String} {rs : Unicode.Ranges}
    (found : asciiClasses.lookup name = some rs) : ')' ∉ name.toList := by
  have names : ∀ e ∈ asciiClasses, ')' ∉ e.1.toList := by decide
  obtain ⟨before, after, split, -⟩ := List.lookup_eq_some_iff.1 found
  exact names (name, rs) (by simp [split])

/-- The class behind the colon, and behind the sign of negation. -/
def asciiNamed? (inside : Bool) (cs : List Char) : Option (SetTerm × List Char) :=
  (asciiClasses.lookup (String.ofList (cs.takeWhile (· != ':')))).bind fun rs =>
    match cs.dropWhile (· != ':') with
    | ':' :: ']' :: rest => some (.ascii rs inside, rest)
    | _ => none

theorem asciiNamed?_append (inside : Bool) (cs u : List Char) :
    asciiNamed? inside (cs ++ ')' :: u) =
      (asciiNamed? inside cs).map fun q => (q.1, q.2 ++ ')' :: u) := by
  have whole := List.takeWhile_append_dropWhile (p := (· != ':')) (l := cs)
  unfold asciiNamed?
  rw [List.takeWhile_append, List.dropWhile_append]
  rcases ends : cs.dropWhile (· != ':') with _ | ⟨c, more⟩
  · rw [ends, List.append_nil] at whole
    have unknown : asciiClasses.lookup (String.ofList
        (cs ++ (')' :: u).takeWhile (· != ':'))) = none := by
      refine Option.eq_none_iff_forall_ne_some.2 fun rs found => not_mem_of_asciiClass found ?_
      simp
    simp only [whole, if_true, unknown, Option.bind_none]
    cases asciiClasses.lookup (String.ofList cs) <;> rfl
  · simp only [length_takeWhile_ne ends, if_false, List.isEmpty_cons, Bool.false_eq_true, List.cons_append]
    cases asciiClasses.lookup (String.ofList (cs.takeWhile (· != ':'))) with
    | none => rfl
    | some rs =>
      simp only [Option.bind_some]
      rcases more with _ | ⟨d, more⟩ <;> grind

theorem suffix_asciiNamed? {inside : Bool} {cs : List Char} {t : SetTerm} {r : List Char}
    (read : asciiNamed? inside cs = some (t, r)) : r <:+ cs := by
  obtain ⟨rs, -, read⟩ := Option.bind_eq_some_iff.1 read
  split at read
  · rename_i ends
    cases read
    exact .trans (ends ▸ ⟨[':', ']'], rfl⟩) (List.dropWhile_suffix (· != ':'))
  · cases read

theorem asciiClass?_eq (cs : List Char) :
    asciiClass? cs = match cs with
      | [] => none
      | c :: cs => if c = ':' then match cs with
          | [] => none
          | d :: cs => if d = '^' then asciiNamed? false cs else asciiNamed? true (d :: cs)
        else none := by
  unfold asciiClass?
  rcases cs with _ | ⟨c, cs⟩
  · rfl
  by_cases colon : c = ':'
  · subst colon
    rcases cs with _ | ⟨d, cs⟩
    · rfl
    by_cases not : d = '^'
    · subst not
      rfl
    · simp only [not, if_false, if_true, Option.bind_eq_bind, Option.bind_some]
      split
      · simp_all
      · rfl
  · simp [colon]

theorem asciiClass?_append (cs u : List Char) :
    asciiClass? (cs ++ ')' :: u) = (asciiClass? cs).map fun q => (q.1, q.2 ++ ')' :: u) := by
  simp only [asciiClass?_eq]
  rcases cs with _ | ⟨c, _ | ⟨d, cs⟩⟩
  · rfl
  · simp only [List.cons_append, List.nil_append]
    split
    · exact asciiNamed?_append true [] u
    · rfl
  · simp only [List.cons_append]
    split
    · split
      · exact asciiNamed?_append false cs u
      · exact asciiNamed?_append true (d :: cs) u
    · rfl

theorem suffix_asciiClass? {cs : List Char} {t : SetTerm} {r : List Char}
    (read : asciiClass? cs = some (t, r)) : r <:+ cs := by
  rw [asciiClass?_eq] at read
  rcases cs with _ | ⟨c, _ | ⟨d, cs⟩⟩
  · cases read
  · simp at read
  · have inside : ∀ {b cs'}, cs' <:+ d :: cs → asciiNamed? b cs' = some (t, r) → r <:+ c :: d :: cs :=
      fun part read => ((suffix_asciiNamed? read).trans part).trans (List.suffix_cons c _)
    dsimp only at read
    split at read
    · split at read
      · exact inside (List.suffix_cons d cs) read
      · exact inside List.suffix_rfl read
    · cases read

theorem setOperation?_append (c : Char) (cs u : List Char) :
    setOperation? (c :: (cs ++ ')' :: u)) =
      (setOperation? (c :: cs)).map fun q => (q.1, q.2 ++ ')' :: u) := by
  unfold setOperation?
  rcases cs with _ | ⟨d, cs⟩ <;> grind

theorem suffix_setOperation? {c : Char} {cs r : List Char} {op : SetOperation}
    (read : setOperation? (c :: cs) = some (op, r)) : r <:+ cs := by
  unfold setOperation? at read
  split at read <;> cases read <;> simp_all

/-! ## Items -/

/-- A hyphen between two characters, not before the closing bracket or another hyphen. -/
def startsRange (spaced : Bool) (cs : List Char) : Bool :=
  match cs with
  | '-' :: _ => !(decide (peekSpaced spaced cs = some ']' ∨ peekSpaced spaced cs = some '-'))
  | _ => false

/-- The text behind blanks and the mark of a comment. -/
def pastMark (cs : List Char) : List Char :=
  match cs.dropWhile Unicode.isWhiteSpace with
  | '#' :: more => more.dropWhile Unicode.isWhiteSpace
  | more => more

theorem pastMark_append (cs u : List Char) : pastMark (cs ++ ')' :: u) = pastMark cs ++ ')' :: u := by
  unfold pastMark
  rw [dropWhile_append_parenthesis (p := Unicode.isWhiteSpace) rfl]
  rcases cs.dropWhile Unicode.isWhiteSpace with _ | ⟨c, more⟩
  · rfl
  · by_cases mark : c = '#'
    · subst mark
      exact dropWhile_append_parenthesis rfl more u
    · grind

theorem pastMark_of_stop {c : Char} (stop : c = ']' ∨ c = '-') (cs : List Char) :
    pastMark (c :: cs) = c :: cs := by
  rcases stop with rfl | rfl <;> rfl

/-- Blanks and a mark may be looked past, but not the parenthesis. -/
theorem peekSpaced_append (spaced : Bool) (c : Char) (cs u : List Char) {d : Char}
    (stop : d = ']' ∨ d = '-') :
    peekSpaced spaced (c :: (cs ++ ')' :: u)) = some d ↔ peekSpaced spaced (c :: cs) = some d := by
  have other : ')' ≠ d := by rintro rfl; simp at stop
  cases spaced with
  | false => cases cs <;> simp [peekSpaced, other]
  | true =>
    have peek (cs : List Char) :
        peekSpaced true (c :: cs) = ((pastMark cs).head? <|> cs.head?) := rfl
    rw [peek, peek, pastMark_append]
    rcases next : pastMark cs with _ | ⟨e, more⟩
    · have small : cs.head? ≠ some d := fun first => by
        obtain ⟨more, rfl⟩ := List.head?_eq_some_iff.1 first
        rw [pastMark_of_stop stop] at next
        cases next
      simp [other, small]
    · rfl

theorem startsRange_append (spaced : Bool) (cs u : List Char) :
    startsRange spaced (cs ++ ')' :: u) = startsRange spaced cs := by
  unfold startsRange
  rcases cs with _ | ⟨c, cs⟩
  · rfl
  · simp only [List.cons_append]
    by_cases hyphen : c = '-'
    · subst hyphen
      simp only [peekSpaced_append spaced '-' cs u (.inl rfl),
        peekSpaced_append spaced '-' cs u (.inr rfl)]
    · grind

/-- The end of a range, behind the hyphen. -/
def rangeEnd? (spaced : Bool) (low : Primitive) (cs : List Char) : Option (SetTerm × List Char) :=
  (setAtom? spaced cs).bind fun p => (spanTerm? low p.1).bind fun t => some (t, p.2)

/-- The item that a character or an escape begins, or is. -/
def itemFrom? (spaced : Bool) (low : Primitive) (cs : List Char) : Option (SetTerm × List Char) :=
  if startsRange spaced cs then
    match cs with
    | [] => none
    | _ :: more => rangeEnd? spaced low (skipSpace spaced more)
  else low.toSetTerm?.bind fun t => some (t, cs)

theorem setItem?_eq (spaced : Bool) (cs : List Char) :
    setItem? spaced cs =
      (setAtom? spaced cs).bind fun p => itemFrom? spaced p.1 (skipSpace spaced p.2) := by
  refine congrArg (Option.bind _) (funext fun ⟨low, rest⟩ => ?_)
  dsimp only
  generalize skipSpace spaced rest = rest
  simp only [Option.map_eq_bind, Function.comp_def]
  unfold itemFrom? startsRange
  split
  · split
    · simp_all
    · simp_all
      rfl
  · simp_all

theorem rangeEnd?_anchor (spaced : Bool) (a : Anchor) (cs : List Char) :
    rangeEnd? spaced (.anchor a) cs = none := by
  simp [rangeEnd?, spanTerm?]

theorem itemFrom?_anchor (spaced : Bool) (a : Anchor) (cs : List Char) :
    itemFrom? spaced (.anchor a) cs = none := by
  unfold itemFrom?
  split
  · split
    · rfl
    · exact rangeEnd?_anchor ..
  · rfl

/-- What is read behind a character or an escape in brackets.  Conditions have no place there. -/
theorem Reader.atom {limit : Nat} (spaced : Bool)
    {k : Primitive → List Char → Option (α × List Char)}
    {l : Primitive → List Char → List Char → Option (α × List Char)}
    (next : ∀ p, Reader limit (k p) (l p))
    (condition : ∀ u cs, l (.anchor .wordBoundary) u cs = none) (c : Char) :
    Reader limit (fun cs => (setAtom? spaced (c :: cs)).bind fun p => k p.1 p.2)
      fun u cs => (setAtom? spaced (c :: cs)).bind fun p => l p.1 u p.2 := by
  by_cases backslash : c = '\\'
  · subst backslash
    exact .escape spaced next fun _ rest u b r _ read => by simp [condition] at read
  · have plain (cs : List Char) : setAtom? spaced (c :: cs) = some (.literal ⟨c, false⟩, cs) := by
      unfold setAtom?
      grind
    simp only [plain, Option.bind_some]
    exact next _

theorem steady_rangeEnd? (spaced : Bool) (low : Primitive) : Steady (rangeEnd? spaced low) := by
  intro limit
  have condition (a : Anchor) : spanTerm? low (.anchor a) = none := by cases low <;> rfl
  have cut (cs : List Char) : rangeEnd? spaced low cs = match cs with
      | [] => none
      | c :: rest => (setAtom? spaced (c :: rest)).bind fun p =>
          (spanTerm? low p.1).bind fun t => some (t, p.2) := by cases cs <;> rfl
  have range (high : Primitive) := Reader.ofOption (spanTerm? low high) (Reader.pure limit)
  exact .congr cut (fun _ => cut) ((Reader.head fun c =>
    .atom spaced range (by simp [condition]) c).mono (Nat.le_succ limit))

theorem steady_setItem? (spaced : Bool) (c : Char) :
    Steady fun cs => setItem? spaced (c :: cs) := by
  intro limit
  have range (low : Primitive) := Steady.head fun _ => (steady_rangeEnd? spaced low).skip spaced
  have alone (low : Primitive) := Steady.ofOption low.toSetTerm? Steady.pure
  have item (low : Primitive) : Reader limit (itemFrom? spaced low) fun _ => itemFrom? spaced low :=
    .cond (startsRange_append spaced) (range low limit) (alone low limit)
  exact .congr (fun cs => setItem?_eq spaced (c :: cs)) (fun _ cs => setItem?_eq spaced (c :: cs))
    (.atom spaced (fun low => (item low).skip spaced) (fun _ _ => itemFrom?_anchor ..) c)

/-! ## Openings -/

theorem leadingHyphens_of_ne (spaced : Bool) (steps : Nat) {cs : List Char}
    (other : ∀ rest, cs = '-' :: rest → False) : leadingHyphens spaced steps cs = ([], cs) := by
  unfold leadingHyphens
  split
  · exact (other _ rfl).elim
  · rfl

theorem leadingHyphens_of_length_le (spaced : Bool) {steps more : Nat} {cs : List Char}
    (enough : cs.length ≤ steps) (le : steps ≤ more) :
    leadingHyphens spaced more cs = leadingHyphens spaced steps cs := by
  induction steps generalizing more cs with
  | zero =>
    rw [List.length_eq_zero_iff.1 (Nat.le_zero.1 enough)]
    exact leadingHyphens_of_ne spaced more nofun
  | succ steps ih =>
    obtain ⟨more, rfl⟩ : ∃ n, more = n + 1 := ⟨more - 1, by omega⟩
    by_cases hyphen : ∃ rest, cs = '-' :: rest
    · obtain ⟨rest, rfl⟩ := hyphen
      have shorter := (suffix_skipSpace spaced rest).length_le
      simp only [leadingHyphens]
      rw [ih (Nat.le_trans shorter (Nat.le_of_succ_le_succ enough)) (Nat.le_of_succ_le_succ le)]
    · have other : ∀ rest, cs = '-' :: rest → False := fun rest e => hyphen ⟨rest, e⟩
      rw [leadingHyphens_of_ne spaced _ other, leadingHyphens_of_ne spaced _ other]

theorem steady_leadingHyphens (spaced : Bool) :
    Steady fun cs => some (leadingHyphens spaced cs.length cs) := by
  have none (cs : List Char) : leadingHyphens spaced 0 cs = ([], cs) := by
    unfold leadingHyphens
    rfl
  have step (k : Nat) (cs : List Char) :
      some (leadingHyphens spaced (k + 1) cs) = match cs with
        | [] => some ([], [])
        | c :: rest =>
          if c == '-' then (some (leadingHyphens spaced k (skipSpace spaced rest))).map
            fun p => (.literal ⟨'-', false⟩ :: p.1, p.2)
          else some ([], c :: rest) := by
    rcases cs with _ | ⟨c, rest⟩
    · rfl
    · by_cases hyphen : c = '-'
      · subst hyphen
        rfl
      · rw [leadingHyphens_of_ne spaced _ fun _ e => hyphen (List.cons.inj e).1]
        simp [hyphen]
  -- one step more than the reader is given makes no difference
  refine .congr (fun cs => congrArg some
    (leadingHyphens_of_length_le spaced (Nat.le_refl _) (Nat.le_succ _)).symm) (.counted
      (F := fun steps (_ : Unit) cs => some (leadingHyphens spaced steps cs)) (fun _ => ?_)
      (fun k m limit ih _ => ?_) ())
  · simp only [none]
    exact .pure 0 []
  · exact .congr (step k) (fun u => step (m u))
      (.branch rfl (fun _ => ((ih ()).map (.literal ⟨'-', false⟩ :: ·)).skip spaced) (.pure _ []))

/-- Hyphens, or else a closing bracket, that stand for themselves. -/
def plainStart (spaced inside : Bool) (cs : List Char) : Option ((Bool × List SetTerm) × List Char) :=
  (some (leadingHyphens spaced cs.length cs)).bind fun p => match p.2 with
    | [] => some ((inside, p.1), [])
    | c :: rest =>
      if p.1.isEmpty && c == ']' then some ((inside, [.literal ⟨']', false⟩]), skipSpace spaced rest)
      else some ((inside, p.1), c :: rest)

theorem steady_plainStart (spaced inside : Bool) : Steady (plainStart spaced inside) :=
  (steady_leadingHyphens spaced).bind fun hyphens =>
    .branch (p := fun c => hyphens.isEmpty && c == ']') (by simp)
      (fun _ => (Steady.pure (inside, [SetTerm.literal ⟨']', false⟩])).skip spaced)
      (.pure (inside, hyphens))

theorem plainStart_eq (spaced inside : Bool) (cs : List Char) :
    plainStart spaced inside cs =
      match leadingHyphens spaced cs.length cs with
      | ([], ']' :: cs) => some ((inside, [.literal ⟨']', false⟩]), skipSpace spaced cs)
      | (hyphens, cs) => some ((inside, hyphens), cs) := by
  unfold plainStart
  rcases leadingHyphens spaced cs.length cs with ⟨_ | ⟨hyphen, hyphens⟩, _ | ⟨c, rest⟩⟩ <;> grind

theorem setOpening_eq (spaced : Bool) (cs : List Char) :
    some (((setOpening spaced cs).1, (setOpening spaced cs).2.1), (setOpening spaced cs).2.2) =
      match skipSpace spaced cs with
      | [] => plainStart spaced true []
      | c :: rest => if c == '^' then plainStart spaced false (skipSpace spaced rest)
          else plainStart spaced true (c :: rest) := by
  unfold setOpening
  rcases skipSpace spaced cs with _ | ⟨c, rest⟩
  · rfl
  · by_cases not : c = '^'
    · subst not
      simp only [beq_self_eq_true, if_true, plainStart_eq]
      split <;> simp_all
    · simp only [beq_iff_eq, not, if_false, plainStart_eq]
      split <;> simp_all

theorem steady_setOpening (spaced : Bool) : Steady fun cs =>
    some (((setOpening spaced cs).1, (setOpening spaced cs).2.1), (setOpening spaced cs).2.2) :=
  .congr (setOpening_eq spaced) (.skip spaced (.branch (p := (· == '^')) rfl
    (fun _ => (steady_plainStart spaced false).skip spaced) (steady_plainStart spaced true)))

/-! ## Contents -/

theorem steady_setBody? (spaced : Bool) (left : Option (SetTerm × SetOperation))
    (items : List SetTerm) : Steady fun cs => setBody? spaced (cs.length + 1) left items cs := by
  refine .counted (F := fun steps s => setBody? spaced steps s.1 s.2) (fun _ => .fail 0)
    (fun n m limit ih s => ?_) (left, items)
  obtain ⟨left, items⟩ := s
  refine .skip spaced (.head fun c => .ite (P := c = ']') (.pure limit (joinSets left items))
    (.ite (P := c = '[') ?_ ?_))
  · have next (t : SetTerm) := ih (left, items ++ [t])
    -- what is no class by name is a set in the set, read from the same place
    have inner := (steady_setOpening spaced limit).bind fun p => (ih (none, p.2)).bind fun content =>
      next (.bracketed p.1 content)
    refine .congr (fun cs => ?_) (fun u cs => ?_)
      (.optional asciiClass?_append suffix_asciiClass? next inner)
    all_goals rcases asciiClass? cs with _ | ⟨t, rest⟩ <;> rfl
  · have next (t : SetTerm) := ih (left, items ++ [t])
    have operation (op : SetOperation) := ih (some (joinSets left items, op), [])
    have item := (steady_setItem? spaced c limit).bind next
    refine .congr (fun cs => ?_) (fun u cs => ?_)
      (.optional (setOperation?_append c) suffix_setOperation? operation item)
    all_goals rcases setOperation? (c :: cs) with _ | ⟨op, rest⟩ <;> rfl

theorem steady_bracketedSet? (spaced : Bool) : Steady (bracketedSet? spaced) := by
  refine .congr (fun cs => ?_) ((steady_setOpening spaced).bind fun p =>
    (steady_setBody? spaced none p.2).map (.bracketed p.1))
  rfl

end Hyperslab.Regex
