/-
# `Hyperslab.Proofs.Regex.Following` — reading with a closing parenthesis behind

What does a reader make of a text when a closing parenthesis, and any text, is put behind it?
Either it reads the same and leaves the parenthesis where it is, or it gets beyond the parenthesis:
into a comment, an escape, a set or a name that the text has left open.  Then it never comes back,
and the text by itself was not read either, unless it ends in a comment (`Follows`).

All readers of patterns are of this kind (`Reader`), because they are put together from the same few
pieces, and it is enough to see that of each piece.  A reader whose steps are counted is compared with
itself for other counts, since a longer text allows more steps (`Reader.counted`).
-/
import Hyperslab.Regex.Reading

namespace Hyperslab.Regex

variable {α β : Type}

theorem dropWhile_append_parenthesis {p : Char → Bool} (other : p ')' = false) (cs u : List Char) :
    (cs ++ ')' :: u).dropWhile p = cs.dropWhile p ++ ')' :: u := by
  rw [List.dropWhile_append]
  split
  · rename_i none
    rw [List.isEmpty_iff.1 none, List.dropWhile_cons_of_neg (by simp [other]), List.nil_append]
  · rfl

theorem length_takeWhile_ne {p : Char → Bool} {c : Char} {cs more : List Char}
    (ends : cs.dropWhile p = c :: more) : (cs.takeWhile p).length ≠ cs.length := fun same => by
  have whole := congrArg List.length (List.takeWhile_append_dropWhile (p := p) (l := cs))
  simp [ends, same] at whole

/-! ## Following -/

/-- The first is what was read of a text, the second what is read with a closing parenthesis and some
other text behind it. -/
inductive Follows (cs : List Char) (x : Option (α × List Char))
    (y : List Char → Option (α × List Char)) : Prop
  /-- The parenthesis is left behind what is left of the text. -/
  | same {a : α} {r : List Char} : x = some (a, r) → (∀ u, y u = some (a, r ++ ')' :: u)) →
      Follows cs x y
  /-- Reading ends behind the parenthesis, if it ends.  A text that is read by itself all the same ends
  in a comment. -/
  | past : (∀ a r, x = some (a, r) → r = [] ∧ '#' ∈ cs) → (∀ u a r, y u = some (a, r) → r <:+ u) →
      Follows cs x y

theorem Follows.mono {cs ds : List Char} {x : Option (α × List Char)}
    {y : List Char → Option (α × List Char)} (h : Follows cs x y) (part : cs <:+ ds) :
    Follows ds x y := by
  rcases h with ⟨read, after⟩ | ⟨read, after⟩
  · exact .same read after
  · exact .past (fun a r found => ⟨(read a r found).1, part.mem (read a r found).2⟩) after

/-- Texts shorter than `limit` that `f` reads, `g` follows with other texts behind. -/
structure Reader (limit : Nat) (f : List Char → Option (α × List Char))
    (g : List Char → List Char → Option (α × List Char)) : Prop where
  suffix : ∀ {cs a r}, f cs = some (a, r) → r <:+ cs
  suffixAfter : ∀ {u cs a r}, g u cs = some (a, r) → r <:+ cs
  follows : ∀ cs, cs.length < limit → Follows cs (f cs) fun u => g u (cs ++ ')' :: u)

/-- A reader that follows itself. -/
abbrev Steady (f : List Char → Option (α × List Char)) : Prop := ∀ limit, Reader limit f fun _ => f

namespace Reader

variable {limit : Nat} {f f' : List Char → Option (α × List Char)}
  {g g' : List Char → List Char → Option (α × List Char)}

theorem mono (h : Reader limit f g) {less : Nat} (le : less ≤ limit) : Reader less f g :=
  ⟨h.suffix, h.suffixAfter, fun cs short => h.follows cs (Nat.lt_of_lt_of_le short le)⟩

theorem congr (same : ∀ cs, f cs = f' cs) (sameAfter : ∀ u cs, g u cs = g' u cs)
    (h : Reader limit f' g') : Reader limit f g := by
  rwa [funext same, funext fun u => funext (sameAfter u)]

/-- Nothing is left of nothing. -/
theorem eq_nil (h : Reader limit f g) {a : α} {r : List Char} (read : f [] = some (a, r)) :
    r = [] :=
  List.suffix_nil.1 (h.suffix read)

end Reader

/-- What is read behind something that follows. -/
theorem Follows.bind {limit : Nat} {cs : List Char} {x : Option (α × List Char)}
    {y : List Char → Option (α × List Char)} (first : Follows cs x y)
    {k : α → List Char → Option (β × List Char)}
    {l : α → List Char → List Char → Option (β × List Char)}
    (next : ∀ a, Reader limit (k a) (l a)) (part : ∀ a r, x = some (a, r) → r <:+ cs)
    (short : cs.length < limit) :
    Follows cs (x.bind fun p => k p.1 p.2) fun u => (y u).bind fun p => l p.1 u p.2 := by
  rcases first with @⟨a, r, read, after⟩ | ⟨read, after⟩
  · simp only [read, after, Option.bind_some]
    have behind := part a r read
    exact ((next a).follows r (Nat.lt_of_le_of_lt behind.length_le short)).mono behind
  · refine .past (fun b s both => ?_) fun u b s both => ?_
    · obtain ⟨⟨a, r⟩, first, second⟩ := Option.bind_eq_some_iff.1 both
      obtain ⟨rfl, comment⟩ := read a r first
      exact ⟨(next a).eq_nil second, comment⟩
    · obtain ⟨⟨a, r⟩, first, second⟩ := Option.bind_eq_some_iff.1 both
      exact ((next a).suffixAfter second).trans (after u a r first)

/-! ## Pieces -/

namespace Reader

variable {limit : Nat} {f f' : List Char → Option (α × List Char)}
  {g g' : List Char → List Char → Option (α × List Char)}

theorem pure (limit : Nat) (a : α) :
    Reader limit (fun cs => some (a, cs)) fun _ cs => some (a, cs) where
  suffix read := by cases read; exact List.suffix_rfl
  suffixAfter read := by cases read; exact List.suffix_rfl
  follows _ _ := .same rfl fun _ => rfl

theorem fail (limit : Nat) :
    Reader limit (fun _ => (none : Option (α × List Char))) fun _ _ => none where
  suffix := nofun
  suffixAfter := nofun
  follows _ _ := .past nofun nofun

/-- One reader after another. -/
theorem bind {k : α → List Char → Option (β × List Char)}
    {l : α → List Char → List Char → Option (β × List Char)} (h : Reader limit f g)
    (next : ∀ a, Reader limit (k a) (l a)) :
    Reader limit (fun cs => (f cs).bind fun p => k p.1 p.2)
      fun u cs => (g u cs).bind fun p => l p.1 u p.2 where
  suffix read := by
    obtain ⟨⟨a, s⟩, first, second⟩ := Option.bind_eq_some_iff.1 read
    exact ((next a).suffix second).trans (h.suffix first)
  suffixAfter read := by
    obtain ⟨⟨a, s⟩, first, second⟩ := Option.bind_eq_some_iff.1 read
    exact ((next a).suffixAfter second).trans (h.suffixAfter first)
  follows cs short := (h.follows cs short).bind next (fun _ _ => h.suffix) short

theorem map (h : Reader limit f g) (φ : α → β) :
    Reader limit (fun cs => (f cs).map fun p => (φ p.1, p.2))
      fun u cs => (g u cs).map fun p => (φ p.1, p.2) := by
  have same : ∀ x : Option (α × List Char),
      (x.map fun p => (φ p.1, p.2)) = x.bind fun p => some (φ p.1, p.2) :=
    fun _ => Option.map_eq_bind
  simp only [same]
  exact h.bind fun a => pure limit (φ a)

/-- A character decides how to go on, if there is one. -/
theorem head {k : Char → List Char → Option (α × List Char)}
    {l : Char → List Char → List Char → Option (α × List Char)}
    (next : ∀ c, Reader limit (k c) (l c)) :
    Reader (limit + 1) (fun cs => match cs with
        | [] => none
        | c :: rest => k c rest)
      fun u cs => match cs with
        | [] => none
        | c :: rest => l c u rest where
  suffix {cs} _ _ read := by
    cases cs with
    | nil => cases read
    | cons c rest => exact ((next c).suffix read).trans (List.suffix_cons c rest)
  suffixAfter {_ cs} _ _ read := by
    cases cs with
    | nil => cases read
    | cons c rest => exact ((next c).suffixAfter read).trans (List.suffix_cons c rest)
  follows cs short := by
    cases cs with
    | nil => exact .past nofun fun u a r read => (next ')').suffixAfter read
    | cons c rest =>
      exact ((next c).follows rest (Nat.lt_of_succ_lt_succ short)).mono (List.suffix_cons c rest)

/-- A character that is not the parenthesis is taken, or else nothing. -/
theorem branch {p : Char → Bool} (other : p ')' = false)
    {k : Char → List Char → Option (α × List Char)}
    {l : Char → List Char → List Char → Option (α × List Char)}
    (next : ∀ c, Reader limit (k c) (l c)) (h : Reader (limit + 1) f g) :
    Reader (limit + 1) (fun cs => match cs with
        | [] => f []
        | c :: rest => if p c then k c rest else f (c :: rest))
      fun u cs => match cs with
        | [] => g u []
        | c :: rest => if p c then l c u rest else g u (c :: rest) where
  suffix {cs} _ _ read := by
    cases cs with
    | nil => exact h.suffix read
    | cons c rest =>
      dsimp only at read
      split at read
      · exact ((next c).suffix read).trans (List.suffix_cons c rest)
      · exact h.suffix read
  suffixAfter {_ cs} _ _ read := by
    cases cs with
    | nil => exact h.suffixAfter read
    | cons c rest =>
      dsimp only at read
      split at read
      · exact ((next c).suffixAfter read).trans (List.suffix_cons c rest)
      · exact h.suffixAfter read
  follows cs short := by
    cases cs with
    | nil =>
      simp only [List.nil_append, other, Bool.false_eq_true, if_false]
      exact h.follows [] short
    | cons c rest =>
      simp only [List.cons_append]
      split
      · exact ((next c).follows rest (Nat.lt_of_succ_lt_succ short)).mono (List.suffix_cons c rest)
      · exact h.follows (c :: rest) short

/-- A condition that has nothing to do with the text. -/
theorem ite {P : Prop} [Decidable P] (yes : Reader limit f g) (no : Reader limit f' g') :
    Reader limit (fun cs => if P then f cs else f' cs) fun u cs => if P then g u cs else g' u cs := by
  split
  · exact yes
  · exact no

/-- Something that the text has no part in. -/
theorem ofOption (o : Option β) {k : β → List Char → Option (α × List Char)}
    {l : β → List Char → List Char → Option (α × List Char)}
    (next : ∀ b, Reader limit (k b) (l b)) :
    Reader limit (fun cs => o.bind fun b => k b cs) fun u cs => o.bind fun b => l b u cs := by
  cases o with
  | none => exact fail limit
  | some b => exact next b

/-- A condition that does not depend on what is behind. -/
theorem cond {p : List Char → Bool} (blind : ∀ cs u, p (cs ++ ')' :: u) = p cs)
    (yes : Reader limit f g) (no : Reader limit f' g') :
    Reader limit (fun cs => if p cs then f cs else f' cs)
      fun u cs => if p cs then g u cs else g' u cs where
  suffix read := by
    split at read
    · exact yes.suffix read
    · exact no.suffix read
  suffixAfter read := by
    split at read
    · exact yes.suffixAfter read
    · exact no.suffixAfter read
  follows cs short := by
    simp only [blind]
    split
    · exact yes.follows cs short
    · exact no.follows cs short

/-- Something is taken if it is there, no matter what is behind. -/
theorem optional {p : List Char → Option (β × List Char)}
    (blind : ∀ cs u, p (cs ++ ')' :: u) = (p cs).map fun q => (q.1, q.2 ++ ')' :: u))
    (suffix : ∀ {cs b r}, p cs = some (b, r) → r <:+ cs)
    {k : β → List Char → Option (α × List Char)}
    {l : β → List Char → List Char → Option (α × List Char)}
    (there : ∀ b, Reader limit (k b) (l b)) (missing : Reader limit f g) :
    Reader limit (fun cs => match p cs with
        | some (b, rest) => k b rest
        | none => f cs)
      fun u cs => match p cs with
        | some (b, rest) => l b u rest
        | none => g u cs where
  suffix read := by
    split at read
    · rename_i taken
      exact ((there _).suffix read).trans (suffix taken)
    · exact missing.suffix read
  suffixAfter read := by
    split at read
    · rename_i taken
      exact ((there _).suffixAfter read).trans (suffix taken)
    · exact missing.suffixAfter read
  follows cs short := by
    simp only [blind]
    cases taken : p cs with
    | none => exact missing.follows cs short
    | some q =>
      have part := suffix taken
      exact ((there q.1).follows q.2 (Nat.lt_of_le_of_lt part.length_le short)).mono part

/-- Characters other than the parenthesis are left out. -/
theorem dropping {p : Char → Bool} (other : p ')' = false) (h : Reader limit f g) :
    Reader limit (fun cs => f (cs.dropWhile p)) fun u cs => g u (cs.dropWhile p) where
  suffix read := (h.suffix read).trans (List.dropWhile_suffix p)
  suffixAfter read := (h.suffixAfter read).trans (List.dropWhile_suffix p)
  follows cs short := by
    simp only [dropWhile_append_parenthesis other]
    have part := List.dropWhile_suffix p (l := cs)
    exact (h.follows _ (Nat.lt_of_le_of_lt part.length_le short)).mono part

end Reader

/-! ## Blanks and comments -/

theorem suffix_skipSpaced (inComment : Bool) (cs : List Char) : skipSpaced inComment cs <:+ cs := by
  induction cs generalizing inComment with
  | nil => cases inComment <;> exact List.suffix_rfl
  | cons c cs ih =>
    cases inComment with
    | true => exact (ih _).trans (List.suffix_cons c cs)
    | false =>
      unfold skipSpaced
      split
      · exact (ih _).trans (List.suffix_cons c cs)
      · split
        · exact (ih _).trans (List.suffix_cons c cs)
        · exact List.suffix_rfl

theorem suffix_skipSpace (spaced : Bool) (cs : List Char) : skipSpace spaced cs <:+ cs := by
  unfold skipSpace
  split
  · exact suffix_skipSpaced false cs
  · exact List.suffix_rfl

/-- Blanks do not reach beyond the parenthesis, but a comment may. -/
theorem skipSpaced_append (inComment : Bool) (cs : List Char) :
    (∀ u, skipSpaced inComment (cs ++ ')' :: u) = skipSpaced inComment cs ++ ')' :: u) ∨
      (skipSpaced inComment cs = [] ∧ (inComment = true ∨ '#' ∈ cs)) ∧
        ∀ u, skipSpaced inComment (cs ++ ')' :: u) <:+ u := by
  induction cs generalizing inComment with
  | nil =>
    cases inComment with
    | true => exact .inr ⟨⟨rfl, .inl rfl⟩, fun u => suffix_skipSpaced _ u⟩
    | false => exact .inl fun u => rfl
  | cons c cs ih =>
    cases inComment with
    | true => exact (ih _).imp_right fun h => ⟨⟨h.1.1, .inl rfl⟩, h.2⟩
    | false =>
      simp only [List.cons_append, skipSpaced]
      split
      · refine (ih false).imp_right fun ⟨⟨ended, comment⟩, inside⟩ => ⟨⟨ended, .inr ?_⟩, inside⟩
        exact List.mem_cons_of_mem c (comment.resolve_left nofun)
      · split
        · rename_i mark
          refine (ih true).imp_right fun ⟨⟨ended, _⟩, inside⟩ => ⟨⟨ended, .inr ?_⟩, inside⟩
          exact mark ▸ List.mem_cons_self
        · exact .inl fun u => rfl

theorem skipSpace_append (spaced : Bool) (cs : List Char) :
    (∀ u, skipSpace spaced (cs ++ ')' :: u) = skipSpace spaced cs ++ ')' :: u) ∨
      (skipSpace spaced cs = [] ∧ '#' ∈ cs) ∧ ∀ u, skipSpace spaced (cs ++ ')' :: u) <:+ u := by
  cases spaced with
  | true =>
    exact (skipSpaced_append false cs).imp_right fun h => ⟨⟨h.1.1, h.1.2.resolve_left nofun⟩, h.2⟩
  | false => exact .inl fun u => rfl

theorem Reader.skip {limit : Nat} {f : List Char → Option (α × List Char)}
    {g : List Char → List Char → Option (α × List Char)} (spaced : Bool) (h : Reader limit f g) :
    Reader limit (fun cs => f (skipSpace spaced cs)) fun u cs => g u (skipSpace spaced cs) where
  suffix read := (h.suffix read).trans (suffix_skipSpace spaced _)
  suffixAfter read := (h.suffixAfter read).trans (suffix_skipSpace spaced _)
  follows cs short := by
    rcases skipSpace_append spaced cs with apart | ⟨⟨none, comment⟩, inside⟩
    · simp only [apart]
      have part := suffix_skipSpace spaced cs
      exact (h.follows _ (Nat.lt_of_le_of_lt part.length_le short)).mono part
    · rw [none]
      exact .past (fun a r read => ⟨h.eq_nil read, comment⟩) fun u a r read =>
        (h.suffixAfter read).trans (inside u)

/-! ## Counted steps -/

section

variable {σ : Type} {F : Nat → σ → List Char → Option (α × List Char)}

/-- A reader with a count of steps, from which each step takes one, follows itself if it is given more
steps than there are characters. -/
theorem Reader.stepwise (start : ∀ s, Reader 0 (F 0 s) fun _ => F 0 s)
    (step : ∀ n (m : List Char → Nat) limit, (∀ s, Reader limit (F n s) fun u => F (m u) s) →
      ∀ s, Reader (limit + 1) (F (n + 1) s) fun u => F (m u + 1) s)
    {n : Nat} {m : List Char → Nat} (many : ∀ u, n + u.length + 1 ≤ m u) (s : σ) :
    Reader n (F n s) fun u => F (m u) s := by
  -- for any number of steps; the step for no texts at all asks for nothing else
  have suffix : ∀ n s {cs a r}, F n s cs = some (a, r) → r <:+ cs := by
    intro n
    induction n with
    | zero => exact fun s => (start s).suffix
    | succ n ih =>
      have before : ∀ s, Reader 0 (F n s) fun _ => F n s := fun s => ⟨ih s, ih s, nofun⟩
      exact fun s => (step n (fun _ => n) 0 before s).suffix
  induction n generalizing m s with
  | zero => exact ⟨suffix 0 s, fun {u} => suffix (m u) s, nofun⟩
  | succ n ih =>
    have less : ∀ u, m u - 1 + 1 = m u := fun u => by
      have := many u
      omega
    have next := step n (fun u => m u - 1) n (ih fun u => by
      have := many u
      omega) s
    simp only [less] at next
    exact next

/-- A text and a longer one are read alike, with as many steps as each has characters and one more. -/
theorem Reader.counted (start : ∀ s, Reader 0 (F 0 s) fun _ => F 0 s)
    (step : ∀ n (m : List Char → Nat) limit, (∀ s, Reader limit (F n s) fun u => F (m u) s) →
      ∀ s, Reader (limit + 1) (F (n + 1) s) fun u => F (m u + 1) s) (s : σ) :
    Steady fun cs => F (cs.length + 1) s cs := by
  have steps (n : Nat) {m : List Char → Nat} (many : ∀ u, n + u.length + 1 ≤ m u) :=
    Reader.stepwise start step many s
  have suffix (n : Nat) {cs a r} : F n s cs = some (a, r) → r <:+ cs :=
    (steps n (m := fun u => n + u.length + 1) fun _ => Nat.le_refl _).suffix
  refine fun limit => ⟨suffix _, suffix _, fun cs _ => ?_⟩
  refine (steps (cs.length + 1) (m := fun u => (cs ++ ')' :: u).length + 1) fun u => ?_).follows cs
    (Nat.lt_succ_self _)
  rw [List.length_append, List.length_cons]
  omega

end

/-! ## Readers that follow themselves -/

namespace Steady

variable {f f' : List Char → Option (α × List Char)}

theorem congr (same : ∀ cs, f cs = f' cs) (h : Steady f') : Steady f := by
  rwa [funext same]

theorem pure (a : α) : Steady fun cs => some (a, cs) := fun limit => .pure limit a

theorem fail : Steady fun _ => (none : Option (α × List Char)) := Reader.fail

theorem bind {k : α → List Char → Option (β × List Char)} (h : Steady f)
    (next : ∀ a, Steady (k a)) : Steady fun cs => (f cs).bind fun p => k p.1 p.2 :=
  fun limit => (h limit).bind fun a => next a limit

theorem map (h : Steady f) (φ : α → β) : Steady fun cs => (f cs).map fun p => (φ p.1, p.2) :=
  fun limit => (h limit).map φ

theorem head {k : Char → List Char → Option (α × List Char)} (next : ∀ c, Steady (k c)) :
    Steady fun cs => match cs with
      | [] => none
      | c :: rest => k c rest :=
  fun limit => (Reader.head fun c => next c limit).mono (Nat.le_succ limit)

theorem branch {p : Char → Bool} (other : p ')' = false)
    {k : Char → List Char → Option (α × List Char)} (next : ∀ c, Steady (k c)) (h : Steady f) :
    Steady fun cs => match cs with
      | [] => f []
      | c :: rest => if p c then k c rest else f (c :: rest) :=
  fun limit => (Reader.branch other (fun c => next c limit) (h (limit + 1))).mono (Nat.le_succ limit)

theorem skip (spaced : Bool) (h : Steady f) : Steady fun cs => f (skipSpace spaced cs) :=
  fun limit => (h limit).skip spaced

theorem ite {P : Prop} [Decidable P] (yes : Steady f) (no : Steady f') :
    Steady fun cs => if P then f cs else f' cs :=
  fun limit => (yes limit).ite (no limit)

theorem ofOption (o : Option β) {k : β → List Char → Option (α × List Char)}
    (next : ∀ b, Steady (k b)) : Steady fun cs => o.bind fun b => k b cs :=
  fun limit => .ofOption o fun b => next b limit

theorem dropping {p : Char → Bool} (other : p ')' = false) (h : Steady f) :
    Steady fun cs => f (cs.dropWhile p) :=
  fun limit => (h limit).dropping other

end Steady

end Hyperslab.Regex
