/-
# `Hyperslab.Proofs.Text.Cutting` — pieces, and what becomes of doubled separators

Pieces that do not hold the separator come out of a text again if they were put together with
it (`splitAll_intercalate`).  Where empty pieces do not count, a text with doubled separators
says the same as one in which each run of separators is shortened to one; what `squeeze` makes
of a text can be read off its pieces (`squeeze_flatMap`).
-/
import Hyperslab.Proofs.Text.Words
import Hyperslab.Text.Split

namespace Hyperslab.Text

variable {sep : Char}

/-! ## Pieces -/

/-- Pieces with a separator between them, and one more. -/
theorem intercalate_concat (sep : Char) {vs : List (List Char)} (some : vs ≠ [])
    (w : List Char) : [sep].intercalate (vs ++ [w]) = [sep].intercalate vs ++ sep :: w := by
  cases vs with
  | nil => exact absurd rfl some
  | cons v vs =>
    rw [List.cons_append, intercalate_cons, intercalate_cons, List.flatMap_append,
      List.append_assoc, List.flatMap_singleton]

theorem not_mem_intercalate {c : Char} (other : c ≠ sep) {ps : List (List Char)}
    (free : ∀ p ∈ ps, c ∉ p) : c ∉ [sep].intercalate ps := by
  cases ps with
  | nil => exact List.not_mem_nil
  | cons p ps =>
    rw [List.forall_mem_cons] at free
    rw [intercalate_cons, List.mem_append, not_or]
    refine ⟨free.1, fun there => ?_⟩
    obtain ⟨q, hq, hc⟩ := List.mem_flatMap.1 there
    rcases List.mem_cons.1 hc with same | inner
    · exact other same
    · exact free.2 q hq inner

theorem splitAll_of_not_mem {cs : List Char} (h : sep ∉ cs) : splitAll sep cs = [cs] := by
  induction cs with
  | nil => rfl
  | cons c cs ih =>
    rw [List.mem_cons, not_or] at h
    rw [splitAll, if_neg (Ne.symm h.1), ih h.2]

/-- The pieces before and after a separator. -/
theorem splitAll_append_cons (before after : List Char) :
    splitAll sep (before ++ sep :: after) = splitAll sep before ++ splitAll sep after := by
  induction before with
  | nil => simp [splitAll]
  | cons c cs ih =>
    rw [List.cons_append, splitAll, splitAll, ih]
    split
    · rfl
    · cases pieces : splitAll sep cs with
      | nil => exact absurd pieces (splitAll_ne_nil sep cs)
      | cons piece rest => rfl

/-- Putting pieces together and cutting them apart again. -/
theorem splitAll_intercalate {p : List Char} {ps : List (List Char)}
    (free : ∀ q ∈ p :: ps, sep ∉ q) : splitAll sep ([sep].intercalate (p :: ps)) = p :: ps := by
  induction ps generalizing p with
  | nil =>
    rw [List.intercalate_singleton]
    exact splitAll_of_not_mem (free p (List.mem_cons_self ..))
  | cons q ps ih =>
    rw [List.forall_mem_cons] at free
    rw [List.intercalate_cons_cons, List.append_assoc, List.singleton_append,
      splitAll_append_cons, splitAll_of_not_mem free.1, ih free.2, List.singleton_append]

/-- Pieces with a separator behind each come out again, with nothing behind the last separator. -/
theorem splitAll_flatMap_concat {ps : List (List Char)} (free : ∀ p ∈ ps, sep ∉ p) :
    splitAll sep (ps.flatMap fun p => p ++ [sep]) = ps ++ [[]] := by
  induction ps with
  | nil => rfl
  | cons p ps ih =>
    rw [List.forall_mem_cons] at free
    rw [List.flatMap_cons, List.append_assoc, List.singleton_append, splitAll_append_cons,
      splitAll_of_not_mem free.1, ih free.2, List.singleton_append, List.cons_append]

/-- A text with a separator in front consists of its pieces, each with a separator in front. -/
theorem flatMap_splitAll (sep : Char) (cs : List Char) :
    (splitAll sep cs).flatMap (sep :: ·) = sep :: cs := by
  have whole := intercalate_splitAll sep cs
  cases pieces : splitAll sep cs with
  | nil => exact absurd pieces (splitAll_ne_nil sep cs)
  | cons p ps =>
    rw [pieces, intercalate_cons] at whole
    rw [List.flatMap_cons, List.cons_append, whole]

theorem not_mem_of_splitLast?_eq_none {cs : List Char} (h : splitLast? sep cs = none) :
    sep ∉ cs := by
  induction cs with
  | nil => exact List.not_mem_nil
  | cons c cs ih =>
    unfold splitLast? at h
    cases rest : splitLast? sep cs with
    | some cut => rw [rest] at h; cases h
    | none =>
      rw [rest] at h
      have other : c ≠ sep := fun same => by rw [if_pos same] at h; cases h
      rw [List.mem_cons, not_or]
      exact ⟨other.symm, ih rest⟩

/-- Behind the last separator there is none. -/
theorem not_mem_of_splitLast? {cs before after : List Char}
    (h : splitLast? sep cs = some (before, after)) : sep ∉ after := by
  induction cs generalizing before with
  | nil => cases h
  | cons c cs ih =>
    unfold splitLast? at h
    cases rest : splitLast? sep cs with
    | some cut =>
      rw [rest] at h
      cases h
      exact ih rest
    | none =>
      rw [rest] at h
      dsimp only at h
      split at h
      · cases h
        exact not_mem_of_splitLast?_eq_none rest
      · cases h

/-! ## Runs of separators -/

/-- The text with every run of the character shortened to one. -/
def squeeze (c : Char) : List Char → List Char
  | [] => []
  | a :: rest => if a = c ∧ rest.head? = some c then squeeze c rest else a :: squeeze c rest

theorem head?_squeeze (c : Char) (cs : List Char) : (squeeze c cs).head? = cs.head? := by
  induction cs with
  | nil => rfl
  | cons a rest ih =>
    rw [squeeze]
    split
    · rename_i both
      rw [ih, both.2, both.1]
      rfl
    · rfl

theorem squeeze_append_of_not_mem {p : List Char} (free : sep ∉ p) (rest : List Char) :
    squeeze sep (p ++ rest) = p ++ squeeze sep rest := by
  induction p with
  | nil => rfl
  | cons c cs ih =>
    rw [List.mem_cons, not_or] at free
    rw [List.cons_append, squeeze, if_neg fun both => free.1 both.1.symm, ih free.2,
      List.cons_append]

/-- A separator in front of another one is dropped. -/
theorem squeeze_cons_cons (sep : Char) (rest : List Char) :
    squeeze sep (sep :: sep :: rest) = squeeze sep (sep :: rest) := by
  rw [squeeze, if_pos ⟨rfl, rfl⟩]

/-- A separator in front of something else stays. -/
theorem squeeze_cons {rest : List Char} (other : rest.head? ≠ some sep) :
    squeeze sep (sep :: rest) = sep :: squeeze sep rest := by
  rw [squeeze, if_neg fun both => other both.2]

/-- Empty pieces disappear, except that an empty last piece leaves a separator behind. -/
theorem squeeze_flatMap {ps : List (List Char)} (free : ∀ p ∈ ps, sep ∉ p) :
    squeeze sep (ps.flatMap (sep :: ·)) =
      (ps.filter fun p => !p.isEmpty).flatMap (sep :: ·) ++
        if ps.getLast? = some [] then [sep] else [] := by
  induction ps with
  | nil => rfl
  | cons p ps ih =>
    rw [List.forall_mem_cons] at free
    have rest := ih free.2
    cases p with
    | nil =>
      cases ps with
      | nil => simp [squeeze]
      | cons q qs =>
        rw [List.flatMap_cons, List.flatMap_cons, List.cons_append, List.nil_append,
          List.cons_append, squeeze_cons_cons, ← List.cons_append, ← List.flatMap_cons, rest]
        rfl
    | cons c cs =>
      have other : (((c :: cs) ++ ps.flatMap (sep :: ·)).head?) ≠ some sep := by
        intro same
        exact free.1 (Option.some.inj same ▸ List.mem_cons_self ..)
      have last : ((c :: cs) :: ps).getLast? = some [] ↔ ps.getLast? = some [] := by
        cases ps with
        | nil => simp
        | cons q qs => rw [List.getLast?_cons_cons]
      rw [List.flatMap_cons, List.cons_append, squeeze_cons other,
        squeeze_append_of_not_mem free.1, rest]
      simp [last]

end Hyperslab.Text
