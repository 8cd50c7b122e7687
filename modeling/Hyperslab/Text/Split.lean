/-
# `Hyperslab.Text.Split` — cutting a text at a separator

Two cuts of a list by one separator: at every occurrence, and at the last one.
The separator itself belongs to no piece, so pieces put back together with it
give the text again.
-/

namespace Hyperslab.Text

/-- The pieces between the occurrences of a separator; a text without any is one
piece. -/
def splitAll (sep : Char) : List Char → List (List Char)
  | [] => [[]]
  | c :: cs =>
    if c = sep then [] :: splitAll sep cs
    else match splitAll sep cs with
      | [] => [[c]]
      | piece :: rest => (c :: piece) :: rest

/-- What stands before and after the last occurrence of a separator. -/
def splitLast? (sep : Char) : List Char → Option (List Char × List Char)
  | [] => none
  | c :: cs =>
    match splitLast? sep cs with
    | some (before, after) => some (c :: before, after)
    | none => if c = sep then some ([], cs) else none

/-! ## Nothing is lost -/

theorem splitAll_ne_nil (sep : Char) (cs : List Char) : splitAll sep cs ≠ [] := by
  cases cs with
  | nil => exact List.cons_ne_nil _ _
  | cons c cs =>
    unfold splitAll
    split
    · exact List.cons_ne_nil _ _
    · split <;> exact List.cons_ne_nil _ _

/-- The pieces put together with the separator are the text. -/
theorem intercalate_splitAll (sep : Char) (cs : List Char) :
    [sep].intercalate (splitAll sep cs) = cs := by
  induction cs with
  | nil => rfl
  | cons c cs ih =>
    unfold splitAll
    cases hp : splitAll sep cs with
    | nil => exact absurd hp (splitAll_ne_nil sep cs)
    | cons piece rest =>
      rw [hp] at ih
      split
      · rename_i h
        rw [← ih, h]
        simp [List.intercalate, List.intersperse]
      · rw [← ih]
        cases rest <;> simp [List.intercalate, List.intersperse]

/-- No piece holds the separator. -/
theorem not_mem_of_mem_splitAll {sep : Char} {cs piece : List Char}
    (h : piece ∈ splitAll sep cs) : sep ∉ piece := by
  induction cs generalizing piece with
  | nil =>
    rw [List.mem_singleton.1 h]
    exact List.not_mem_nil
  | cons c cs ih =>
    unfold splitAll at h
    split at h
    · cases h with
      | head => exact List.not_mem_nil
      | tail _ h => exact ih h
    · rename_i hc
      cases hp : splitAll sep cs with
      | nil => exact absurd hp (splitAll_ne_nil sep cs)
      | cons first rest =>
        rw [hp] at h ih
        cases h with
        | head =>
          intro hm
          cases hm with
          | head => exact hc rfl
          | tail _ hm => exact ih (List.mem_cons_self ..) hm
        | tail _ h => exact ih (List.mem_cons_of_mem _ h)

theorem splitLast?_of_not_mem {sep : Char} {cs : List Char} (h : sep ∉ cs) :
    splitLast? sep cs = none := by
  induction cs with
  | nil => rfl
  | cons c cs ih =>
    rw [List.mem_cons, not_or] at h
    simp [splitLast?, ih h.2, Ne.symm h.1]

/-- The cut is at the last separator. -/
theorem splitLast?_append {sep : Char} {after : List Char} (h : sep ∉ after)
    (before : List Char) : splitLast? sep (before ++ sep :: after) = some (before, after) := by
  induction before with
  | nil => simp [splitLast?, splitLast?_of_not_mem h]
  | cons c cs ih => simp [splitLast?, ih]

theorem eq_append_of_splitLast? {sep : Char} {cs before after : List Char}
    (h : splitLast? sep cs = some (before, after)) : cs = before ++ sep :: after := by
  induction cs generalizing before with
  | nil => cases h
  | cons c cs ih =>
    unfold splitLast? at h
    split at h
    · rename_i x y hx
      cases h
      rw [List.cons_append, ← ih hx]
    · split at h
      · rename_i hc
        cases h
        rw [hc]
        rfl
      · cases h

end Hyperslab.Text
