/-
# `Hyperslab.Proofs.Text.Words` — where a word ends

Texts that are put together can be taken apart again if each part shows where it ends.  A
*word* has none of some marks in it, and what follows a word is nothing or begins with a
mark; then the same text has the same words (`Free.append_inj`).

The same holds of many words with a separator in front of each (`flatMap_append_inj`) or
between them (`intercalate_append_inj`), and of the digits of numbers.
-/
import Mathlib.Data.List.Basic

namespace Hyperslab.Text

/-- None of the marks is in the text. -/
def Free (marks cs : List Char) : Prop := ∀ c ∈ cs, c ∉ marks

/-- The text is over, or goes on with one of the marks. -/
def Stops (marks cs : List Char) : Prop := ∀ c ∈ cs.head?, c ∈ marks

instance (marks cs : List Char) : Decidable (Free marks cs) := List.decidableBAll _ cs

section

variable {marks : List Char}

theorem stops_nil (marks : List Char) : Stops marks [] := by
  intro c hc
  cases hc

theorem stops_cons {c : Char} (hc : c ∈ marks) (cs : List Char) : Stops marks (c :: cs) := by
  intro b hb
  cases hb
  exact hc

theorem Stops.mono {ends : List Char} (sub : ends ⊆ marks) {cs : List Char} (h : Stops ends cs) :
    Stops marks cs :=
  fun c hc => sub (h c hc)

theorem Free.mono {ends : List Char} (sub : ends ⊆ marks) {cs : List Char} (h : Free marks cs) :
    Free ends cs :=
  fun c hc hm => h c hc (sub hm)

theorem Free.subset {v w : List Char} (sub : v ⊆ w) (h : Free marks w) : Free marks v :=
  fun c hc => h c (sub hc)

@[simp] theorem free_nil (marks : List Char) : Free marks [] := by
  intro c hc
  cases hc

@[simp] theorem free_cons {c : Char} {cs : List Char} :
    Free marks (c :: cs) ↔ c ∉ marks ∧ Free marks cs :=
  List.forall_mem_cons

@[simp] theorem free_append {v w : List Char} :
    Free marks (v ++ w) ↔ Free marks v ∧ Free marks w :=
  List.forall_mem_append

theorem Free.ite {p : Prop} [Decidable p] {v w : List Char} (hv : Free marks v)
    (hw : Free marks w) : Free marks (if p then v else w) := by
  split
  · exact hv
  · exact hw

/-- A word is not the end. -/
theorem Free.not_stops {w : List Char} (h : Free marks w) (full : w ≠ []) (r : List Char) :
    ¬ Stops marks (w ++ r) := by
  cases w with
  | nil => exact absurd rfl full
  | cons c w =>
    intro stops
    exact (free_cons.1 h).1 (stops c rfl)

/-- The first word of a text. -/
theorem Free.append_inj {v w q r : List Char} (hv : Free marks v) (hw : Free marks w)
    (hq : Stops marks q) (hr : Stops marks r) (same : v ++ q = w ++ r) : v = w ∧ q = r := by
  induction v generalizing w with
  | nil =>
    cases w with
    | nil => exact ⟨rfl, same⟩
    | cons c w =>
      rw [List.nil_append] at same
      rw [same] at hq
      exact absurd hq (hw.not_stops (List.cons_ne_nil c w) r)
  | cons b v ih =>
    cases w with
    | nil =>
      rw [List.nil_append] at same
      rw [← same] at hr
      exact absurd hr (hv.not_stops (List.cons_ne_nil b v) q)
    | cons c w =>
      obtain ⟨head, rest⟩ := List.cons.inj same
      obtain ⟨rfl, last⟩ := ih (free_cons.1 hv).2 (free_cons.1 hw).2 rest
      exact ⟨by rw [head], last⟩

end

/-! ## Many words -/

section

variable {sep : Char} {ends : List Char} {vs ws : List (List Char)} {q r : List Char}

/-- After a word comes the next one, or the end. -/
theorem stops_flatMap (ws : List (List Char)) (hr : Stops ends r) :
    Stops (sep :: ends) (ws.flatMap (sep :: ·) ++ r) := by
  cases ws with
  | nil => exact hr.mono (List.subset_cons_self sep ends)
  | cons w ws => exact stops_cons (List.mem_cons_self ..) _

/-- Words with a separator in front of each. -/
theorem flatMap_append_inj (new : sep ∉ ends) (hv : ∀ v ∈ vs, Free (sep :: ends) v)
    (hw : ∀ w ∈ ws, Free (sep :: ends) w) (hq : Stops ends q) (hr : Stops ends r)
    (same : vs.flatMap (sep :: ·) ++ q = ws.flatMap (sep :: ·) ++ r) : vs = ws ∧ q = r := by
  induction vs generalizing ws with
  | nil =>
    cases ws with
    | nil => exact ⟨rfl, same⟩
    | cons w ws =>
      rw [List.flatMap_nil, List.nil_append] at same
      rw [same] at hq
      exact absurd (hq sep rfl) new
  | cons v vs ih =>
    cases ws with
    | nil =>
      rw [List.flatMap_nil, List.nil_append] at same
      rw [← same] at hr
      exact absurd (hr sep rfl) new
    | cons w ws =>
      simp only [List.flatMap_cons, List.cons_append, List.append_assoc, List.cons.injEq,
        true_and] at same
      obtain ⟨rfl, rest⟩ := (hv v (List.mem_cons_self ..)).append_inj (hw w (List.mem_cons_self ..))
        (stops_flatMap vs hq) (stops_flatMap ws hr) same
      obtain ⟨rfl, last⟩ := ih (fun u hu => hv u (List.mem_cons_of_mem _ hu))
        (fun u hu => hw u (List.mem_cons_of_mem _ hu)) rest
      exact ⟨rfl, last⟩

theorem intercalate_cons (sep : Char) (w : List Char) (ws : List (List Char)) :
    [sep].intercalate (w :: ws) = w ++ ws.flatMap (sep :: ·) := by
  induction ws generalizing w with
  | nil => simp
  | cons v ws ih => simp [List.intercalate_cons_cons, ih]

/-- Words that are not empty, with a separator between them. -/
theorem intercalate_append_inj (new : sep ∉ ends) (hv : ∀ v ∈ vs, v ≠ [] ∧ Free (sep :: ends) v)
    (hw : ∀ w ∈ ws, w ≠ [] ∧ Free (sep :: ends) w) (hq : Stops ends q) (hr : Stops ends r)
    (same : [sep].intercalate vs ++ q = [sep].intercalate ws ++ r) : vs = ws ∧ q = r := by
  have sub := List.subset_cons_self sep ends
  cases vs with
  | nil =>
    cases ws with
    | nil => exact ⟨rfl, same⟩
    | cons w ws =>
      rw [List.intercalate_nil, List.nil_append, intercalate_cons, List.append_assoc] at same
      obtain ⟨full, free⟩ := hw w (List.mem_cons_self ..)
      rw [same] at hq
      exact absurd hq ((free.mono sub).not_stops full _)
  | cons v vs =>
    cases ws with
    | nil =>
      rw [List.intercalate_nil, List.nil_append, intercalate_cons, List.append_assoc] at same
      obtain ⟨full, free⟩ := hv v (List.mem_cons_self ..)
      rw [← same] at hr
      exact absurd hr ((free.mono sub).not_stops full _)
    | cons w ws =>
      rw [intercalate_cons, intercalate_cons, List.append_assoc, List.append_assoc] at same
      obtain ⟨rfl, rest⟩ := (hv v (List.mem_cons_self ..)).2.append_inj
        (hw w (List.mem_cons_self ..)).2 (stops_flatMap vs hq) (stops_flatMap ws hr) same
      obtain ⟨rfl, last⟩ := flatMap_append_inj new
        (fun u hu => (hv u (List.mem_cons_of_mem _ hu)).2)
        (fun u hu => (hw u (List.mem_cons_of_mem _ hu)).2) hq hr rest
      exact ⟨rfl, last⟩

end

/-! ## Numbers -/

theorem toDigits_inj {m n : Nat} (same : Nat.toDigits 10 m = Nat.toDigits 10 n) : m = n := by
  rw [← Nat.ofDigitChars_ten_toDigits (n := m), same, Nat.ofDigitChars_ten_toDigits]

theorem free_toDigits {marks : List Char} (none : marks.any Char.isDigit = false) (n : Nat) :
    Free marks (Nat.toDigits 10 n) := by
  intro c hc hm
  have digit := Nat.isDigit_of_mem_toDigits (by decide) (by decide) hc
  exact List.any_eq_false.1 none c hm digit

/-- An integer is its digits, behind a minus if it is negative. -/
theorem toList_int (i : Int) : (toString i).toList =
    if 0 ≤ i then Nat.toDigits 10 i.toNat else '-' :: Nat.toDigits 10 (-i).toNat := by
  rw [Int.toString_eq_repr, Int.repr_eq_if]
  split <;> simp

theorem free_int {marks : List Char} (none : marks.any Char.isDigit = false)
    (noMinus : '-' ∉ marks) (i : Int) : Free marks (toString i).toList := by
  rw [toList_int]
  exact .ite (free_toDigits none _) (free_cons.2 ⟨noMinus, free_toDigits none _⟩)

end Hyperslab.Text
