/-
# `Hyperslab.Proofs.Regex.Spans` — what it means that an expression matches

An expression spans the stretches of a text that it matches.  `Spans` says which these are, by the
places where a stretch begins and ends, and it says so without any matching: a repetition is as many
steps as it takes, wherever they lead.

The matcher works with sets of places and stops repeating when a step changes nothing, or after as
many steps as there are places.  That is enough, since a step that leads nowhere can be left out and
all others lead on (`exists_steps_le`).  So the matcher finds exactly the stretches that there are
(`testBit_ends_iff`, `isMatch_iff`).
-/
import Hyperslab.Regex.Matching
import Mathlib.Data.Nat.Bitwise

namespace Hyperslab

namespace Regex

/-! ## Steps -/

/-- So many steps lead from the one number to the other. -/
def Steps (step : Nat → Nat → Prop) : (count : Nat) → Nat → Nat → Prop
  | 0, i, j => i = j
  | count + 1, i, j => ∃ k, step i k ∧ Steps step count k j

/-- Steps never lead back, and not past a bound. -/
structure Forward (bound : Nat) (step : Nat → Nat → Prop) : Prop where
  le : ∀ {i j}, step i j → i ≤ j
  within : ∀ {i j}, step i j → i ≤ bound → j ≤ bound

namespace Forward

variable {bound : Nat} {step : Nat → Nat → Prop}

theorem steps (h : Forward bound step) (count : Nat) : Forward bound (Steps step count) := by
  induction count with
  | zero =>
    constructor
    · rintro i _ rfl
      exact Nat.le_refl _
    · rintro i _ rfl inside
      exact inside
  | succ count ih =>
    constructor
    · rintro i j ⟨k, first, rest⟩
      exact Nat.le_trans (h.le first) (ih.le rest)
    · rintro i j ⟨k, first, rest⟩ inside
      exact ih.within rest (h.within first inside)

/-- Leaving out the steps that lead nowhere, there are no more than there are places to go. -/
theorem exists_steps_le (h : Forward bound step) {count i j : Nat} (steps : Steps step count i j) :
    ∃ n, i + n ≤ j ∧ Steps step n i j := by
  induction count generalizing i with
  | zero => exact ⟨0, Nat.le_of_eq steps, steps⟩
  | succ count ih =>
    obtain ⟨k, first, rest⟩ := steps
    obtain ⟨n, few, rest⟩ := ih rest
    rcases Nat.eq_or_lt_of_le (h.le first) with rfl | on
    · exact ⟨n, few, rest⟩
    · exact ⟨n + 1, by omega, k, first, rest⟩

end Forward

/-! ## Stretches -/

/-- The place behind the first characters of a text. -/
def placeAt (text : List Char) (i : Nat) : Place := ⟨(text.take i).getLast?, (text.drop i).head?⟩

/-- The stretches of a text that an atom matches. -/
def Atom.Spans (text : List Char) : Atom → Nat → Nat → Prop
  | .set s, i, j => j = i + 1 ∧ ∃ c, text[i]? = some c ∧ s.contains c = true
  | .look l, i, j => j = i ∧ l.holds (placeAt text i) = true

/-- The stretches of a text that an expression matches, from their first place to their last.  A
repetition is so many times what is repeated, and then, up to a number of times, more of it. -/
def Spans (text : List Char) : Regex → Nat → Nat → Prop
  | .empty, i, j => j = i
  | .leaf a, i, j => a.Spans text i j
  | .group _ r, i, j => Spans text r i j
  | .rep r least most _, i, j => ∃ k n, Steps (Spans text r) least i k ∧
      (∀ m ∈ most, n ≤ m - least) ∧ Steps (Spans text r) n k j
  | .seq a b, i, j => ∃ k, Spans text a i k ∧ Spans text b k j
  | .alt a b, i, j => Spans text a i j ∨ Spans text b i j

variable {text : List Char}

/-- A stretch ends behind its beginning, and in the text. -/
theorem forward_spans (text : List Char) (r : Regex) : Forward text.length (Spans text r) := by
  induction r with
  | empty =>
    constructor
    · rintro i _ rfl
      exact Nat.le_refl _
    · rintro i _ rfl inside
      exact inside
  | leaf a =>
    cases a with
    | set s =>
      constructor
      · rintro i _ ⟨rfl, -⟩
        exact Nat.le_succ i
      · rintro i _ ⟨rfl, c, found, -⟩ -
        exact (List.getElem?_eq_some_iff.1 found).1
    | look l =>
      constructor
      · rintro i _ ⟨rfl, -⟩
        exact Nat.le_refl _
      · rintro i _ ⟨rfl, -⟩ inside
        exact inside
  | group _ r ih => exact ih
  | rep r least most _ ih =>
    constructor
    · rintro i j ⟨k, n, first, -, rest⟩
      exact Nat.le_trans ((ih.steps _).le first) ((ih.steps _).le rest)
    · rintro i j ⟨k, n, first, -, rest⟩ inside
      exact (ih.steps _).within rest ((ih.steps _).within first inside)
  | seq a b first second =>
    constructor
    · rintro i j ⟨k, ha, hb⟩
      exact Nat.le_trans (first.le ha) (second.le hb)
    · rintro i j ⟨k, ha, hb⟩ inside
      exact second.within hb (first.within ha inside)
  | alt a b first second =>
    constructor
    · rintro i j (ha | hb)
      · exact first.le ha
      · exact second.le hb
    · rintro i j (ha | hb) inside
      · exact first.within ha inside
      · exact second.within hb inside

/-! ## Sets of places -/

theorem getElem?_placesFrom (before : Option Char) (cs : List Char) (i : Nat) :
    (placesFrom before cs)[i]? =
      if i ≤ cs.length then some ⟨(cs.take i).getLast?.or before, (cs.drop i).head?⟩ else none := by
  induction cs generalizing before i with
  | nil => cases i <;> rfl
  | cons c cs ih =>
    cases i with
    | zero => rfl
    | succ i =>
      rw [placesFrom, List.getElem?_cons_succ, ih, List.take_succ_cons, List.drop_succ_cons,
        List.length_cons, List.getLast?_cons]
      refine if_congr Nat.succ_le_succ_iff.symm ?_ rfl
      cases (cs.take i).getLast? <;> rfl

theorem getElem?_places (text : List Char) (i : Nat) :
    (places text)[i]? = if i ≤ text.length then some (placeAt text i) else none := by
  rw [places, getElem?_placesFrom, Option.or_none]
  rfl

theorem length_places (text : List Char) : (places text).length = text.length + 1 := by
  unfold places
  generalize (none : Option Char) = before
  induction text generalizing before with
  | nil => rfl
  | cons c cs ih => exact congrArg Nat.succ (ih (some c))

namespace PlaceSet

theorem testBit_ofTest (test : Place → Bool) (ps : List Place) (i : Nat) :
    (ofTest test ps).testBit i = (ps[i]?).any test := by
  induction ps generalizing i with
  | nil => exact Nat.zero_testBit i
  | cons p rest ih =>
    have bit : ofTest test (p :: rest) = Nat.bit (test p) (ofTest test rest) := by
      rw [ofTest, Nat.bit_val]
    cases i with
    | zero => exact (congrArg (Nat.testBit · 0) bit).trans (Nat.testBit_bit_zero ..)
    | succ i => rw [bit, Nat.testBit_bit_succ, ih, List.getElem?_cons_succ]

theorem testBit_advance (s : PlaceSet) (i : Nat) :
    (advance s).testBit i = (decide (1 ≤ i) && s.testBit (i - 1)) := by
  rw [advance, ← Nat.pow_one 2, Nat.testBit_two_pow_mul]

/-- All places lie in the text. -/
def Within (bound : Nat) (s : PlaceSet) : Prop := ∀ i, s.testBit i = true → i ≤ bound

/-- Applied to a set of places, the function makes one step from each of them. -/
def Leads (bound : Nat) (f : PlaceSet → PlaceSet) (step : Nat → Nat → Prop) : Prop :=
  ∀ s, Within bound s → ∀ j, (f s).testBit j = true ↔ ∃ i, s.testBit i = true ∧ step i j

section Steps

variable {bound : Nat} {f : PlaceSet → PlaceSet} {step : Nat → Nat → Prop} {s : PlaceSet}

theorem Leads.within (leads : Leads bound f step) (forward : Forward bound step)
    (inside : Within bound s) : Within bound (f s) := by
  intro j hj
  obtain ⟨i, hi, on⟩ := (leads s inside j).1 hj
  exact forward.within on (inside i hi)

theorem Leads.iterate (leads : Leads bound f step) (forward : Forward bound step) (count : Nat) :
    Leads bound (PlaceSet.iterate f count) (Steps step count) := by
  induction count with
  | zero =>
    intro s _ j
    exact ⟨fun hj => ⟨j, hj, rfl⟩, by rintro ⟨_, hj, rfl⟩; exact hj⟩
  | succ count ih =>
    intro s inside j
    rw [iterate_succ, ih _ (leads.within forward inside)]
    constructor
    · rintro ⟨k, hk, rest⟩
      obtain ⟨i, hi, first⟩ := (leads s inside k).1 hk
      exact ⟨i, hi, k, first, rest⟩
    · rintro ⟨i, hi, k, first, rest⟩
      exact ⟨k, (leads s inside k).2 ⟨i, hi, first⟩, rest⟩

theorem within_or {t : PlaceSet} (hs : Within bound s) (ht : Within bound t) :
    Within bound (s ||| t) := by
  intro i hi
  rw [Nat.testBit_or, Bool.or_eq_true] at hi
  exact hi.elim (hs i) (ht i)

theorem Leads.gather (leads : Leads bound f step) (forward : Forward bound step) (count : Nat) :
    Leads bound (PlaceSet.gather f count) fun i j => ∃ n ≤ count, Steps step n i j := by
  induction count with
  | zero =>
    intro s _ j
    constructor
    · intro hj
      exact ⟨j, hj, 0, Nat.le_refl 0, rfl⟩
    · rintro ⟨i, hi, n, le, steps⟩
      cases Nat.le_zero.1 le
      cases steps
      exact hi
  | succ count ih =>
    intro s inside j
    rw [gather_succ, ih _ (within_or inside (leads.within forward inside))]
    simp only [Nat.testBit_or, Bool.or_eq_true, leads s inside]
    constructor
    · rintro ⟨k, hk | ⟨i, hi, first⟩, n, le, rest⟩
      · exact ⟨k, hk, n, Nat.le_succ_of_le le, rest⟩
      · exact ⟨i, hi, n + 1, Nat.succ_le_succ le, k, first, rest⟩
    · rintro ⟨i, hi, n, le, steps⟩
      cases n with
      | zero => exact ⟨i, .inl hi, 0, Nat.zero_le _, steps⟩
      | succ n =>
        obtain ⟨k, first, rest⟩ := steps
        exact ⟨k, .inr ⟨i, hi, first⟩, n, Nat.le_of_succ_le_succ le, rest⟩

end Steps

end PlaceSet

/-! ## The matcher -/

theorem after_placeAt (text : List Char) (i : Nat) : (placeAt text i).after = text[i]? :=
  List.head?_drop

theorem leads_move (text : List Char) (a : Atom) :
    PlaceSet.Leads text.length (a.move (places text)).ends (a.Spans text) := by
  intro s inside j
  cases a with
  | set set =>
    show (PlaceSet.advance _).testBit j = true ↔ _
    rw [PlaceSet.testBit_advance, Nat.testBit_and, PlaceSet.testBit_ofTest, getElem?_places]
    simp only [Bool.and_eq_true, decide_eq_true_eq, Atom.Spans]
    constructor
    · rintro ⟨later, hi, found⟩
      rw [if_pos (inside _ hi), Option.any_some, after_placeAt] at found
      obtain ⟨c, hc, member⟩ := (Option.any_eq_true _ _).1 found
      exact ⟨j - 1, hi, (Nat.sub_add_cancel later).symm, c, hc, member⟩
    · rintro ⟨i, hi, rfl, c, found, member⟩
      rw [Nat.add_sub_cancel, if_pos (inside i hi), Option.any_some, after_placeAt, found]
      exact ⟨Nat.le_add_left 1 i, hi, member⟩
  | look l =>
    show (s &&& _).testBit j = true ↔ _
    rw [Nat.testBit_and, PlaceSet.testBit_ofTest, getElem?_places]
    simp only [Bool.and_eq_true, Atom.Spans]
    constructor
    · rintro ⟨hj, found⟩
      rw [if_pos (inside j hj)] at found
      exact ⟨j, hj, rfl, found⟩
    · rintro ⟨_, hj, rfl, holds⟩
      rw [if_pos (inside _ hj)]
      exact ⟨hj, holds⟩

/-- Set by set of places, the matcher finds the stretches that the expression spans. -/
theorem leads_ends (text : List Char) (r : Regex) :
    PlaceSet.Leads text.length ((r.map (Atom.move (places text))).ends (places text).length)
      (Spans text r) := by
  induction r with
  | empty =>
    intro s _ j
    exact ⟨fun hj => ⟨j, hj, rfl⟩, by rintro ⟨_, hj, rfl⟩; exact hj⟩
  | leaf a => exact leads_move text a
  | group _ r ih => exact ih
  | rep r least most _ ih =>
    have forward := forward_spans text r
    intro s inside j
    have first := ih.iterate forward least
    have more := ih.gather forward (most.elim (places text).length (· - least))
    refine (more _ (first.within (forward.steps least) inside) j).trans ?_
    simp only [first s inside, Spans]
    constructor
    · rintro ⟨k, ⟨i, hi, start⟩, n, few, rest⟩
      refine ⟨i, hi, k, n, start, fun m hm => ?_, rest⟩
      cases hm
      exact few
    · rintro ⟨i, hi, k, n, start, few, rest⟩
      cases most with
      | some m => exact ⟨k, ⟨i, hi, start⟩, n, few m rfl, rest⟩
      | none =>
        obtain ⟨n, shorter, rest⟩ := forward.exists_steps_le rest
        have inText := (forward.steps least).within start (inside i hi)
        have ends := (forward.steps n).within rest inText
        refine ⟨k, ⟨i, hi, start⟩, n, ?_, rest⟩
        show n ≤ (places text).length
        rw [length_places]
        omega
  | seq a b first second =>
    intro s inside j
    refine (second _ (first.within (forward_spans text a) inside) j).trans ?_
    constructor
    · rintro ⟨k, hk, hb⟩
      obtain ⟨i, hi, ha⟩ := (first s inside k).1 hk
      exact ⟨i, hi, k, ha, hb⟩
    · rintro ⟨i, hi, k, ha, hb⟩
      exact ⟨k, (first s inside k).2 ⟨i, hi, ha⟩, hb⟩
  | alt a b first second =>
    intro s inside j
    rw [Shape.map, Shape.ends, Nat.testBit_or, Bool.or_eq_true, first s inside, second s inside]
    simp only [Spans, and_or_left, exists_or]

/-- The whole text, and every place in it, is in the set of all places. -/
theorem testBit_all (text : List Char) (i : Nat) :
    (PlaceSet.all (places text)).testBit i = true ↔ i ≤ text.length := by
  rw [PlaceSet.all, PlaceSet.testBit_ofTest, getElem?_places]
  by_cases inside : i ≤ text.length <;> simp [inside]

/-- An expression matches a text if it spans some stretch of it. -/
theorem isMatch_iff (r : Regex) (text : String) :
    r.isMatch text = true ↔ ∃ i j, i ≤ text.toList.length ∧ Spans text.toList r i j := by
  have moves : lookUp (Atom.move (places text.toList))
      (tabulate (Atom.move (places text.toList)) r.leaves.eraseDups) =
        Atom.move (places text.toList) := funext (lookUp_tabulate _ _)
  have found := leads_ends text.toList r (PlaceSet.all (places text.toList))
    fun i => (testBit_all text.toList i).1
  rw [Regex.isMatch, moves, bne_iff_ne]
  constructor
  · intro some
    obtain ⟨j, hj⟩ := Nat.exists_testBit_of_ne_zero some
    obtain ⟨i, hi, spans⟩ := (found j).1 hj
    exact ⟨i, j, (testBit_all _ i).1 hi, spans⟩
  · rintro ⟨i, j, inside, spans⟩ none
    have hj := (found j).2 ⟨i, (testBit_all _ i).2 inside, spans⟩
    rw [none, Nat.zero_testBit] at hj
    cases hj

/-! ## Whole texts -/

/-- The expression between conditions that the text begins and ends there. -/
def whole (r : Regex) : Regex :=
  .seq (.leaf (.look .textStart)) (.seq (.group none r) (.leaf (.look .textEnd)))

theorem textStart_holds_iff {text : List Char} {i : Nat} (inside : i ≤ text.length) :
    Look.textStart.holds (placeAt text i) = true ↔ i = 0 := by
  rw [Look.holds, placeAt, Option.isNone_iff_eq_none, List.getLast?_eq_none_iff,
    List.take_eq_nil_iff]
  constructor
  · rintro (zero | rfl)
    · exact zero
    · exact Nat.le_zero.1 inside
  · exact .inl

theorem textEnd_holds_iff {text : List Char} {i : Nat} (inside : i ≤ text.length) :
    Look.textEnd.holds (placeAt text i) = true ↔ i = text.length := by
  rw [Look.holds, after_placeAt, Option.isNone_iff_eq_none, List.getElem?_eq_none_iff]
  exact ⟨Nat.le_antisymm inside, Nat.le_of_eq ∘ Eq.symm⟩

/-- So bound, an expression matches a text if it spans it from its beginning to its end. -/
theorem isMatch_whole_iff (r : Regex) (text : String) :
    (whole r).isMatch text = true ↔ Spans text.toList r 0 text.toList.length := by
  rw [isMatch_iff]
  constructor
  · rintro ⟨i, j, inside, _, ⟨rfl, start⟩, k, spans, rfl, stop⟩
    cases (textStart_holds_iff inside).1 start
    rw [(textEnd_holds_iff ((forward_spans _ r).within spans inside)).1 stop] at spans
    exact spans
  · intro spans
    have start := (textStart_holds_iff (Nat.zero_le text.toList.length)).2 rfl
    have stop := (textEnd_holds_iff (Nat.le_refl text.toList.length)).2 rfl
    exact ⟨0, _, Nat.zero_le _, 0, ⟨rfl, start⟩, _, spans, rfl, stop⟩

end Regex

end Hyperslab
