/-
# `Hyperslab.Proofs.Slice.Reading` — what the texts of slices say

A bracket is read without knowing what slice it came from (`read?`): no number stands for nothing,
one for itself, two for all from the first to the second, three for those from the first to the
third in steps of the second.  Both texts of a closed slice are read as its indices, whatever its
numbers are (`read?_constraint`, `read?_display`).

So equal texts mean equal indices.  Conversely the short text is made from what the indices show:
the first one, the last one, and the step if there are more than two of them.  A bound that is not
reached and a step that is not taken leave no trace (`numbers_eq_of_indices_eq`).

An open slice has a place without a number, and its texts cannot be read; hence they are not texts
of closed slices.
-/
import Hyperslab.Proofs.Slice.Brackets
import Hyperslab.Proofs.Text.Cutting

namespace Hyperslab.Slice

variable {s t : Slice}

/-! ## Reading -/

/-- The numbers from the first to the last in steps of the stride. -/
def progression (first stride last : Nat) : List Nat :=
  List.range' first ((last - first) / stride + 1) stride

/-- What the numbers in a bracket stand for. -/
def denoted? : List Nat → Option (List Nat)
  | [] => some []
  | [i] => some [i]
  | [first, last] => some (progression first 1 last)
  | [first, stride, last] => some (progression first stride last)
  | _ => none

/-- A number in decimal digits, of which there is at least one. -/
def number? (word : List Char) : Option Nat :=
  if word ≠ [] ∧ word.all Char.isDigit = true then some (Nat.ofDigitChars 10 word 0) else none

/-- What stands between the brackets. -/
def inside? : List Char → Option (List Char)
  | '[' :: rest => if rest.getLast? = some ']' then some rest.dropLast else none
  | _ => none

/-- The indices that a bracket stands for. -/
def read? (text : String) : Option (List Nat) := do
  let inner ← inside? text.toList
  let words := if inner = [] then [] else Text.splitAll ':' inner
  let numbers ← words.mapM number?
  denoted? numbers

theorem number?_toDigits (n : Nat) : number? (Nat.toDigits 10 n) = some n := by
  have digits : (Nat.toDigits 10 n).all Char.isDigit = true :=
    List.all_eq_true.2 fun _ hc => Nat.isDigit_of_mem_toDigits (by decide) (by decide) hc
  rw [number?, if_pos ⟨Nat.toDigits_ne_nil, digits⟩, Nat.ofDigitChars_ten_toDigits]

theorem inside?_enclosed (inner : List Char) : inside? ('[' :: inner ++ [']']) = some inner := by
  show (if (inner ++ [']']).getLast? = some ']' then some (inner ++ [']']).dropLast else none) = _
  rw [List.getLast?_concat, if_pos rfl, List.dropLast_concat]

/-- The words of a bracket are the pieces between the colons. -/
theorem read?_eq {text : String} {words : List (List Char)} (free : ∀ w ∈ words, ':' ∉ w)
    (full : words ≠ [[]]) (bracketed : text.toList = '[' :: [':'].intercalate words ++ [']']) :
    read? text = words.mapM number? >>= denoted? := by
  have pieces : (if [':'].intercalate words = [] then [] else
      Text.splitAll ':' ([':'].intercalate words)) = words := by
    cases words with
    | nil => rfl
    | cons w ws =>
      have inner : [':'].intercalate (w :: ws) ≠ [] := by
        cases ws with
        | nil =>
          rw [List.intercalate_singleton]
          rintro rfl
          exact full rfl
        | cons v ws => rw [List.intercalate_cons_cons]; simp
      rw [if_neg inner, Text.splitAll_intercalate free]
  unfold read?
  rw [bracketed, inside?_enclosed]
  show ((if _ then _ else _ : List (List Char)).mapM number? >>= denoted?) = _
  rw [pieces]

theorem mapM_number?_toDigits (ns : List Nat) :
    (ns.map (Nat.toDigits 10)).mapM number? = some ns := by
  induction ns with
  | nil => rfl
  | cons n ns ih => simp [List.mapM_cons, number?_toDigits, ih]

theorem colon_not_mem_of_digits {ns : List Nat} : ∀ w ∈ ns.map (Nat.toDigits 10), ':' ∉ w := by
  intro w hw colon
  obtain ⟨n, -, rfl⟩ := List.mem_map.1 hw
  have free : Text.Free [':'] (Nat.toDigits 10 n) := Text.free_toDigits (by decide) n
  exact free ':' colon (List.mem_singleton_self _)

theorem read?_of_bracket {text : String} {ns : List Nat} (bracketed : text.toList = bracket ns) :
    read? text = denoted? ns := by
  have full : ns.map (Nat.toDigits 10) ≠ [[]] := by
    intro same
    obtain ⟨n, -, none⟩ := List.mem_map.1 (same ▸ List.mem_singleton_self ([] : List Char))
    exact Nat.toDigits_ne_nil none
  rw [read?_eq colon_not_mem_of_digits full bracketed, mapM_number?_toDigits]
  rfl

/-! ## Closed slices -/

/-- The last index is the one at which the count ends. -/
theorem progression_last {n : Nat} (counted : s.count = n + 1) :
    progression s.first s.stride (s.first + n * s.stride) = s.indices := by
  have quotient : (s.first + n * s.stride - s.first) / s.stride = n := by
    rw [Nat.add_sub_cancel_left]
    cases n with
    | zero => rw [Nat.zero_mul, Nat.zero_div]
    | succ n => exact Nat.mul_div_cancel (n + 1) (stride_pos counted)
  rw [progression, quotient, indices, counted]
  exact List.ext_getElem (by simp) fun k _ _ => by simp [Nat.mul_comm]

/-- The numbers of the short text stand for the indices. -/
theorem denoted?_numbers (s : Slice) : denoted? s.numbers = some s.indices := by
  rcases numbers_of_count (s := s) with ⟨none, numbers⟩ | ⟨one, numbers⟩ |
    ⟨n, several, -, numbers⟩
  · rw [numbers, indices_of_count_zero none]
    rfl
  · rw [numbers, indices_of_count_one one]
    rfl
  · have whole := progression_last several
    rw [numbers]
    split
    · rename_i unit
      rw [← whole, unit]
      rfl
    · rw [← whole]
      rfl

/-- The numbers of the long text. -/
def displayed (s : Slice) : List Nat :=
  match s.last? with
  | none => []
  | some last => [s.first, s.stride, last]

theorem toList_display (closed : s.stop.isSome) : s.display.toList = bracket s.displayed := by
  obtain ⟨stop, hs⟩ := Option.isSome_iff_exists.1 closed
  unfold display displayed bracket
  rw [hs]
  cases s.last? with
  | none => simp
  | some last => simp [List.intercalate_cons_cons]

/-- The numbers of the long text stand for the indices. -/
theorem denoted?_displayed (s : Slice) : denoted? s.displayed = some s.indices := by
  unfold displayed
  cases counted : s.count with
  | zero =>
    rw [last?_eq_none_iff.2 counted, indices_of_count_zero counted]
    rfl
  | succ n =>
    rw [last?_eq_some_iff.2 ⟨n, counted, rfl⟩]
    exact congrArg some (progression_last counted)

theorem read?_constraint (closed : s.stop.isSome) : read? s.constraint = some s.indices := by
  rw [read?_of_bracket (toList_constraint closed), denoted?_numbers]

theorem read?_display (closed : s.stop.isSome) : read? s.display = some s.indices := by
  rw [read?_of_bracket (toList_display closed), denoted?_displayed]

/-! ## The same indices -/

theorem getElem?_indices {k : Nat} (below : k < s.count) :
    s.indices[k]? = some (s.first + k * s.stride) := by
  simp [indices, below]

/-- The indices of a slice say which numbers it is written with. -/
theorem numbers_eq_of_indices_eq (same : s.indices = t.indices) : s.numbers = t.numbers := by
  have count : s.count = t.count := by rw [← length_indices, same, length_indices]
  have step : ∀ k, k < s.count → s.first + k * s.stride = t.first + k * t.stride := by
    intro k below
    refine Option.some.inj ?_
    rw [← getElem?_indices below, same, getElem?_indices (count ▸ below)]
  have last : s.last? = t.last? := by rw [← getLast?_indices, same, getLast?_indices]
  unfold numbers
  rw [← last]
  cases ends : s.last? with
  | none => rfl
  | some last =>
    obtain ⟨n, counted, rfl⟩ := last?_eq_some_iff.1 ends
    have first : s.first = t.first := by simpa using step 0 (by omega)
    cases n with
    | zero => simp [first]
    | succ n =>
      -- the second index shows the stride
      have stride : s.stride = t.stride := by
        have second := step 1 (by omega)
        omega
      rw [first, stride]

/-! ## Open slices -/

/-- A bracket in which the last place is empty cannot be read. -/
theorem read?_of_gap {text : String} (ns : List Nat) (some : ns ≠ [])
    (bracketed : text.toList =
      '[' :: [':'].intercalate (ns.map (Nat.toDigits 10) ++ [[]]) ++ [']']) :
    read? text = none := by
  have free : ∀ w ∈ ns.map (Nat.toDigits 10) ++ [[]], ':' ∉ w := by
    intro w hw
    rcases List.mem_append.1 hw with number | gap
    · exact colon_not_mem_of_digits w number
    · rw [List.mem_singleton.1 gap]
      exact List.not_mem_nil
  have full : ns.map (Nat.toDigits 10) ++ [[]] ≠ [[]] := by simpa using some
  rw [read?_eq free full bracketed, List.mapM_append, mapM_number?_toDigits]
  rfl

theorem read?_of_open (unbounded : s.stop = none) :
    read? s.constraint = none ∧ read? s.display = none := by
  have long : read? ("[" ++ toString s.first ++ ":" ++ toString s.stride ++ ":]") = none :=
    read?_of_gap [s.first, s.stride] (by simp) (by simp [List.intercalate_cons_cons])
  have short : read? ("[" ++ toString s.first ++ ":]") = none :=
    read?_of_gap [s.first] (by simp) (by simp [List.intercalate_cons_cons])
  unfold constraint display
  rw [unbounded]
  refine ⟨?_, long⟩
  dsimp only
  split
  · exact short
  · exact long

/-! ## What texts say -/

theorem ne_of_open {c o : Slice} (closed : c.stop.isSome) (unbounded : o.stop = none) :
    ∀ a ∈ [c.constraint, c.display], ∀ b ∈ [o.constraint, o.display], a ≠ b := by
  have readable : ∀ a ∈ [c.constraint, c.display], read? a = some c.indices :=
    List.forall_mem_cons.2 ⟨read?_constraint closed,
      List.forall_mem_singleton.2 (read?_display closed)⟩
  have unreadable : ∀ b ∈ [o.constraint, o.display], read? b = none :=
    List.forall_mem_cons.2 ⟨(read?_of_open unbounded).1,
      List.forall_mem_singleton.2 (read?_of_open unbounded).2⟩
  rintro a ha _ hb rfl
  cases (readable a ha).symm.trans (unreadable a hb)

/-- The long text shows the first index, the stride and the last index. -/
theorem exists_display_eq (closed : s.stop.isSome) (nonempty : 0 < s.count) :
    ∃ last, s.display =
        "[" ++ toString s.first ++ ":" ++ toString s.stride ++ ":" ++ toString last ++ "]" ∧
      s.last? = some last ∧ progression s.first s.stride last = s.indices := by
  obtain ⟨stop, hs⟩ := Option.isSome_iff_exists.1 closed
  obtain ⟨n, counted⟩ := Nat.exists_eq_add_one.2 nonempty
  have last := last?_eq_some_iff.2 ⟨n, counted, rfl⟩
  refine ⟨_, ?_, last, progression_last counted⟩
  rw [display, hs, last]

/-- Two closed slices have the same short text exactly if they select the same indices, for the
texts of a closed slice are read as its indices; the long text has the numbers in it from which
they are generated.  No text of a closed slice is a text of an open one. -/
theorem texts_denote_indices (hs : s.stop.isSome) (ht : t.stop.isSome) :
    (s.constraint = t.constraint ↔ s.indices = t.indices) ∧
    (read? s.constraint = some s.indices ∧ read? s.display = some s.indices) ∧
    (0 < s.count → ∃ last, s.display =
        "[" ++ toString s.first ++ ":" ++ toString s.stride ++ ":" ++ toString last ++ "]" ∧
      s.last? = some last ∧ progression s.first s.stride last = s.indices) ∧
    ∀ o : Slice, o.stop = none →
      ∀ a ∈ [s.constraint, s.display], ∀ b ∈ [o.constraint, o.display], a ≠ b := by
  have readings := read?_constraint hs
  refine ⟨⟨fun same => ?_, fun same => ?_⟩, ⟨readings, read?_display hs⟩, exists_display_eq hs,
    fun o => ne_of_open hs⟩
  · rw [same, read?_constraint ht] at readings
    exact (Option.some.inj readings).symm
  · refine String.toList_inj.1 ?_
    rw [toList_constraint hs, toList_constraint ht, numbers_eq_of_indices_eq same]

/-- Every fourth index from 3 on, below 12 and below 15. -/
theorem texts_denote_indices_everyFourth :
    let s : Slice := ⟨3, 4, some 12, true, false⟩
    let t : Slice := ⟨3, 4, some 15, true, false⟩
    s.indices = [3, 7, 11] ∧ s.constraint = t.constraint ∧
      read? s.constraint = some [3, 7, 11] ∧ read? s.display = some [3, 7, 11] := by
  intro s t
  have indices : s.indices = [3, 7, 11] := by decide
  obtain ⟨same, ⟨short, long⟩, -⟩ := texts_denote_indices (s := s) (t := t) rfl rfl
  exact ⟨indices, same.2 (by decide), indices ▸ short, indices ▸ long⟩

end Hyperslab.Slice
