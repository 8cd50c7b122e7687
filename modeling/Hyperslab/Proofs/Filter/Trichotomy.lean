/-
# `Hyperslab.Proofs.Filter.Trichotomy` — the laws of comparing two values

All six relations between two values are read off one comparison of them.  So their laws are
those of a comparison: comparing the other way round turns an order around and changes nothing
else (`ofScalars_swap`), and what comes out is an order unless a value is not a number or the
values are not of one sort (`between_ofScalars`).

Of the order of binary numbers nothing more is needed than that there is one unless a value is
not a number, and that it is turned around with the operands.
-/
import Hyperslab.Filter.Engine
import Mathlib.Order.Compare

namespace Hyperslab

/-! ## The order of numbers -/

namespace Binary64

/-- There is an order of two values if both are numbers. -/
theorem order?_eq_none_iff {x y : Binary64} :
    x.order? y = none ↔ (x.isNaN || y.isNaN) = true := by
  unfold order?
  cases x.isNaN || y.isNaN <;> simp

theorem order?_swap (x y : Binary64) : y.order? x = (x.order? y).map Ordering.swap := by
  unfold order?
  rw [Bool.or_comm y.isNaN]
  split
  · rfl
  · exact congrArg some Std.OrientedOrd.eq_swap

/-- Rounding an integer gives a number, if only infinity. -/
theorem isNaN_ofInt (i : Int) : (ofInt i).isNaN = false :=
  decide_eq_false (Nat.not_lt.2 (Nat.min_le_right _ _))

end Binary64

/-! ## Turning a comparison around -/

namespace Relation

/-- The relation between the operands the other way round. -/
def converse : Relation → Relation
  | .lt => .gt
  | .le => .ge
  | .gt => .lt
  | .ge => .le
  | .eq => .eq
  | .ne => .ne

theorem admits_swap (r : Relation) (o : Ordering) : r.admits o.swap = r.converse.admits o := by
  cases r <;> cases o <;> rfl

end Relation

namespace Comparison

/-- The comparison the other way round. -/
def swap : Comparison → Comparison
  | .ordered o => .ordered o.swap
  | .unordered => .unordered
  | .incompatible => .incompatible

theorem satisfies?_swap (c : Comparison) (r : Relation) :
    c.swap.satisfies? r = c.satisfies? r.converse := by
  cases c with
  | ordered o => exact congrArg some (r.admits_swap o)
  | unordered => cases r <;> rfl
  | incompatible => cases r <;> rfl

theorem ofNumbers_swap (x y : Binary64) : ofNumbers y x = (ofNumbers x y).swap := by
  unfold ofNumbers
  rw [Binary64.order?_swap x y]
  cases x.order? y <;> rfl

theorem ordered_swap {α : Type} [Ord α] [Std.OrientedOrd α] (a b : α) :
    ordered (compare b a) = (ordered (compare a b)).swap :=
  congrArg ordered Std.OrientedOrd.eq_swap

/-- Comparing the other way round turns the order around and changes nothing else. -/
theorem ofScalars_swap (x y : Scalar) : ofScalars y x = (ofScalars x y).swap := by
  cases x with
  | text s =>
    cases y with
    | text t => exact ordered_swap s t
    | _ => rfl
  | bool a =>
    cases y with
    | bool b => exact ordered_swap a.toNat b.toNat
    | _ => rfl
  | int i =>
    cases y with
    | int j => exact ordered_swap i j
    | float y => exact ofNumbers_swap _ _
    | _ => rfl
  | float x =>
    cases y with
    | int j => exact ofNumbers_swap _ _
    | float y => exact ofNumbers_swap _ _
    | _ => rfl

end Comparison

/-! ## What comes out -/

namespace Scalar

/-- The value is a floating-point value that is not a number. -/
def isNaN : Scalar → Bool
  | .float x => x.isNaN
  | _ => false

/-- Values between which there can be an order. -/
inductive SameSort : Scalar → Scalar → Prop
  | texts (s t : String) : SameSort (.text s) (.text t)
  | bools (a b : Bool) : SameSort (.bool a) (.bool b)
  | numbers {x y : Scalar} : x.number?.isSome → y.number?.isSome → SameSort x y

theorem isNaN_of_number? {v : Scalar} {x : Binary64} (h : v.number? = some x) :
    v.isNaN = x.isNaN := by
  cases v with
  | float x => cases h; rfl
  | int i => cases h; exact (Binary64.isNaN_ofInt i).symm
  | bool b => cases h
  | text s => cases h

end Scalar

namespace Comparison

variable {x y : Scalar}

/-- What the comparison of two values can be. -/
inductive Between (x y : Scalar) : Comparison → Prop
  | ordered (o : Ordering) : x.SameSort y → (x.isNaN || y.isNaN) = false →
      Between x y (.ordered o)
  | unordered : x.SameSort y → (x.isNaN || y.isNaN) = true → Between x y .unordered
  | incompatible : ¬ x.SameSort y → Between x y .incompatible

theorem between_numbers {a b : Binary64} (hx : x.number? = some a) (hy : y.number? = some b) :
    Between x y (ofNumbers a b) := by
  have sort : x.SameSort y := .numbers (by rw [hx]; rfl) (by rw [hy]; rfl)
  have nan : (x.isNaN || y.isNaN) = (a.isNaN || b.isNaN) := by
    rw [Scalar.isNaN_of_number? hx, Scalar.isNaN_of_number? hy]
  unfold ofNumbers
  cases h : a.order? b with
  | none => exact .unordered sort (nan.trans (Binary64.order?_eq_none_iff.1 h))
  | some o =>
    refine .ordered o sort (nan.trans (Bool.eq_false_iff.2 fun either => ?_))
    cases h.symm.trans (Binary64.order?_eq_none_iff.2 either)

/-- Values of different types are of one sort only if both are numbers. -/
theorem between_ofScalars (x y : Scalar) : Between x y (ofScalars x y) := by
  cases x with
  | text s =>
    cases y with
    | text t => exact .ordered _ (.texts s t) rfl
    | _ => exact .incompatible (by rintro (_ | _ | ⟨hx, hy⟩); cases hx)
  | bool a =>
    cases y with
    | bool b => exact .ordered _ (.bools a b) rfl
    | _ => exact .incompatible (by rintro (_ | _ | ⟨hx, hy⟩); cases hx)
  | int i =>
    cases y with
    | int j => exact .ordered _ (.numbers rfl rfl) rfl
    | float y => exact between_numbers rfl rfl
    | _ => exact .incompatible (by rintro (_ | _ | ⟨hx, hy⟩); cases hy)
  | float x =>
    cases y with
    | int j => exact between_numbers rfl rfl
    | float y => exact between_numbers rfl rfl
    | _ => exact .incompatible (by rintro (_ | _ | ⟨hx, hy⟩); cases hy)

end Comparison

/-! ## Verdicts -/

namespace Relation

variable {x y : Scalar}

/-- The laws of the relations that hold between two values: how they come from less, equal and
greater, and how many of these hold. -/
structure Lawful (holds : Relation → Bool) (number : Nat) : Prop where
  le : holds .le = (holds .lt || holds .eq)
  ge : holds .ge = (holds .gt || holds .eq)
  ne : holds .ne = !holds .eq
  count : [holds .lt, holds .eq, holds .gt].count true = number

theorem lawful_admits (o : Ordering) : Lawful (fun r => r.admits o) 1 := by
  cases o <;> exact ⟨rfl, rfl, rfl, rfl⟩

/-- What is not a number is different from everything, and that is all. -/
theorem lawful_ne : Lawful (fun r => r == .ne) 0 := ⟨rfl, rfl, rfl, rfl⟩

theorem exists_lawful (sort : x.SameSort y) :
    ∃ holds, Lawful holds (if x.isNaN || y.isNaN then 0 else 1) ∧
      ∀ r : Relation, r.decide x y = .ok (holds r) := by
  have between := Comparison.between_ofScalars x y
  unfold decide holds?
  generalize Comparison.ofScalars x y = c at between ⊢
  cases between with
  | ordered o _ numbers =>
    refine ⟨fun r => r.admits o, ?_, fun r => rfl⟩
    rw [numbers]
    exact lawful_admits o
  | unordered _ nan =>
    refine ⟨fun r => r == .ne, ?_, fun r => rfl⟩
    rw [nan]
    exact lawful_ne
  | incompatible apart => exact absurd sort apart

/-- Values of different sorts are different, and cannot be asked for an order. -/
theorem decide_of_not_sameSort (apart : ¬ x.SameSort y) (r : Relation) :
    r.decide x y = if r.isOrdering then .error (.incomparable x y) else .ok (r == .ne) := by
  have between := Comparison.between_ofScalars x y
  unfold decide holds?
  generalize Comparison.ofScalars x y = c at between ⊢
  cases between with
  | ordered _ sort => exact absurd sort apart
  | unordered sort => exact absurd sort apart
  | incompatible => cases r <;> rfl

/-- A verdict stays when both the operands and the relation are turned around. -/
theorem decide_swap {r : Relation} {b : Bool} (h : r.converse.decide x y = .ok b) :
    r.decide y x = .ok b := by
  unfold decide holds? at *
  rw [Comparison.ofScalars_swap x y, Comparison.satisfies?_swap]
  cases answer : (Comparison.ofScalars x y).satisfies? r.converse with
  | none => rw [answer] at h; cases h
  | some c => rw [answer] at h; exact h

end Relation

/-- The laws of comparing two values with the evaluator, whatever patterns it remembers.

Being equal and being different are decided for all values, oppositely and in both directions.
An order is refused exactly between values that are not of one sort.  Between values of one sort
operands can be turned around with the relation, the other two orders are those with equality
added, and exactly one of less, equal and greater holds, or none if a value is not a number. -/
theorem comparison_laws [PatternCompiler] (cache : PatternCache) (x y : Scalar) :
    let judge := fun (r : Relation) (x y : Scalar) =>
      ((Operator.relation r).evaluate cache x y).1
    (∃ equal, judge .eq x y = .ok equal ∧ judge .ne x y = .ok (!equal) ∧
      judge .eq y x = .ok equal ∧ judge .ne y x = .ok (!equal)) ∧
    (∀ r, r.isOrdering = true →
      (judge r x y = .error (.incomparable x y) ↔ ¬ x.SameSort y) ∧
      ((∃ b, judge r x y = .ok b) ↔ x.SameSort y)) ∧
    (x.SameSort y → (∀ r : Relation, judge r y x = judge r.converse x y) ∧
      ∃ less equal greater, judge .lt x y = .ok less ∧ judge .eq x y = .ok equal ∧
        judge .gt x y = .ok greater ∧ judge .le x y = .ok (less || equal) ∧
        judge .ge x y = .ok (greater || equal) ∧
        [less, equal, greater].count true = if x.isNaN || y.isNaN then 0 else 1) := by
  intro judge
  by_cases sort : x.SameSort y
  · obtain ⟨holds, lawful, here⟩ := Relation.exists_lawful sort
    have different : judge .ne x y = .ok (!holds .eq) := lawful.ne ▸ here .ne
    refine ⟨⟨holds .eq, here .eq, different, Relation.decide_swap (here .eq),
      Relation.decide_swap different⟩, fun r _ => ⟨?_, ?_⟩, fun _ => ⟨fun r => ?_, ?_⟩⟩
    · refine iff_of_false (fun refused => ?_) (not_not_intro sort)
      cases (here r).symm.trans refused
    · exact iff_of_true ⟨_, here r⟩ sort
    · exact (Relation.decide_swap (here _)).trans (here _).symm
    · exact ⟨holds .lt, holds .eq, holds .gt, here .lt, here .eq, here .gt, lawful.le ▸ here .le,
        lawful.ge ▸ here .ge, lawful.count⟩
  · have here : ∀ r, judge r x y = _ := Relation.decide_of_not_sameSort sort
    refine ⟨⟨false, here .eq, here .ne, Relation.decide_swap (here .eq),
      Relation.decide_swap (here .ne)⟩, fun r ordering => ?_, fun same => absurd same sort⟩
    have refused : judge r x y = .error (.incomparable x y) := (here r).trans (if_pos ordering)
    refine ⟨iff_of_true refused sort, iff_of_false ?_ sort⟩
    rintro ⟨b, decided⟩
    cases refused.symm.trans decided

/-- The least integer that is no binary number is the binary number before it, to a comparison;
and it is neither less nor greater than, nor equal to, what is not a number. -/
theorem comparison_laws_rounded :
    let judge := fun (r : Relation) (x y : Scalar) =>
      ((Operator.relation r).evaluate .empty x y).1
    let i : Scalar := .int 9007199254740993
    let x : Scalar := .float (.ofInt 9007199254740992)
    let nan : Scalar := .float .notANumber
    i.SameSort x ∧ judge .ge i x = .ok true ∧ judge .le x i = .ok true ∧
    i.SameSort nan ∧ judge .le i nan = .ok false ∧ judge .ge nan i = .ok false := by
  intro judge i x nan
  have sort : i.SameSort x := .numbers rfl rfl
  have sortNaN : i.SameSort nan := .numbers rfl rfl
  have equal : judge .ge i x = .ok true := by decide +kernel
  obtain ⟨-, -, laws⟩ := comparison_laws .empty i x
  obtain ⟨-, -, lawsNaN⟩ := comparison_laws .empty i nan
  obtain ⟨turned, less, same, greater, -, -, -, le, -, count⟩ := lawsNaN sortNaN
  have none : less = false ∧ same = false := by
    revert count
    cases less <;> cases same <;> cases greater <;> decide
  rw [none.1, none.2] at le
  exact ⟨sort, equal, ((laws sort).1 .le).trans equal, sortNaN, le, (turned .ge).trans le⟩

end Hyperslab
