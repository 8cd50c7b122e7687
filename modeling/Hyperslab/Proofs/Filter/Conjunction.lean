/-
# `Hyperslab.Proofs.Filter.Conjunction` — a filter is a strict conjunction

A filter is judged conjunct by conjunct, from left to right, and a conjunct that is false does not
keep the others from being judged.  So it does not matter how the conjuncts are nested, and their
order decides only which of several errors is reported.

The verdict on a filter is put together from those on its conjuncts by `inTurn`, and everything
else is read off that.  It holds of the evaluator with its remembered patterns as well, at any
point of a stream (`strictConjunction_run`).
-/
import Hyperslab.Proofs.Filter.Deliveries

namespace Hyperslab

/-! ## Answers in turn -/

section InTurn

variable {ε : Type}

/-- All answers are taken in turn and have to be true; the first one that is missing is missing
in the whole. -/
def inTurn : List (Except ε Bool) → Except ε Bool
  | [] => .ok true
  | x :: rest => do
    let a ← x
    let b ← inTurn rest
    return a && b

theorem inTurn_singleton (x : Except ε Bool) : inTurn [x] = x := by
  cases x with
  | error e => rfl
  | ok a => exact congrArg Except.ok (Bool.and_true a)

theorem inTurn_append (xs ys : List (Except ε Bool)) :
    inTurn (xs ++ ys) = do
      let a ← inTurn xs
      let b ← inTurn ys
      return a && b := by
  induction xs with
  | nil =>
    show inTurn ys = (inTurn ys >>= fun b => .ok (true && b))
    cases inTurn ys <;> rfl
  | cons x xs ih =>
    rw [List.cons_append, inTurn, inTurn, ih]
    cases x with
    | error e => rfl
    | ok a =>
      cases inTurn xs with
      | error e => rfl
      | ok b =>
        cases inTurn ys with
        | error e => rfl
        | ok c => exact congrArg Except.ok (Bool.and_assoc a b c).symm

/-- There is an answer to the whole if there are all answers, and it is that they are all true. -/
theorem inTurn_eq_ok_iff {xs : List (Except ε Bool)} {b : Bool} :
    inTurn xs = .ok b ↔ (∀ x ∈ xs, ∃ a, x = .ok a) ∧ (b = true ↔ ∀ x ∈ xs, x = .ok true) := by
  induction xs generalizing b with
  | nil => cases b <;> simp [inTurn]
  | cons x xs ih =>
    simp only [inTurn, List.forall_mem_cons]
    cases x with
    | error e =>
      constructor
      · rintro ⟨⟩
      · rintro ⟨⟨⟨_, ⟨⟩⟩, -⟩, -⟩
    | ok a =>
      constructor
      · intro h
        obtain ⟨_, same, h⟩ := exists_ok_of_bind_eq_ok h
        cases same
        obtain ⟨c, rest, same⟩ := exists_ok_of_bind_eq_ok h
        cases same
        obtain ⟨all, holds⟩ := ih.1 rest
        exact ⟨⟨⟨a, rfl⟩, all⟩, by rw [Bool.and_eq_true, holds]; simp⟩
      · rintro ⟨⟨-, all⟩, holds⟩
        by_cases allTrue : ∀ x ∈ xs, x = .ok true
        · have rest := ih.2 ⟨all, iff_of_true rfl allTrue⟩
          have same : b = a := by
            rw [Bool.eq_iff_iff, holds, and_iff_left allTrue]
            simp
          rw [rest, same]
          exact congrArg Except.ok (Bool.and_true a)
        · have rest := ih.2 ⟨all, iff_of_false Bool.false_ne_true allTrue⟩
          have same : b = false := by
            rw [← Bool.not_eq_true, holds]
            exact fun both => allTrue both.2
          rw [rest, same]
          exact congrArg Except.ok (Bool.and_false a)

theorem exists_inTurn_eq_ok {xs : List (Except ε Bool)} (all : ∀ x ∈ xs, ∃ a, x = .ok a) :
    ∃ b, inTurn xs = .ok b := by
  by_cases allTrue : ∀ x ∈ xs, x = .ok true
  · exact ⟨true, inTurn_eq_ok_iff.2 ⟨all, iff_of_true rfl allTrue⟩⟩
  · exact ⟨false, inTurn_eq_ok_iff.2 ⟨all, iff_of_false Bool.false_ne_true allTrue⟩⟩

/-- What is missing in the whole is the first thing that is missing. -/
theorem inTurn_eq_error_iff {xs : List (Except ε Bool)} {e : ε} :
    inTurn xs = .error e ↔
      ∃ front back, xs = front ++ .error e :: back ∧ ∀ x ∈ front, ∃ a, x = .ok a := by
  constructor
  · intro h
    induction xs with
    | nil => cases h
    | cons x xs ih =>
      cases x with
      | error e' =>
        cases h
        exact ⟨[], xs, rfl, nofun⟩
      | ok a =>
        have rest : inTurn xs = .error e := by
          rcases error_of_bind_eq_error h with first | ⟨_, _, later⟩
          · cases first
          · rcases error_of_bind_eq_error later with rest | ⟨_, _, ⟨⟩⟩
            exact rest
        obtain ⟨front, back, rfl, good⟩ := ih rest
        exact ⟨.ok a :: front, back, rfl, List.forall_mem_cons.2 ⟨⟨a, rfl⟩, good⟩⟩
  · rintro ⟨front, back, rfl, good⟩
    obtain ⟨b, there⟩ := exists_inTurn_eq_ok good
    rw [inTurn_append, there]
    rfl

end InTurn

/-! ## Strict conjunctions -/

/-- Filters are judged as strict conjunctions. -/
structure StrictConjunction {ε : Type} (judge : Expr → Except ε Bool) : Prop where
  /-- There is a verdict if there is one on every conjunct, and it is that they are all true. -/
  ok_iff : ∀ e b, judge e = .ok b ↔ (∀ c ∈ e.conjuncts, ∃ a, judge c = .ok a) ∧
    (b = true ↔ ∀ c ∈ e.conjuncts, judge c = .ok true)
  /-- The error is that of the leftmost conjunct that has one, whatever is false before it. -/
  error_iff : ∀ e x, judge e = .error x ↔ ∃ front c back, e.conjuncts = front ++ c :: back ∧
    (∀ a ∈ front, ∃ b, judge a = .ok b) ∧ judge c = .error x
  nested : ∀ e e', e.conjuncts = e'.conjuncts → judge e = judge e'
  reordered : ∀ e e', e.conjuncts.Perm e'.conjuncts →
    judge e = judge e' ∨ ∃ x x', judge e = .error x ∧ judge e' = .error x'

theorem strictConjunction_of_inTurn {ε : Type} {judge : Expr → Except ε Bool}
    (joined : ∀ e, judge e = inTurn (e.conjuncts.map judge)) : StrictConjunction judge := by
  have ok_iff : ∀ e b, judge e = .ok b ↔ (∀ c ∈ e.conjuncts, ∃ a, judge c = .ok a) ∧
      (b = true ↔ ∀ c ∈ e.conjuncts, judge c = .ok true) := fun e b => by
    rw [joined e, inTurn_eq_ok_iff, List.forall_mem_map, List.forall_mem_map]
  refine ⟨ok_iff, fun e x => ?_, fun e e' same => ?_, fun e e' perm => ?_⟩
  · rw [joined e, inTurn_eq_error_iff]
    constructor
    · rintro ⟨front, back, answers, good⟩
      obtain ⟨cs, rest, conjuncts, rfl, behind⟩ := List.map_eq_append_iff.1 answers
      obtain ⟨c, ds, rfl, fails, -⟩ := List.map_eq_cons_iff.1 behind
      rw [List.forall_mem_map] at good
      exact ⟨cs, c, ds, conjuncts, good, fails⟩
    · rintro ⟨front, c, back, conjuncts, good, fails⟩
      refine ⟨front.map judge, back.map judge, ?_, ?_⟩
      · rw [conjuncts, List.map_append, List.map_cons, fails]
      · rwa [List.forall_mem_map]
  · rw [joined e, joined e', same]
  · have agree : ∀ b, judge e = .ok b ↔ judge e' = .ok b := fun b => by
      rw [ok_iff, ok_iff]
      simp only [perm.mem_iff]
    cases left : judge e with
    | ok b => exact .inl ((agree b).1 left).symm
    | error x =>
      cases right : judge e' with
      | ok b =>
        rw [(agree b).2 right] at left
        cases left
      | error x' => exact .inr ⟨x, x', rfl, rfl⟩

/-! ## Verdicts -/

/-- A name without a value: there is no such field, or it has fields or dimensions. -/
def Dataset.LacksValue (d : Dataset) (sequence : VarId) (name : String) : Prop :=
  ∀ f, d.field? sequence name = some f → (d.var f).isCompound = true ∨ 0 < d.rank f

namespace Expr

/-- An operand without a value. -/
def LacksValue (d : Dataset) (sequence : VarId) : Expr → Prop
  | .field name => d.LacksValue sequence name
  | .literal _ => False
  | .and _ _ | .compare _ _ _ => True

/-- A conjunct that names what has no value, or compares what is a comparison or a conjunction
itself. -/
def Senseless (d : Dataset) (sequence : VarId) : Expr → Prop
  | .compare _ a b => a.LacksValue d sequence ∨ b.LacksValue d sequence
  | .field name => d.LacksValue sequence name
  | .literal _ | .and _ _ => False

variable {ρ : Type} [FieldReader ρ] (d : Dataset) (sequence : VarId) (r : ρ)

/-- The verdict on a filter is put together from those on its conjuncts. -/
theorem verdict_eq_inTurn [PatternCompiler] (e : Expr) :
    e.verdict d sequence r = inTurn (e.conjuncts.map fun c => c.verdict d sequence r) := by
  induction e with
  | and a b iha ihb => rw [conjuncts, List.map_append, inTurn_append, ← iha, ← ihb, verdict]
  | compare op a b => exact (inTurn_singleton _).symm
  | field name => exact (inTurn_singleton _).symm
  | literal v => exact (inTurn_singleton _).symm

variable {d sequence}

theorem exists_operand_eq_error {e : Expr} (lacks : e.LacksValue d sequence) :
    ∃ x, e.operand d sequence r = .error x := by
  cases e with
  | and a b => exact ⟨_, rfl⟩
  | compare op a b => exact ⟨_, rfl⟩
  | literal v => exact absurd lacks id
  | field name =>
    rw [operand, fieldValue]
    cases found : d.field? sequence name with
    | none => exact ⟨_, rfl⟩
    | some f =>
      dsimp only
      split
      · exact ⟨_, rfl⟩
      · rename_i atomic
        rw [if_pos ((lacks f found).resolve_left atomic)]
        exact ⟨_, rfl⟩

theorem exists_verdict_eq_error [PatternCompiler] {c : Expr} (senseless : c.Senseless d sequence) :
    ∃ x, c.verdict d sequence r = .error x := by
  cases c with
  | and a b => exact absurd senseless id
  | literal v => exact absurd senseless id
  | field name =>
    obtain ⟨x, fails⟩ := exists_operand_eq_error r (e := .field name) senseless
    rw [verdict, truth, fails]
    exact ⟨x, rfl⟩
  | compare op a b =>
    rw [verdict, operands]
    rcases senseless with left | right
    · obtain ⟨x, fails⟩ := exists_operand_eq_error r left
      rw [fails]
      exact ⟨x, rfl⟩
    · obtain ⟨x, fails⟩ := exists_operand_eq_error r right
      rw [fails]
      cases a.operand d sequence r with
      | error y => exact ⟨y, rfl⟩
      | ok v => exact ⟨x, rfl⟩

end Expr

/-! ## At any point of a stream -/

namespace RecordStream

/-- Whatever a stream has been through, the evaluator judges filters as strict conjunctions; and a
filter with a senseless conjunct has no verdict on any record. -/
theorem strictConjunction_run [PatternCompiler] {ρ σ : Type} [FieldReader ρ] {d : Dataset}
    {v : VarId} {source : RecordSource ρ σ} {filter : Option Expr} {start : RecordStream ρ σ}
    (opened : open? d v source filter = .ok start) (pulls : List Pull) (r : ρ) :
    let judge : Expr → Except FilterError Bool := fun e =>
      (e.evaluate d v r (start.run pulls).2.patterns).1
    StrictConjunction judge ∧
      ∀ e : Expr, (∃ c ∈ e.conjuncts, c.Senseless d v) → ∃ x, judge e = .error x := by
  intro judge
  have verdicts : judge = fun e => e.verdict d v r := funext fun e =>
    (e.evaluate_of_sound d v r (leads_of_open? opened pulls).sound).1
  have strict : StrictConjunction judge := by
    rw [verdicts]
    exact strictConjunction_of_inTurn (Expr.verdict_eq_inTurn d v r)
  refine ⟨strict, fun e ⟨c, member, senseless⟩ => ?_⟩
  cases answer : judge e with
  | error x => exact ⟨x, rfl⟩
  | ok b =>
    obtain ⟨x, fails⟩ := c.exists_verdict_eq_error r senseless
    obtain ⟨a, answers⟩ := ((strict.ok_iff e b).1 answer).1 c member
    rw [verdicts] at answers
    dsimp only at answers
    rw [fails] at answers
    cases answers

/-- A comparison that is false of the record does not hide that the field behind it is unknown. -/
theorem strictConjunction_run_unknown : ∃ start,
    open? casts ⟨0⟩ samples none = .ok start ∧
    let shallow : Expr := .compare (.relation .lt) (.field "salt") (.literal (.int 10))
    let judge : Expr → Except FilterError Bool := fun e =>
      (e.evaluate casts ⟨0⟩ (Record.ofFields [("salt", .int 35)])
        (start.run impatient).2.patterns).1
    judge shallow = .ok false ∧
      judge (.and shallow (.field "depth")) = .error (.unknownField "depth") := by
  have opened : open? casts ⟨0⟩ samples none = .ok _ := rfl
  obtain ⟨strict, -⟩ := strictConjunction_run opened impatient (Record.ofFields [("salt", .int 35)])
  refine ⟨_, opened, rfl, (strict.error_iff _ _).2 ⟨[_], _, [], rfl, ?_, rfl⟩⟩
  exact List.forall_mem_singleton.2 ⟨false, rfl⟩

end RecordStream

end Hyperslab
