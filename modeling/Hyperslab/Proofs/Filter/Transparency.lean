/-
# `Hyperslab.Proofs.Filter.Transparency` — remembering does not show

What a stream remembers are patterns, and they may come from the records themselves.  So at any
time it remembers something that depends on all calls before.  None of it shows: memories that are
sound have the same verdicts (`agreement_sound`), so streams that differ in nothing else answer
alike, to one call and to all that follow.  This holds of every compiler and of every source, also
of one that changes its answers when it is read.

What is left is that the verdict on a record depends on the filter, on the record, and on what the
names of fields stand for (`passes_run`).
-/
import Hyperslab.Proofs.Filter.Deliveries

namespace Hyperslab

variable {ρ : Type} [FieldReader ρ]

/-! ## Fields -/

/-- Two variables have fields of the same names, with fields and dimensions alike. -/
def Dataset.SameFields (d : Dataset) (v : VarId) (d' : Dataset) (v' : VarId) : Prop :=
  ∀ name, (d.field? v name).map (fun f => ((d.var f).isCompound, d.rank f)) =
    (d'.field? v' name).map fun f => ((d'.var f).isCompound, d'.rank f)

section Fields

variable {d d' : Dataset} {v v' : VarId} (same : d.SameFields v d' v') (r : ρ)

include same

theorem fieldValue_congr (name : String) : fieldValue d v r name = fieldValue d' v' r name := by
  have agree := same name
  unfold fieldValue
  cases here : d.field? v name with
  | none =>
    rw [here] at agree
    rw [Option.map_eq_none_iff.1 agree.symm]
  | some f =>
    rw [here] at agree
    obtain ⟨f', there, alike⟩ := Option.map_eq_some_iff.1 agree.symm
    obtain ⟨compound, rank⟩ := Prod.mk.inj alike
    rw [there]
    dsimp only
    rw [compound, rank]

theorem Expr.operand_congr (e : Expr) : e.operand d v r = e.operand d' v' r := by
  cases e with
  | field name => exact fieldValue_congr same r name
  | and | compare | literal => rfl

theorem Expr.truth_congr (e : Expr) : e.truth d v r = e.truth d' v' r := by
  rw [truth, truth, operand_congr same r e]

/-- A verdict depends on what the names of fields stand for, and on nothing else in a dataset. -/
theorem Expr.verdict_congr [PatternCompiler] (e : Expr) : e.verdict d v r = e.verdict d' v' r := by
  induction e with
  | and a b iha ihb => rw [verdict, verdict, iha, ihb]
  | compare op a b =>
    rw [verdict, verdict, operands, operands, operand_congr same r a, operand_congr same r b]
  | field name => exact truth_congr same r (.field name)
  | literal x => exact truth_congr same r (.literal x)

end Fields

namespace RecordStream

section

variable [PatternCompiler] {σ σ' : Type}

/-! ## What is remembered -/

/-- Whatever is remembered, patterns are looked up as if they were compiled. -/
theorem agreement_sound (bound : Nat) : Agreement ρ bound
    (Eq : RecordSource ρ σ → RecordSource ρ σ → Prop) (fun p q => p.Sound ∧ q.Sound) where
  count := by
    rintro a b rfl
    rfl
  readAt := by
    rintro a b i rfl -
    exact ⟨rfl, rfl⟩
  evaluate := by
    rintro p q ⟨left, right⟩ e d v r
    obtain ⟨here, sound⟩ := e.evaluate_of_sound d v r left
    obtain ⟨there, sound'⟩ := e.evaluate_of_sound d v r right
    exact ⟨there.trans here.symm, sound, sound'⟩

/-! ## Histories -/

/-- After any calls on a stream, the verdict on a record is the one that it would get after any
other calls, or after none, on any stream with the same filter and over fields alike; and the
calls that follow are answered as if nothing had been remembered. -/
theorem passes_run {d d' : Dataset} {v v' : VarId} {source : RecordSource ρ σ}
    {source' : RecordSource ρ σ'} {filter : Option Expr} {start : RecordStream ρ σ}
    {start' : RecordStream ρ σ'}
    (opened : open? d v source filter = .ok start)
    (opened' : open? d' v' source' filter = .ok start') (same : d.SameFields v d' v')
    (pulls pulls' : List Pull) :
    (∀ r, ((start.run pulls).2.passes r).1 = ((start'.run pulls').2.passes r).1) ∧
      ∀ later, ({ (start.run pulls).2 with patterns := .empty }.run later).1 =
        ((start.run pulls).2.run later).1 := by
  have leads := leads_of_open? opened pulls
  have leads' := leads_of_open? opened' pulls'
  obtain ⟨-, rfl⟩ := open?_eq_ok_iff.1 opened
  obtain ⟨-, rfl⟩ := open?_eq_ok_iff.1 opened'
  refine ⟨fun r => ?_, fun later => ?_⟩
  · rw [(passes_of_sound leads.sound r).1, (passes_of_sound leads'.sound r).1, leads.verdict_eq,
      leads'.verdict_eq]
    unfold verdict
    cases filter with
    | none => rfl
    | some e => exact e.verdict_congr same r
  · have alike : Alike (Eq : RecordSource ρ σ → RecordSource ρ σ → Prop)
        (fun p q => p.Sound ∧ q.Sound) (RecordStream.run _ pulls).2
        { (RecordStream.run _ pulls).2 with patterns := .empty } :=
      ⟨rfl, rfl, leads.sound, PatternCache.sound_empty⟩
    exact ((agreement_sound _).run alike (Nat.le_refl _)).1

end

/-- Names of buoys, each with a pattern. -/
def buoys : Dataset := .built "buoys"
  [.var (.group .root) "buoy" .sequence [], .var (.compound ⟨0⟩) "name" (.atomic .string) [],
    .var (.compound ⟨0⟩) "pattern" (.atomic .string) []]

def buoy (name pattern : String) : Record :=
  .ofFields [("name", .text name), ("pattern", .text pattern)]

/-- The name matches the pattern. -/
def fitting : Expr := .compare .matching (.field "name") (.field "pattern")

/-- After a pattern that is remembered and one that is refused, the same two records are judged as
they are at the beginning. -/
theorem passes_run_buoys : ∃ start fresh,
    open? buoys ⟨0⟩ (.ofList [buoy "a" "a", buoy "a" "("]) (some fitting) = .ok start ∧
    open? buoys ⟨0⟩ (.ofList []) (some fitting) = .ok fresh ∧
    let later := (start.run [.next, .next]).2
    (later.patterns.entries.map Prod.fst = ["a"] ∧ fresh.patterns.entries = []) ∧
    (later.passes (buoy "a" "a")).1 = .ok true ∧
    (later.passes (buoy "a" "(")).1 = .error (.invalidPattern "(") := by
  have opened : open? buoys ⟨0⟩ (.ofList [buoy "a" "a", buoy "a" "("]) (some fitting) = .ok _ := rfl
  have opened' : open? buoys ⟨0⟩ (.ofList []) (some fitting) = .ok _ := rfl
  obtain ⟨alike, -⟩ := passes_run opened opened' (fun _ => rfl) [.next, .next] []
  exact ⟨_, _, opened, opened', ⟨rfl, rfl⟩, (alike (buoy "a" "a")).trans rfl,
    (alike (buoy "a" "(")).trans rfl⟩

end RecordStream

end Hyperslab
