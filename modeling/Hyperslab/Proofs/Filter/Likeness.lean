/-
# `Hyperslab.Proofs.Filter.Likeness` — streams that cannot be told apart

Two streams answer alike if they differ in their sources and in what they remember only, and if
neither difference shows: the sources give the same for each index that is read and go on to do
so, and what is remembered has the same verdicts and goes on to have them (`Agreement`).  This is
kept by one call (`Alike.pull`), and so by all (`Alike.run`).

Sources may be asked to agree below a bound only.  That is enough for calls that do not move the
cursor beyond it, because nothing behind the cursor is read.
-/
import Hyperslab.Proofs.Filter.Pulls

namespace Hyperslab.RecordStream

variable [PatternCompiler] {ρ σ τ : Type} [FieldReader ρ]

/-! ## The cursor moves forward -/

theorem cursor_le_seek (s : RecordStream ρ σ) (steps : Nat) :
    s.cursor ≤ (s.seek steps).2.cursor := by
  induction steps generalizing s with
  | zero => exact Nat.le_refl _
  | succ steps ih =>
    have moved := s.cursor_step
    rw [seek]
    cases hs : s.step with
    | mk result t =>
      rw [hs] at moved
      have behind : s.cursor ≤ t.cursor := Nat.le_of_lt (Nat.lt_of_succ_le (Nat.le_of_eq moved.symm))
      match result with
      | .error e => exact behind
      | .ok (some r) => exact behind
      | .ok none => exact Nat.le_trans behind (ih t)

theorem cursor_le_hasNext (s : RecordStream ρ σ) : s.cursor ≤ s.hasNext.2.cursor := by
  unfold hasNext
  cases s.held with
  | some r => exact Nat.le_refl _
  | none => exact s.cursor_le_seek _

omit [FieldReader ρ] in
theorem cursor_takeIndexed (s : RecordStream ρ σ) : s.takeIndexed.2.cursor = s.cursor := by
  rw [takeIndexed_eq]

theorem cursor_next (s : RecordStream ρ σ) : s.next.2.cursor = s.hasNext.2.cursor := by
  unfold next
  cases s.hasNext with
  | mk result t =>
    match result with
    | .error e => rfl
    | .ok false => rfl
    | .ok true => exact t.cursor_takeIndexed

theorem cursor_le_pull (s : RecordStream ρ σ) (c : Pull) : s.cursor ≤ (s.pull c).2.cursor := by
  cases c with
  | hasNext => exact s.cursor_le_hasNext
  | takeIndexed | takeRecord => exact Nat.le_of_eq s.cursor_takeIndexed.symm
  | next =>
    rw [pull, cursor_next]
    exact s.cursor_le_hasNext

theorem cursor_le_run (s : RecordStream ρ σ) (pulls : List Pull) :
    s.cursor ≤ (s.run pulls).2.cursor := by
  induction pulls generalizing s with
  | nil => exact Nat.le_refl _
  | cons c rest ih => exact Nat.le_trans (s.cursor_le_pull c) (ih (s.pull c).2)

/-! ## Agreement -/

/-- Two sources that are related give the same below a bound, and two memories that are related
have the same verdicts; and they stay related. -/
structure Agreement (ρ : Type) [FieldReader ρ] (bound : Nat)
    (R : RecordSource ρ σ → RecordSource ρ τ → Prop) (Q : PatternCache → PatternCache → Prop) :
    Prop where
  count : ∀ {a b}, R a b → b.count = a.count
  readAt : ∀ {a b i}, R a b → i < bound →
    (b.readAt i).1 = (a.readAt i).1 ∧ R (a.readAt i).2 (b.readAt i).2
  evaluate : ∀ {p q}, Q p q → ∀ (e : Expr) (d : Dataset) (v : VarId) (r : ρ),
    (e.evaluate d v r q).1 = (e.evaluate d v r p).1 ∧
      Q (e.evaluate d v r p).2 (e.evaluate d v r q).2

/-- Streams that are the same but for related sources and related memories. -/
structure Alike (R : RecordSource ρ σ → RecordSource ρ τ → Prop)
    (Q : PatternCache → PatternCache → Prop) (s : RecordStream ρ σ) (t : RecordStream ρ τ) :
    Prop where
  same : t = { s.withSource t.source with patterns := t.patterns }
  source : R s.source t.source
  patterns : Q s.patterns t.patterns

variable {bound : Nat} {R : RecordSource ρ σ → RecordSource ρ τ → Prop}
  {Q : PatternCache → PatternCache → Prop} {s : RecordStream ρ σ} {t : RecordStream ρ τ}

omit [FieldReader ρ] in
theorem Alike.cursor (h : Alike R Q s t) : t.cursor = s.cursor := by
  rw [h.same]
  rfl

omit [FieldReader ρ] in
theorem Alike.held (h : Alike R Q s t) : t.held = s.held := by
  rw [h.same]
  rfl

omit [FieldReader ρ] in
/-- What is held can be changed in both, and what is remembered too. -/
theorem Alike.holding (h : Alike R Q s t) (held : Option (IndexedRecord ρ)) :
    Alike R Q { s with held } { t with held } where
  same := by
    rw [h.same]
    rfl
  source := h.source
  patterns := h.patterns

omit [FieldReader ρ] in
theorem Alike.remembering (h : Alike R Q s t) {p q : PatternCache} (patterns : Q p q) :
    Alike R Q { s with patterns := p } { t with patterns := q } where
  same := by
    rw [h.same]
    rfl
  source := h.source
  patterns := patterns

namespace Agreement

variable (x : Agreement ρ bound R Q)

include x

theorem passes (h : Alike R Q s t) (r : ρ) :
    (t.passes r).1 = (s.passes r).1 ∧ Q (s.passes r).2 (t.passes r).2 := by
  have filter : t.filter = s.filter := by rw [h.same]; rfl
  have dataset : t.dataset = s.dataset := by rw [h.same]; rfl
  have sequence : t.sequence = s.sequence := by rw [h.same]; rfl
  unfold RecordStream.passes
  rw [filter, dataset, sequence]
  cases s.filter with
  | none => exact ⟨rfl, h.patterns⟩
  | some e => exact x.evaluate h.patterns e s.dataset s.sequence r

theorem step (h : Alike R Q s t) (inside : s.cursor < bound) :
    t.step.1 = s.step.1 ∧ Alike R Q s.step.2 t.step.2 := by
  obtain ⟨read, source⟩ := x.readAt h.source inside
  unfold RecordStream.step
  dsimp only
  rw [h.cursor, read]
  have next : Alike R Q
      { s with cursor := s.cursor + 1, source := (s.source.readAt s.cursor).2 }
      { t with cursor := s.cursor + 1, source := (t.source.readAt s.cursor).2 } :=
    ⟨by rw [h.same]; rfl, source, h.patterns⟩
  cases (s.source.readAt s.cursor).1 with
  | error e => exact ⟨rfl, next⟩
  | ok r =>
    obtain ⟨verdict, patterns⟩ := x.passes next r
    dsimp only
    rw [verdict]
    have judged := next.remembering patterns
    split <;> exact ⟨rfl, judged⟩

theorem seek (h : Alike R Q s t) {steps : Nat} (reached : (s.seek steps).2.cursor ≤ bound) :
    (t.seek steps).1 = (s.seek steps).1 ∧ Alike R Q (s.seek steps).2 (t.seek steps).2 := by
  induction steps generalizing s t with
  | zero => exact ⟨rfl, h⟩
  | succ steps ih =>
    have moved := s.cursor_step
    have inside : s.cursor < bound := by
      refine Nat.lt_of_succ_le (Nat.le_trans (Nat.le_of_eq moved.symm) (Nat.le_trans ?_ reached))
      rw [RecordStream.seek]
      cases s.step with
      | mk result s' =>
        match result with
        | .error e => exact Nat.le_refl _
        | .ok (some r) => exact Nat.le_refl _
        | .ok none => exact s'.cursor_le_seek steps
    obtain ⟨answer, alike⟩ := x.step h inside
    rw [RecordStream.seek] at reached ⊢
    rw [RecordStream.seek]
    cases here : s.step with
    | mk result s' =>
      cases there : t.step with
      | mk result' t' =>
        rw [here] at reached
        rw [here, there] at answer alike
        cases answer
        match result with
        | .error e => exact ⟨rfl, alike⟩
        | .ok (some r) => exact ⟨rfl, alike.holding (some r)⟩
        | .ok none => exact ih alike reached

theorem hasNext (h : Alike R Q s t) (reached : s.hasNext.2.cursor ≤ bound) :
    t.hasNext.1 = s.hasNext.1 ∧ Alike R Q s.hasNext.2 t.hasNext.2 := by
  have remaining : t.remaining = s.remaining := by
    rw [RecordStream.remaining, h.cursor, x.count h.source]
    rfl
  unfold RecordStream.hasNext at reached ⊢
  rw [h.held, remaining]
  cases held : s.held with
  | some r => exact ⟨rfl, h⟩
  | none =>
    rw [held] at reached
    exact x.seek h reached

end Agreement

omit [FieldReader ρ] in
theorem Alike.takeIndexed (h : Alike R Q s t) :
    t.takeIndexed.1 = s.takeIndexed.1 ∧ Alike R Q s.takeIndexed.2 t.takeIndexed.2 := by
  rw [takeIndexed_eq, takeIndexed_eq, h.held]
  exact ⟨rfl, h.holding none⟩

omit [FieldReader ρ] in
theorem Alike.takeRecord (h : Alike R Q s t) :
    t.takeRecord.1 = s.takeRecord.1 ∧ Alike R Q s.takeRecord.2 t.takeRecord.2 := by
  obtain ⟨answer, alike⟩ := h.takeIndexed
  exact ⟨congrArg (fun r => r.map IndexedRecord.record) answer, alike⟩

namespace Agreement

variable (x : Agreement ρ bound R Q)

include x

theorem next (h : Alike R Q s t) (reached : s.next.2.cursor ≤ bound) :
    t.next.1 = s.next.1 ∧ Alike R Q s.next.2 t.next.2 := by
  rw [cursor_next] at reached
  obtain ⟨answer, alike⟩ := x.hasNext h reached
  unfold RecordStream.next
  cases here : s.hasNext with
  | mk result s' =>
    cases there : t.hasNext with
    | mk result' t' =>
      rw [here, there] at answer alike
      cases answer
      match result with
      | .error e => exact ⟨rfl, alike⟩
      | .ok false => exact ⟨rfl, alike⟩
      | .ok true =>
        obtain ⟨taken, alike⟩ := alike.takeRecord
        exact ⟨congrArg some taken, alike⟩

/-- One call is answered alike, and leaves streams that are alike. -/
theorem pull (h : Alike R Q s t) {c : Pull} (reached : (s.pull c).2.cursor ≤ bound) :
    (t.pull c).1 = (s.pull c).1 ∧ Alike R Q (s.pull c).2 (t.pull c).2 := by
  cases c with
  | hasNext => exact (x.hasNext h reached).imp_left (congrArg PullAnswer.found)
  | takeIndexed => exact h.takeIndexed.imp_left (congrArg PullAnswer.indexed)
  | takeRecord => exact h.takeRecord.imp_left (congrArg PullAnswer.record)
  | next => exact (x.next h reached).imp_left (congrArg PullAnswer.result)

/-- All calls are answered alike. -/
theorem run (h : Alike R Q s t) {pulls : List Pull} (reached : (s.run pulls).2.cursor ≤ bound) :
    (t.run pulls).1 = (s.run pulls).1 ∧ Alike R Q (s.run pulls).2 (t.run pulls).2 := by
  induction pulls generalizing s t with
  | nil => exact ⟨rfl, h⟩
  | cons c rest ih =>
    have later : (s.pull c).2.cursor ≤ bound := Nat.le_trans (cursor_le_run _ rest) reached
    obtain ⟨answer, alike⟩ := x.pull h later
    obtain ⟨answers, after⟩ := ih alike reached
    exact ⟨congr (congrArg List.cons answer) answers, after⟩

end Agreement

end Hyperslab.RecordStream
