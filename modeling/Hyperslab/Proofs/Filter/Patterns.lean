/-
# `Hyperslab.Proofs.Filter.Patterns` — remembered patterns

The evaluator that is used for streams compiles a pattern once and looks it up from then on.
Nothing is known of the compiler but that it makes one thing of a text, and no more is needed.
As long as every pattern is remembered with the expression that it compiles to, looking up is
compiling, so the verdicts are those of `Expr.verdict`, which remembers nothing
(`Expr.evaluate_of_sound`).
-/
import Hyperslab.Filter.Evaluation

namespace Hyperslab

variable [PatternCompiler]

namespace PatternCache

/-- Patterns are remembered with the expressions that they compile to. -/
def Sound (cache : PatternCache) : Prop :=
  ∀ pattern r, cache.entries.lookup pattern = some r → compileWhole pattern = .ok r

theorem sound_empty : empty.Sound := nofun

theorem Sound.remember {cache : PatternCache} (sound : cache.Sound) {pattern : String}
    {r : PatternCompiler.Compiled} (compiled : compileWhole pattern = .ok r) :
    Sound ⟨(pattern, r) :: cache.entries⟩ := by
  intro other s found
  rw [List.lookup_cons] at found
  split at found
  · rename_i same
    cases found
    rw [beq_iff_eq.1 same]
    exact compiled
  · exact sound other s found

/-- Looking a pattern up is compiling it. -/
theorem find_of_sound {cache : PatternCache} (sound : cache.Sound) (pattern : String) :
    (cache.find pattern).1 = compileWhole pattern ∧ (cache.find pattern).2.Sound := by
  unfold find
  cases found : cache.entries.lookup pattern with
  | some r => exact ⟨(sound pattern r found).symm, sound⟩
  | none =>
    dsimp only
    cases compiled : compileWhole pattern with
    | ok r => exact ⟨rfl, sound.remember compiled⟩
    | error e => exact ⟨rfl, sound⟩

end PatternCache

theorem Operator.evaluate_of_sound (op : Operator) {cache : PatternCache} (sound : cache.Sound)
    (x y : Scalar) :
    (op.evaluate cache x y).1 = op.verdict x y ∧ (op.evaluate cache x y).2.Sound := by
  cases op with
  | relation rel => exact ⟨rfl, sound⟩
  | matching =>
    obtain ⟨compiles, kept⟩ := PatternCache.find_of_sound sound y.display
    refine ⟨?_, kept⟩
    rw [verdict, matchWhole, ← compiles]
    rfl

/-- What is remembered has no influence on a verdict. -/
theorem Expr.evaluate_of_sound {ρ : Type} [FieldReader ρ] (d : Dataset) (sequence : VarId) (r : ρ)
    (e : Expr) {cache : PatternCache} (sound : cache.Sound) :
    (e.evaluate d sequence r cache).1 = e.verdict d sequence r ∧
      (e.evaluate d sequence r cache).2.Sound := by
  induction e generalizing cache with
  | and a b iha ihb =>
    obtain ⟨left, kept⟩ := iha sound
    rw [evaluate, verdict, ← left]
    cases ha : a.evaluate d sequence r cache with
    | mk answer remembered =>
      rw [ha] at kept
      cases answer with
      | error e => exact ⟨rfl, kept⟩
      | ok x =>
        obtain ⟨right, kept⟩ := ihb kept
        dsimp only
        rw [← right]
        cases hb : b.evaluate d sequence r remembered with
        | mk answer remembered =>
          rw [hb] at kept
          cases answer <;> exact ⟨rfl, kept⟩
  | compare op a b =>
    rw [evaluate, verdict]
    cases operands d sequence r a b with
    | error e => exact ⟨rfl, sound⟩
    | ok values => exact op.evaluate_of_sound sound values.1 values.2
  | field name => exact ⟨rfl, sound⟩
  | literal v => exact ⟨rfl, sound⟩

end Hyperslab
