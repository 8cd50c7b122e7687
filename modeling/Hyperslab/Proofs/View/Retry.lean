/-
# `Hyperslab.Proofs.View.Retry` — finishing that fails

Finishing fails for the slices that were asked for, and for nothing else: what expanding adds
comes after them, has no slices, and resolves.  So whether finishing fails, and how, does not
depend on whether it expands (`finish_eq_error_iff`).

A failure leaves no trace.  It changes nothing, the next attempt fails in the same way, and a
history tells the same story without it (`run_withoutFailures`).
-/
import Hyperslab.Proofs.View.Workbench

namespace Hyperslab

/-! ## Mapping with failures -/

/-- Elements that do not fail do not change how the others fail. -/
theorem mapM_append_eq_error_iff {α β ε : Type} {f : α → Except ε β} {as bs : List α} {e : ε}
    (all : ∀ b ∈ bs, ∃ c, f b = .ok c) : (as ++ bs).mapM f = .error e ↔ as.mapM f = .error e := by
  obtain ⟨cs, resolved⟩ := exists_mapM_eq_ok all
  rw [List.mapM_append, resolved]
  cases as.mapM f with
  | error _ => exact Iff.rfl
  | ok _ => constructor <;> rintro ⟨⟩

/-! ## Why finishing fails -/

/-- The call is to finish, and the answer is that it does not. -/
def ViewCall.isRefusedFinish : ViewCall → Except ViewError Unit → Bool
  | .finish _, .error _ => true
  | _, _ => false

/-- The calls of a history with their answers, without the attempts to finish that fail. -/
def withoutFailures (calls : List ViewCall) (answers : List (Except ViewError Unit)) :
    List (ViewCall × Except ViewError Unit) :=
  (calls.zip answers).filter fun p => !p.1.isRefusedFinish p.2

namespace Selection

variable {s : Selection} {expand : Bool} {e : ViewError}

/-- Expanding has no part in a failure. -/
theorem finish_eq_error_iff (unfinished : s.isFinished = false) :
    s.finish expand = .error e ↔
      s.segments.mapM (Segment.resolve s.dataset s.newSize) = .error e := by
  have fails : s.finish expand = .error e ↔
      (s.candidates expand).mapM (Segment.resolve s.dataset s.newSize) = .error e := by
    rw [finish_of_unfinished unfinished]
    cases (s.candidates expand).mapM (Segment.resolve s.dataset s.newSize) with
    | error _ => constructor <;> (rintro ⟨⟩; rfl)
    | ok _ => constructor <;> rintro ⟨⟩
  rw [fails]
  cases expand with
  | false => exact Iff.rfl
  | true =>
    refine mapM_append_eq_error_iff fun g hg => ?_
    obtain ⟨v, _, rfl⟩ := List.mem_map.1 hg
    exact ⟨_, Segment.resolve_plain _ _ v⟩

/-- A failed attempt to finish fails again, with either flag. -/
theorem finish_again (fails : s.finish expand = .error e) (again : Bool) :
    s.finish again = .error e := by
  cases state : s.isFinished with
  | true =>
    rw [finish_of_isFinished state] at fails
    cases fails
  | false =>
    rw [finish_eq_error_iff state] at fails ⊢
    exact fails

theorem perform_finish_again (fails : (s.perform (.finish expand)).1 = .error e) (again : Bool) :
    s.perform (.finish again) = (.error e, s) := by
  cases h : s.finish expand with
  | error _ =>
    rw [perform_finish_of_error h] at fails
    cases fails
    exact perform_finish_of_error (finish_again h again)
  | ok _ =>
    rw [perform_finish_of_ok h] at fails
    cases fails

/-- A refused attempt to finish changes nothing. -/
theorem perform_of_isRefusedFinish {c : ViewCall}
    (refused : c.isRefusedFinish (s.perform c).1 = true) : (s.perform c).2 = s := by
  cases c with
  | finish expand =>
    cases answer : (s.perform (.finish expand)).1 with
    | ok _ => rw [answer] at refused; cases refused
    | error e => exact congrArg Prod.snd (perform_finish_again answer expand)
  | _ => cases refused

/-- Without the attempts to finish that fail, all other calls answer the same, and the selection
at the end is the same. -/
theorem run_withoutFailures (s : Selection) (calls : List ViewCall) :
    let kept := withoutFailures calls (s.run calls).1
    s.run (kept.map Prod.fst) = (kept.map Prod.snd, (s.run calls).2) :=
  run_leaving id ViewCall.isRefusedFinish (fun _ _ refused => perform_of_isRefusedFinish refused)
    (fun _ _ _ => rfl) s calls

end Selection

namespace Workbench

/-- Finishing that fails is invisible, also where it has to be undone: it changes no part of the
workbench, either flag fails in the same way at once, and the calls of a history without those
that are to finish and do not answer the same and leave the same. -/
theorem built_withoutFailures (d : Dataset) (calls : List ViewCall) :
    let s := Selection.built d calls
    let w := built d calls
    let kept := withoutFailures calls ((empty d).run calls).1
    w = of s ∧
    (∀ expand e, (w.perform (.finish expand)).1 = .error e →
      (w.perform (.finish expand)).2 = w ∧ (s.perform (.finish expand)).2 = s ∧
      ∀ again, w.perform (.finish again) = (.error e, w) ∧
        s.perform (.finish again) = (.error e, s)) ∧
    (empty d).run (kept.map Prod.fst) = (kept.map Prod.snd, w) ∧
    (Selection.empty d).run (kept.map Prod.fst) = (kept.map Prod.snd, s) := by
  intro s w kept
  have same : w = of s := built_eq d calls
  have nodup : s.vars.Nodup := Selection.nodup_vars_built d calls
  have start : ∀ calls, (empty d).run calls =
      (((Selection.empty d).run calls).1, of ((Selection.empty d).run calls).2) :=
    fun calls => run_of (s := Selection.empty d) List.nodup_nil calls
  have retells : (Selection.empty d).run (kept.map Prod.fst) = (kept.map Prod.snd, s) := by
    have answers : ((empty d).run calls).1 = ((Selection.empty d).run calls).1 :=
      congrArg Prod.fst (start calls)
    rw [show kept = withoutFailures calls _ from rfl, answers]
    exact Selection.run_withoutFailures (Selection.empty d) calls
  refine ⟨same, fun expand e fails => ?_, ?_, retells⟩
  · rw [same, perform_of nodup] at fails
    have fails := Selection.perform_finish_again fails
    have stays : ∀ again, w.perform (.finish again) = (.error e, w) := by
      intro again
      rw [same, perform_of nodup, fails again]
    exact ⟨congrArg Prod.snd (stays expand), congrArg Prod.snd (fails expand),
      fun again => ⟨stays again, fails again⟩⟩
  · rw [start, retells, same]

/-- An index that does not fit, and a profile that expanding fills in before this is noticed. -/
def tooFar : List ViewCall := [.addVariable ⟨0⟩ [.index 7], .addVariable ⟨1⟩ []]

theorem built_withoutFailures_tooFar :
    ((built (Dataset.built "mooring" mooring) tooFar).perform (.finish true)).1 =
      .error (.invalidSlice (.doesNotFit (.index 7) 5)) ∧
    (built (Dataset.built "mooring" mooring) tooFar).perform (.finish false) =
      (.error (.invalidSlice (.doesNotFit (.index 7) 5)),
        built (Dataset.built "mooring" mooring) tooFar) := by
  have fails : ((built (Dataset.built "mooring" mooring) tooFar).perform (.finish true)).1 =
      .error (.invalidSlice (.doesNotFit (.index 7) 5)) := rfl
  obtain ⟨-, retried, -⟩ := built_withoutFailures (Dataset.built "mooring" mooring) tooFar
  obtain ⟨-, -, again⟩ := retried true _ fails
  exact ⟨fails, (again false).1⟩

end Workbench

end Hyperslab
