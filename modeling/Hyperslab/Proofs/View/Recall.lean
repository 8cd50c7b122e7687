/-
# `Hyperslab.Proofs.View.Recall` — a selection is its history

`History` says what the first calls leave behind.  Here is the rest of what a selection under
construction holds, so that the whole of it can be read off the calls that made it:

  * a segment has the slices of the first call for its variable, and the last filter that was
    set after that call (`segment?_built`); a filter that was set before it is forgotten;
  * the segments stand in the order of these first calls (`vars_built`);
  * the attributes of a node are all that were added to it, in order (`attributes_built`).

A finished selection answers every call without looking at it, and stays as it is
(`run_of_isFinished`).  `built_recalls_history` puts all of this together, for the selection and
for the workbench that the same calls make.
-/
import Hyperslab.Proofs.View.Workbench
import Mathlib.Data.List.TakeWhile

namespace Hyperslab

/-! ## What a history asks for -/

/-- The filter that a call sets, if it is a call for the variable. -/
def ViewCall.filterFor? (v : VarId) : ViewCall → Option Expr
  | .setFilter w e => if w = v then some e else none
  | _ => none

/-- The attribute that a call adds, if it is a call for the node. -/
def ViewCall.attributeFor? (n : Node) : ViewCall → Option Attribute
  | .addAttribute m a => if m = n then some a else none
  | _ => none

def ViewCall.selected? : ViewCall → Option VarId
  | .addVariable v _ => some v
  | _ => none

/-- The calls from the first one that selects a variable on. -/
def callsSince (calls : List ViewCall) (v : VarId) : List ViewCall :=
  calls.dropWhile fun c => (c.slicesFor? v).isNone

/-- The last filter of a variable, among those that were set after it was selected. -/
def askedFilter? (calls : List ViewCall) (v : VarId) : Option Expr :=
  ((callsSince calls v).filterMap (ViewCall.filterFor? v)).getLast?

def askedAttributes (calls : List ViewCall) (n : Node) : List Attribute :=
  calls.filterMap (ViewCall.attributeFor? n)

/-- The variables selected, each where it is selected first. -/
def askedVars (calls : List ViewCall) : List VarId :=
  (calls.filterMap ViewCall.selected?).eraseDups

theorem callsSince_eq_nil_iff {calls : List ViewCall} {v : VarId} :
    callsSince calls v = [] ↔ askedSlices? calls v = none := by
  rw [callsSince, List.dropWhile_eq_nil_iff, askedSlices?, List.findSome?_eq_none_iff]
  simp only [Option.isNone_iff_eq_none]

theorem callsSince_concat (calls : List ViewCall) (c : ViewCall) (v : VarId) :
    callsSince (calls ++ [c]) v =
      if askedSlices? calls v = none then callsSince [c] v else callsSince calls v ++ [c] := by
  unfold callsSince
  rw [List.dropWhile_append]
  exact if_congr (List.isEmpty_iff.trans callsSince_eq_nil_iff) rfl rfl

/-- One more call after those for a variable that is selected. -/
theorem askedFilter?_concat_of_isSome {calls : List ViewCall} {v : VarId}
    (asked : (askedSlices? calls v).isSome) (c : ViewCall) :
    askedFilter? (calls ++ [c]) v = (c.filterFor? v).or (askedFilter? calls v) := by
  have begun : askedSlices? calls v ≠ none := Option.isSome_iff_ne_none.1 asked
  rw [askedFilter?, callsSince_concat, if_neg begun, List.filterMap_append, List.getLast?_append]
  cases h : c.filterFor? v with
  | none => rw [List.filterMap_cons_none h]; rfl
  | some e => rw [List.filterMap_cons_some h]; rfl

/-- No filter is set while a variable is not selected, nor by the call that selects it. -/
theorem askedFilter?_concat_of_none {calls : List ViewCall} {v : VarId}
    (unasked : askedSlices? calls v = none) (c : ViewCall) :
    askedFilter? (calls ++ [c]) v = none := by
  rw [askedFilter?, callsSince_concat, if_pos unasked]
  cases c with
  | addVariable w slices =>
    have sets : ViewCall.filterFor? v (.addVariable w slices) = none := rfl
    by_cases same : w = v
    · rw [callsSince, List.dropWhile_cons_of_neg (by simp [ViewCall.slicesFor?, same]),
        List.filterMap_cons_none sets]
      rfl
    · rw [callsSince, List.dropWhile_cons_of_pos (by simp [ViewCall.slicesFor?, same])]
      rfl
  | _ => rfl

namespace Selection

variable {d : Dataset} {s t : Selection} {calls : List ViewCall}

/-! ## Under construction -/

/-- A segment that is put behind the others is found unless its variable has one. -/
theorem find?_concat (gs : List Segment) (g : Segment) (v : VarId) :
    ((gs ++ [g]).find? fun g => g.var == v) =
      (gs.find? fun g => g.var == v).or (if g.var = v then some g else none) := by
  rw [List.find?_append, List.find?_singleton]
  simp only [beq_iff_eq]

/-- What a call makes of the segment of a variable. -/
theorem Next.segment?_eq {c : ViewCall} (step : Next s c t) (still : t.isFinished = false)
    (v : VarId) : t.segment? v =
      match s.segment? v with
      | some g => some { g with filter := (c.filterFor? v).or g.filter }
      | none => (c.slicesFor? v).map fun slices => ⟨v, slices, none⟩ := by
  cases step with
  | redefineAgain | redefine | overlay | failFinish =>
    show s.segment? v = _
    cases s.segment? v <;> rfl
  | @selectAgain w slices there =>
    obtain ⟨g, hg⟩ := Option.isSome_iff_exists.1 (isSome_segment?_iff.2 there)
    cases found : s.segment? v with
    | some _ => rfl
    | none =>
      have other : w ≠ v := by
        rintro rfl
        rw [hg] at found
        cases found
      show none = Option.map _ (if w = v then some slices else none)
      rw [if_neg other]
      rfl
  | @select w slices new =>
    show ((s.segments ++ [_]).find? _) = _
    rw [find?_concat, ← segment?]
    cases found : s.segment? v with
    | some _ => rfl
    | none =>
      show (if w = v then _ else _) = Option.map _ (if w = v then _ else _)
      split
      · rename_i same
        rw [same]
        rfl
      · rfl
  | @filter w e =>
    -- setting a filter changes no variable, so the same segment is found, perhaps with a filter
    show ((s.segments.map _).find? _) = _
    rw [find?_map_of_var (fun g => by split <;> rfl), ← segment?]
    cases found : s.segment? v with
    | none => rfl
    | some g =>
      have var : g.var = v := (mem_of_segment? found).2
      show some (if g.var = w then _ else g) = some { g with
        filter := Option.or (if w = v then _ else none) g.filter }
      by_cases same : w = v
      · rw [if_pos (var.trans same.symm), if_pos same]
        rfl
      · rw [if_neg fun h => same (h.symm.trans var), if_neg same]
        rfl
  | finish done => exact absurd still (not_unfinished_of_finish done)

/-- Up to finishing, the segment of a variable has the slices of the first call for it, and the
last filter that was set after that call. -/
theorem segment?_built (unfinished : (built d calls).isFinished = false) (v : VarId) :
    (built d calls).segment? v =
      (askedSlices? calls v).map fun slices => ⟨v, slices, askedFilter? calls v⟩ := by
  refine built_unfinished (P := fun calls s => s.segment? v =
    (askedSlices? calls v).map fun slices => ⟨v, slices, askedFilter? calls v⟩) rfl ?_ unfinished
  intro calls s c t ih step still
  rw [step.segment?_eq still, ih]
  have next : askedSlices? (calls ++ [c]) v = (askedSlices? calls v).or (c.slicesFor? v) := by
    rw [askedSlices?, List.findSome?_append, List.findSome?_singleton]
    rfl
  cases asked : askedSlices? calls v with
  | some slices =>
    rw [next, asked, askedFilter?_concat_of_isSome (by rw [asked]; rfl)]
    rfl
  | none =>
    rw [next, asked, askedFilter?_concat_of_none asked]
    rfl

/-- Up to finishing, the segments stand in the order of the first calls for their variables. -/
theorem vars_built (unfinished : (built d calls).isFinished = false) :
    (built d calls).vars = askedVars calls := by
  refine built_unfinished (P := fun calls s => s.vars = askedVars calls) rfl ?_ unfinished
  intro calls s c t ih step still
  have next : askedVars (calls ++ [c]) = match c.selected? with
      | some v => if v ∈ s.vars then s.vars else s.vars ++ [v]
      | none => s.vars := by
    rw [ih, askedVars, List.filterMap_append]
    cases h : c.selected? with
    | none => rw [List.filterMap_cons_none h, List.filterMap_nil, List.append_nil]; rfl
    | some v =>
      rw [List.filterMap_cons_some h, List.filterMap_nil, eraseDups_concat]
      exact if_congr List.mem_eraseDups.symm rfl rfl
  rw [next]
  cases step with
  | redefineAgain | redefine | overlay | failFinish => rfl
  | selectAgain there => exact (if_pos there).symm
  | select new => exact List.map_append.trans (if_neg new).symm
  | filter =>
    exact map_var_map (fun g => by split <;> rfl) s.segments
  | finish done => exact absurd still (not_unfinished_of_finish done)

/-- Up to finishing, a node has all attributes that were added to it, in order. -/
theorem attributes_built (unfinished : (built d calls).isFinished = false) (n : Node) :
    (built d calls).attributes n = askedAttributes calls n := by
  refine built_unfinished (P := fun calls s => s.attributes n = askedAttributes calls n) rfl ?_
    unfinished
  intro calls s c t ih step still
  rw [askedAttributes, List.filterMap_append, ← askedAttributes, ← ih]
  cases step with
  | selectAgain | select | redefineAgain | redefine | filter | failFinish =>
    exact (List.append_nil _).symm
  | @overlay m a =>
    show ((s.overlays ++ [(m, a)]).filter _).map _ = _
    rw [List.filter_append, List.map_append]
    refine congrArg (s.attributes n ++ ·) ?_
    by_cases same : m = n
    · have adds : ViewCall.attributeFor? n (.addAttribute m a) = some a := if_pos same
      rw [List.filter_cons_of_pos (by simpa using same), List.filterMap_cons_some adds]
      rfl
    · have adds : ViewCall.attributeFor? n (.addAttribute m a) = none := if_neg same
      rw [List.filter_cons_of_neg (by simpa using same), List.filterMap_cons_none adds]
      rfl
  | finish done => exact absurd still (not_unfinished_of_finish done)

/-! ## Finished -/

/-- A finished selection refuses all calls but finishing. -/
theorem usage_of_answerOfFinished (c : ViewCall) :
    (∃ expand, c = .finish expand ∧ c.answerOfFinished = .ok ()) ∨
      ∃ e, c.answerOfFinished = .error e ∧ Reported.kind e = .usage := by
  cases c with
  | finish expand => exact .inl ⟨expand, rfl, rfl⟩
  | _ => exact .inr ⟨_, rfl, rfl⟩

/-- A finished selection answers all calls without looking at them, and stays what it is. -/
theorem run_of_isFinished (finished : s.isFinished = true) (calls : List ViewCall) :
    s.run calls = (calls.map ViewCall.answerOfFinished, s) := by
  induction calls with
  | nil => rfl
  | cons c rest ih =>
    rw [run, perform_eq_of_isFinished finished]
    dsimp only
    rw [ih]
    rfl

theorem isFinished_of_perform_finish {expand : Bool}
    (done : (s.perform (.finish expand)).1 = .ok ()) :
    (s.perform (.finish expand)).2.isFinished = true := by
  cases h : s.finish expand with
  | error e =>
    rw [perform_finish_of_error h] at done
    cases done
  | ok t =>
    rw [perform_finish_of_ok h]
    exact isFinished_of_finish h

/-- After a call that finishes, a selection stays what it is. -/
theorem built_of_finish {before : List ViewCall} {expand : Bool} (after : List ViewCall)
    (done : ((built d before).perform (.finish expand)).1 = .ok ()) :
    (built d (before ++ [.finish expand])).isFinished = true ∧
      built d (before ++ .finish expand :: after) = built d (before ++ [.finish expand]) := by
  have finished : (built d (before ++ [.finish expand])).isFinished = true := by
    rw [built_concat]
    exact isFinished_of_perform_finish done
  refine ⟨finished, ?_⟩
  rw [List.append_cons, built, run_append, ← built, run_of_isFinished finished]

/-! ## The whole of it -/

/-- A selection holds what a history asks for, and nothing else. -/
structure Recalls (s : Selection) (calls : List ViewCall) : Prop where
  selects : ∀ v, (s.segment? v).isSome ↔ ∃ slices, .addVariable v slices ∈ calls
  segment? : ∀ v, s.segment? v =
    (askedSlices? calls v).map fun slices => ⟨v, slices, askedFilter? calls v⟩
  redefinition? : ∀ x, s.redefinition? x = askedRedefinition? calls x
  attributes : ∀ n, s.attributes n = askedAttributes calls n
  /-- The segments stand in the order in which their variables were selected first. -/
  vars : s.vars = askedVars calls

theorem isSome_askedSlices?_iff {v : VarId} :
    (askedSlices? calls v).isSome ↔ ∃ slices, .addVariable v slices ∈ calls := by
  rw [askedSlices?, List.findSome?_isSome_iff]
  constructor
  · rintro ⟨c, hc, some⟩
    cases c with
    | addVariable w slices =>
      by_cases same : w = v
      · exact ⟨slices, same ▸ hc⟩
      · rw [ViewCall.slicesFor?, if_neg same] at some
        cases some
    | _ => cases some
  · rintro ⟨slices, hc⟩
    exact ⟨_, hc, by rw [ViewCall.slicesFor?, if_pos rfl]; rfl⟩

theorem recalls_built (unfinished : (built d calls).isFinished = false) :
    (built d calls).Recalls calls where
  selects v := by
    rw [segment?_built unfinished, Option.isSome_map]
    exact isSome_askedSlices?_iff
  segment? := segment?_built unfinished
  redefinition? := redefinition?_built unfinished
  attributes := attributes_built unfinished
  vars := vars_built unfinished

end Selection

namespace Workbench

/-- The segment that the index leads to. -/
def segment? (w : Workbench) (v : VarId) : Option Segment :=
  (w.positions v).bind fun i => w.segments[i]?

/-- The index leads to a place exactly if the segment there is of the variable. -/
def Indexed (w : Workbench) : Prop :=
  ∀ v i, w.positions v = some i ↔ (w.segments[i]?).map Segment.var = some v

variable {d : Dataset} {s : Selection} {calls : List ViewCall}

theorem indexed_of (nodup : s.vars.Nodup) : (of s).Indexed := by
  intro v i
  show s.position? v = some i ↔ (s.segments[i]?).map Segment.var = some v
  rw [Selection.position?_eq_some_iff nodup, Selection.vars, List.getElem?_map]

theorem segment?_of (s : Selection) (v : VarId) : (of s).segment? v = s.segment? v := by
  show ((s.segments.findIdx? _).bind fun i => s.segments[i]?) = s.segments.find? _
  exact List.find?_eq_bind_findIdx?_getElem?.symm

/-- A workbench remembers its history up to finishing, and nothing after it.  It is the workbench
of the selection that the same calls make; its index and its segments determine each other. -/
theorem built_recalls_history (d : Dataset) (calls : List ViewCall) :
    let s := Selection.built d calls
    let w := built d calls
    w = of s ∧ (∀ v, w.segment? v = s.segment? v) ∧ w.Indexed ∧
    (w.finished = false → s.Recalls calls) ∧
    ∀ before expand after, calls = before ++ .finish expand :: after →
      ((built d before).perform (.finish expand)).1 = .ok () →
        w.finished = true ∧ w = built d (before ++ [.finish expand]) ∧
        ∀ later, w.run later = (later.map ViewCall.answerOfFinished, w) ∧
          s.run later = (later.map ViewCall.answerOfFinished, s) ∧
          ∀ c ∈ later, (∃ expand, c = .finish expand ∧ c.answerOfFinished = .ok ()) ∨
            ∃ e, c.answerOfFinished = .error e ∧ Reported.kind e = .usage := by
  intro s w
  have same : w = of s := built_eq d calls
  have nodup : s.vars.Nodup := Selection.nodup_vars_built d calls
  refine ⟨same, fun v => same ▸ segment?_of s v, same ▸ indexed_of nodup, fun unfinished => ?_, ?_⟩
  · rw [same] at unfinished
    exact Selection.recalls_built unfinished
  · intro before expand after history done
    rw [built_eq, perform_of (Selection.nodup_vars_built d before)] at done
    obtain ⟨finished, stays⟩ := Selection.built_of_finish after done
    rw [← history] at stays
    have finished : s.isFinished = true := (congrArg Selection.isFinished stays).trans finished
    have answers := Selection.run_of_isFinished finished
    refine ⟨same ▸ finished, ?_, fun later => ⟨?_, answers later, fun c _ =>
      Selection.usage_of_answerOfFinished c⟩⟩
    · rw [same, built_eq]
      exact congrArg of stays
    · rw [same, run_of nodup, answers]

/-- A filter too early, a variable twice, and finishing before the dimension has the size for
index 7. -/
def busy : List ViewCall :=
  [.setFilter ⟨0⟩ (.field "depth"), .addVariable ⟨0⟩ [.index 7], .addVariable ⟨1⟩ [],
    .addVariable ⟨0⟩ [.index 1], .setFilter ⟨0⟩ (.field "t"), .finish true,
    .addRedefinition ⟨0⟩ ⟨0, 1, some 10, true, false⟩]

theorem built_recalls_history_busy :
    (built (Dataset.built "mooring" mooring) busy).finished = false ∧
    (Selection.built (Dataset.built "mooring" mooring) busy).Recalls busy ∧
    (Selection.built (Dataset.built "mooring" mooring) busy).segment? ⟨0⟩ =
      some ⟨⟨0⟩, [.index 7], some (.field "t")⟩ ∧
    ((built (Dataset.built "mooring" mooring) busy).perform (.finish true)).1 = .ok () ∧
    (built (Dataset.built "mooring" mooring) (busy ++ [.finish true, .addVariable ⟨2⟩ []])) =
      built (Dataset.built "mooring" mooring) (busy ++ [.finish true]) := by
  have unfinished : (built (Dataset.built "mooring" mooring) busy).finished = false := by decide
  have done : ((built (Dataset.built "mooring" mooring) busy).perform (.finish true)).1 =
      .ok () := rfl
  obtain ⟨-, -, -, recalls, -⟩ := built_recalls_history (Dataset.built "mooring" mooring) busy
  obtain ⟨-, -, -, -, after⟩ := built_recalls_history (Dataset.built "mooring" mooring)
    (busy ++ [.finish true, .addVariable ⟨2⟩ []])
  obtain ⟨-, same, -⟩ := after busy true [.addVariable ⟨2⟩ []] rfl done
  refine ⟨unfinished, recalls unfinished, ?_, done, same⟩
  exact ((recalls unfinished).segment? ⟨0⟩).trans (by decide)

end Workbench

end Hyperslab
