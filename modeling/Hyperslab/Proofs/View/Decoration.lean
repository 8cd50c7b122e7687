/-
# `Hyperslab.Proofs.View.Decoration` — filters and attributes select nothing

A filter says which records of a variable are wanted, and an attribute says something about a
node.  Neither has a part in which variables are selected, in which order and with which slices,
in what is needed around them, or in whether finishing succeeds: a history without the calls that
set filters or add attributes answers the same and leaves the same selection, up to the filters
and attributes themselves (`run_withoutDecorations`).

It is one statement about each call.  `Selection.undecorated` forgets the filters and attributes;
a call for one of them changes nothing else (`undecorated_perform`), and every other call does the
same to what is left (`perform_undecorated`), finishing that fails included.
-/
import Hyperslab.Proofs.View.Showing
import Hyperslab.Proofs.View.Workbench

namespace Hyperslab

/-- The call sets a filter or adds an attribute. -/
def ViewCall.isDecoration : ViewCall → Bool
  | .addAttribute _ _ | .setFilter _ _ => true
  | .addVariable _ _ | .addRedefinition _ _ | .finish _ => false

/-- The calls of a history with their answers, without those that set a filter or add an
attribute. -/
def withoutDecorations (calls : List ViewCall) (answers : List (Except ViewError Unit)) :
    List (ViewCall × Except ViewError Unit) :=
  (calls.zip answers).filter fun p => !p.1.isDecoration

/-- Mapping the results is mapping the list of results. -/
theorem mapM_map_ok {α β γ ε : Type} (f : α → Except ε β) (h : β → γ) (as : List α) :
    as.mapM (fun a => (f a).map h) = (as.mapM f).map (List.map h) := by
  induction as with
  | nil => rfl
  | cons a as ih =>
    rw [List.mapM_cons, List.mapM_cons, ih]
    cases f a with
    | error _ => rfl
    | ok _ => cases as.mapM f <;> rfl

/-! ## Without filters -/

namespace Segment

/-- The segment without its filter. -/
def unfiltered (g : Segment) : Segment := { g with filter := none }

@[simp] theorem var_unfiltered (g : Segment) : g.unfiltered.var = g.var := rfl

theorem resolve_unfiltered (d : Dataset) (size : DimId → Nat) (g : Segment) :
    g.unfiltered.resolve d size = (g.resolve d size).map unfiltered := by
  unfold resolve unfiltered
  dsimp only
  split
  · rfl
  · cases resolveSlices size (d.var g.var).dimensions g.slices <;> rfl

end Segment

namespace Selection

/-- The selection without filters and attributes. -/
def undecorated (s : Selection) : Selection :=
  { s with segments := s.segments.map Segment.unfiltered, overlays := [] }

variable (s : Selection)

theorem vars_undecorated : s.undecorated.vars = s.vars :=
  map_var_map Segment.var_unfiltered s.segments

theorem contains_undecorated : s.undecorated.contains = s.contains := by
  funext v
  rw [contains, contains, vars_undecorated]

theorem segment?_undecorated (v : VarId) :
    s.undecorated.segment? v = (s.segment? v).map Segment.unfiltered :=
  find?_map_of_var Segment.var_unfiltered s.segments v

theorem slices?_undecorated (v : VarId) : s.undecorated.slices? v = s.slices? v := by
  rw [slices?, segment?_undecorated, Option.map_map]
  rfl

theorem references_undecorated (n : Node) : s.undecorated.references n = s.references n := by
  cases n with
  | ofVariable v => exact congrFun s.contains_undecorated v
  | ofGroup | ofDimension | ofEnumeration | ofAttribute => rfl

/-- The display shows neither filters nor attributes. -/
theorem render_undecorated : s.undecorated.render .display = s.render .display := by
  have look : Segment.visible .display ∘ Segment.unfiltered = Segment.visible .display := rfl
  refine ShowsLike.render_eq ⟨rfl, rfl, rfl, rfl, ?_⟩
  exact (List.map_map ..).trans (congrArg (fun f => s.segments.map f) look)

/-! ## Finishing -/

theorem candidates_undecorated (expand : Bool) :
    s.undecorated.candidates expand = (s.candidates expand).map Segment.unfiltered := by
  cases expand with
  | false => rfl
  | true =>
    -- what expanding adds has no filters
    have added : ∀ vs : List VarId, (vs.map Segment.plain).map Segment.unfiltered =
        vs.map Segment.plain := fun vs => List.map_map ..
    have length : s.undecorated.segments.length = s.segments.length := List.length_map _
    show s.undecorated.expanded = s.expanded.map _
    rw [expanded, expanded, List.map_append, added, vars_undecorated, length]
    rfl

theorem outcomeOf_undecorated (gs : List Segment) :
    s.undecorated.outcomeOf (gs.map Segment.unfiltered) = s.outcomeOf gs := by
  have dimensions : s.dataset.neededDimensions (gs.map Segment.unfiltered) =
      s.dataset.neededDimensions gs := congrArg List.eraseDups (List.flatMap_map ..)
  have enums : s.dataset.neededEnums (gs.map Segment.unfiltered) = s.dataset.neededEnums gs :=
    congrArg List.eraseDups List.filterMap_map
  have groups : ∀ xs es, s.dataset.neededGroups (gs.map Segment.unfiltered) xs es =
      s.dataset.neededGroups gs xs es := fun xs es => by
    rw [Dataset.neededGroups, List.flatMap_map]
    rfl
  have dataset : s.undecorated.dataset = s.dataset := rfl
  rw [outcomeOf, outcomeOf, dataset, dimensions, enums, groups]
  rfl

/-- Finishing succeeds or fails without filters and attributes as it does with them. -/
theorem finish_undecorated (expand : Bool) :
    s.undecorated.finish expand = (s.finish expand).map undecorated := by
  cases state : s.isFinished with
  | true =>
    have still : s.undecorated.isFinished = true := state
    rw [finish_of_isFinished state, finish_of_isFinished still]
    rfl
  | false =>
    have still : s.undecorated.isFinished = false := state
    have resolves : Segment.resolve s.dataset s.newSize ∘ Segment.unfiltered =
        fun g => (g.resolve s.dataset s.newSize).map Segment.unfiltered :=
      funext fun g => g.resolve_unfiltered s.dataset s.newSize
    have all : (s.undecorated.candidates expand).mapM
        (Segment.resolve s.undecorated.dataset s.undecorated.newSize) =
        ((s.candidates expand).mapM (Segment.resolve s.dataset s.newSize)).map
          (List.map Segment.unfiltered) := by
      rw [candidates_undecorated, List.mapM_map, ← mapM_map_ok, ← resolves]
      rfl
    rw [finish_of_unfinished state, finish_of_unfinished still, all, candidates_undecorated,
      outcomeOf_undecorated]
    cases (s.candidates expand).mapM (Segment.resolve s.dataset s.newSize) <;> rfl

/-! ## Histories -/

variable {s} {c : ViewCall}

/-- A filter or an attribute changes nothing else. -/
theorem undecorated_perform (decorates : c.isDecoration = true) :
    (s.perform c).2.undecorated = s.undecorated := by
  cases state : s.isFinished with
  | true => rw [perform_of_isFinished state]
  | false =>
    cases c with
    | addAttribute n a =>
      rw [perform_addAttribute state]
      rfl
    | setFilter v e =>
      have forgotten : Segment.unfiltered ∘
          (fun g : Segment => if g.var = v then { g with filter := some e } else g) =
            Segment.unfiltered := by
        funext g
        rw [Function.comp_apply]
        split <;> rfl
      rw [perform_setFilter state]
      unfold undecorated
      dsimp only
      rw [List.map_map, forgotten]
    | addVariable | addRedefinition | finish => cases decorates

/-- The other calls do not ask for filters and attributes. -/
theorem perform_undecorated (selects : c.isDecoration = false) :
    s.undecorated.perform c = ((s.perform c).1, (s.perform c).2.undecorated) := by
  cases state : s.isFinished with
  | true =>
    have still : s.undecorated.isFinished = true := state
    rw [perform_eq_of_isFinished state, perform_eq_of_isFinished still]
  | false =>
    have still : s.undecorated.isFinished = false := state
    cases c with
    | addVariable v slices =>
      rw [perform_addVariable state, perform_addVariable still, contains_undecorated]
      dsimp only
      split
      · rfl
      · unfold undecorated
        dsimp only
        rw [List.map_append]
        rfl
    | addRedefinition x slice =>
      have same : s.undecorated.redefinition? x = s.redefinition? x := rfl
      rw [perform_addRedefinition state, perform_addRedefinition still, same]
      dsimp only
      split <;> rfl
    | finish expand =>
      have done := s.finish_undecorated expand
      cases finished : s.finish expand with
      | error e =>
        rw [finished] at done
        rw [perform_finish_of_error finished, perform_finish_of_error done]
      | ok t =>
        rw [finished] at done
        rw [perform_finish_of_ok finished, perform_finish_of_ok done]
    | addAttribute | setFilter => cases selects

/-- Without the calls that set filters or add attributes, all other calls answer the same, and the
selection at the end is the same without filters and attributes. -/
theorem run_undecorated (s : Selection) (calls : List ViewCall) :
    s.undecorated.run ((withoutDecorations calls (s.run calls).1).map Prod.fst) =
      ((withoutDecorations calls (s.run calls).1).map Prod.snd, (s.run calls).2.undecorated) :=
  run_leaving undecorated (fun c _ => c.isDecoration) (fun _ _ => undecorated_perform)
    (fun _ _ => perform_undecorated) s calls

/-- The calls that remain are the others of the history, in order. -/
theorem map_fst_withoutDecorations (s : Selection) (calls : List ViewCall) :
    (withoutDecorations calls (s.run calls).1).map Prod.fst =
      calls.filter fun c => !c.isDecoration := by
  have all : (calls.zip (s.run calls).1).map Prod.fst = calls :=
    List.map_fst_zip (Nat.le_of_eq (s.length_run calls).symm)
  calc (withoutDecorations calls (s.run calls).1).map Prod.fst
      = ((calls.zip (s.run calls).1).map Prod.fst).filter fun c => !c.isDecoration := by
        rw [List.filter_map]
        rfl
    _ = calls.filter fun c => !c.isDecoration := by rw [all]

/-- Two selections of the same: all that can be asked, except for filters and attributes and the
text that shows them. -/
structure SelectsLike (s t : Selection) : Prop where
  finished : s.isFinished = t.isFinished
  vars : s.vars = t.vars
  slices : ∀ v, s.slices? v = t.slices? v
  redefinitions : s.redefinitions = t.redefinitions
  redefined : s.redefined = t.redefined
  dimensions : s.dimensions = t.dimensions
  enums : s.enums = t.enums
  groups : s.groups = t.groups
  display : s.render .display = t.render .display
  references : ∀ n, s.references n = t.references n

theorem selectsLike_undecorated (s : Selection) : s.undecorated.SelectsLike s where
  finished := rfl
  vars := s.vars_undecorated
  slices := s.slices?_undecorated
  redefinitions := rfl
  redefined := rfl
  dimensions := rfl
  enums := rfl
  groups := rfl
  display := s.render_undecorated
  references := s.references_undecorated

/-- Whatever the history and wherever finishing fails in it, without the calls that set filters or
add attributes all other calls answer the same and the selection is of the same: it is the one
with them, without its filters and attributes.  This is so as well where finishing is done in
place. -/
theorem built_withoutDecorations (d : Dataset) (calls : List ViewCall) :
    let rest := calls.filter fun c => !c.isDecoration
    let s := built d calls
    let t := built d rest
    ((empty d).run rest).1 =
      (withoutDecorations calls ((empty d).run calls).1).map Prod.snd ∧
    t = s.undecorated ∧ t.SelectsLike s ∧
    ((Workbench.empty d).run rest).1 =
      (withoutDecorations calls ((Workbench.empty d).run calls).1).map Prod.snd ∧
    Workbench.built d calls = .of s ∧ Workbench.built d rest = .of t := by
  intro rest s t
  have runs : (empty d).run rest =
      ((withoutDecorations calls ((empty d).run calls).1).map Prod.snd, s.undecorated) := by
    have without := run_undecorated (empty d) calls
    rw [map_fst_withoutDecorations] at without
    exact without
  have same : t = s.undecorated := congrArg Prod.snd runs
  have answers : ∀ calls, ((Workbench.empty d).run calls).1 = ((empty d).run calls).1 :=
    fun calls => congrArg Prod.fst (Workbench.run_of (s := empty d) List.nodup_nil calls)
  refine ⟨congrArg Prod.fst runs, same, same ▸ s.selectsLike_undecorated, ?_,
    Workbench.built_eq d calls, Workbench.built_eq d rest⟩
  rw [answers, answers]
  exact congrArg Prod.fst runs

end Selection

end Hyperslab
