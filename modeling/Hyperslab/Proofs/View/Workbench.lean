/-
# `Hyperslab.Proofs.View.Workbench` — finishing in place

A selection is a value, and a call that fails gives it back as it was.  Memory is used
differently: segments are found through an index of their places, and finishing goes over the
selection in passes, each of which writes down what it finds.  The third pass is the one that can
fail, and by then the first two have written; they are undone by hand, the segments and the index
from a copy and the list of enumerations by emptying it.

A `Workbench` is a selection that is treated like this.  `perform_of` says that nobody can tell
the difference: every call answers the same and leaves the workbench of the selection that it
leaves.  Two things make this true.  While a selection is under construction the lists of its
outcome are empty, so that emptying one is undoing; and no variable is selected twice, so that
the index is one of places and not only of last places.
-/
import Hyperslab.Proofs.View.Finished

namespace Hyperslab

/-! ## Lists without duplicates -/

/-- The list with one more element at its end, unless it is there. -/
def noted {α : Type} [BEq α] (xs : List α) (x : α) : List α :=
  if xs.contains x then xs else xs ++ [x]

/-- Without duplicates, a new element comes to the end and an old one stays where it was. -/
theorem eraseDups_concat {α : Type} [DecidableEq α] (xs : List α) (x : α) :
    (xs ++ [x]).eraseDups = if x ∈ xs then xs.eraseDups else xs.eraseDups ++ [x] := by
  rw [List.eraseDups_append]
  split
  · rename_i old
    rw [List.removeAll, List.filter_cons_of_neg (by simpa using old)]
    exact List.append_nil _
  · rename_i new
    rw [List.removeAll, List.filter_cons_of_pos (by simpa using new)]
    rfl

theorem foldl_noted {α : Type} [DecidableEq α] (xs : List α) :
    xs.foldl noted [] = xs.eraseDups := by
  induction xs using List.reverseRecOn with
  | nil => rfl
  | append_singleton xs x ih =>
    rw [List.foldl_concat, ih, eraseDups_concat, noted]
    refine if_congr ?_ rfl rfl
    rw [List.contains_iff_mem, List.mem_eraseDups]

/-! ## The workbench -/

/-- A selection whose parts are written in place. -/
structure Workbench where
  dataset : Dataset
  segments : List Segment
  /-- Where the segment of a variable stands. -/
  positions : VarId → Option Nat
  redefinitions : List (DimId × Slice)
  attributes : Node → List Attribute
  redefined : List Dimension
  dimensions : List DimId
  enums : List EnumId
  groups : List GroupId
  finished : Bool

namespace Workbench

def empty (d : Dataset) : Workbench :=
  ⟨d, [], fun _ => none, [], fun _ => [], [], [], [], [], false⟩

/-- Puts a segment behind the others and notes its place. -/
def push (w : Workbench) (g : Segment) : Workbench :=
  { w with
    segments := w.segments ++ [g]
    positions := fun v => if v = g.var then some w.segments.length else w.positions v }

def addVariable (w : Workbench) (v : VarId) (slices : List Slice) : Workbench :=
  if (w.positions v).isSome then w else w.push ⟨v, slices, none⟩

def addRedefinition (w : Workbench) (x : DimId) (slice : Slice) : Workbench :=
  if w.redefinitions.any fun r => r.1 == x then w
  else { w with redefinitions := w.redefinitions ++ [(x, slice)] }

def addAttribute (w : Workbench) (n : Node) (a : Attribute) : Workbench :=
  { w with attributes := fun m => if m = n then w.attributes n ++ [a] else w.attributes m }

/-- Writes a filter into the segment at the place of its variable. -/
def setFilter (w : Workbench) (v : VarId) (e : Expr) : Workbench :=
  match w.positions v with
  | some i => { w with segments := w.segments.modify i fun g => { g with filter := some e } }
  | none => w

/-! ### The passes of finishing -/

/-- Selects all that expanding adds. -/
def expandFields (w : Workbench) : Workbench :=
  ((w.dataset.expand (w.segments.map Segment.var)).drop w.segments.length).foldl
    (fun w v => w.push (.plain v)) w

/-- Notes the enumerations of all segments, behind those that are noted already. -/
def collectEnums (w : Workbench) : Workbench :=
  { w with enums := (w.segments.filterMap fun g => w.dataset.enumOf? g.var).foldl noted w.enums }

/-- Resolves all segments, or writes nothing. -/
def resolveSegments (w : Workbench) : Except ViewError Workbench :=
  let redefined := w.redefinitions.map fun r => (w.dataset.dimension r.1).redefine r.2
  let size := fun x => ((redefined.find? fun y => y.id == x).getD (w.dataset.dimension x)).size
  match w.segments.mapM (Segment.resolve w.dataset size) with
  | .ok segments => .ok { w with
      segments, redefined
      dimensions := (w.segments.flatMap fun g => g.free w.dataset).foldl noted [] }
  | .error e => .error e

/-- Notes the groups around the variables, shared dimensions and enumerations. -/
def collectGroups (w : Workbench) : Workbench :=
  let shared := w.dimensions.filter fun x => (w.dataset.dimension x).shared
  { w with groups := (w.segments.flatMap (fun g => w.dataset.variablePath g.var)
      ++ shared.flatMap w.dataset.dimensionPath
      ++ w.enums.flatMap w.dataset.enumPath).foldl noted [] }

/-- Takes back what the first two passes have written: the copies that were made before them are
put back, and the enumerations are given up. -/
def undo (w : Workbench) (segments : List Segment) (positions : VarId → Option Nat) : Workbench :=
  { w with segments, positions, enums := [] }

/-- Finishes in passes, and undoes the first two if the third fails. -/
def finish (w : Workbench) (expand : Bool) : Except ViewError Unit × Workbench :=
  if w.finished then (.ok (), w)
  else
    let collected := (if expand then w.expandFields else w).collectEnums
    match collected.resolveSegments with
    | .ok resolved => (.ok (), { resolved.collectGroups with finished := true })
    | .error e => (.error e, collected.undo w.segments w.positions)

/-! ### Calls -/

/-- Makes a change, unless the workbench is finished. -/
def change (w : Workbench) (op : ViewOperation) (w' : Workbench) :
    Except ViewError Unit × Workbench :=
  if w.finished then (.error (.finished op), w) else (.ok (), w')

/-- What a call answers, and the workbench after it. -/
def perform (w : Workbench) : ViewCall → Except ViewError Unit × Workbench
  | .addVariable v slices => w.change .addVariable (w.addVariable v slices)
  | .addRedefinition x slice => w.change .addRedefinition (w.addRedefinition x slice)
  | .addAttribute n a => w.change .addAttribute (w.addAttribute n a)
  | .setFilter v e => w.change .setFilter (w.setFilter v e)
  | .finish expand => w.finish expand

/-- The answers to a sequence of calls, and the workbench after them. -/
def run (w : Workbench) : List ViewCall → List (Except ViewError Unit) × Workbench
  | [] => ([], w)
  | c :: rest =>
    let (answer, w) := w.perform c
    let (answers, w) := w.run rest
    (answer :: answers, w)

/-- The workbench that a sequence of calls makes from nothing. -/
def built (d : Dataset) (calls : List ViewCall) : Workbench := ((empty d).run calls).2

/-- The workbench of a selection. -/
def of (s : Selection) : Workbench where
  dataset := s.dataset
  segments := s.segments
  positions := s.position?
  redefinitions := s.redefinitions
  attributes := s.attributes
  redefined := s.redefined
  dimensions := s.dimensions
  enums := s.enums
  groups := s.groups
  finished := s.isFinished

end Workbench

/-! ## Places -/

namespace Selection

variable {s t : Selection}

theorem position?_eq_find (s : Selection) (v : VarId) :
    s.position? v = s.vars.findIdx? fun w => w == v := by
  rw [vars, List.findIdx?_map]
  rfl

/-- Where no variable is selected twice, places and variables determine each other. -/
theorem position?_eq_some_iff (nodup : s.vars.Nodup) {v : VarId} {i : Nat} :
    s.position? v = some i ↔ s.vars[i]? = some v := by
  rw [position?_eq_find, List.findIdx?_eq_some_iff_getElem, List.getElem?_eq_some_iff]
  constructor
  · rintro ⟨inside, found, _⟩
    exact ⟨inside, beq_iff_eq.1 found⟩
  · rintro ⟨inside, rfl⟩
    refine ⟨inside, beq_self_eq_true _, fun j before same => ?_⟩
    have := (nodup.getElem_inj_iff).1 (beq_iff_eq.1 same)
    omega

theorem position?_eq_none_iff {v : VarId} : s.position? v = none ↔ v ∉ s.vars := by
  rw [position?_eq_find, List.findIdx?_eq_none_iff]
  constructor
  · intro none there
    exact absurd (none v there) (by rw [beq_self_eq_true]; exact Bool.false_ne_true.symm)
  · rintro absent w hw
    refine beq_eq_false_iff_ne.2 ?_
    rintro rfl
    exact absent hw

theorem enums_of_unfinished (unfinished : s.isFinished = false) : s.enums = [] := by
  rw [enums, Option.isNone_iff_eq_none.1 (Option.isSome_eq_false_iff.1 unfinished)]
  rfl

end Selection

namespace Workbench

open Selection

variable {s : Selection}

/-! ## One pass and the selection it leaves -/

theorem of_push {g : Segment} (new : g.var ∉ s.vars) :
    (of s).push g = of { s with segments := s.segments ++ [g] } := by
  have places : ∀ v, (if v = g.var then some s.segments.length else s.position? v) =
      position? { s with segments := s.segments ++ [g] } v := by
    intro v
    show _ = List.findIdx? _ (s.segments ++ [g])
    rw [List.findIdx?_append, List.findIdx?_singleton]
    by_cases same : v = g.var
    · rw [if_pos same, show s.segments.findIdx? (fun k => k.var == v) = none from
        position?_eq_none_iff.2 (same ▸ new), same, beq_self_eq_true]
      simp
    · rw [if_neg same, beq_eq_false_iff_ne.2 (Ne.symm same)]
      exact (Option.or_none).symm
  unfold push of
  congr 1
  exact funext places

theorem of_foldl_push {vs : List VarId} (nodup : vs.Nodup) (new : ∀ v ∈ vs, v ∉ s.vars) :
    vs.foldl (fun w v => w.push (.plain v)) (of s) =
      of { s with segments := s.segments ++ vs.map Segment.plain } := by
  induction vs generalizing s with
  | nil => rw [List.map_nil, List.append_nil]; rfl
  | cons v vs ih =>
    obtain ⟨fresh, nodup⟩ := List.nodup_cons.1 nodup
    obtain ⟨absent, rest⟩ := List.forall_mem_cons.1 new
    rw [List.foldl_cons, of_push absent, ih nodup]
    · rw [List.append_assoc]
      rfl
    · intro u hu there
      have there : u ∈ (s.segments ++ [Segment.plain v]).map Segment.var := there
      rw [List.map_append] at there
      rcases List.mem_append.1 there with old | same
      · exact rest u hu old
      · rw [List.mem_singleton.1 same] at hu
        exact fresh hu

/-- The expanding pass leaves the segments that are to be resolved. -/
theorem of_expandFields (nodup : s.vars.Nodup) (expand : Bool) :
    (if expand then (of s).expandFields else of s) =
      of { s with segments := s.candidates expand } := by
  cases expand with
  | false => rfl
  | true =>
    have all := s.dataset.nodup_expand nodup
    exact of_foldl_push (all.sublist (List.drop_sublist _ _)) fun v hv =>
      not_mem_vars_of_mem_drop nodup hv

theorem of_collectEnums (unfinished : s.isFinished = false) (gs : List Segment) :
    (of { s with segments := gs }).collectEnums =
      { of { s with segments := gs } with enums := s.dataset.neededEnums gs } := by
  have none : (of { s with segments := gs }).enums = [] := enums_of_unfinished unfinished
  rw [collectEnums, none, foldl_noted]
  rfl

/-- The resolving pass, after the enumerations have been noted. -/
theorem of_resolveSegments (gs : List Segment) (enums : List EnumId) :
    { of { s with segments := gs } with enums }.resolveSegments =
      match gs.mapM (Segment.resolve s.dataset s.newSize) with
      | .ok segments => .ok { of { s with segments := gs } with
          enums, segments
          redefined := s.newDimensions
          dimensions := s.dataset.neededDimensions gs }
      | .error e => .error e := by
  rw [resolveSegments, foldl_noted]
  rfl

/-- The places depend on the variables only. -/
theorem position?_congr {t : Selection} (vars : s.vars = t.vars) : s.position? = t.position? := by
  funext v
  rw [position?_eq_find, position?_eq_find, vars]

/-- Finishing in place is finishing. -/
theorem of_finish (nodup : s.vars.Nodup) (expand : Bool) :
    (of s).finish expand =
      ((s.perform (.finish expand)).1, of (s.perform (.finish expand)).2) := by
  have finished : (of s).finished = s.isFinished := rfl
  cases state : s.isFinished with
  | true =>
    rw [finish, finished, if_pos state, perform_finish_of_ok (finish_of_isFinished state expand)]
  | false =>
    have whole := finish_of_unfinished state expand
    rw [finish, finished, if_neg (by rw [state]; exact Bool.false_ne_true), of_expandFields nodup,
      of_collectEnums state]
    dsimp only
    rw [of_resolveSegments]
    cases resolves : (s.candidates expand).mapM (Segment.resolve s.dataset s.newSize) with
    | error e =>
      rw [resolves] at whole
      rw [perform_finish_of_error whole]
      refine Prod.ext rfl ?_
      show { of s with enums := [] } = of s
      rw [← enums_of_unfinished state]
      rfl
    | ok resolved =>
      rw [resolves] at whole
      rw [perform_finish_of_ok whole]
      -- resolving changes no variable, so places and groups are those of the candidates
      have vars : resolved.map Segment.var = (s.candidates expand).map Segment.var :=
        (vars_of_finish state whole).trans (s.map_var_candidates expand).symm
      have paths : (resolved.flatMap fun g => s.dataset.variablePath g.var) =
          (s.candidates expand).flatMap fun g => s.dataset.variablePath g.var := by
        rw [← List.flatMap_map Segment.var s.dataset.variablePath, vars, List.flatMap_map]
      have places : position? { s with segments := s.candidates expand } = position? { s with
          segments := resolved
          outcome := some (s.outcomeOf (s.candidates expand)) } := position?_congr vars.symm
      dsimp only
      rw [collectGroups, foldl_noted]
      dsimp only
      rw [show (of { s with segments := s.candidates expand }).dataset = s.dataset from rfl, paths]
      unfold of
      rw [places]
      rfl

/-- Where no variable is selected twice, the segment at the place of a variable is the only one
that a change for the variable meets. -/
theorem modify_eq_map (nodup : s.vars.Nodup) {v : VarId} {i : Nat} (place : s.vars[i]? = some v)
    (f : Segment → Segment) :
    s.segments.modify i f = s.segments.map fun g => if g.var = v then f g else g := by
  refine List.ext_getElem? fun j => ?_
  rw [List.getElem?_modify, List.getElem?_map, Option.map_eq_map]
  cases found : s.segments[j]? with
  | none => rfl
  | some g =>
    have there : s.vars[j]? = some g.var := by
      rw [vars, List.getElem?_map, found]
      rfl
    have same : i = j ↔ g.var = v := by
      constructor
      · rintro rfl
        exact Option.some.inj (there.symm.trans place)
      · rintro rfl
        exact (List.getElem?_inj (List.getElem?_eq_some_iff.1 place).1 nodup).1
          (place.trans there.symm)
    exact congrArg some (if_congr same rfl rfl)

theorem of_setFilter (nodup : s.vars.Nodup) (v : VarId) (e : Expr) :
    (of s).setFilter v e = of { s with
      segments := s.segments.map fun g => if g.var = v then { g with filter := some e } else g } := by
  have places : s.position? = position? { s with
      segments := s.segments.map fun g => if g.var = v then { g with filter := some e } else g } :=
    position?_congr (map_var_map (fun g => by split <;> rfl) s.segments).symm
  rw [setFilter, show (of s).positions = s.position? from rfl]
  cases place : s.position? v with
  | some i =>
    dsimp only
    rw [show (of s).segments = s.segments from rfl,
      modify_eq_map nodup ((position?_eq_some_iff nodup).1 place)]
    unfold of
    rw [places]
    rfl
  | none =>
    -- no segment is of the variable, so none is changed
    have kept : (s.segments.map fun g => if g.var = v then { g with filter := some e } else g) =
        s.segments := by
      refine (List.map_congr_left fun g hg => if_neg ?_).trans (List.map_id s.segments)
      rintro rfl
      exact position?_eq_none_iff.1 place (List.mem_map_of_mem hg)
    rw [kept]

/-! ## All calls -/

theorem of_addVariable (v : VarId) (slices : List Slice) :
    (of s).addVariable v slices =
      of (if s.contains v then s else { s with segments := s.segments ++ [⟨v, slices, none⟩] }) := by
  rw [addVariable, show (of s).positions = s.position? from rfl]
  by_cases there : v ∈ s.vars
  · rw [if_pos (contains_iff.2 there), if_pos]
    exact Option.isSome_iff_ne_none.2 fun none => position?_eq_none_iff.1 none there
  · rw [if_neg fun h => there (contains_iff.1 h), position?_eq_none_iff.2 there]
    exact of_push there

theorem of_addRedefinition (x : DimId) (slice : Slice) :
    (of s).addRedefinition x slice = of (if (s.redefinition? x).isSome then s else
      { s with redefinitions := s.redefinitions ++ [(x, slice)] }) := by
  have same : ((of s).redefinitions.any fun r => r.1 == x) = true ↔
      (s.redefinition? x).isSome = true := by
    rw [redefinition?, List.lookup_isSome_iff, List.any_eq_true]
    simp only [beq_iff_eq, eq_comm (a := x)]
    rfl
  rw [addRedefinition, apply_ite of]
  exact if_congr same rfl rfl

theorem of_addAttribute (n : Node) (a : Attribute) :
    (of s).addAttribute n a = of { s with overlays := s.overlays ++ [(n, a)] } := by
  have attributes : ∀ m, (if m = n then s.attributes n ++ [a] else s.attributes m) =
      Selection.attributes { s with overlays := s.overlays ++ [(n, a)] } m := by
    intro m
    show _ = ((s.overlays ++ [(n, a)]).filter _).map _
    rw [List.filter_append, List.map_append]
    by_cases same : m = n
    · rw [if_pos same, same, List.filter_cons_of_pos (by simp)]
      rfl
    · rw [if_neg same, List.filter_cons_of_neg (by simpa using Ne.symm same), List.filter_nil]
      exact (List.append_nil _).symm
  unfold addAttribute of
  congr 1
  exact funext attributes

theorem change_of_finished (finished : s.isFinished = true) (op : ViewOperation) (w : Workbench) :
    (of s).change op w = (.error (.finished op), of s) :=
  if_pos finished

theorem change_of_unfinished (unfinished : s.isFinished = false) (op : ViewOperation)
    (w : Workbench) : (of s).change op w = (.ok (), w) :=
  if_neg (by
    rw [show (of s).finished = s.isFinished from rfl, unfinished]
    exact Bool.false_ne_true)

/-- Working in place cannot be told from working with values. -/
theorem perform_of (nodup : s.vars.Nodup) (c : ViewCall) :
    (of s).perform c = ((s.perform c).1, of (s.perform c).2) := by
  cases state : s.isFinished with
  | true =>
    cases c with
    | finish expand => exact of_finish nodup expand
    | _ =>
      rw [perform_eq_of_isFinished state]
      exact change_of_finished state _ _
  | false =>
    cases c with
    | addVariable v slices =>
      rw [perform_addVariable state, perform, change_of_unfinished state, of_addVariable]
    | addRedefinition x slice =>
      rw [perform_addRedefinition state, perform, change_of_unfinished state, of_addRedefinition]
    | addAttribute n a =>
      rw [perform_addAttribute state, perform, change_of_unfinished state, of_addAttribute]
    | setFilter v e =>
      rw [perform_setFilter state, perform, change_of_unfinished state, of_setFilter nodup]
    | finish expand => exact of_finish nodup expand

/-- The same calls give the same answers, and the workbench of the selection that they give. -/
theorem run_of (nodup : s.vars.Nodup) (calls : List ViewCall) :
    (of s).run calls = ((s.run calls).1, of (s.run calls).2) := by
  induction calls generalizing s with
  | nil => rfl
  | cons c rest ih =>
    rw [run, perform_of nodup]
    dsimp only
    rw [ih (nodup_vars_perform nodup c)]
    rfl

theorem built_eq (d : Dataset) (calls : List ViewCall) :
    built d calls = of (Selection.built d calls) :=
  congrArg Prod.snd (run_of (s := Selection.empty d) List.nodup_nil calls)

end Workbench

end Hyperslab
