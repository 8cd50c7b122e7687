/-
# `Hyperslab.View.Expansion` — compounds without chosen fields

A compound of which no field is selected stands for all of it.  Expanding adds its
fields, and the fields of those among them that are compounds without a selected field
in turn.  A compound with a selected field is a choice and is left alone.

The work is a queue of compounds: those of the selection first, in order, then those
that were added.  A field is added at most once, so no compound waits twice and there
is less work than there are variables.
-/
import Hyperslab.View.Selection

namespace Hyperslab

/-- Expanding under way. -/
structure Expansion where
  /-- The selected variables and those added so far. -/
  chosen : List VarId
  /-- Compounds whose fields are to be added. -/
  waiting : List VarId
deriving DecidableEq, Repr

namespace Expansion

/-- The variable is a compound, and no field of it is among the chosen. -/
def isBare (d : Dataset) (chosen : List VarId) (v : VarId) : Bool :=
  (d.var v).isCompound && (d.fields v).all fun f => !chosen.contains f

/-- The beginning: all compounds without a chosen field are waiting. -/
def start (d : Dataset) (chosen : List VarId) : Expansion :=
  ⟨chosen, chosen.filter (isBare d chosen)⟩

/-- Adds a field, unless it is there. -/
def addField (d : Dataset) (s : Expansion) (f : VarId) : Expansion :=
  if s.chosen.contains f then s
  else
    let chosen := s.chosen ++ [f]
    ⟨chosen, if isBare d chosen f then s.waiting ++ [f] else s.waiting⟩

theorem chosen_addField (d : Dataset) (s : Expansion) (f : VarId) :
    (addField d s f).chosen = if f ∈ s.chosen then s.chosen else s.chosen ++ [f] := by
  unfold addField
  simp only [List.contains_eq_mem, decide_eq_true_eq]
  split <;> rfl

/-- No field is chosen twice. -/
theorem nodup_addField {d : Dataset} {s : Expansion} {f : VarId} (h : s.chosen.Nodup) :
    (addField d s f).chosen.Nodup := by
  rw [chosen_addField]
  split
  · exact h
  · rename_i hf
    refine List.nodup_append.2 ⟨h, List.nodup_cons.2 ⟨List.not_mem_nil, List.nodup_nil⟩, ?_⟩
    intro a ha b hb hab
    exact hf (List.mem_singleton.1 hb ▸ hab ▸ ha)

/-- What is chosen stays chosen, and in its place. -/
theorem prefix_addField (d : Dataset) (s : Expansion) (f : VarId) :
    s.chosen <+: (addField d s f).chosen := by
  rw [chosen_addField]
  split
  · exact List.prefix_refl _
  · exact List.prefix_append _ _

theorem prefix_foldl_addField (d : Dataset) (fs : List VarId) (s : Expansion) :
    s.chosen <+: (fs.foldl (addField d) s).chosen := by
  induction fs generalizing s with
  | nil => exact List.prefix_refl _
  | cons f fs ih => exact (prefix_addField d s f).trans (ih _)

/-- Adds the fields of at most `steps` compounds. -/
def runWithin (d : Dataset) : (steps : Nat) → Expansion → Expansion
  | 0, s => s
  | steps + 1, s =>
    match s.waiting with
    | [] => s
    | v :: rest => runWithin d steps ((d.fields v).foldl (addField d) { s with waiting := rest })

theorem prefix_runWithin (d : Dataset) (steps : Nat) (s : Expansion) :
    s.chosen <+: (runWithin d steps s).chosen := by
  induction steps generalizing s with
  | zero => exact List.prefix_refl _
  | succ steps ih =>
    unfold runWithin
    split
    · exact List.prefix_refl _
    · rename_i v rest _
      exact (prefix_foldl_addField d (d.fields v) { s with waiting := rest }).trans (ih _)

end Expansion

/-- The chosen variables followed by all that expanding adds. -/
def Dataset.expand (d : Dataset) (chosen : List VarId) : List VarId :=
  (Expansion.runWithin d d.vars.length (Expansion.start d chosen)).chosen

/-- Expanding keeps the chosen variables in front. -/
theorem Dataset.prefix_expand (d : Dataset) (chosen : List VarId) :
    chosen <+: d.expand chosen :=
  Expansion.prefix_runWithin d d.vars.length (Expansion.start d chosen)

/-- The segments followed by plain ones for all variables that expanding adds. -/
def Selection.expanded (s : Selection) : List Segment :=
  s.segments ++ ((s.dataset.expand s.vars).drop s.segments.length).map Segment.plain

end Hyperslab
