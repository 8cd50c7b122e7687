/-
# `Hyperslab.Proofs.Dataset.Naming` — a qualified name names one variable

The qualified name of a variable outside of compounds is a list of words, each with a slash
in front: the names of the groups from below the root, and its own name.  The words of a
group determine the group, because no two groups beside each other have one name
(`groupWords_inj`).

Where names are *plain*, without slashes and without the characters that stand behind names
in the text of a selection, the words can be read off the text; so the name determines the
variable, whatever is written behind it (`variableName_append_inj`).
-/
import Hyperslab.Proofs.Dataset.GroupTree
import Hyperslab.Proofs.Text.Words

namespace Hyperslab.Dataset

/-! ## Plain names -/

/-- The characters that may stand behind a name in the text of a selection. -/
def nameEnds : List Char := ['[', '\x7b', '|', ';', '\x7d']

/-- A name that is not empty and ends where it seems to end. -/
def IsPlain (name : String) : Prop := name ≠ "" ∧ Text.Free ('/' :: nameEnds) name.toList

instance (name : String) : Decidable (IsPlain name) :=
  inferInstanceAs (Decidable (_ ∧ _))

/-- All names are plain; the root is not named. -/
structure PlainNames (d : Dataset) : Prop where
  vars : ∀ x ∈ d.vars, IsPlain x.name
  groups : ∀ x ∈ d.groups.drop 1, IsPlain x.name

/-- Names of letters, digits and underscores are plain. -/
theorem isPlain_of_word {name : String} (full : name ≠ "")
    (word : ∀ c ∈ name.toList, c.isAlphanum = true ∨ c = '_') : IsPlain name := by
  have other : ('/' :: nameEnds).any (fun c => c.isAlphanum || c == '_') = false := by decide
  refine ⟨full, fun c hc mark => List.any_eq_false.1 other c mark ?_⟩
  simpa using word c hc

theorem PlainNames.var {d : Dataset} (h : PlainNames d) {v : VarId}
    (below : v.index < d.vars.length) : IsPlain (d.var v).name := by
  rw [Dataset.var, List.getElem?_eq_getElem below]
  exact h.vars _ (List.getElem_mem below)

/-- A group other than the root is behind the root in the list of groups. -/
theorem group_mem_drop {d : Dataset} {g : GroupId} (below : g.index < d.groups.length)
    (inner : g ≠ .root) : d.group g ∈ d.groups.drop 1 := by
  have pos : 1 ≤ g.index := Nat.one_le_iff_ne_zero.2 fun zero => inner (GroupId.ext zero)
  rw [Dataset.group, List.getElem?_eq_getElem below]
  refine List.mem_iff_getElem.2 ⟨g.index - 1, ?_, ?_⟩
  · rw [List.length_drop]
    omega
  · rw [List.getElem_drop, Option.getD_some]
    congr 1
    omega

/-! ## Words -/

/-- The names of the groups from below the root to a group. -/
def groupWords (d : Dataset) (g : GroupId) : List String :=
  ((d.group g).path.drop 1).map fun h => (d.group h).name

/-- Words with a slash in front of each. -/
def slashed (ws : List String) : List Char := (ws.map String.toList).flatMap ('/' :: ·)

namespace GroupTree

variable {d : Dataset}

theorem path_ne_nil (h : GroupTree d) {g : GroupId} (below : g.index < d.groups.length) :
    (d.group g).path ≠ [] := by
  refine h.induction (P := fun g => (d.group g).path ≠ []) ?_ ?_ below
  · rw [h.path_root]
    exact List.cons_ne_nil _ _
  · intro p g hg _
    rw [h.path hg]
    exact List.append_ne_nil_of_right_ne_nil _ (List.cons_ne_nil _ _)

theorem groupWords_root (h : GroupTree d) : d.groupWords .root = [] := by
  rw [groupWords, h.path_root]
  rfl

theorem groupWords_child (h : GroupTree d) {p g : GroupId} (hg : g ∈ (d.group p).groups) :
    d.groupWords g = d.groupWords p ++ [(d.group g).name] := by
  have long := List.length_pos_iff.2 (h.path_ne_nil (lt_length_of_groups hg))
  rw [groupWords, groupWords, h.path hg, List.drop_append_of_le_length long, List.map_append,
    List.map_singleton]

/-- The words of a group name no other group. -/
theorem groupWords_inj (h : GroupTree d) {g k : GroupId} (hg : g.index < d.groups.length)
    (hk : k.index < d.groups.length) (same : d.groupWords g = d.groupWords k) : g = k := by
  -- down the path of one group, against every other
  revert k
  refine h.induction (P := fun g => ∀ {k : GroupId}, k.index < d.groups.length →
    d.groupWords g = d.groupWords k → g = k) ?_ ?_ hg
  · intro k hk same
    cases parent : (d.group k).parent with
    | none => exact (h.orphan hk parent).symm
    | some q =>
      rw [h.groupWords_root, h.groupWords_child (h.owned.2 parent)] at same
      exact absurd same.symm (List.append_ne_nil_of_right_ne_nil _ (List.cons_ne_nil _ _))
  · intro p g hg ih k hk same
    cases parent : (d.group k).parent with
    | none =>
      rw [h.orphan hk parent, h.groupWords_root, h.groupWords_child hg] at same
      exact absurd same (List.append_ne_nil_of_right_ne_nil _ (List.cons_ne_nil _ _))
    | some q =>
      have hk := h.owned.2 parent
      rw [h.groupWords_child hg, h.groupWords_child hk] at same
      obtain ⟨above, name⟩ := List.append_inj' same rfl
      have parents : p = q := ih (lt_length_of_groups hk) above
      rw [← parents] at hk
      exact List.inj_on_of_nodup_map (h.distinct p) hg hk (List.cons.inj name).1

/-- What holds of the names of all groups but the root holds of the words of a group. -/
theorem forall_groupWords (h : GroupTree d) {P : String → Prop}
    (names : ∀ x ∈ d.groups.drop 1, P x.name) {g : GroupId}
    (below : g.index < d.groups.length) : ∀ w ∈ d.groupWords g, P w := by
  refine h.induction (P := fun g => ∀ w ∈ d.groupWords g, P w) ?_ ?_ below
  · intro w hw
    rw [h.groupWords_root] at hw
    exact absurd hw List.not_mem_nil
  · intro p g hg ih w hw
    rw [h.groupWords_child hg] at hw
    rcases List.mem_append.1 hw with above | own
    · exact ih w above
    · rw [List.mem_singleton.1 own]
      exact names _ (group_mem_drop (lt_length_of_parent (h.owned.1 hg)) (h.ne_root hg))

end GroupTree

/-! ## Names of variables -/

/-- A qualified name is written word by word. -/
theorem toList_qualify {d : Dataset} {g : GroupId} (full : ∀ w ∈ d.groupWords g, w ≠ "")
    (name : String) : (d.qualify g name).toList = slashed (d.groupWords g ++ [name]) := by
  unfold qualify groupName groupWords at *
  cases hp : (d.group g).path.drop 1 with
  | nil => simp [slashed]
  | cons h below =>
    rw [hp] at full
    have first : (d.group h).name ≠ "" := full _ (List.mem_cons_self ..)
    -- only the root is a slash and nothing else
    have apart : String.join ((h :: below).map fun h => "/" ++ (d.group h).name) ≠ "/" := by
      intro same
      have chars := congrArg String.toList same
      simp at chars
      exact first chars.1
    dsimp only
    rw [if_neg apart]
    simp [slashed, List.flatMap_map, List.flatMap_append]

/-- Plain words with a slash in front of each can be read off a text. -/
theorem slashed_append_inj {vs ws : List String} (hv : ∀ v ∈ vs, IsPlain v)
    (hw : ∀ w ∈ ws, IsPlain w) {q r : List Char} (hq : Text.Stops nameEnds q)
    (hr : Text.Stops nameEnds r) (same : slashed vs ++ q = slashed ws ++ r) :
    vs = ws ∧ q = r := by
  have free : ∀ {us : List String}, (∀ u ∈ us, IsPlain u) →
      ∀ cs ∈ us.map String.toList, Text.Free ('/' :: nameEnds) cs := by
    intro us plain cs hc
    obtain ⟨u, hu, rfl⟩ := List.mem_map.1 hc
    exact (plain u hu).2
  obtain ⟨words, rest⟩ := Text.flatMap_append_inj (by decide) (free hv) (free hw) hq hr same
  exact ⟨(List.map_injective_iff.2 fun _ _ h => String.toList_inj.1 h) words, rest⟩

/-- Words with slashes do not stand behind a name. -/
theorem not_stops_slashed {ws : List String} (some : ws ≠ []) (r : List Char) :
    ¬ Text.Stops nameEnds (slashed ws ++ r) := by
  cases ws with
  | nil => exact absurd rfl some
  | cons w ws =>
    intro stops
    exact absurd (stops '/' rfl) (by decide)

namespace Listing

variable {d : Dataset}

theorem variableName_eq (h : Listing d) {v : VarId} {g : GroupId}
    (owner : (d.var v).owner = .group g) : d.variableName v = d.qualify g (d.var v).name := by
  unfold variableName
  cases v.index with
  | zero => rw [variableNameWithin, h.home owner]
  | succ n => rw [variableNameWithin, owner]

/-- A variable outside of compounds is in the list of a group. -/
theorem exists_group (h : Listing d) {v : VarId} (below : v.index < d.vars.length)
    (top : (d.var v).isTopLevel = true) :
    ∃ g, v ∈ (d.group g).vars ∧ d.variableName v = d.qualify g (d.var v).name := by
  cases owner : (d.var v).owner with
  | group g => exact ⟨g, h.owned.2 ⟨below, owner⟩, h.variableName_eq owner⟩
  | compound p =>
    unfold Variable.isTopLevel at top
    rw [owner] at top
    cases top

end Listing

section

variable {d : Dataset} (tree : GroupTree d) (listing : Listing d) (plain : PlainNames d)

include tree listing plain

/-- The qualified name of a variable consists of plain words with slashes. -/
theorem exists_words {v : VarId} (below : v.index < d.vars.length)
    (top : (d.var v).isTopLevel = true) :
    ∃ g, v ∈ (d.group g).vars ∧ (∀ u ∈ d.groupWords g ++ [(d.var v).name], IsPlain u) ∧
      (d.variableName v).toList = slashed (d.groupWords g ++ [(d.var v).name]) := by
  obtain ⟨g, hg, name⟩ := listing.exists_group below top
  have above := tree.forall_groupWords plain.groups (lt_length_of_vars hg)
  refine ⟨g, hg, ?_, ?_⟩
  · intro u hu
    rcases List.mem_append.1 hu with outer | own
    · exact above u outer
    · rw [List.mem_singleton.1 own]
      exact plain.var below
  · rw [name, toList_qualify fun w hw => (above w hw).1]

theorem not_stops_variableName {v : VarId} (below : v.index < d.vars.length)
    (top : (d.var v).isTopLevel = true) (r : List Char) :
    ¬ Text.Stops nameEnds ((d.variableName v).toList ++ r) := by
  obtain ⟨g, _, _, name⟩ := exists_words tree listing plain below top
  rw [name]
  exact not_stops_slashed (List.append_ne_nil_of_right_ne_nil _ (List.cons_ne_nil _ _)) r

/-- The qualified name of a variable names no other variable, whatever stands behind it. -/
theorem variableName_append_inj {v w : VarId} (hv : v.index < d.vars.length)
    (hw : w.index < d.vars.length) (topv : (d.var v).isTopLevel = true)
    (topw : (d.var w).isTopLevel = true) {q r : List Char} (hq : Text.Stops nameEnds q)
    (hr : Text.Stops nameEnds r)
    (same : (d.variableName v).toList ++ q = (d.variableName w).toList ++ r) :
    v = w ∧ q = r := by
  obtain ⟨g, hg, plainV, nameV⟩ := exists_words tree listing plain hv topv
  obtain ⟨k, hk, plainW, nameW⟩ := exists_words tree listing plain hw topw
  rw [nameV, nameW] at same
  obtain ⟨all, rest⟩ := slashed_append_inj plainV plainW hq hr same
  obtain ⟨above, name⟩ := List.append_inj' all rfl
  have groups : g = k := tree.groupWords_inj (lt_length_of_vars hg) (lt_length_of_vars hk) above
  rw [← groups] at hk
  exact ⟨List.inj_on_of_nodup_map (listing.distinct g) hg hk (List.cons.inj name).1, rest⟩

end

end Hyperslab.Dataset
