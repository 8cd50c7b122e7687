/-
# `Hyperslab.Proofs.Dataset.Address` — where a declaration is and what it is called

A declaration has an address: the group it is in, and the words that lead on from there, which
are its own name, or the names of the variables from outside of compounds down to a field
(`Located`).  In a built dataset an address belongs to one node (`Located.unique`), and every
node with a name has one, except for the root (`exists_located`).

The qualified name of a node is its address in writing (`toList_name_of_located`): each word of
the group with a slash in front, then a slash and the remaining words with points between them.
-/
import Hyperslab.Proofs.Dataset.Components
import Hyperslab.Proofs.Dataset.Forest
import Hyperslab.Proofs.Dataset.Members

namespace Hyperslab

namespace Dataset

variable {d : Dataset} {g : GroupId} {m n : Node} {ws : List String}

/-- What is known of every built dataset. -/
structure WellFormed (d : Dataset) : Prop where
  tree : GroupTree d
  listing : Listing d
  members : Members d
  forest : Forest d

theorem wellFormed_built (name : String) (xs : List Declaration) : WellFormed (built name xs) :=
  ⟨groupTree_built name xs, listing_built name xs, members_built name xs, forest_built name xs⟩

/-! ## Nodes and their names -/

/-- The dataset has the node. -/
def Has (d : Dataset) : Node → Prop
  | .ofGroup g => g.index < d.groups.length
  | .ofDimension x => x.index < d.dimensions.length
  | .ofEnumeration y => y.index < d.enums.length
  | .ofVariable v => v.index < d.vars.length
  | .ofAttribute a => a.index < d.attributes.length

instance (d : Dataset) : (n : Node) → Decidable (d.Has n)
  | .ofGroup _ | .ofDimension _ | .ofEnumeration _ | .ofVariable _ | .ofAttribute _ =>
    inferInstanceAs (Decidable (_ < _))

/-- The qualified name of a node, if it has one. -/
def qualifiedName? (d : Dataset) : Node → Option String
  | .ofGroup g => some (d.groupName g)
  | .ofDimension x => d.dimensionName? x
  | .ofEnumeration y => some (d.enumName y)
  | .ofVariable v => some (d.variableName v)
  | .ofAttribute _ => none

theorem lt_length_of_name {x : DimId} {w : String} (h : (d.dimension x).name = some w) :
    x.index < d.dimensions.length := by
  refine Nat.lt_of_not_le fun le => ?_
  rw [dimension, List.getElem?_eq_none le] at h
  cases h

/-- What a group lists is there. -/
theorem WellFormed.has_of_lists (h : WellFormed d) (listed : d.Lists g n) : d.Has n := by
  cases n with
  | ofGroup k => exact lt_length_of_parent (h.tree.owned.1 listed)
  | ofDimension x =>
    obtain ⟨w, named⟩ := Option.isSome_iff_exists.1 (h.members.dimension.1 listed).1
    exact lt_length_of_name named
  | ofEnumeration y => exact (h.members.enumeration.1 listed).1
  | ofVariable v => exact (h.listing.owned.1 listed).1
  | ofAttribute => exact absurd listed id

/-! ## Addresses -/

/-- The words lead from the group to the node. -/
inductive Located (d : Dataset) (g : GroupId) : List String → Node → Prop
  | member {n : Node} {w : String} : d.Lists g n → d.ownName? n = some w → Located d g [w] n
  | field {p f : VarId} {ws : List String} : Located d g ws (.ofVariable p) → f ∈ d.fields p →
      Located d g (ws ++ [(d.var f).name]) (.ofVariable f)

namespace Located

theorem ne_nil (h : d.Located g ws n) : ws ≠ [] := by
  cases h with
  | member => exact List.cons_ne_nil _ _
  | field => exact List.append_ne_nil_of_right_ne_nil _ (List.cons_ne_nil _ _)

/-- One word leads to a member of the group. -/
theorem member_of_singleton {w : String} (h : d.Located g [w] n) :
    d.Lists g n ∧ d.ownName? n = some w := by
  generalize eq : [w] = us at h
  cases h with
  | member listed named => cases eq; exact ⟨listed, named⟩
  | field outer => exact absurd (List.append_eq_singleton_iff.1 eq.symm) (by simp [outer.ne_nil])

/-- More words lead through a compound to one of its fields. -/
theorem exists_owner {us : List String} {w : String} (h : d.Located g (us ++ [w]) n)
    (some : us ≠ []) :
    ∃ p f, n = .ofVariable f ∧ (d.var f).name = w ∧ d.Located g us (.ofVariable p) ∧
      f ∈ d.fields p := by
  generalize eq : us ++ [w] = vs at h
  cases h with
  | member => exact absurd (List.append_eq_singleton_iff.1 eq) (by simp [some])
  | field outer hf =>
    obtain ⟨rfl, last⟩ := List.append_inj' eq rfl
    exact ⟨_, _, rfl, (List.cons.inj last).1.symm, outer, hf⟩

/-- An address belongs to one node. -/
theorem unique (wf : WellFormed d) (hm : d.Located g ws m) (hn : d.Located g ws n) : m = n := by
  induction hm generalizing n with
  | member listed named =>
    obtain ⟨other, same⟩ := hn.member_of_singleton
    exact wf.members.distinct g _ _ listed other (named.trans same.symm)
  | field outer hf ih =>
    obtain ⟨q, k, rfl, same, around, hk⟩ := hn.exists_owner outer.ne_nil
    cases ih around
    rw [wf.forest.eq_of_name_eq hk hf same]

theorem lt_length (h : d.Located g ws n) : g.index < d.groups.length := by
  induction h with
  | member listed => exact lt_length_of_lists listed
  | field _ _ ih => exact ih

theorem has (wf : WellFormed d) (h : d.Located g ws n) : d.Has n := by
  cases h with
  | member listed => exact wf.has_of_lists listed
  | field _ hf => exact lt_length_of_owner (wf.forest.owned.1 hf)

end Located

/-- Every variable has an address. -/
theorem exists_located_variable (wf : WellFormed d) {v : VarId} (below : v.index < d.vars.length) :
    ∃ g ws, d.Located g ws (.ofVariable v) := by
  refine wf.forest.owner_induction
    (P := fun v => v.index < d.vars.length → ∃ g ws, d.Located g ws (.ofVariable v))
    (fun {v g} owner below => ?top) (fun {p f} hf ih below => ?field) v below
  case top => exact ⟨g, _, .member (wf.listing.owned.2 ⟨below, owner⟩) rfl⟩
  case field =>
    obtain ⟨g, ws, outer⟩ := ih (Nat.lt_trans (wf.forest.later hf) below)
    exact ⟨g, _, outer.field hf⟩

/-- Every node that has a name is the root or has an address. -/
theorem exists_located (wf : WellFormed d) (has : d.Has n) {name : String}
    (named : d.qualifiedName? n = some name) :
    n = .ofGroup .root ∨ ∃ g ws, d.Located g ws n := by
  cases n with
  | ofGroup k =>
    cases parent : (d.group k).parent with
    | none => exact .inl (congrArg Node.ofGroup (wf.tree.orphan has parent))
    | some p => exact .inr ⟨p, _, .member (wf.tree.owned.2 parent) rfl⟩
  | ofDimension x =>
    obtain ⟨w, own, -⟩ := Option.map_eq_some_iff.1 named
    have listed := wf.members.dimension.2 ⟨Option.isSome_iff_exists.2 ⟨w, own⟩, rfl⟩
    exact .inr ⟨_, _, .member listed own⟩
  | ofEnumeration y => exact .inr ⟨_, _, .member (wf.members.enumeration.2 ⟨has, rfl⟩) rfl⟩
  | ofVariable v => exact .inr (exists_located_variable wf has)
  | ofAttribute => cases named

/-! ## Tidy names -/

/-- All names are tidy; the root, and dimensions without a name, do not count. -/
structure TidyNames (d : Dataset) : Prop where
  groups : ∀ x ∈ d.groups.drop 1, IsTidy x.name
  dimensions : ∀ x ∈ d.dimensions, ∀ w ∈ x.name, IsTidy w
  enums : ∀ x ∈ d.enums, IsTidy x.name
  vars : ∀ x ∈ d.vars, IsTidy x.name

namespace TidyNames

theorem var (h : TidyNames d) {v : VarId} (below : v.index < d.vars.length) :
    IsTidy (d.var v).name := by
  rw [Dataset.var, List.getElem?_eq_getElem below]
  exact h.vars _ (List.getElem_mem below)

/-- What a group lists has a tidy name. -/
theorem of_lists (h : TidyNames d) (wf : WellFormed d) (listed : d.Lists g n) {w : String}
    (named : d.ownName? n = some w) : IsTidy w := by
  have has := wf.has_of_lists listed
  cases n with
  | ofGroup k =>
    cases named
    exact h.groups _ (group_mem_drop has (wf.tree.ne_root listed))
  | ofDimension x =>
    refine h.dimensions (d.dimension x) ?_ w named
    rw [dimension, List.getElem?_eq_getElem has]
    exact List.getElem_mem has
  | ofEnumeration y =>
    cases named
    rw [enumeration, List.getElem?_eq_getElem has]
    exact h.enums _ (List.getElem_mem has)
  | ofVariable v =>
    cases named
    exact h.var has
  | ofAttribute => cases named

theorem of_located (h : TidyNames d) (wf : WellFormed d) (located : d.Located g ws n) :
    ∀ w ∈ ws, IsTidy w := by
  induction located with
  | member listed named =>
    intro w hw
    rw [List.mem_singleton.1 hw]
    exact h.of_lists wf listed named
  | field _ hf ih =>
    intro w hw
    rcases List.mem_append.1 hw with outer | own
    · exact ih w outer
    · rw [List.mem_singleton.1 own]
      exact h.var (lt_length_of_owner (wf.forest.owned.1 hf))

end TidyNames

/-! ## Names in writing -/

/-- The root is written as a slash, and the others by their words. -/
theorem toList_groupName (g : GroupId) :
    (d.groupName g).toList = if d.groupWords g = [] then ['/'] else slashed (d.groupWords g) := by
  unfold groupName groupWords
  cases (d.group g).path.drop 1 with
  | nil => simp
  | cons k below => simp [slashed, List.flatMap_map]

/-- A count that reaches the number of a variable goes all the way up. -/
theorem variableNameWithin_succ (wf : WellFormed d) {depth : Nat} {v : VarId}
    (enough : v.index ≤ depth) :
    d.variableNameWithin (depth + 1) v = d.variableNameWithin depth v := by
  induction depth generalizing v with
  | zero =>
    cases owner : (d.var v).owner with
    | group g =>
      rw [variableNameWithin, variableNameWithin, owner, wf.listing.home owner]
    | compound p =>
      have less := wf.forest.later (wf.forest.owned.2 owner)
      omega
  | succ depth ih =>
    rw [variableNameWithin, variableNameWithin]
    cases owner : (d.var v).owner with
    | group g => rfl
    | compound p =>
      have less := wf.forest.later (wf.forest.owned.2 owner)
      dsimp only
      rw [ih (v := p) (by omega)]

theorem variableNameWithin_eq (wf : WellFormed d) {depth : Nat} {v : VarId}
    (enough : v.index ≤ depth) : d.variableNameWithin depth v = d.variableName v := by
  obtain ⟨more, rfl⟩ := Nat.exists_eq_add_of_le enough
  induction more with
  | zero => rfl
  | succ more ih =>
    rw [← Nat.add_assoc, variableNameWithin_succ wf (Nat.le_add_right ..), ih (Nat.le_add_right ..)]

/-- A field is named by a point and its own name behind the name of its compound. -/
theorem variableName_field (wf : WellFormed d) {p f : VarId} (hf : f ∈ d.fields p) :
    d.variableName f = d.variableName p ++ "." ++ (d.var f).name := by
  have less := wf.forest.later hf
  obtain ⟨depth, eq⟩ : ∃ depth, f.index = depth + 1 := ⟨f.index - 1, by omega⟩
  rw [variableName, eq, variableNameWithin, wf.forest.owned.1 hf]
  dsimp only
  rw [variableNameWithin_eq wf (by omega)]

/-- The qualified name of a member is its own name behind that of the group. -/
theorem qualifiedName?_of_lists (wf : WellFormed d) (tidy : TidyNames d) (listed : d.Lists g n)
    {w : String} (named : d.ownName? n = some w) :
    ∃ name, d.qualifiedName? n = some name ∧
      name.toList = slashed (d.groupWords g) ++ '/' :: w.toList := by
  have full : ∀ u ∈ d.groupWords g, u ≠ "" := fun u hu =>
    (wf.tree.forall_groupWords tidy.groups (lt_length_of_lists listed) u hu).1
  have qualified : (d.qualify g w).toList = slashed (d.groupWords g) ++ '/' :: w.toList := by
    rw [toList_qualify full, slashed_concat]
  cases n with
  | ofGroup k =>
    cases named
    refine ⟨_, rfl, ?_⟩
    rw [toList_groupName, wf.tree.groupWords_child listed,
      if_neg (List.append_ne_nil_of_right_ne_nil _ (List.cons_ne_nil _ _)), slashed_concat]
  | ofDimension x =>
    have home := (wf.members.dimension.1 listed).2
    exact ⟨d.qualify g w, by rw [← home]; exact congrArg (Option.map _) named, qualified⟩
  | ofEnumeration y =>
    cases named
    have home := (wf.members.enumeration.1 listed).2
    exact ⟨_, by rw [qualifiedName?, enumName, home], qualified⟩
  | ofVariable v =>
    cases named
    have owner := (wf.listing.owned.1 listed).2
    exact ⟨_, by rw [qualifiedName?, wf.listing.variableName_eq owner], qualified⟩
  | ofAttribute => cases named

/-- The qualified name of a node is its address in writing. -/
theorem qualifiedName?_of_located (wf : WellFormed d) (tidy : TidyNames d)
    (h : d.Located g ws n) :
    ∃ name, d.qualifiedName? n = some name ∧ name.toList =
      slashed (d.groupWords g) ++ '/' :: ['.'].intercalate (ws.map String.toList) := by
  induction h with
  | member listed named =>
    rw [List.map_singleton, List.intercalate_singleton]
    exact qualifiedName?_of_lists wf tidy listed named
  | @field p f ws outer hf ih =>
    obtain ⟨name, named, text⟩ := ih
    have some : ws.map String.toList ≠ [] := mt List.map_eq_nil_iff.1 outer.ne_nil
    refine ⟨_, rfl, ?_⟩
    rw [variableName_field wf hf, Option.some.inj named, List.map_append, List.map_singleton,
      Text.intercalate_concat '.' some, String.toList_append, String.toList_append, text]
    simp

end Dataset

end Hyperslab
