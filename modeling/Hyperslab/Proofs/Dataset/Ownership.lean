/-
# `Hyperslab.Proofs.Dataset.Ownership` — which nodes have a group path

A group, a dimension, an enumeration or a variable lies in a group that exists, and the path that
is stored there leads to it from the root (`GroupTree.descends_path`).  For an attribute the way is
longer: attributes may own attributes, and the path is that of the node at the end of the chain.

Nothing is asked of the owner of a new attribute.  It may not exist, and the chain may never end,
for an attribute may own itself.  So an attribute has a path exactly if its chain ends in a node
that is there (`hasGroupPath_iff`).  The walk is cut off at the number of all attributes, which is
not too early, because a chain that ends meets no attribute twice.  If all attributes are declared
on nodes that are there by then, every node has a path.
-/
import Hyperslab.Proofs.Dataset.Stability
import Mathlib.Data.List.Chain
import Mathlib.Data.List.Perm.Subperm

namespace Hyperslab

namespace Dataset

variable {d e : Dataset} {g : GroupId} {m n : Node}

/-! ## Chains of attributes -/

/-- The attributes, each owned by the next one, lead from a node to one that is no attribute. -/
inductive OwnedThrough (d : Dataset) : Node → List AttrId → Node → Prop
  | here {n : Node} : n.isStructural = true → OwnedThrough d n [] n
  | attr {a : AttrId} {x : AttributeDeclaration} {as : List AttrId} {m : Node} :
      d.attributes[a.index]? = some x → OwnedThrough d x.owner as m →
      OwnedThrough d (.ofAttribute a) (a :: as) m

/-- What owns a node in the end; what is no attribute is left alone. -/
def FinalOwner (d : Dataset) (n m : Node) : Prop := ∃ as, d.OwnedThrough n as m

namespace OwnedThrough

variable {as bs : List AttrId} {a : AttrId}

theorem isStructural (h : d.OwnedThrough n as m) : m.isStructural = true := by
  induction h with
  | here structural => exact structural
  | attr _ _ ih => exact ih

/-- There is only one way to go. -/
theorem unique {k : Node} (hm : d.OwnedThrough n as m) (hk : d.OwnedThrough n bs k) :
    as = bs ∧ m = k := by
  induction hm generalizing bs with
  | here structural =>
    cases hk with
    | here => exact ⟨rfl, rfl⟩
    | attr => cases structural
  | attr found _ ih =>
    cases hk with
    | here structural => cases structural
    | attr again rest =>
      cases found.symm.trans again
      obtain ⟨rfl, rfl⟩ := ih rest
      exact ⟨rfl, rfl⟩

theorem has_of_mem (h : d.OwnedThrough n as m) (through : a ∈ as) : d.Has (.ofAttribute a) := by
  induction h with
  | here => cases through
  | attr found _ ih =>
    rcases List.mem_cons.1 through with rfl | later
    · exact (List.getElem?_eq_some_iff.1 found).1
    · exact ih later

/-- From an attribute on the way it is no longer than from the beginning. -/
theorem exists_of_mem (h : d.OwnedThrough n as m) (through : a ∈ as) :
    ∃ bs, d.OwnedThrough (.ofAttribute a) bs m ∧ bs.length ≤ as.length := by
  induction h with
  | here => cases through
  | attr found rest ih =>
    rcases List.mem_cons.1 through with rfl | later
    · exact ⟨_, .attr found rest, Nat.le_refl _⟩
    · obtain ⟨bs, shorter, le⟩ := ih later
      exact ⟨bs, shorter, Nat.le_succ_of_le le⟩

/-- A way that ends meets no attribute twice. -/
theorem nodup (h : d.OwnedThrough n as m) : as.Nodup := by
  induction h with
  | here => exact List.nodup_nil
  | attr found rest ih =>
    refine List.nodup_cons.2 ⟨fun again => ?_, ih⟩
    obtain ⟨bs, shorter, le⟩ := rest.exists_of_mem again
    obtain ⟨rfl, -⟩ := shorter.unique (.attr found rest)
    exact absurd le (Nat.not_succ_le_self _)

theorem length_le (h : d.OwnedThrough n as m) : as.length ≤ d.attributes.length := by
  have inside : as ⊆ d.attributeIds := fun a through =>
    List.mem_map.2 ⟨a.index, List.mem_range.2 (h.has_of_mem through), rfl⟩
  have le := (h.nodup.subperm inside).length_le
  rwa [attributeIds, List.length_map, List.length_range] at le

end OwnedThrough

theorem some_eq_some_iff_ownedThrough (structural : n.isStructural = true) (length : Nat) :
    some n = some m ↔ ∃ as, d.OwnedThrough n as m ∧ as.length ≤ length := by
  constructor
  · rintro ⟨⟩
    exact ⟨[], .here structural, Nat.zero_le _⟩
  · rintro ⟨as, way, -⟩
    obtain ⟨-, rfl⟩ := way.unique (.here structural)
    rfl

/-- The walk finds the end of a way that is not too long for it. -/
theorem finalOwnerWithin?_eq_some_iff {length : Nat} :
    d.finalOwnerWithin? length n = some m ↔
      ∃ as, d.OwnedThrough n as m ∧ as.length ≤ length := by
  induction length generalizing n with
  | zero =>
    cases n with
    | ofAttribute a =>
      refine iff_of_false nofun ?_
      rintro ⟨as, way, short⟩
      cases way with
      | here structural => cases structural
      | attr => exact absurd short (Nat.not_succ_le_zero _)
    | _ => exact some_eq_some_iff_ownedThrough rfl 0
  | succ length ih =>
    cases n with
    | ofAttribute a =>
      refine Option.bind_eq_some_iff.trans ?_
      simp only [ih]
      constructor
      · rintro ⟨x, found, as, way, short⟩
        exact ⟨a :: as, .attr found way, Nat.succ_le_succ short⟩
      · rintro ⟨as, way, short⟩
        cases way with
        | here structural => cases structural
        | attr found rest => exact ⟨_, found, _, rest, Nat.le_of_succ_le_succ short⟩
    | _ => exact some_eq_some_iff_ownedThrough rfl _

/-- The walk is not cut off too early. -/
theorem finalOwnerWithin?_eq_some_iff_finalOwner :
    d.finalOwnerWithin? d.attributes.length n = some m ↔ d.FinalOwner n m :=
  finalOwnerWithin?_eq_some_iff.trans
    (exists_congr fun _ => and_iff_left_of_imp OwnedThrough.length_le)

/-! ## Paths -/

/-- The groups lead down from the root to the group, each the parent of the next. -/
structure Descends (d : Dataset) (gs : List GroupId) (g : GroupId) : Prop where
  first : gs.head? = some .root
  last : gs.getLast? = some g
  steps : gs.IsChain fun p c => (d.group c).parent = some p

theorem GroupTree.descends_path (tree : GroupTree d) (there : d.Has (.ofGroup g)) :
    d.Descends (d.group g).path g := by
  refine tree.induction (P := fun g => d.Descends (d.group g).path g) ?_ ?_ there
  · rw [tree.path_root]
    exact ⟨rfl, rfl, .singleton _⟩
  · intro p g member ih
    rw [tree.path member]
    refine ⟨?_, List.getLast?_concat, List.isChain_append.2 ⟨ih.steps, .singleton _, ?_⟩⟩
    · rw [List.head?_append, ih.first]
      rfl
    · intro last hlast child hchild
      rw [ih.last] at hlast
      cases hlast
      cases hchild
      exact tree.owned.1 member

/-- The node is owned, in the end, by a node that is there, and its path leads from the root to
the group that this node lies in. -/
def HasGroupPath (d : Dataset) (n : Node) : Prop :=
  ∃ m g path, d.FinalOwner n m ∧ d.Has m ∧ d.groupOf? m = some g ∧ d.Has (.ofGroup g) ∧
    d.groupPath? n = some path ∧ d.Descends path g

theorem exists_groupOf? (structural : m.isStructural = true) : ∃ g, d.groupOf? m = some g := by
  cases m with
  | ofAttribute => cases structural
  | _ => exact ⟨_, rfl⟩

theorem hasGroupPath_iff (wf : WellFormed d) (settled : Settled d) :
    d.HasGroupPath n ↔ ∃ m, d.FinalOwner n m ∧ d.Has m := by
  constructor
  · rintro ⟨m, _, _, final, there, -⟩
    exact ⟨m, final, there⟩
  · rintro ⟨m, final, there⟩
    obtain ⟨as, way⟩ := final
    obtain ⟨g, home⟩ := exists_groupOf? (d := d) way.isStructural
    have around := settled.has_groupOf? there home
    refine ⟨m, g, (d.group g).path, ⟨as, way⟩, there, home, around, ?_, wf.tree.descends_path around⟩
    unfold groupPath?
    rw [finalOwnerWithin?_eq_some_iff_finalOwner.2 ⟨as, way⟩]
    show (d.groupOf? m).bind _ = _
    rw [home]
    rfl

theorem groupPath?_eq_none_iff :
    d.groupPath? n = none ↔ ∀ m, ¬ d.FinalOwner n m := by
  unfold groupPath?
  constructor
  · intro none m final
    rw [finalOwnerWithin?_eq_some_iff_finalOwner.2 final] at none
    obtain ⟨as, way⟩ := final
    obtain ⟨g, home⟩ := exists_groupOf? (d := d) way.isStructural
    replace none : (d.groupOf? m).bind _ = Option.none := none
    rw [home] at none
    cases none
  · intro endless
    cases final : d.finalOwnerWithin? d.attributes.length n with
    | none => rfl
    | some m => exact absurd (finalOwnerWithin?_eq_some_iff_finalOwner.1 final) (endless m)

/-! ## Owners that are there -/

/-- Attributes are declared on nodes that are there by then. -/
def OwnersThere (name : String) (xs : List Declaration) : Prop :=
  ∀ before owner a after, xs = before ++ .attr owner a :: after → (built name before).Has owner

theorem OwnersThere.of_concat {name : String} {xs : List Declaration} {x : Declaration}
    (h : OwnersThere name (xs ++ [x])) : OwnersThere name xs := by
  rintro before owner a after rfl
  exact h before owner a (after ++ [x]) (by rw [List.append_assoc]; rfl)

/-- Every attribute belongs to a node that came before it. -/
def OwnedEarlier (d : Dataset) : Prop :=
  ∀ (i : Nat) (x : AttributeDeclaration), d.attributes[i]? = some x → d.Has x.owner ∧
    ∀ b, x.owner = .ofAttribute b → b.index < i

theorem OwnedEarlier.of_same (h : OwnedEarlier d) (grown : Grown d e)
    (same : e.attributes = d.attributes) : OwnedEarlier e := by
  intro i x found
  rw [same] at found
  obtain ⟨there, earlier⟩ := h i x found
  exact ⟨grown.has there, earlier⟩

theorem OwnedEarlier.addAttribute (h : OwnedEarlier d) {owner : Node} (there : d.Has owner)
    (a : Attribute) : OwnedEarlier (d.addAttribute owner a).1 := by
  have grown : Grown d (d.addAttribute owner a).1 := Growth.attr.grown
  intro i x found
  rcases Nat.lt_or_ge i d.attributes.length with old | new
  · obtain ⟨has, earlier⟩ := h i x (by rwa [← List.getElem?_append_left old])
    exact ⟨grown.has has, earlier⟩
  · rw [show (d.addAttribute owner a).1.attributes = d.attributes ++ [_] from rfl,
      List.getElem?_append_right new] at found
    cases List.mem_singleton.1 (List.mem_of_getElem? found)
    refine ⟨grown.has there, fun b (same : owner = .ofAttribute b) => ?_⟩
    rw [same] at there
    exact Nat.lt_of_lt_of_le there new

theorem Adds.attributes_eq (adds : Adds d e n) (structural : n.isStructural = true) :
    e.attributes = d.attributes := by
  refine (adds.grown.attributes.eq_of_length_le (Nat.le_of_not_lt fun longer => ?_)).symm
  rcases (adds.has (.ofAttribute d.nextAttribute)).1 longer with old | rfl
  · exact Nat.lt_irrefl _ old
  · cases structural

theorem ownedEarlier_built {name : String} {xs : List Declaration} (h : OwnersThere name xs) :
    OwnedEarlier (built name xs) := by
  induction xs using List.reverseRecOn with
  | nil => exact fun i x found => nomatch found
  | append_singleton xs x ih =>
    have before := ih h.of_concat
    rw [built_append]
    show OwnedEarlier ((built name xs).attempt x)
    cases made : (built name xs).declare? x with
    | error cause =>
      rw [attempt_of_error made]
      exact before
    | ok r =>
      rw [attempt_of_ok made]
      obtain ⟨-, adds⟩ := adds_of_declare? made
      cases x with
      | attr owner a =>
        cases made
        exact before.addAttribute (h xs owner a [] rfl) a
      | _ => exact before.of_same adds.grown (adds.attributes_eq rfl)

/-- Owners that come before lead to an end. -/
theorem OwnedEarlier.exists_finalOwner (h : OwnedEarlier d) (there : d.Has n) :
    ∃ m, d.FinalOwner n m ∧ d.Has m := by
  cases n with
  | ofAttribute a =>
    generalize hi : a.index = i
    induction i using Nat.strongRecOn generalizing a with
    | ind i ih =>
      obtain ⟨x, found⟩ : ∃ x, d.attributes[a.index]? = some x :=
        ⟨_, List.getElem?_eq_getElem there⟩
      obtain ⟨has, earlier⟩ := h _ _ found
      cases owner : x.owner with
      | ofAttribute b =>
        rw [owner] at has
        obtain ⟨m, ⟨as, way⟩, final⟩ := ih b.index (hi ▸ earlier b owner) b has rfl
        exact ⟨m, ⟨a :: as, .attr found (owner ▸ way)⟩, final⟩
      | _ => exact ⟨x.owner, ⟨[a], .attr found (.here (by rw [owner]; rfl))⟩, has⟩
  | _ => exact ⟨_, ⟨[], .here rfl⟩, there⟩

/-! ## Which nodes have a path -/

/-- Groups, dimensions, enumerations and variables have a path, and so has an attribute if its
owner has one.  Attributes are never refused; an attribute has a path exactly if its chain of
owners ends in a node that is there, and without an end there is no path at all.  If attributes are
declared only on nodes that are there, every node has a path. -/
theorem hasGroupPath_built (name : String) (xs : List Declaration) :
    let d := built name xs
    (∀ n, d.Has n → n.isStructural = true → d.HasGroupPath n) ∧
    (∀ owner a, d.declare? (.attr owner a) =
      .ok ((d.addAttribute owner a).1, d.attributes.length)) ∧
    (∀ n, d.HasGroupPath n ↔ ∃ m, d.FinalOwner n m ∧ d.Has m) ∧
    (∀ n, d.groupPath? n = none ↔ ∀ m, ¬ d.FinalOwner n m) ∧
    (OwnersThere name xs → ∀ n, d.Has n → d.HasGroupPath n) := by
  intro d
  have wf := wellFormed_built name xs
  have settled := settled_built name xs
  refine ⟨fun n there structural => ?_, fun _ _ => rfl, fun n => hasGroupPath_iff wf settled,
    fun n => groupPath?_eq_none_iff, fun owned n there => ?_⟩
  · exact (hasGroupPath_iff wf settled).2 ⟨n, ⟨[], .here structural⟩, there⟩
  · exact (hasGroupPath_iff wf settled).2 ((ownedEarlier_built owned).exists_finalOwner there)

/-- Units that own themselves, and units of a group that is not there. -/
def stray : List Declaration :=
  [.attr (.ofAttribute ⟨0⟩) ⟨"units", .string, ["m"]⟩,
    .attr (.ofGroup ⟨7⟩) ⟨"units", .string, ["m"]⟩]

/-- Units of a dimension, and what they belong to. -/
def metric : List Declaration :=
  [.dimension .root "level" 5, .attr (.ofDimension ⟨0⟩) ⟨"units", .string, ["m"]⟩,
    .attr (.ofAttribute ⟨0⟩) ⟨"system", .string, ["SI"]⟩]

theorem hasGroupPath_built_stray :
    (∀ m, ¬ (built "stray" stray).FinalOwner (.ofAttribute ⟨0⟩) m) ∧
    ¬ (built "stray" stray).HasGroupPath (.ofAttribute ⟨1⟩) ∧
    OwnersThere "metric" metric ∧ (built "metric" metric).HasGroupPath (.ofAttribute ⟨1⟩) := by
  obtain ⟨-, -, path, none, -⟩ := hasGroupPath_built "stray" stray
  obtain ⟨-, -, -, -, all⟩ := hasGroupPath_built "metric" metric
  have owned : OwnersThere "metric" metric := by
    intro before owner a after eq
    match before, eq with
    | [_], eq => cases eq; decide
    | [_, _], eq => cases eq; decide
    | _ :: _ :: _ :: _, eq => simp [metric] at eq
  refine ⟨(none _).1 rfl, fun has => ?_, owned, all owned _ (by decide)⟩
  obtain ⟨m, ⟨as, way⟩, there⟩ := (path _).1 has
  have missing : (built "stray" stray).OwnedThrough (.ofAttribute ⟨1⟩) [⟨1⟩] (.ofGroup ⟨7⟩) :=
    .attr rfl (.here rfl)
  obtain ⟨-, rfl⟩ := way.unique missing
  exact absurd there (by decide)

end Dataset

end Hyperslab
