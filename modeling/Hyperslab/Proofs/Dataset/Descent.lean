/-
# `Hyperslab.Proofs.Dataset.Descent` — walks down a tree that is kept flat

Groups with their subgroups and compounds with their fields are kept in the same way: a child has
one parent, and a larger number than its parent.  So every way up ends, and what is above a child
is its parent and what is above the parent (`Descent.above_child`).

A walk down such a tree lists an element and then, child after child, what is below it (`Walk`).
It meets what is below the element and nothing else (`Walk.mem_iff`), and the walk from anything
that it meets is one part of it, without gaps (`Walk.isInfix`).  Such lists are `ParentsFirst`:
nothing stands behind an element that is below it, and so nothing stands in it twice.  For one
step of the walk this follows from the same for the walks of the children, since nothing is below
two children of one parent (`Descent.eq_of_siblings`).

Walks are defined by counting down a depth.  A depth that reaches all numbers cuts none of them
off (`Descent.walk_walkWithin`).
-/
import Mathlib.Data.List.Nodup
import Mathlib.Data.Set.Card
import Mathlib.Logic.Relation

open Relation (ReflTransGen TransGen)

namespace Hyperslab

variable {α : Type}

/-- Children have larger numbers than their parent, and no other parent. -/
structure Descent (child : α → α → Prop) (number : α → Nat) : Prop where
  later : ∀ {p c : α}, child p c → number p < number c
  unique : ∀ {p q c : α}, child p c → child q c → p = q

/-- No element of the list stands behind itself or behind one that is below it. -/
def ParentsFirst (child : α → α → Prop) (as : List α) : Prop :=
  as.Pairwise fun a b => ¬ ReflTransGen child b a

namespace ParentsFirst

variable {child : α → α → Prop} {as : List α}

theorem nodup (h : ParentsFirst child as) : as.Nodup :=
  h.imp fun {a b} apart (same : a = b) => apart (same ▸ .refl)

/-- Of two elements, the one that is above the other stands in front. -/
theorem sublist_pair (h : ParentsFirst child as) {a b : α} (ha : a ∈ as) (hb : b ∈ as)
    (apart : a ≠ b) (above : ReflTransGen child a b) : [a, b].Sublist as := by
  induction as with
  | nil => cases ha
  | cons c as ih =>
    obtain ⟨first, rest⟩ := List.pairwise_cons.1 h
    rcases List.mem_cons.1 ha with rfl | inner
    · have behind : b ∈ as := (List.mem_cons.1 hb).resolve_left apart.symm
      exact (List.singleton_sublist.2 behind).cons_cons a
    · rcases List.mem_cons.1 hb with rfl | hb
      · exact absurd above (first a inner)
      · exact (ih rest inner hb).cons c

end ParentsFirst

namespace Descent

variable {child : α → α → Prop} {number : α → Nat}

theorem le (h : Descent child number) {a b : α} (down : ReflTransGen child a b) :
    number a ≤ number b := by
  induction down with
  | refl => exact Nat.le_refl _
  | tail _ step ih => exact Nat.le_trans ih (Nat.le_of_lt (h.later step))

theorem lt (h : Descent child number) {a b : α} (down : TransGen child a b) :
    number a < number b := by
  obtain ⟨p, above, step⟩ := TransGen.tail'_iff.1 down
  exact Nat.lt_of_le_of_lt (h.le above) (h.later step)

/-- Numbers get smaller upwards, so every way up ends. -/
theorem wellFounded (h : Descent child number) : WellFounded child :=
  Subrelation.wf (fun {_ _} step => h.later step) (measure number).wf

/-- If the numbers of children are bounded, every way down ends. -/
theorem wellFounded_down (h : Descent child number) {bound : Nat}
    (below : ∀ {p c : α}, child p c → number c < bound) :
    WellFounded fun c p => child p c := by
  refine Subrelation.wf (fun {c p} step => ?_) (measure fun a => bound - number a).wf
  show bound - number c < bound - number p
  have := h.later step
  have := below step
  omega

/-- Of two elements above a third one, one is above the other. -/
theorem comparable (h : Descent child number) {a b k : α} (inA : ReflTransGen child a k)
    (inB : ReflTransGen child b k) : ReflTransGen child a b ∨ ReflTransGen child b a := by
  -- parents are unique, so the two ways up from the third one follow each other
  have unique : Relator.RightUnique fun c p => child p c := fun _ _ _ => h.unique
  have chain := ReflTransGen.total_of_right_unique unique inA.swap inB.swap
  exact chain.symm.imp (fun up => up.swap) fun up => up.swap

/-- Nothing is below two children of one parent. -/
theorem eq_of_siblings (h : Descent child number) {p a b k : α} (ha : child p a) (hb : child p b)
    (inA : ReflTransGen child a k) (inB : ReflTransGen child b k) : a = b := by
  have apart : ∀ {a b : α}, child p a → child p b → ReflTransGen child a b → a = b := by
    intro a b ha hb above
    rcases ReflTransGen.cases_tail above with same | ⟨q, outer, hq⟩
    · exact same.symm
    · rw [h.unique hq hb] at outer
      exact absurd (h.later ha) (Nat.not_lt.2 (h.le outer))
  rcases h.comparable inA inB with above | above
  · exact apart ha hb above
  · exact (apart hb ha above).symm

/-- One step of a walk: an element, and behind it the walks of its children. -/
theorem parentsFirst_cons_flatMap (h : Descent child number) {a : α} {cs : List α}
    {walk : α → List α} (children : ∀ c ∈ cs, child a c) (distinct : cs.Nodup)
    (below : ∀ c ∈ cs, ∀ k ∈ walk c, ReflTransGen child c k)
    (walks : ∀ c ∈ cs, ParentsFirst child (walk c)) :
    ParentsFirst child (a :: cs.flatMap walk) := by
  refine List.pairwise_cons.2 ⟨fun k hk up => ?_, List.pairwise_flatMap.2 ⟨walks, ?_⟩⟩
  · obtain ⟨c, hc, member⟩ := List.mem_flatMap.1 hk
    exact absurd (h.later (children c hc)) (Nat.not_lt.2 (h.le ((below c hc k member).trans up)))
  · refine distinct.imp_of_mem fun {b c} hb hc apart j hj k hk up => apart ?_
    exact h.eq_of_siblings (children b hb) (children c hc) (below b hb j hj)
      ((below c hc k hk).trans up)

/-! ### What is above an element -/

/-- Above a child are its parent and what is above the parent. -/
theorem above_child (h : Descent child number) {p c : α} (step : child p c) :
    {a | TransGen child a c} = insert p {a | TransGen child a p} := by
  ext a
  rw [Set.mem_insert_iff, Set.mem_ofPred_eq, Set.mem_ofPred_eq, TransGen.tail'_iff]
  constructor
  · rintro ⟨q, above, hq⟩
    rw [h.unique hq step] at above
    exact (Relation.reflTransGen_iff_eq_or_transGen.1 above).imp_left Eq.symm
  · rintro (rfl | above)
    · exact ⟨a, .refl, step⟩
    · exact ⟨p, above.to_reflTransGen, step⟩

theorem finite_above (h : Descent child number) (a : α) : {b | TransGen child b a}.Finite := by
  refine h.wellFounded.induction (C := fun a => {b | TransGen child b a}.Finite) a fun a ih => ?_
  by_cases inner : ∃ p, child p a
  · obtain ⟨p, step⟩ := inner
    rw [h.above_child step]
    exact (ih p step).insert p
  · refine Set.finite_empty.subset fun b above => inner ?_
    obtain ⟨p, _, step⟩ := TransGen.tail'_iff.1 above
    exact ⟨p, step⟩

/-- One more element is above a child than above its parent. -/
theorem ncard_above_child (h : Descent child number) {p c : α} (step : child p c) :
    {a | TransGen child a c}.ncard = {a | TransGen child a p}.ncard + 1 := by
  rw [h.above_child step]
  exact Set.ncard_insert_of_notMem (fun self => Nat.lt_irrefl _ (h.lt self)) (h.finite_above p)

end Descent

/-! ## Walks -/

/-- A function that lists an element, and behind it, child after child, what it lists for them. -/
structure Walk (child : α → α → Prop) (children walk : α → List α) : Prop where
  mem_children : ∀ {p c : α}, c ∈ children p ↔ child p c
  distinct : ∀ p, (children p).Nodup
  /-- Every way down ends. -/
  ends : WellFounded fun c p => child p c
  walk_eq : ∀ a, walk a = a :: (children a).flatMap walk

namespace Walk

variable {child : α → α → Prop} {number : α → Nat} {children walk : α → List α}

/-- What follows from the children holds of all elements. -/
theorem induction (w : Walk child children walk) {P : α → Prop}
    (step : ∀ a, (∀ c ∈ children a, P c) → P a) (a : α) : P a :=
  w.ends.induction (C := P) a fun a ih => step a fun c hc => ih c (w.mem_children.1 hc)

/-- The walk meets the element and what is below it. -/
theorem mem_iff (w : Walk child children walk) {a k : α} :
    k ∈ walk a ↔ ReflTransGen child a k := by
  refine w.induction (P := fun a => k ∈ walk a ↔ ReflTransGen child a k) (fun a ih => ?_) a
  rw [w.walk_eq, List.mem_cons, List.mem_flatMap, ReflTransGen.cases_head_iff, eq_comm]
  refine or_congr_right (exists_congr fun c => ?_)
  rw [← w.mem_children]
  exact and_congr_right (ih c)

/-- Behind the element, the walk meets what is below it. -/
theorem mem_rest_iff (w : Walk child children walk) {a k : α} :
    k ∈ (children a).flatMap walk ↔ TransGen child a k := by
  rw [List.mem_flatMap, TransGen.head'_iff]
  exact exists_congr fun c => and_congr w.mem_children w.mem_iff

theorem parentsFirst (w : Walk child children walk) (h : Descent child number) (a : α) :
    ParentsFirst child (walk a) := by
  refine w.induction (P := fun a => ParentsFirst child (walk a)) (fun a ih => ?_) a
  rw [w.walk_eq]
  exact h.parentsFirst_cons_flatMap (fun c => w.mem_children.1) (w.distinct a)
    (fun c _ k => w.mem_iff.1) ih

/-- The walk from an element is one part of every walk that meets the element. -/
theorem isInfix (w : Walk child children walk) {a k : α} (met : k ∈ walk a) :
    walk k <:+: walk a := by
  refine w.induction (P := fun a => k ∈ walk a → walk k <:+: walk a) (fun a ih met => ?_) a met
  rw [w.walk_eq, List.mem_cons, List.mem_flatMap] at met
  rcases met with rfl | ⟨c, hc, inner⟩
  · exact List.infix_rfl
  · have part := (ih c hc inner).trans (List.infix_flatMap_of_mem hc walk)
    rw [w.walk_eq a]
    exact part.trans (List.suffix_cons a _).isInfix

/-- It is also one part of what such a walk lists behind another element. -/
theorem isInfix_rest (w : Walk child children walk) {a k : α}
    (met : k ∈ (children a).flatMap walk) : walk k <:+: (children a).flatMap walk := by
  obtain ⟨c, hc, inner⟩ := List.mem_flatMap.1 met
  exact (w.isInfix inner).trans (List.infix_flatMap_of_mem hc walk)

end Walk

/-- An element, and behind it what its children lead to, down to a depth. -/
def walkWithin (children : α → List α) : (depth : Nat) → α → List α
  | 0, a => [a]
  | depth + 1, a => a :: (children a).flatMap (walkWithin children depth)

namespace Descent

variable {child : α → α → Prop} {number : α → Nat} {children : α → List α} {bound : Nat}

/-- A depth that reaches all numbers above that of an element does not cut its walk off. -/
theorem walkWithin_succ (h : Descent child number)
    (children_iff : ∀ {p c : α}, c ∈ children p ↔ child p c)
    (below : ∀ {p c : α}, child p c → number c < bound) {depth : Nat} {a : α}
    (enough : bound ≤ depth + number a + 1) :
    walkWithin children (depth + 1) a = walkWithin children depth a := by
  induction depth generalizing a with
  | zero =>
    have leaf : children a = [] := by
      refine List.eq_nil_iff_forall_not_mem.2 fun c hc => ?_
      have := h.later (children_iff.1 hc)
      have := below (children_iff.1 hc)
      omega
    show a :: (children a).flatMap _ = [a]
    rw [leaf, List.flatMap_nil]
  | succ depth ih =>
    show a :: (children a).flatMap _ = a :: (children a).flatMap _
    refine congrArg _ (List.flatMap_congr fun c hc => ih ?_)
    have := h.later (children_iff.1 hc)
    omega

theorem walk_walkWithin (h : Descent child number)
    (children_iff : ∀ {p c : α}, c ∈ children p ↔ child p c)
    (distinct : ∀ p, (children p).Nodup) (below : ∀ {p c : α}, child p c → number c < bound)
    {depth : Nat} (enough : bound ≤ depth + 1) :
    Walk child children (walkWithin children depth) where
  mem_children := children_iff
  distinct := distinct
  ends := h.wellFounded_down below
  walk_eq a := (h.walkWithin_succ children_iff below (by omega)).symm

end Descent

end Hyperslab
