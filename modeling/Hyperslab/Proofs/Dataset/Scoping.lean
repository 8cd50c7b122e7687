/-
# `Hyperslab.Proofs.Dataset.Scoping` — what a name goes on denoting

A plain name is searched from a group outwards, so it denotes the declaration in the innermost
group that has one of the name (`Innermost`).  While a dataset grows, that can
change only if one of the groups around declares something more: a name that is resolved once
keeps its meaning as long as these groups stay as they are (`SameScope`).  A name with a slash in
front keeps its meaning whatever is declared, for a search from the root takes the first child of
a name, and new children come last.
-/
import Hyperslab.Dataset.Scope
import Hyperslab.Proofs.Dataset.Appending
import Hyperslab.Proofs.Dataset.GroupOrder
import Mathlib.Data.List.Find

namespace Hyperslab.Dataset

variable {d e f : Dataset} {g : GroupId}

/-! ## The innermost group -/

/-- A search succeeds in a group around the given one, and in none that is further inside. -/
def Innermost {α : Type} (d : Dataset) (g : GroupId) (search : GroupId → Option α) (x : α) : Prop :=
  ∃ h, d.Encloses h g ∧ search h = some x ∧
    ∀ k, d.Encloses h k → d.Encloses k g → k ≠ h → search k = none

/-- A group is searched before the groups around it. -/
theorem enclosing_of_parent (tree : GroupTree d) {p : GroupId}
    (parent : (d.group g).parent = some p) : d.enclosing g = g :: d.enclosing p := by
  rw [enclosing, tree.path (tree.owned.2 parent), List.reverse_append]
  rfl

/-- Searching from a group outwards, the innermost group wins. -/
theorem findSome?_enclosing_iff {α : Type} (tree : GroupTree d) (there : d.Has (.ofGroup g))
    (search : GroupId → Option α) (x : α) :
    (d.enclosing g).findSome? search = some x ↔ d.Innermost g search x := by
  revert x
  -- from the root down: the groups around a child are those around its parent, and the child
  refine tree.induction (P := fun g => ∀ x,
    (d.enclosing g).findSome? search = some x ↔ d.Innermost g search x) ?root ?child there
  case root =>
    intro x
    rw [enclosing, tree.path_root]
    have alone : ∀ {h}, d.Encloses h .root → h = .root := fun around =>
      GroupId.ext (Nat.le_zero.1 (tree.le_of_encloses around))
    constructor
    · intro found
      refine ⟨.root, .refl, by simpa using found, fun k _ around other => ?_⟩
      exact absurd (alone around) other
    · rintro ⟨h, around, found, -⟩
      rw [alone around] at found
      simpa using found
  case child =>
    intro p g member ih x
    have outer : ∀ h, d.Encloses h g ↔ h = g ∨ d.Encloses h p := fun h =>
      encloses_child_iff (tree.owned.1 member)
    have inside : ∀ {h}, d.Encloses h p → h ≠ g := by
      rintro h around rfl
      exact Nat.lt_irrefl _ (Nat.lt_of_le_of_lt (tree.le_of_encloses around) (tree.later member))
    rw [enclosing_of_parent tree (tree.owned.1 member), List.findSome?_cons]
    cases own : search g with
    | some y =>
      constructor
      · intro found
        refine ⟨g, .refl, own.trans found, fun k below around other => ?_⟩
        rcases (outer k).1 around with same | above
        · exact absurd same other
        · have loop := Nat.le_trans (tree.le_of_encloses below) (tree.le_of_encloses above)
          exact absurd (tree.later member) (Nat.not_lt.2 loop)
      · rintro ⟨h, around, found, last⟩
        by_cases same : h = g
        · rw [← own, ← same]
          simp only [found]
        · rw [last g around .refl (Ne.symm same)] at own
          cases own
    | none =>
      refine (ih x).trans (exists_congr fun h => ?_)
      constructor
      · rintro ⟨around, found, last⟩
        refine ⟨(outer h).2 (.inr around), found, fun k below above other => ?_⟩
        rcases (outer k).1 above with rfl | above
        · exact own
        · exact last k below above other
      · rintro ⟨around, found, last⟩
        have other : h ≠ g := by
          rintro rfl
          rw [own] at found
          cases found
        refine ⟨((outer h).1 around).resolve_left other, found, fun k below above => ?_⟩
        exact last k below ((outer k).2 (.inr above))

/-! ## Children of a name -/

/-- What is found first is found first in a longer list. -/
theorem find?_of_isPrefix {α : Type} {as bs : List α} {p q : α → Bool} {a : α} (h : as <+: bs)
    (agree : ∀ x ∈ as, q x = p x) (found : as.find? p = some a) : bs.find? q = some a :=
  h.find?_eq_some ((List.find?_congr agree).trans found)

section Children

variable (wf : WellFormed d) (grown : Grown d e) {name : String}

include grown

theorem Grown.isPrefix_groups (g : GroupId) : (d.group g).groups <+: (e.group g).groups :=
  (List.prefix_map_iff_of_injective fun _ _ => Node.ofGroup.inj).1 (grown.lists (.groups g))

theorem Grown.isPrefix_dimensions (g : GroupId) :
    (d.group g).dimensions <+: (e.group g).dimensions :=
  (List.prefix_map_iff_of_injective fun _ _ => Node.ofDimension.inj).1
    (grown.lists (.dimensions g))

theorem Grown.isPrefix_enums (g : GroupId) : (d.group g).enums <+: (e.group g).enums :=
  (List.prefix_map_iff_of_injective fun _ _ => Node.ofEnumeration.inj).1 (grown.lists (.enums g))

include wf

theorem Grown.name_group_of_mem {k : GroupId} (member : k ∈ (d.group g).groups) :
    (e.group k).name = (d.group k).name := by
  have same := congrArg Group.name (grown.group (wf.has_of_lists (n := .ofGroup k) member))
  exact same

theorem Grown.dimension_of_mem {x : DimId} (member : x ∈ (d.group g).dimensions) :
    e.dimension x = d.dimension x :=
  grown.dimension (wf.has_of_lists (n := .ofDimension x) (g := g) member)

theorem Grown.enumeration_of_mem {y : EnumId} (member : y ∈ (d.group g).enums) :
    e.enumeration y = d.enumeration y :=
  grown.enumeration (wf.has_of_lists (n := .ofEnumeration y) (g := g) member)

theorem Grown.childGroup? {k : GroupId} (found : d.childGroup? g name = some k) :
    e.childGroup? g name = some k :=
  find?_of_isPrefix (grown.isPrefix_groups g)
    (fun k member => by rw [grown.name_group_of_mem wf member]) found

theorem Grown.childDimension? {x : DimId} (found : d.childDimension? g name = some x) :
    e.childDimension? g name = some x :=
  find?_of_isPrefix (grown.isPrefix_dimensions g)
    (fun x member => by rw [grown.dimension_of_mem wf member]) found

theorem Grown.childEnum? {y : EnumId} (found : d.childEnum? g name = some y) :
    e.childEnum? g name = some y :=
  find?_of_isPrefix (grown.isPrefix_enums g)
    (fun y member => by rw [grown.enumeration_of_mem wf member]) found

/-! ## Names from the root -/

theorem Grown.descendGroups? {names : List String} {k : GroupId}
    (found : d.descendGroups? g names = some k) : e.descendGroups? g names = some k := by
  induction names generalizing g with
  | nil => exact found
  | cons name rest ih =>
    obtain ⟨h, child, below⟩ := Option.bind_eq_some_iff.1 found
    exact Option.bind_eq_some_iff.2 ⟨h, grown.childGroup? wf child, ih below⟩

theorem Grown.findDimension? {x : DimId} (found : d.findDimension? name = some x) :
    e.findDimension? name = some x := by
  obtain ⟨home, path, child⟩ := Option.bind_eq_some_iff.1 found
  exact Option.bind_eq_some_iff.2
    ⟨home, grown.descendGroups? wf path, grown.childDimension? wf child⟩

theorem Grown.findEnum? {y : EnumId} (found : d.findEnum? name = some y) :
    e.findEnum? name = some y := by
  obtain ⟨home, path, child⟩ := Option.bind_eq_some_iff.1 found
  exact Option.bind_eq_some_iff.2 ⟨home, grown.descendGroups? wf path, grown.childEnum? wf child⟩

end Children

/-! ## Names from a group -/

/-- The groups around a group declare no more dimensions and enumerations in the second dataset
than in the first. -/
def SameScope (d e : Dataset) (g : GroupId) : Prop :=
  ∀ h ∈ (d.group g).path, (e.group h).dimensions = (d.group h).dimensions ∧
    (e.group h).enums = (d.group h).enums

theorem eq_of_isPrefix_of_eq {α : Type} {as bs cs : List α} (first : as <+: bs) (second : bs <+: cs)
    (ends : cs = as) : bs = as :=
  (first.eq_of_length_le (ends ▸ second.length_le)).symm

/-- A group between an earlier and a later one that declare the same. -/
theorem SameScope.between (same : SameScope d f g) (first : Grown d e) (second : Grown e f)
    (there : d.Has (.ofGroup g)) : SameScope d e g ∧ SameScope e f g := by
  have left : SameScope d e g := fun h around =>
    ⟨eq_of_isPrefix_of_eq (first.isPrefix_dimensions h) (second.isPrefix_dimensions h) (same h around).1,
      eq_of_isPrefix_of_eq (first.isPrefix_enums h) (second.isPrefix_enums h) (same h around).2⟩
  refine ⟨left, fun h around => ?_⟩
  rw [first.path there] at around
  rw [(left h around).1, (left h around).2]
  exact same h around

theorem findSome?_congr {α β : Type} {p q : α → Option β} {as : List α}
    (h : ∀ a ∈ as, p a = q a) : as.findSome? p = as.findSome? q := by
  induction as with
  | nil => rfl
  | cons a as ih =>
    rw [List.findSome?_cons, List.findSome?_cons, h a (List.mem_cons_self ..),
      ih fun b hb => h b (List.mem_cons_of_mem _ hb)]

/-- Where searches agree, so do resolutions. -/
theorem resolve_congr {α : Type} {a : α} {name : String} {absolute rooted : Option α}
    {search later : GroupId → Option α} (path : (e.group g).path = (d.group g).path)
    (root : absolute = some a → rooted = some a)
    (around : ∀ h ∈ (d.group g).path, later h = search h)
    (found : (if isAbsolute name then absolute else (d.enclosing g).findSome? search) = some a) :
    (if isAbsolute name then rooted else (e.enclosing g).findSome? later) = some a := by
  split
  · rename_i slash
    rw [if_pos slash] at found
    exact root found
  · rename_i plain
    rw [if_neg plain] at found
    rw [← found, enclosing, enclosing, path]
    exact findSome?_congr fun h member => around h (List.mem_reverse.1 member)

/-- Only groups and enumerations have to do with what names of types denote. -/
theorem resolveType?_congr (groups : e.groups = d.groups) (enums : e.enums = d.enums) :
    e.resolveType? = d.resolveType? := by
  have group : e.group = d.group := funext fun g => by rw [Dataset.group, groups]; rfl
  have childGroup? : e.childGroup? = d.childGroup? := by
    unfold Dataset.childGroup?
    rw [group]
  have childEnum? : e.childEnum? = d.childEnum? := by
    unfold Dataset.childEnum? enumeration
    rw [group, enums]
  have descend (names : List String) (g : GroupId) :
      e.descendGroups? g names = d.descendGroups? g names := by
    induction names generalizing g with
    | nil => rfl
    | cons name rest ih => simp only [descendGroups?, childGroup?, ih]
  funext g name
  unfold resolveType? resolveEnum? findEnum? findHome? enclosing
  rw [descend, childEnum?, group]

section Resolving

variable (wf : WellFormed d) (grown : Grown d e) (there : d.Has (.ofGroup g))
  (scope : SameScope d e g) {name : String}

include wf grown there scope

theorem SameScope.resolveDimension? {x : DimId} (found : d.resolveDimension? g name = some x) :
    e.resolveDimension? g name = some x := by
  refine resolve_congr (grown.path there) (grown.findDimension? wf) (fun h around => ?_) found
  unfold childDimension?
  rw [(scope h around).1]
  exact List.find?_congr fun x member => by rw [grown.dimension_of_mem wf member]

theorem SameScope.resolveEnum? {y : EnumId} (found : d.resolveEnum? g name = some y) :
    e.resolveEnum? g name = some y := by
  refine resolve_congr (grown.path there) (grown.findEnum? wf) (fun h around => ?_) found
  unfold childEnum?
  rw [(scope h around).2]
  exact List.find?_congr fun y member => by rw [grown.enumeration_of_mem wf member]

theorem SameScope.resolveType? {t : AtomicType} (found : d.resolveType? g name = some t) :
    e.resolveType? g name = some t := by
  unfold Dataset.resolveType? at found ⊢
  cases own : AtomicType.ofName? name with
  | some u =>
    rw [own] at found
    exact found
  | none =>
    rw [own] at found
    obtain ⟨y, resolved, rfl⟩ := Option.map_eq_some_iff.1 found
    exact Option.map_eq_some_iff.2 ⟨y, scope.resolveEnum? wf grown there resolved, rfl⟩

end Resolving

/-- From one stage on, up to another one, a question has the same answer. -/
def Lasts {α : Type} (d f : Dataset) (question : Dataset → Option α) (answer : α) : Prop :=
  ∀ e, Leads d e → Leads e f → question e = some answer

theorem Lasts.last {α : Type} {question : Dataset → Option α} {answer : α}
    (h : Lasts d f question answer) (leads : Leads d f) : question f = some answer :=
  h f leads (Leads.refl f)

section Lasting

variable (wf : WellFormed d) (there : d.Has (.ofGroup g)) (scope : SameScope d f g)
  {name : String}

include wf there scope

theorem SameScope.lasts_resolveDimension? {x : DimId}
    (found : d.resolveDimension? g name = some x) :
    Lasts d f (fun e => e.resolveDimension? g name) x := fun _ first second =>
  (scope.between first.grown second.grown there).1.resolveDimension? wf first.grown there found

theorem SameScope.lasts_resolveType? {t : AtomicType} (found : d.resolveType? g name = some t) :
    Lasts d f (fun e => e.resolveType? g name) t := fun _ first second =>
  (scope.between first.grown second.grown there).1.resolveType? wf first.grown there found

end Lasting

/-! ## What is resolved is called so -/

/-- What a name calls a declaration: the whole name, or the part behind its last slash if it
begins with one. -/
def lastPart (name : String) : String :=
  if isAbsolute name then String.ofList (splitName name).2 else name

/-- What is resolved was found in some group, under the last part of its name. -/
theorem exists_group_of_resolved {α : Type} {s : GroupId → String → Option α} {name : String} {a : α}
    (found : (if isAbsolute name then
        (d.findHome? name).bind fun home => s home (String.ofList (splitName name).2)
      else (d.enclosing g).findSome? fun h => s h name) = some a) :
    ∃ h, s h (lastPart name) = some a := by
  unfold lastPart
  split at found
  · rename_i slash
    obtain ⟨home, -, child⟩ := Option.bind_eq_some_iff.1 found
    rw [if_pos slash]
    exact ⟨home, child⟩
  · rename_i plain
    obtain ⟨h, -, child⟩ := List.exists_of_findSome?_eq_some found
    rw [if_neg plain]
    exact ⟨h, child⟩

theorem name_of_resolveDimension? {name : String} {x : DimId}
    (found : d.resolveDimension? g name = some x) :
    (d.dimension x).name = some (lastPart name) := by
  obtain ⟨h, child⟩ := exists_group_of_resolved (s := d.childDimension?) found
  unfold childDimension? at child
  have same := List.find?_some child
  exact beq_iff_eq.1 same

theorem name_of_resolveEnum? {name : String} {y : EnumId}
    (found : d.resolveEnum? g name = some y) :
    (d.enumeration y).name = lastPart name := by
  obtain ⟨h, child⟩ := exists_group_of_resolved (s := d.childEnum?) found
  unfold childEnum? at child
  have same := List.find?_some child
  exact beq_iff_eq.1 same

end Hyperslab.Dataset
