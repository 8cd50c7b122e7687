/-
# `Hyperslab.Proofs.Dataset.GroupAttributes` — the types of attributes of groups

The attributes of a group come before everything else in it.  So their types are read when
nothing is declared in the group yet, and what they are is decided around the group: an
enumeration of the group itself is never the type of one of its attributes.  Where it hides another
of the same name, the attribute has the other one; and where there is no other, the description is
rejected.  Variables come later, and their names are read in the group.

For a description that loads this is said of the finished dataset, with `scopedNames` for the
names.  What is rejected gives no dataset, and so the stages at which loading comes to a group are
described by themselves (`Arrives`).
-/
import Hyperslab.Proofs.Dataset.Faithful

namespace Hyperslab.Dataset

variable {d e m : Dataset} {g : GroupId}

/-! ## Descriptions that load -/

/-- Names in a finished dataset: those that variables and their attributes use are read in a
group, and those of other attributes around it. -/
def scopedNames (d : Dataset) : Naming where
  dimension _ g name x := d.resolveDimension? g name = some x
  variableType _ g name t := d.resolveType? g name = some t
  attributeType n g name t :=
    match n with
    | .ofVariable _ => d.resolveType? g name = some t
    | _ => d.typeAround? g name = some t

theorem loadedNames_implies_scopedNames (d : Dataset) : d.loadedNames.Implies d.scopedNames where
  dimension _ _ _ _ lasting := lasting.answer
  variableType _ _ _ _ lasting := lasting.answer
  attributeType n _ _ _ both := by
    cases n with
    | ofVariable v => exact both.1.answer
    | ofGroup | ofDimension | ofEnumeration | ofAttribute => exact both.2 nofun

/-! ## Coming to a group -/

/-- In loading a description, its group `b` is what comes next, and in the dataset so far it is
declared as the group `g`. -/
inductive Arrives (c : GroupDescription) : Dataset → GroupId → GroupDescription → Prop
  | root : Arrives c (empty c.name) .root c
  | inner {m e k n : Dataset} {g h : GroupId} {b x : GroupDescription}
      {front back : List GroupDescription} (outer : Arrives c m g b)
      (groups : b.groups = front ++ x :: back) (contents : m.loadContents g b = .ok e)
      (before : e.loadGroups g front = .ok k) (added : k.addGroup? g x.name = .ok (n, h)) :
      Arrives c n h x

variable {b c x : GroupDescription} {fault : LoadError}

theorem loadGroup_eq_loadGroups (contents : d.loadContents g c = .ok e) :
    d.loadGroup g c = e.loadGroups g c.groups := by
  cases c
  rw [loadGroup, contents]
  rfl

theorem loadGroup_eq_error (contents : d.loadContents g c = .error fault) :
    d.loadGroup g c = .error fault := by
  cases c
  rw [loadGroup, contents]
  rfl

/-- If one of the groups fails, so do all together. -/
theorem loadGroups_eq_error {front back : List GroupDescription} {h : GroupId}
    (before : d.loadGroups g front = .ok e) (added : e.addGroup? g x.name = .ok (m, h))
    (fails : m.loadGroup h x = .error fault) :
    d.loadGroups g (front ++ x :: back) = .error fault := by
  induction front generalizing d with
  | nil =>
    cases before
    rw [List.nil_append, loadGroups, added]
    show (m.loadGroup h x).bind _ = _
    rw [fails]
    rfl
  | cons y front ih =>
    obtain ⟨k, free, inner, rest⟩ := loadGroups_cons_eq_ok before
    rw [List.cons_append, loadGroups, addGroup?_eq_ok_iff.2 ⟨free, rfl⟩]
    show ((d.withGroup g y.name).loadGroup d.nextGroup y).bind _ = _
    rw [inner]
    exact ih rest

namespace Arrives

/-- The group is there, and nothing is declared in it. -/
theorem stage (h : Arrives c m g b) :
    LoadSteps (empty c.name) m ∧ m.Has (.ofGroup g) ∧ m.Blank g := by
  induction h with
  | root =>
    have opened := opened_empty (f := empty c.name) c.name rfl
    exact ⟨.refl, opened.there, opened.blank⟩
  | inner _ _ contents before added ih =>
    obtain ⟨steps, there, -⟩ := ih
    obtain ⟨free, same⟩ := addGroup?_eq_ok_iff.1 added
    cases same
    have far := (steps.trans (loadContents_steps there contents)).trans (loadGroups_steps _ before)
    exact ⟨far.tail (.group free), has_nextGroup ..,
      blank_withGroup ((ownedAttributes_empty c.name).steps far) free⟩

/-- What fails in a group makes the whole description fail. -/
theorem eq_error (h : Arrives c m g b) (fails : m.loadGroup g b = .error fault) :
    ofDescription? c = .error fault := by
  induction h with
  | root => exact fails
  | inner _ groups contents before added ih =>
    refine ih ?_
    rw [loadGroup_eq_loadGroups contents, groups]
    exact loadGroups_eq_error before added fails

end Arrives

/-- The first type that is unknown is reported. -/
theorem loadAttributes_eq_error {owner : Node} {front back : List AttributeDescription}
    {a : AttributeDescription} (known : ∀ x ∈ front, (d.resolveType? g x.type).isSome = true)
    (unknown : d.resolveType? g a.type = none) :
    d.loadAttributes g owner (front ++ a :: back) = .error (.unknownType a.type) := by
  induction front generalizing d with
  | nil =>
    rw [List.nil_append, loadAttributes, loadType, unknown]
    rfl
  | cons x front ih =>
    obtain ⟨first, rest⟩ := List.forall_mem_cons.1 known
    obtain ⟨t, type⟩ := Option.isSome_iff_exists.1 first
    rw [List.cons_append, loadAttributes, loadType, type]
    refine ih ?_ ?_
    · rwa [resolveType?_addAttribute]
    · rwa [resolveType?_addAttribute]

/-! ## Types around groups -/

/-- The types of the attributes of a group are what their names denote around the group.

In a dataset that is loaded each attribute of a group has this type, and it is the one that the
name denotes in the group unless a plain name is that of an enumeration of the group.  And the
first attribute of a group with a name that denotes nothing around it makes the description fail,
whatever the group declares. -/
theorem ofDescription?_groupAttributes (c : GroupDescription) :
    (∀ d, ofDescription? c = .ok d → d.GroupMatches d.scopedNames .root c ∧
      ∀ g name t, d.typeAround? g name = some t →
        (d.resolveType? g name = some t ↔ (AtomicType.ofName? name).isSome = true ∨
          isAbsolute name = true ∨ d.childEnum? g name = none)) ∧
    ∀ m g b, Arrives c m g b → ∀ front a back, b.attributes = front ++ a :: back →
      (∀ x ∈ front, (m.typeAround? g x.type).isSome = true) → m.typeAround? g a.type = none →
        ofDescription? c = .error (.unknownType a.type) := by
  refine ⟨fun d loaded => ⟨?_, fun g name t around => ?_⟩, ?_⟩
  · exact (ofDescription?_matches_loadedNames loaded).imp d.loadedNames_implies_scopedNames c
  · exact resolveType?_eq_typeAround?_iff (ofDescription?_steps loaded).leads.wellFormed around
  · intro m g b arrives front a back attributes known unknown
    obtain ⟨steps, there, blank⟩ := arrives.stage
    have around (name : String) : m.resolveType? g name = m.typeAround? g name :=
      resolveType?_of_blank steps.leads.wellFormed.tree there blank
    have fails : m.loadContents g b = .error (.unknownType a.type) := by
      rw [loadContents, attributes, loadAttributes_eq_error]
      · rfl
      · intro x among
        rw [around]
        exact known x among
      · rw [around]
        exact unknown
    exact arrives.eq_error (loadGroup_eq_error fails)

/-- A flag, and a group that has another one for a variable and for an attribute. -/
def coast : GroupDescription where
  name := "coast"
  dimensions := []
  enums := [⟨"flag", "ubyte", [("good", 0)]⟩]
  vars := []
  groups := [⟨"inshore", [], [⟨"flag", "short", [("bad", 1)]⟩], [⟨"mark", "flag", [], [], []⟩], [],
    [⟨"fill", "flag", ["bad"]⟩]⟩]
  attributes := []

def coastDeclarations : List Declaration :=
  [.enumeration .root "flag" .uint8 [("good", 0)], .group .root "inshore",
    .attr (.ofGroup ⟨1⟩) ⟨"fill", .enumeration ⟨0⟩, ["bad"]⟩,
    .enumeration ⟨1⟩ "flag" .int16 [("bad", 1)],
    .var (.group ⟨1⟩) "mark" (.atomic (.enumeration ⟨1⟩)) []]

theorem ofDescription?_coast :
    ofDescription? coast = .ok (built "coast" coastDeclarations) := by
  decide +kernel

/-- Inshore the flag is another one, but the attribute has the flag from outside; and in the root
an attribute cannot have the flag at all. -/
theorem ofDescription?_groupAttributes_coast :
    let d := built "coast" coastDeclarations
    ofDescription? coast = .ok d ∧ d.GroupMatches d.scopedNames .root coast ∧
      d.typeAround? ⟨1⟩ "flag" = some (.enumeration ⟨0⟩) ∧
      d.resolveType? ⟨1⟩ "flag" ≠ some (.enumeration ⟨0⟩) ∧
      ofDescription? { coast with attributes := [⟨"fill", "flag", ["good"]⟩] } =
        .error (.unknownType "flag") := by
  obtain ⟨matched, hidden⟩ := (ofDescription?_groupAttributes coast).1 _ ofDescription?_coast
  have around : (built "coast" coastDeclarations).typeAround? ⟨1⟩ "flag" =
      some (.enumeration ⟨0⟩) := rfl
  refine ⟨ofDescription?_coast, matched, around, ?_, ?_⟩
  · rw [Ne, hidden ⟨1⟩ "flag" _ around]
    decide
  · exact (ofDescription?_groupAttributes { coast with attributes := [⟨"fill", "flag", ["good"]⟩] }).2
      _ _ _ .root [] _ [] rfl nofun rfl

end Hyperslab.Dataset
