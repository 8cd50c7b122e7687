/-
# `Hyperslab.Proofs.Dataset.Faithful` — what can be relied on in a loaded dataset

Two things hold of every description that loads.  The dataset is what the description says
(`ofDescription?_faithful`): reading it from the root gives the description, each thing is read
once, and what is not read is not in the dataset either.  And the names that variables use mean in
the dataset what they meant when they were read (`ofDescription?_scoping`), so that a dataset can be
read with the rules of scope and without knowing how it was loaded.
-/
import Hyperslab.Proofs.Dataset.Loaded

namespace Hyperslab.Dataset

variable {d e : Dataset} {g : GroupId}

/-! ## Names and what they are names of -/

/-- Names in a dataset that is loaded: a name of a dimension gives a shared dimension that is
called so, and a name of a type the type that it denotes; an enumeration that is the type of an
attribute that no variable has is only called so. -/
def calledNames (d : Dataset) : Naming where
  dimension _ _ name x :=
    (d.dimension x).name = some (lastPart name) ∧ (d.dimension x).shared = true
  variableType _ g name t := d.resolveType? g name = some t
  attributeType n g name t :=
    match n with
    | .ofVariable _ => d.resolveType? g name = some t
    | _ => AtomicType.ofName? name = some t ∨ AtomicType.ofName? name = none ∧
      ∃ y, t = .enumeration y ∧ d.Has (.ofEnumeration y) ∧ (d.enumeration y).name = lastPart name

/-- The dimensions with names are the shared ones. -/
theorem Leads.shared {name : String} (h : Leads (empty name) d) (x : DimId) :
    (d.dimension x).shared = (d.dimension x).name.isSome := by
  revert x
  refine h.induction (P := fun d => ∀ x, (d.dimension x).shared = (d.dimension x).name.isSome)
    (fun _ => rfl) ?_
  intro d e old growth x
  cases growth with
  | group | enumeration | topLevel | field | attr => exact old x
  | @dimension k own size =>
    have read : (d.withDimension k own size).dimension x = _ := dimension_concat ..
    rw [read]
    split
    · rfl
    · exact old x
  | @anonymous k size =>
    have read : (d.withAnonymous k size).dimension x = _ := dimension_concat ..
    rw [read]
    split
    · rfl
    · exact old x

theorem has_of_resolveEnum? (wf : WellFormed d) {name : String} {y : EnumId}
    (found : d.resolveEnum? g name = some y) : d.Has (.ofEnumeration y) := by
  obtain ⟨h, child⟩ := exists_group_of_resolved (s := d.childEnum?) found
  exact wf.has_of_lists (n := .ofEnumeration y) (g := h) (List.mem_of_find?_eq_some child)

/-- A type is called by the name that denoted it at an earlier stage. -/
theorem called_of_resolveType? (wf : WellFormed d) (grown : Grown d e) {name : String}
    {t : AtomicType} (resolved : d.resolveType? g name = some t) :
    AtomicType.ofName? name = some t ∨ AtomicType.ofName? name = none ∧
      ∃ y, t = .enumeration y ∧ e.Has (.ofEnumeration y) ∧
        (e.enumeration y).name = lastPart name := by
  unfold resolveType? at resolved
  cases own : AtomicType.ofName? name with
  | some u =>
    rw [own] at resolved
    exact .inl resolved
  | none =>
    rw [own] at resolved
    obtain ⟨y, found, rfl⟩ := Option.map_eq_some_iff.1 resolved
    have has := has_of_resolveEnum? wf found
    refine .inr ⟨rfl, y, rfl, grown.has has, ?_⟩
    rw [grown.enumeration has]
    exact name_of_resolveEnum? found

theorem Lasting.answer {α : Type} {moment : Dataset → Prop} {question : Dataset → Option α}
    {x : α} (h : d.Lasting moment question x) : question d = some x := by
  obtain ⟨_, -, -, leads, lasts⟩ := h
  exact lasts.last leads

theorem lastingNames_implies {name : String} (built : Leads (empty name) d) :
    d.lastingNames.Implies d.calledNames where
  dimension v g name x lasting := by
    have called := name_of_resolveDimension? lasting.answer
    refine ⟨called, ?_⟩
    rw [built.shared, called]
    rfl
  variableType v g name t lasting := lasting.answer
  attributeType n g name t lasting := by
    cases n with
    | ofVariable v => exact lasting.answer
    | ofGroup | ofDimension | ofEnumeration | ofAttribute =>
      obtain ⟨e, stage, leads, resolved⟩ := lasting
      exact called_of_resolveType? stage.wellFormed leads.grown resolved

/-! ## Reading back -/

/-- The dataset is what the description says: all of it, each thing once, and nothing else. -/
structure Faithful (d : Dataset) (c : GroupDescription) : Prop where
  name : d.name = c.name
  /-- Read from the root, list by list, the dataset gives the description. -/
  matched : d.GroupMatches d.calledNames .root c
  /-- Nothing is twice in a list. -/
  nodup : ∀ p, (d.listAt p).Nodup
  /-- Nothing is in two lists. -/
  apart : ∀ p q n, n ∈ d.listAt p → n ∈ d.listAt q → p = q
  /-- A dimension without a name is at one position of one variable. -/
  anonymous : d.AnonymousOnce
  /-- A dimension with a name is in the list of the group that it lies in. -/
  shared : ∀ x name, (d.dimension x).name = some name →
    x ∈ (d.group (d.dimension x).group).dimensions
  /-- Attributes are on groups and on variables. -/
  owned : d.OwnedAttributes
  /-- The dataset has what is read, and nothing else. -/
  complete : ∀ n, d.Has n ↔ d.Reached n

/-- Loading is faithful. -/
theorem ofDescription?_faithful {c : GroupDescription} (loaded : ofDescription? c = .ok d) :
    d.Faithful c := by
  have steps := ofDescription?_steps loaded
  have wf := steps.leads.wellFormed
  obtain ⟨named, matched⟩ := ofDescription?_matches loaded
  exact {
    name := named
    matched := matched.imp (lastingNames_implies steps.leads) c
    nodup := by
      obtain ⟨xs, rfl⟩ := steps.leads
      exact nodup_listAt wf (ascending_built c.name xs)
    apart := by
      intro p q n inP inQ
      have place := (mem_listAt_iff wf).1 inP
      exact Option.some.inj (place.2.symm.trans ((mem_listAt_iff wf).1 inQ).2)
    anonymous := steps.anonymousOnce
    shared := fun _ _ => mem_dimensions_of_name wf
    owned := (ownedAttributes_empty c.name).steps steps
    complete := fun _ => steps.has_iff_reached }

/-- A dataset with shared dimensions and an enumeration, and with a group that declares a level
of its own and a sequence in which both levels are used. -/
def ocean : GroupDescription where
  name := "ocean"
  dimensions := [⟨"time", 10⟩, ⟨"level", 3⟩]
  enums := [⟨"quality", "ubyte", [("good", 0), ("bad", 1)]⟩]
  vars := [⟨"temp", "float", [.named "time", .anonymous 4], [], [⟨"flags", "quality", ["good"]⟩]⟩]
  groups := [⟨"profiles", [⟨"level", 7⟩], [],
    [⟨"obs", "sequence", [], [⟨"flag", "/quality", [], [], []⟩,
      ⟨"grid", "double", [.named "level", .named "/level"], [], []⟩], []⟩], [], []⟩]
  attributes := [⟨"title", "string", ["soundings"]⟩]

/-- The declarations that the description makes. -/
def oceanDeclarations : List Declaration :=
  [.attr (.ofGroup .root) ⟨"title", .string, ["soundings"]⟩, .dimension .root "time" 10,
    .dimension .root "level" 3, .enumeration .root "quality" .uint8 [("good", 0), ("bad", 1)],
    .anonymous .root 4, .var (.group .root) "temp" (.atomic .float32) [⟨0⟩, ⟨2⟩],
    .attr (.ofVariable ⟨0⟩) ⟨"flags", .enumeration ⟨0⟩, ["good"]⟩, .group .root "profiles",
    .dimension ⟨1⟩ "level" 7, .var (.group ⟨1⟩) "obs" .sequence [],
    .var (.compound ⟨1⟩) "flag" (.atomic (.enumeration ⟨0⟩)) [],
    .var (.compound ⟨1⟩) "grid" (.atomic .float64) [⟨3⟩, ⟨1⟩]]

theorem ofDescription?_ocean :
    ofDescription? ocean = .ok (built "ocean" oceanDeclarations) := by
  decide +kernel

/-- The size is used once, both levels are in the lists of their groups, and the attribute of the
temperature, of which there are no more than the two described, is read. -/
theorem ofDescription?_faithful_ocean :
    let d := built "ocean" oceanDeclarations
    ofDescription? ocean = .ok d ∧ d.GroupMatches d.calledNames .root ocean ∧
      (d.dimension ⟨2⟩).name = none ∧ d.usedDimensions.count ⟨2⟩ = 1 ∧
      (⟨1⟩ : DimId) ∈ (d.group .root).dimensions ∧ (⟨3⟩ : DimId) ∈ (d.group ⟨1⟩).dimensions ∧
      (∀ x ∈ d.attributes, bearsAttributes x.owner = true) ∧
      d.Reached (.ofAttribute ⟨1⟩) ∧ ¬ d.Reached (.ofAttribute ⟨2⟩) := by
  have faithful := ofDescription?_faithful ofDescription?_ocean
  have outer : ((built "ocean" oceanDeclarations).dimension ⟨1⟩).group = .root := by
    decide +kernel
  have inner : ((built "ocean" oceanDeclarations).dimension ⟨3⟩).group = ⟨1⟩ := by decide +kernel
  exact ⟨ofDescription?_ocean, faithful.matched, by decide +kernel,
    faithful.anonymous ⟨2⟩ (by decide +kernel) (by decide +kernel),
    outer ▸ faithful.shared ⟨1⟩ "level" (by decide +kernel),
    inner ▸ faithful.shared ⟨3⟩ "level" (by decide +kernel),
    fun x member => (faithful.owned x member).2,
    (faithful.complete (.ofAttribute ⟨1⟩)).1 (by decide +kernel),
    mt (faithful.complete (.ofAttribute ⟨2⟩)).2 (by decide +kernel)⟩

/-! ## Scope -/

/-- Names of dimensions and types that variables use, and names of types that their attributes
use, go on denoting what they denoted when they were read, up to the finished dataset.  In it a
plain name denotes the declaration in the innermost group around that has one of the name. -/
theorem ofDescription?_scoping {c : GroupDescription} (loaded : ofDescription? c = .ok d) :
    d.GroupMatches d.lastingNames .root c ∧
      ∀ g name, d.Has (.ofGroup g) → isAbsolute name = false →
        (∀ x, d.resolveDimension? g name = some x ↔
          d.Innermost g (fun h => d.childDimension? h name) x) ∧
        (AtomicType.ofName? name = none → ∀ t, d.resolveType? g name = some t ↔
          ∃ y, d.Innermost g (fun h => d.childEnum? h name) y ∧ .enumeration y = t) := by
  have wf := (ofDescription?_steps loaded).leads.wellFormed
  refine ⟨(ofDescription?_matches loaded).2, fun g name there plain => ⟨fun x => ?_, ?_⟩⟩
  · rw [resolveDimension?, if_neg (Bool.eq_false_iff.1 plain)]
    exact findSome?_enclosing_iff wf.tree there _ x
  · intro unreserved t
    rw [resolveType?, unreserved, resolveEnum?, if_neg (Bool.eq_false_iff.1 plain)]
    refine Option.map_eq_some_iff.trans (exists_congr fun y => and_congr_left fun _ => ?_)
    exact findSome?_enclosing_iff wf.tree there _ y

/-- The levels of the profiles are their own, and those of the ocean are named from the root. -/
theorem ofDescription?_scoping_ocean :
    let d := built "ocean" oceanDeclarations
    ofDescription? ocean = .ok d ∧ d.GroupMatches d.lastingNames .root ocean ∧
      (d.var ⟨3⟩).dimensions = [⟨3⟩, ⟨1⟩] ∧
      d.Innermost ⟨1⟩ (fun h => d.childDimension? h "level") ⟨3⟩ ∧
      d.resolveDimension? ⟨1⟩ "/level" = some ⟨1⟩ := by
  obtain ⟨matched, plain⟩ := ofDescription?_scoping ofDescription?_ocean
  refine ⟨ofDescription?_ocean, matched, by decide +kernel, ?_, by decide +kernel⟩
  exact ((plain ⟨1⟩ "level" (by decide +kernel) (by decide)).1 ⟨3⟩).1 (by decide +kernel)

end Hyperslab.Dataset
