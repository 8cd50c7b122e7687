/-
# `Hyperslab.Proofs.Dataset.Stability` — what a declaration leaves alone

A call that declares is made on the dataset in place.  One that is refused has changed nothing.  One
that is accepted has added one node, under the next handle of its kind, and entered it at the end of
one list at most (`Adds`).

What could be said of a dataset before can be said of it afterwards (`Keeps`).  Paths and qualified
names stay, because they are read upwards, through data that never changes.  Look-ups stay, because
they are read downwards, through lists in which the first child of a name wins and new children come
last; so it does not matter which characters the names are made of.
-/
import Hyperslab.Proofs.Dataset.Enclosing
import Hyperslab.Proofs.Dataset.Lookup
import Hyperslab.Proofs.Dataset.Scoping

namespace Hyperslab

namespace Dataset

variable {d e : Dataset} {g : GroupId} {v : VarId} {name : String}

/-! ## What is added -/

/-- The second dataset is the first one with one more node. -/
structure Adds (d e : Dataset) (new : Node) : Prop where
  absent : ¬ d.Has new
  has : ∀ n, e.Has n ↔ d.Has n ∨ n = new
  /-- What is stored under the handles that were there, apart from lists, is stored under them
  still. -/
  grown : Grown d e
  /-- One list at most gets longer, by the new node at its end, and it is the list of a node that
  is there, if the new one is not an attribute. -/
  lists : e.listAt = d.listAt ∨
    ∃ p, Appends d e p [new] ∧ (new.isStructural = true → d.Has p.node)

theorem not_has_nextNode (d : Dataset) (x : Declaration) : ¬ d.Has (d.nextNode x) := by
  cases x <;> exact Nat.lt_irrefl _

/-- Below the number after the last one are the numbers below the last one, and that one. -/
theorem has_concat_iff {α : Type} {as : List α} {a : α} {i : Nat} :
    i < (as ++ [a]).length ↔ i < as.length ∨ i = as.length := by
  rw [List.length_append, List.length_singleton]
  exact Nat.lt_succ_iff_lt_or_eq

section Has

variable {n : Node}

theorem has_withGroup {parent : GroupId} :
    (d.withGroup parent name).Has n ↔ d.Has n ∨ n = .ofGroup d.nextGroup := by
  cases n with
  | ofGroup k =>
    rw [Has, length_groups_withGroup, Nat.lt_succ_iff_lt_or_eq, Node.ofGroup.injEq, GroupId.ext_iff]
    rfl
  | _ => exact (or_iff_left nofun).symm

theorem has_withDimension {size : Nat} :
    (d.withDimension g name size).Has n ↔ d.Has n ∨ n = .ofDimension d.nextDimension := by
  cases n with
  | ofGroup k =>
    rw [Has, show (d.withDimension g name size).groups.length = _ from List.length_modify ..]
    exact (or_iff_left nofun).symm
  | ofDimension x =>
    rw [Node.ofDimension.injEq, DimId.ext_iff]
    exact has_concat_iff
  | _ => exact (or_iff_left nofun).symm

theorem has_withAnonymous {size : Nat} :
    (d.withAnonymous g size).Has n ↔ d.Has n ∨ n = .ofDimension d.nextDimension := by
  cases n with
  | ofDimension x =>
    rw [Node.ofDimension.injEq, DimId.ext_iff]
    exact has_concat_iff
  | _ => exact (or_iff_left nofun).symm

theorem has_withEnum {base : AtomicType} {constants : List (String × Int)} :
    (d.withEnum g name base constants).Has n ↔ d.Has n ∨ n = .ofEnumeration d.nextEnum := by
  cases n with
  | ofGroup k =>
    rw [Has, show (d.withEnum g name base constants).groups.length = _ from List.length_modify ..]
    exact (or_iff_left nofun).symm
  | ofEnumeration y =>
    rw [Node.ofEnumeration.injEq, EnumId.ext_iff]
    exact has_concat_iff
  | _ => exact (or_iff_left nofun).symm

theorem has_withVariable {owner : Owner} {shape : Shape} {xs : List DimId} :
    (d.withVariable owner name shape xs).Has n ↔ d.Has n ∨ n = .ofVariable d.nextVariable := by
  cases n with
  | ofGroup k =>
    have length : (d.withVariable owner name shape xs).groups.length = d.groups.length := by
      cases owner with
      | group g => exact List.length_modify ..
      | compound p => rfl
    rw [Has, length]
    exact (or_iff_left nofun).symm
  | ofVariable w =>
    rw [Has, length_vars_withVariable, Nat.lt_succ_iff_lt_or_eq, Node.ofVariable.injEq,
      VarId.ext_iff]
    rfl
  | _ => cases owner <;> exact (or_iff_left nofun).symm

theorem has_addAttribute {owner : Node} {a : Attribute} :
    (d.addAttribute owner a).1.Has n ↔ d.Has n ∨ n = .ofAttribute d.nextAttribute := by
  cases n with
  | ofAttribute b =>
    rw [Node.ofAttribute.injEq, AttrId.ext_iff]
    exact has_concat_iff
  | _ => exact (or_iff_left nofun).symm

end Has

/-- An accepted declaration adds the next node of its kind and returns its number. -/
theorem adds_of_declare? {x : Declaration} {n : Nat} (h : d.declare? x = .ok (e, n)) :
    n = (d.nextNode x).index ∧ Adds d e (d.nextNode x) := by
  have absent := not_has_nextNode d x
  have grown := (growth_of_declare? h).grown
  obtain ⟨required, rfl, number⟩ := declare?_eq_ok_iff.1 h
  refine ⟨number, absent, ?has, grown, ?lists⟩
  case has =>
    intro n
    cases x with
    | group => exact has_withGroup
    | dimension => exact has_withDimension
    | anonymous => exact has_withAnonymous
    | enumeration => exact has_withEnum
    | var => exact has_withVariable
    | attr => exact has_addAttribute
  case lists =>
    cases x with
    | group =>
      have present := (requireFree_eq_ok_iff.1 required).1
      exact .inr ⟨_, appends_withGroup present _, fun _ => present⟩
    | dimension =>
      have present := (requireFree_eq_ok_iff.1 required).1
      exact .inr ⟨_, appends_withDimension present _ _, fun _ => present⟩
    | anonymous => exact .inl (listAt_congr rfl rfl rfl)
    | enumeration =>
      have present := (requireFree_eq_ok_iff.1 (requireFree_of_requireEnum required)).1
      exact .inr ⟨_, appends_withEnum present _ _ _, fun _ => present⟩
    | var owner =>
      obtain ⟨-, -, free⟩ := requireVariable_eq_ok_iff.1 required
      have owned : d.Has owner.node ∧
          ∀ p, owner = .compound p → (d.var p).isCompound = true := by
        cases owner with
        | group g => exact ⟨(requireFree_eq_ok_iff.1 free).1, nofun⟩
        | compound p =>
          obtain ⟨present, compound, -⟩ := requireFreeField_eq_ok_iff.1 free
          exact ⟨present, by rintro _ ⟨⟩; exact compound⟩
      exact .inr ⟨_, appends_withVariable owned.1 owned.2 _ _ _, fun _ => owned.1⟩
    | attr => exact .inr ⟨_, appends_addAttribute d _ _, nofun⟩

/-! ## Paths and names -/

theorem finalOwnerWithin?_of_isStructural {n : Node} (structural : n.isStructural = true)
    (length : Nat) : d.finalOwnerWithin? length n = some n := by
  cases n with
  | ofAttribute => cases structural
  | _ => cases length <;> rfl

/-- The group that a declaration lies in is there. -/
theorem Settled.has_groupOf? (settled : Settled d) {n : Node} (there : d.Has n)
    (home : d.groupOf? n = some g) : d.Has (.ofGroup g) := by
  cases n with
  | ofGroup => cases home; exact there
  | ofDimension x => cases home; exact settled.dimension x
  | ofEnumeration y => cases home; exact settled.enumeration y
  | ofVariable v => cases home; exact settled.var v
  | ofAttribute => cases home

/-- The groups around a group are there. -/
theorem GroupTree.has_of_mem_path (tree : GroupTree d) (there : d.Has (.ofGroup g)) {k : GroupId}
    (around : k ∈ (d.group g).path) : d.Has (.ofGroup k) := by
  have encloses := (tree.mem_path_iff there).1 around
  exact Nat.lt_of_le_of_lt (tree.le_of_encloses encloses) there

namespace Grown

/-- No declaration moves to another group. -/
theorem groupOf? (grown : Grown d e) {n : Node} (there : d.Has n) :
    e.groupOf? n = d.groupOf? n := by
  cases n with
  | ofGroup | ofAttribute => rfl
  | ofDimension => exact congrArg (some ·.group) (grown.dimension there)
  | ofEnumeration => exact congrArg (some ·.group) (grown.enumeration there)
  | ofVariable => exact congrArg (some ·.group) (grown.var there)

theorem groupPath? (grown : Grown d e) (settled : Settled d) {n : Node} (there : d.Has n)
    (structural : n.isStructural = true) : e.groupPath? n = d.groupPath? n := by
  unfold Dataset.groupPath?
  rw [finalOwnerWithin?_of_isStructural structural, finalOwnerWithin?_of_isStructural structural]
  show (e.groupOf? n).bind _ = (d.groupOf? n).bind _
  rw [grown.groupOf? there]
  refine Option.bind_congr fun g home => ?_
  rw [grown.path (settled.has_groupOf? there home)]

theorem name_group (grown : Grown d e) (there : d.Has (.ofGroup g)) :
    (e.group g).name = (d.group g).name := by
  have same := congrArg Group.name (grown.group there)
  exact same

theorem name_var (grown : Grown d e) (there : d.Has (.ofVariable v)) :
    (e.var v).name = (d.var v).name := by
  have same := congrArg Variable.name (grown.var there)
  exact same

theorem owner_var (grown : Grown d e) (there : d.Has (.ofVariable v)) :
    (e.var v).owner = (d.var v).owner := by
  have same := congrArg Variable.owner (grown.var there)
  exact same

section Names

variable (grown : Grown d e) (wf : WellFormed d)

include grown wf

theorem groupName (there : d.Has (.ofGroup g)) : e.groupName g = d.groupName g := by
  unfold Dataset.groupName
  rw [grown.path there]
  split
  · rfl
  · rename_i below _
    refine congrArg String.join (List.map_congr_left fun h member => ?_)
    have around : h ∈ (d.group g).path := List.mem_of_mem_drop member
    rw [grown.name_group (wf.tree.has_of_mem_path there around)]

theorem qualify (there : d.Has (.ofGroup g)) (name : String) :
    e.qualify g name = d.qualify g name := by
  unfold Dataset.qualify
  rw [grown.groupName wf there]

theorem dimensionName? (settled : Settled d) {x : DimId} (there : d.Has (.ofDimension x)) :
    e.dimensionName? x = d.dimensionName? x := by
  unfold Dataset.dimensionName?
  rw [grown.dimension there]
  exact Option.map_congr fun w _ => grown.qualify wf (settled.dimension x) w

theorem enumName (settled : Settled d) {y : EnumId} (there : d.Has (.ofEnumeration y)) :
    e.enumName y = d.enumName y := by
  unfold Dataset.enumName
  rw [grown.enumeration there, grown.qualify wf (settled.enumeration y)]

/-- From owner to owner, up to a group. -/
theorem variableName (later : WellFormed e) (there : d.Has (.ofVariable v)) :
    e.variableName v = d.variableName v := by
  refine wf.forest.owner_induction
    (P := fun v => d.Has (.ofVariable v) → e.variableName v = d.variableName v)
    (fun {v g} owner there => ?top) (fun {p f} hf ih there => ?field) v there
  case top =>
    have same := (grown.owner_var there).trans owner
    have home := lt_length_of_vars (wf.listing.owned.2 ⟨there, owner⟩)
    rw [later.listing.variableName_eq same, wf.listing.variableName_eq owner,
      grown.name_var there, grown.qualify wf home]
  case field =>
    have same := (grown.owner_var there).trans (wf.forest.owned.1 hf)
    have above : d.Has (.ofVariable p) := Nat.lt_trans (wf.forest.later hf) there
    rw [variableName_field later (later.forest.owned.2 same), variableName_field wf hf,
      grown.name_var there, ih above]

theorem qualifiedName? (later : WellFormed e) (settled : Settled d) {n : Node} (there : d.Has n) :
    e.qualifiedName? n = d.qualifiedName? n := by
  cases n with
  | ofGroup => exact congrArg some (grown.groupName wf there)
  | ofDimension => exact grown.dimensionName? wf settled there
  | ofEnumeration => exact congrArg some (grown.enumName wf settled there)
  | ofVariable => exact congrArg some (grown.variableName wf later there)
  | ofAttribute => rfl

end Names

/-! ## Look-ups -/

theorem isPrefix_vars (grown : Grown d e) (g : GroupId) : (d.group g).vars <+: (e.group g).vars :=
  (List.prefix_map_iff_of_injective fun _ _ => Node.ofVariable.inj).1
    (grown.lists (.vars (.group g)))

theorem isPrefix_fields (grown : Grown d e) (v : VarId) : d.fields v <+: e.fields v :=
  (List.prefix_map_iff_of_injective fun _ _ => Node.ofVariable.inj).1
    (grown.lists (.vars (.compound v)))

section Lookups

variable (grown : Grown d e) (wf : WellFormed d)

include grown wf

theorem findGroup? (found : d.findGroup? name = some g) : e.findGroup? name = some g :=
  grown.descendGroups? wf found

theorem childVariable? (found : d.childVariable? g name = some v) :
    e.childVariable? g name = some v :=
  find?_of_isPrefix (grown.isPrefix_vars g)
    (fun w member => by rw [grown.name_var (wf.has_of_lists (n := .ofVariable w) (g := g) member)])
    found

theorem field? {f : VarId} (found : d.field? v name = some f) : e.field? v name = some f :=
  find?_of_isPrefix (grown.isPrefix_fields v)
    (fun w member => by rw [grown.name_var (lt_length_of_owner (wf.forest.owned.1 member))])
    found

theorem descendFields? {names : List String} {f : VarId}
    (found : d.descendFields? v names = some f) : e.descendFields? v names = some f := by
  induction names generalizing v with
  | nil => exact found
  | cons name rest ih =>
    obtain ⟨p, field, below⟩ := Option.bind_eq_some_iff.1 found
    exact Option.bind_eq_some_iff.2 ⟨p, grown.field? wf field, ih below⟩

theorem findVariable? (found : d.findVariable? name = some v) : e.findVariable? name = some v := by
  obtain ⟨home, path, found⟩ := Option.bind_eq_some_iff.1 found
  refine Option.bind_eq_some_iff.2 ⟨home, grown.descendGroups? wf path, ?_⟩
  split at found
  · cases found
  · obtain ⟨top, child, below⟩ := Option.bind_eq_some_iff.1 found
    exact Option.bind_eq_some_iff.2 ⟨top, grown.childVariable? wf child, grown.descendFields? wf below⟩

end Lookups

end Grown

/-! ## What is kept -/

/-- Whatever the first dataset says about paths, names and look-ups, the second one says. -/
structure Keeps (d e : Dataset) : Prop where
  groupPath? : ∀ n, d.Has n → n.isStructural = true → e.groupPath? n = d.groupPath? n
  qualifiedName? : ∀ n, d.Has n → n.isStructural = true →
    e.qualifiedName? n = d.qualifiedName? n
  findGroup? : ∀ name g, d.findGroup? name = some g → e.findGroup? name = some g
  findDimension? : ∀ name x, d.findDimension? name = some x → e.findDimension? name = some x
  findEnum? : ∀ name y, d.findEnum? name = some y → e.findEnum? name = some y
  findVariable? : ∀ name v, d.findVariable? name = some v → e.findVariable? name = some v
  field? : ∀ v name f, d.field? v name = some f → e.field? v name = some f

theorem Grown.keeps (grown : Grown d e) (wf : WellFormed d) (later : WellFormed e)
    (settled : Settled d) : Keeps d e where
  groupPath? _ there := grown.groupPath? settled there
  qualifiedName? _ there _ := grown.qualifiedName? wf later settled there
  findGroup? _ _ := grown.findGroup? wf
  findDimension? _ _ := grown.findDimension? wf
  findEnum? _ _ := grown.findEnum? wf
  findVariable? _ _ := grown.findVariable? wf
  field? _ _ _ := grown.field? wf

/-- More attempts at declaring keep all that could be said. -/
theorem keeps_built (name : String) (xs ys : List Declaration) :
    Keeps (built name xs) (built name (xs ++ ys)) := by
  have leads : Leads (built name xs) (built name (xs ++ ys)) := ⟨ys, (built_append name xs ys).symm⟩
  exact leads.grown.keeps (wellFormed_built name xs) (wellFormed_built name _)
    (settled_built name xs)

/-- A call that declares is refused and leaves the dataset as it was.  Or it is accepted, and then it
adds the next node of its kind, answers with its number, and keeps all that could be said before; and
so do all calls after it. -/
theorem declare_stable (name : String) (xs : List Declaration) (x : Declaration) :
    let d := built name xs
    let after := (Building.declare x).call d
    built name (xs ++ [x]) = after.2 ∧
    (∀ cause, after.1 = .error cause → after.2 = d) ∧
    (∀ n, after.1 = .ok n →
      n = (d.nextNode x).index ∧ Adds d after.2 (d.nextNode x) ∧ Keeps d after.2) ∧
    ∀ ys, Keeps d (built name (xs ++ ys)) := by
  intro d after
  have next : built name (xs ++ [x]) = after.2 := built_append name xs [x]
  refine ⟨next, fun cause refused => eq_of_declare_eq_error (Prod.ext refused rfl),
    fun n accepted => ?_, keeps_built name xs⟩
  have made : d.declare? x = .ok (after.2, n) := result_eq_ok_iff.2 (Prod.ext accepted rfl)
  obtain ⟨number, adds⟩ := adds_of_declare? made
  exact ⟨number, adds, next ▸ keeps_built name xs [x]⟩

/-- The name of a sequence is taken; the qualified name of its field is not, and a variable that is
called so is not found in place of the field. -/
theorem declare_stable_station :
    let d := built "station" station
    let taken := (Building.declare (.enumeration ⟨2⟩ "cast" .uint8 [])).call d
    let qualified := (Building.declare (.var (.group ⟨2⟩) "cast.salt" (.atomic .float32) [])).call d
    taken.1 = .error (.duplicateName "cast" "/deep/north") ∧ taken.2 = d ∧
      qualified.1 = .ok 2 ∧ Adds d qualified.2 (.ofVariable ⟨2⟩) ∧
      qualified.2.findVariable? "/deep/north/cast.salt" = some ⟨1⟩ := by
  intro d taken qualified
  have refused : taken.1 = .error (.duplicateName "cast" "/deep/north") := rfl
  have accepted : qualified.1 = .ok 2 := rfl
  obtain ⟨-, unchanged, -, -⟩ := declare_stable "station" station (.enumeration ⟨2⟩ "cast" .uint8 [])
  obtain ⟨-, -, added, -⟩ := declare_stable "station" station
    (.var (.group ⟨2⟩) "cast.salt" (.atomic .float32) [])
  obtain ⟨-, adds, keeps⟩ := added 2 accepted
  exact ⟨refused, unchanged _ refused, accepted, adds, keeps.findVariable? _ _ rfl⟩

end Dataset

end Hyperslab
