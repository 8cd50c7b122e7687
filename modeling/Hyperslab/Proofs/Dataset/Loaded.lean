/-
# `Hyperslab.Proofs.Dataset.Loaded` — a loaded dataset is as described

Variables and groups are loaded by two mutual recursions, and the proofs here follow these.  Of
each call it is shown which list it makes longer, and that what it adds to the list matches the
description in the finished dataset.  For that the lists of all that the call declared have to be
finished when it returns (`Complete`), and they are: later calls declare things in lists that
were there before, or in lists of things of their own.
-/
import Hyperslab.Proofs.Dataset.Stages

namespace Hyperslab.Dataset

variable {d e f m : Dataset} {g : GroupId}

/-! ## Finished lists -/

/-- The lists of all nodes but the old ones do not change any more. -/
def Complete (old : Node → Prop) (e f : Dataset) : Prop :=
  ∀ q, ¬ old q.node → e.Has q.node → f.listAt q = e.listAt q

theorem Complete.mono {old new : Node → Prop} (h : Complete old e f) (more : ∀ n, old n → new n) :
    Complete new e f :=
  fun q other => h q (mt (more q.node) other)

/-- What is complete in the end was so before an old list got longer. -/
theorem Complete.before {old : Node → Prop} {p : Place} {as : List Node} (h : Complete old e f)
    (longer : Enlarges p as m e) (grown : Grown m e) (there : old p.node) : Complete old m f := by
  intro q other has
  have apart : q ≠ p := by
    rintro rfl
    exact other there
  exact (h q other (grown.has has)).trans (longer.elsewhere q has apart)

/-- What does not exist has empty lists. -/
theorem listAt_eq_nil (owned : OwnedAttributes d) {q : Place} (absent : ¬ d.Has q.node) :
    d.listAt q = [] := by
  cases q with
  | groups g | dimensions g | enums g =>
    rw [listAt, group_of_length_le (Nat.le_of_not_lt absent)]
    rfl
  | vars o =>
    cases o with
    | group g =>
      rw [listAt, variablesOf, group_of_length_le (Nat.le_of_not_lt absent)]
      rfl
    | compound c =>
      rw [listAt, variablesOf, fields_of_length_le (Nat.le_of_not_lt absent)]
      rfl
  | attributes n =>
    rw [listAt, owned.attributesOf_eq_nil (n := n) absent]
    rfl

/-! ## Variables -/

theorem contentMatches_of_bare {R : Naming} {v : VarId} {type : String} {b c : Content}
    (same : c.bare = b.bare) (h : ContentMatches R v g type b) : ContentMatches R v g type c := by
  cases b <;> cases c <;> simp_all [Content.bare, ContentMatches]

theorem Shaped.matches {c : VariableDescription} {shape : Shape} (shaped : Shaped d g c shape)
    (s : Stage d f g) :
    ContentMatches f.loadedNames d.nextVariable g c.type shape.content := by
  cases shaped with
  | struct word => exact word
  | sequence word => exact word
  | atomic notStruct notSequence _ resolved =>
    exact ⟨notStruct, notSequence, s.variableType resolved⟩

theorem isCompound_of_requireVariable {owner : Owner} {name : String} {shape : Shape}
    {xs : List DimId} (conditions : d.requireVariable owner name shape xs = .ok ()) (p : VarId)
    (same : owner = .compound p) : (d.var p).isCompound = true := by
  subst same
  obtain ⟨-, -, free⟩ := requireVariable_eq_ok_iff.1 conditions
  exact (requireFreeField_eq_ok_iff.1 free).2.1

theorem ownerGroup_of_grown (grown : Grown d e) {owner : Owner} (there : d.Has owner.node) :
    e.ownerGroup owner = d.ownerGroup owner := by
  cases owner with
  | group g => rfl
  | compound p =>
    have same := congrArg Variable.group (grown.var there)
    exact same

theorem Referred.listAt {cs : List DimensionReference} {xs : List DimId}
    (references : Referred g d cs m xs) : m.listAt = d.listAt := by
  obtain ⟨groups, -, vars, attributes⟩ := references.same
  refine listAt_congr (funext fun k => ?_) (funext fun v => ?_) attributes
  · rw [group, groups]
    rfl
  · rw [fields, var, vars]
    rfl

/-- A declared variable, at the stage at which it is declared and at all later ones. -/
theorem bare_var_nextVariable {owner : Owner} {name : String} {shape : Shape} {xs : List DimId}
    (grown : Grown (d.withVariable owner name shape xs) f) :
    (f.var d.nextVariable).bare =
      ⟨d.nextVariable, name, owner, d.ownerGroup owner, xs, shape.content⟩ := by
  rw [grown.var (has_nextVariable ..), var_withVariable, if_pos rfl]
  show Variable.mk _ _ _ _ _ shape.content.bare = _
  rw [Content.bare_shape]

theorem loadVariableAlone_matches {owner : Owner} (there : d.Has owner.node)
    {c : VariableDescription} {v : VarId} (h : d.loadVariableAlone g owner c = .ok (e, v)) :
    ¬ d.Has (.ofVariable v) ∧ e.Has (.ofVariable v) ∧
      Enlarges (.vars owner) [.ofVariable v] d e ∧
      e.ownerGroup (.compound v) = d.ownerGroup owner ∧ e.listAt (.vars (.compound v)) = [] ∧
      ∀ f, Stage d f g → d.ownerGroup owner = g → Leads e f →
        f.listAt (.attributes (.ofVariable v)) = e.listAt (.attributes (.ofVariable v)) →
        f.AloneMatches f.loadedNames g v c := by
  obtain ⟨m, xs, shape, references, shaped, conditions, rfl, rest⟩ := loadVariableAlone_eq_ok h
  have next : m.nextVariable = d.nextVariable := by
    rw [nextVariable, references.same.2.2.1]
    rfl
  have absent : ¬ d.Has (.ofVariable m.nextVariable) := by
    rw [next]
    exact Nat.lt_irrefl _
  have toM := references.leads
  have entered := leads_withVariable conditions
  have appends : Appends d (m.withVariable owner c.name shape xs) (.vars owner)
      [.ofVariable m.nextVariable] := by
    rw [Appends, ← references.listAt]
    exact appends_withVariable (toM.grown.has there)
      (isCompound_of_requireVariable conditions) c.name shape xs
  have first := toM.trans entered
  have second := loadAttributes_steps (has_nextVariable ..) rfl rest
  have home : m.ownerGroup owner = d.ownerGroup owner := ownerGroup_of_grown toM.grown there
  obtain ⟨ids, attached, matched⟩ := loadAttributes_matches (has_nextVariable ..) rfl rest
  refine ⟨absent, second.leads.grown.has (has_nextVariable ..),
    (Enlarges.of_appends appends).followed there (attached.kept first.grown absent), ?_, ?_, ?_⟩
  · have same := congrArg Variable.group (bare_var_nextVariable second.leads.grown)
    exact same.trans home
  · have apart : Place.vars (.compound m.nextVariable) ≠ .vars owner := by
      rintro ⟨⟩
      exact absent there
    rw [attached.elsewhere (.vars (.compound m.nextVariable)) (has_nextVariable ..) (by simp), appends,
      if_neg apart, listAt, variablesOf, fields_of_length_le (Nat.le_of_not_lt absent)]
    rfl
  · intro f s inside last finished
    have bare := bare_var_nextVariable (second.leads.trans last).grown
    have atM := s.referred references ((entered.trans second.leads).trans last)
    have atE := s.next (.single (.var references conditions)) (second.leads.trans last)
    have attributes : f.attributesOf (.ofVariable m.nextVariable) = ids := by
      have blank : d.listAt (.attributes (.ofVariable m.nextVariable)) = [] :=
        listAt_eq_nil s.owned absent
      rw [attached.here, appends, if_neg (by simp), blank, List.nil_append] at finished
      exact listAt_attributes_eq_iff.1 finished
    refine ⟨congrArg Variable.name bare, (congrArg Variable.group bare).trans (home.trans inside),
      contentMatches_of_bare ?_ (shaped.matches atM), ?_, ?_⟩
    · have same := congrArg Variable.content bare
      rw [Content.bare_shape]
      exact same
    · have same := congrArg Variable.dimensions bare
      rw [show (f.var m.nextVariable).dimensions = xs from same, next]
      exact references.matches s atM.leads
    · rw [attributes]
      refine matched f _ last fun name t resolved => atE.attributeType ?_ resolved
      rw [length_vars_withVariable]
      rfl

mutual

theorem loadVariable_matches {owner : Owner} : {d e : Dataset} → d.Has owner.node →
    (c : VariableDescription) → d.loadVariable g owner c = .ok e →
    ∃ v, Enlarges (.vars owner) [.ofVariable v] d e ∧
      ∀ f, Stage d f g → d.ownerGroup owner = g → Leads e f → Complete d.Has e f →
        f.VariableMatches f.loadedNames g v c
  | d, e, there, ⟨name, type, dims, fields, attributes⟩, h => by
    rw [loadVariable] at h
    obtain ⟨⟨m, v⟩, alone, inner⟩ := exists_ok_of_bind_eq_ok h
    obtain ⟨absent, has, entered, home, blank, matched⟩ := loadVariableAlone_matches there alone
    have first := loadVariableAlone_steps alone
    have second := loadVariables_steps fields inner
    obtain ⟨vs, longer, matchedFields⟩ := loadVariables_matches has fields inner
    refine ⟨v, entered.followed there (longer.kept first.leads.grown absent), ?_⟩
    intro f s inside last complete
    -- the variable is new, so its own lists are among those that are finished
    have hasLast := second.leads.grown.has has
    have inList : f.fields v = vs := by
      have finished := complete (.vars (.compound v)) absent hasLast
      rw [longer.here, blank, List.nil_append] at finished
      exact listAt_vars_eq_iff.1 finished
    refine .intro (matched f s inside (second.leads.trans last) ?_) ?_
    · rw [complete (.attributes (.ofVariable v)) absent hasLast]
      exact longer.elsewhere _ has nofun
    · rw [inList]
      exact matchedFields f (s.next first (second.leads.trans last)) (home.trans inside) last
        (complete.mono fun _ => first.leads.grown.has)

theorem loadVariables_matches {owner : Owner} : {d e : Dataset} → d.Has owner.node →
    (cs : List VariableDescription) → d.loadVariables g owner cs = .ok e →
    ∃ vs, Enlarges (.vars owner) (vs.map .ofVariable) d e ∧
      ∀ f, Stage d f g → d.ownerGroup owner = g → Leads e f → Complete d.Has e f →
        List.Forall₂ (f.VariableMatches f.loadedNames g) vs cs
  | d, e, there, [], h => by
    rw [loadVariables] at h
    cases h
    exact ⟨[], .refl _ _, fun _ _ _ _ _ => .nil⟩
  | d, e, there, c :: cs, h => by
    rw [loadVariables] at h
    obtain ⟨m, one, rest⟩ := exists_ok_of_bind_eq_ok h
    have first := loadVariable_steps c one
    have second := loadVariables_steps cs rest
    have later := first.leads.grown.has there
    obtain ⟨v, entered, matched⟩ := loadVariable_matches there c one
    obtain ⟨vs, longer, matchedRest⟩ := loadVariables_matches later cs rest
    refine ⟨v :: vs, entered.trans longer first.leads.grown, ?_⟩
    intro f s inside last complete
    have onwards := second.leads.trans last
    refine .cons (matched f s inside onwards (complete.before longer second.leads.grown there)) ?_
    refine matchedRest f (s.next first onwards) ?_ last
      (complete.mono fun _ => first.leads.grown.has)
    exact (ownerGroup_of_grown first.leads.grown there).trans inside

end

/-! ## Groups -/

/-- A group in which nothing has been declared yet, in groups in which no dimension and no
enumeration will be declared any more. -/
structure Opened (d f : Dataset) (g : GroupId) (name : String) : Prop where
  built : Leads (empty f.name) d
  owned : OwnedAttributes d
  there : d.Has (.ofGroup g)
  name : (d.group g).name = name
  blank : ∀ q, q.node = .ofGroup g → d.listAt q = []
  around : ∀ h ∈ (d.group g).path, h ≠ g → (f.group h).dimensions = (d.group h).dimensions ∧
    (f.group h).enums = (d.group h).enums

/-- What names can denote in the group that it lies in is declared. -/
theorem Opened.sameScope_parent {called : String} (o : Opened d f g called) {p : GroupId}
    (parent : (d.group g).parent = some p) : SameScope d f p := by
  have tree := o.built.wellFormed.tree
  intro h around
  refine o.around h ?_ ?_
  · rw [tree.path (tree.owned.2 parent)]
    exact List.mem_append_left _ around
  · rintro rfl
    exact tree.not_mem_path_parent parent around

/-- Around the group a name goes on denoting what it denotes now. -/
theorem Opened.typeAround? {called : String} (o : Opened d f g called) (last : Leads d f)
    {name : String} {t : AtomicType} (resolved : d.resolveType? g name = some t) :
    f.typeAround? g name = some t := by
  have wf := o.built.wellFormed
  have same : (f.group g).parent = (d.group g).parent := last.grown.parent o.there
  rw [resolveType?_of_blank wf.tree o.there o.blank, Dataset.typeAround?] at resolved
  rw [Dataset.typeAround?, same]
  cases parent : (d.group g).parent with
  | none =>
    rw [parent] at resolved
    exact resolved
  | some p =>
    rw [parent] at resolved
    have there : d.Has (.ofGroup p) := lt_length_of_groups (wf.tree.owned.2 parent)
    exact (o.sameScope_parent parent).resolveType? wf last.grown there resolved

/-- Once its dimensions and enumerations are declared, all is declared that names can denote in
the group. -/
theorem Opened.stage {name : String} (o : Opened d f g name) (steps : LoadSteps d e)
    (last : Leads e f) (dimensions : f.listAt (.dimensions g) = e.listAt (.dimensions g))
    (enums : f.listAt (.enums g) = e.listAt (.enums g)) : Stage e f g := by
  have first := steps.leads.grown
  refine ⟨o.built.trans steps.leads, o.owned.steps steps, last, first.has o.there, ?_⟩
  intro h around
  rw [first.path o.there] at around
  by_cases own : h = g
  · subst own
    exact ⟨listAt_dimensions_eq_iff.1 dimensions, listAt_enums_eq_iff.1 enums⟩
  · obtain ⟨sameDimensions, sameEnums⟩ := o.around h around own
    refine ⟨?_, ?_⟩
    · rw [eq_of_isPrefix_of_eq (first.isPrefix_dimensions h) (last.grown.isPrefix_dimensions h)
        sameDimensions, sameDimensions]
    · rw [eq_of_isPrefix_of_eq (first.isPrefix_enums h) (last.grown.isPrefix_enums h) sameEnums,
        sameEnums]

/-- A list after it may have got longer. -/
theorem Enlarges.listAt_eq {p : Place} {as : List Node} (h : Enlarges p as d e) {q : Place}
    (there : d.Has q.node) : e.listAt q = d.listAt q ++ if q = p then as else [] := by
  by_cases same : q = p
  · rw [if_pos same, same, h.here]
  · rw [if_neg same, List.append_nil, h.elsewhere q there same]

theorem loadContents_parts (there : d.Has (.ofGroup g)) {c : GroupDescription}
    (h : d.loadContents g c = .ok e) : ∃ as xs ys vs,
      (∀ q, d.Has q.node → e.listAt q = d.listAt q ++
        (if q = .attributes (.ofGroup g) then as.map .ofAttribute else []) ++
        (if q = .dimensions g then xs.map .ofDimension else []) ++
        (if q = .enums g then ys.map .ofEnumeration else []) ++
        (if q = .vars (.group g) then vs.map .ofVariable else [])) ∧
      ∀ f, Opened d f g c.name → Leads e f → f.listAt (.dimensions g) = e.listAt (.dimensions g) →
        f.listAt (.enums g) = e.listAt (.enums g) → Complete d.Has e f → Stage e f g ∧
          List.Forall₂ (f.AttributeMatches f.loadedNames (.ofGroup g) g) as c.attributes ∧
          List.Forall₂ (f.DimensionMatches g) xs c.dimensions ∧
          List.Forall₂ (f.EnumMatches g) ys c.enums ∧
          List.Forall₂ (f.VariableMatches f.loadedNames g) vs c.vars := by
  obtain ⟨a, x, y, attributes, dimensions, enums, vars⟩ := loadContents_eq_ok h
  have toA := loadAttributes_steps there rfl attributes
  have toX := loadDimensions_steps dimensions
  have toY := loadEnums_steps enums
  have toE := loadVariables_steps _ vars
  have first : LoadSteps d y := toA.trans (toX.trans toY)
  have thereY : y.Has (Owner.group g).node := first.leads.grown.has there
  obtain ⟨as, longerA, matchedA⟩ := loadAttributes_matches there rfl attributes
  obtain ⟨xs, longerX, matchedX⟩ := loadDimensions_matches dimensions
  obtain ⟨ys, longerY, matchedY⟩ := loadEnums_matches enums
  obtain ⟨vs, longerV, matchedV⟩ := loadVariables_matches thereY _ vars
  refine ⟨as, xs, ys, vs, fun q has => ?_, fun f o last inX inY complete => ?_⟩
  · have hasA := toA.leads.grown.has has
    have hasX := toX.leads.grown.has hasA
    rw [longerV.listAt_eq (toY.leads.grown.has hasX), longerY.listAt_eq hasX,
      longerX.listAt_eq hasA, longerA.listAt_eq has]
  · have fromY := toE.leads.trans last
    have fromX := toY.leads.trans fromY
    -- variables do not add to what names can denote
    have stage : Stage y f g := o.stage first fromY
      (inX.trans (longerV.elsewhere (.dimensions g) thereY nofun))
      (inY.trans (longerV.elsewhere (.enums g) thereY nofun))
    refine ⟨stage.next toE last, ?_, matchedX f fromX, matchedY f fromY,
      matchedV f stage rfl last (complete.mono fun _ => first.leads.grown.has)⟩
    have fromA := toX.leads.trans fromX
    have fromD := toA.leads.trans fromA
    exact matchedA f _ fromA fun name t type =>
      ⟨⟨d, o.built, fromD, type⟩, fun _ => o.typeAround? fromD type⟩

theorem loadContents_matches (there : d.Has (.ofGroup g)) {c : GroupDescription}
    (h : d.loadContents g c = .ok e) :
    (∀ q, d.Has q.node → q.node ≠ .ofGroup g → e.listAt q = d.listAt q) ∧
      e.listAt (.groups g) = d.listAt (.groups g) ∧
      ∀ f, Opened d f g c.name → Leads e f →
        (∀ q, ¬ (d.Has q.node ∧ q.node ≠ .ofGroup g) → e.Has q.node → q ≠ .groups g →
          f.listAt q = e.listAt q) →
        f.ContentsMatch f.loadedNames g c ∧ Stage e f g := by
  have steps := loadContents_steps there h
  obtain ⟨as, xs, ys, vs, lists, matched⟩ := loadContents_parts there h
  refine ⟨fun q has other => ?_, ?_, fun f o last complete => ?_⟩
  · have apart : ∀ {p : Place}, p.node = .ofGroup g → q ≠ p := by
      rintro p node rfl
      exact other node
    rw [lists q has, if_neg (apart rfl), if_neg (apart rfl), if_neg (apart rfl),
      if_neg (apart rfl)]
    simp only [List.append_nil]
  · simp [lists (.groups g) there]
  · have own : ∀ q, q.node = .ofGroup g → q ≠ .groups g → f.listAt q = e.listAt q := by
      intro q node other
      refine complete q (fun both => both.2 node) ?_ other
      rw [node]
      exact steps.leads.grown.has there
    have read : ∀ q, q.node = .ofGroup g → q ≠ .groups g → f.listAt q =
        (if q = .attributes (.ofGroup g) then as.map .ofAttribute else []) ++
        (if q = .dimensions g then xs.map .ofDimension else []) ++
        (if q = .enums g then ys.map .ofEnumeration else []) ++
        (if q = .vars (.group g) then vs.map .ofVariable else []) := by
      intro q node other
      rw [own q node other, lists q (node ▸ there), o.blank q node, List.nil_append]
    have readA : f.attributesOf (.ofGroup g) = as :=
      listAt_attributes_eq_iff.1 (by simpa using read (.attributes (.ofGroup g)) rfl nofun)
    have readX : (f.group g).dimensions = xs :=
      listAt_dimensions_eq_iff.1 (by simpa using read (.dimensions g) rfl nofun)
    have readY : (f.group g).enums = ys :=
      listAt_enums_eq_iff.1 (by simpa using read (.enums g) rfl nofun)
    have readV : (f.group g).vars = vs :=
      (listAt_vars_eq_iff (o := .group g)).1 (by simpa using read (.vars (.group g)) rfl nofun)
    obtain ⟨stage, attributes, dimensions, enums, vars⟩ := matched f o last
      (own _ rfl nofun) (own _ rfl nofun) fun q absent has => complete q (absent ∘ And.left) has <| by
        rintro rfl
        exact absent there
    have name := congrArg Group.name ((steps.leads.trans last).grown.group there)
    refine ⟨⟨name.trans o.name, ?_, ?_, ?_, ?_⟩, stage⟩
    · rwa [readX]
    · rwa [readY]
    · rwa [readV]
    · rwa [readA]

theorem blank_withGroup (owned : OwnedAttributes d) {parent : GroupId} {name : String}
    (free : d.requireFree parent name = .ok ()) :
    (d.withGroup parent name).Blank d.nextGroup := by
  intro q node
  have present := (requireFree_eq_ok_iff.1 free).1
  have absent : ¬ d.Has q.node := by
    rw [node]
    exact Nat.lt_irrefl _
  have apart : q ≠ .groups parent := by
    rintro rfl
    exact absent present
  rw [appends_withGroup present name q, if_neg apart, listAt_eq_nil owned absent]

/-- A subgroup that has just been declared. -/
theorem Stage.opened {parent : GroupId} (s : Stage d f parent) {name : String}
    (free : d.requireFree parent name = .ok ()) (last : Leads (d.withGroup parent name) f) :
    Opened (d.withGroup parent name) f d.nextGroup name := by
  have present := (requireFree_eq_ok_iff.1 free).1
  have first := leads_withGroup free
  have new : (d.withGroup parent name).group d.nextGroup =
      emptyGroup d.nextGroup name (some parent) ((d.group parent).path ++ [d.nextGroup]) := by
    rw [group_withGroup present, if_pos rfl]
  refine ⟨s.built.trans first, s.owned.step (.group free), has_nextGroup .., ?_, ?_, ?_⟩
  · rw [new]
    rfl
  · exact blank_withGroup s.owned free
  · intro h around other
    rw [new] at around
    have outer : h ∈ ((d.withGroup parent name).group parent).path := by
      rw [first.grown.path s.there]
      exact (List.mem_append.1 around).resolve_right (mt List.mem_singleton.1 other)
    exact (s.scope.between first.grown last.grown s.there).2 h outer

mutual

theorem loadGroup_matches : {d e : Dataset} → {g : GroupId} → d.Has (.ofGroup g) →
    (c : GroupDescription) → d.loadGroup g c = .ok e →
    (∀ q, d.Has q.node → q.node ≠ .ofGroup g → e.listAt q = d.listAt q) ∧
      ∀ f, Opened d f g c.name → Leads e f →
        Complete (fun n => d.Has n ∧ n ≠ .ofGroup g) e f → f.GroupMatches f.loadedNames g c
  | d, e, g, there, ⟨name, dimensions, enums, vars, groups, attributes⟩, h => by
    rw [loadGroup] at h
    obtain ⟨m, contents, inner⟩ := exists_ok_of_bind_eq_ok h
    have first := loadContents_steps there contents
    have second := loadGroups_steps groups inner
    have later := first.leads.grown.has there
    obtain ⟨kept, bare, matched⟩ := loadContents_matches there contents
    obtain ⟨gs, longer, matchedGroups⟩ := loadGroups_matches later groups inner
    refine ⟨fun q has other => ?_, fun f o last complete => ?_⟩
    · refine (longer.elsewhere q (first.leads.grown.has has) ?_).trans (kept q has other)
      rintro rfl
      exact other rfl
    · -- subgroups are entered in the one list that the contents leave empty
      obtain ⟨own, stage⟩ := matched f o (second.leads.trans last) fun q absent has apart =>
        (complete q absent (second.leads.grown.has has)).trans (longer.elsewhere q has apart)
      have inList : (f.group g).groups = gs := by
        have finished := complete (.groups g) (fun both => both.2 rfl)
          (second.leads.grown.has later)
        rw [longer.here, bare, o.blank _ rfl, List.nil_append] at finished
        exact listAt_groups_eq_iff.1 finished
      refine .intro own ?_
      rw [inList]
      exact matchedGroups f stage last
        (complete.mono fun _ both => first.leads.grown.has both.1)

theorem loadGroups_matches : {d e : Dataset} → {parent : GroupId} → d.Has (.ofGroup parent) →
    (cs : List GroupDescription) → d.loadGroups parent cs = .ok e →
    ∃ gs, Enlarges (.groups parent) (gs.map .ofGroup) d e ∧
      ∀ f, Stage d f parent → Leads e f → Complete d.Has e f →
        List.Forall₂ (f.GroupMatches f.loadedNames) gs cs
  | d, e, parent, there, [], h => by
    rw [loadGroups] at h
    cases h
    exact ⟨[], .refl _ _, fun _ _ _ _ => .nil⟩
  | d, e, parent, there, c :: cs, h => by
    obtain ⟨m, free, inner, rest⟩ := loadGroups_cons_eq_ok h
    have entered := leads_withGroup free
    have filled := loadGroup_steps (has_nextGroup ..) c inner
    have second := loadGroups_steps cs rest
    have first := entered.trans filled.leads
    have new : ∀ {n}, d.Has n → n ≠ .ofGroup d.nextGroup := by
      rintro n has rfl
      exact Nat.lt_irrefl _ has
    obtain ⟨kept, matched⟩ := loadGroup_matches (has_nextGroup ..) c inner
    obtain ⟨gs, longer, matchedRest⟩ := loadGroups_matches (first.grown.has there) cs rest
    have one : Enlarges (.groups parent) [.ofGroup d.nextGroup] d m :=
      (Enlarges.of_appends (appends_withGroup (requireFree_eq_ok_iff.1 free).1 _)).followed there
        fun q has => kept q (entered.grown.has has) (new has)
    refine ⟨d.nextGroup :: gs, one.trans longer first.grown, fun f s last complete => ?_⟩
    have onwards := second.leads.trans last
    refine .cons (matched f (s.opened free (filled.leads.trans onwards)) onwards ?_) ?_
    · refine (complete.before longer second.leads.grown there).mono fun n has => ?_
      exact ⟨entered.grown.has has, new has⟩
    · exact matchedRest f (s.next (.head (.group free) filled) onwards) last
        (complete.mono fun _ => first.grown.has)

end

/-! ## Whole descriptions -/

theorem opened_empty (name : String) (named : f.name = name) : Opened (empty name) f .root name where
  built := by
    rw [named]
    exact Leads.refl _
  owned := ownedAttributes_empty name
  there := Nat.zero_lt_one
  name := rfl
  blank := by
    rintro q node
    cases q with
    | vars o =>
      cases o with
      | group g => cases node; rfl
      | compound p => cases node
    | _ => cases node; rfl
  around := by
    intro h around other
    exact absurd (List.mem_singleton.1 around) other

theorem ofDescription?_matches_loadedNames {c : GroupDescription} (h : ofDescription? c = .ok d) :
    d.GroupMatches d.loadedNames .root c := by
  have opened := opened_empty c.name (ofDescription?_steps h).leads.grown.name
  exact (loadGroup_matches opened.there c h).2 d opened (Leads.refl d) fun _ _ _ => rfl

theorem ofDescription?_matches {c : GroupDescription} (h : ofDescription? c = .ok d) :
    d.name = c.name ∧ d.GroupMatches d.lastingNames .root c :=
  ⟨(ofDescription?_steps h).leads.grown.name,
    (ofDescription?_matches_loadedNames h).imp d.loadedNames_implies c⟩

end Hyperslab.Dataset
