/-
# `Hyperslab.Proofs.Dataset.Growth` — what a declaration does to a dataset

An invariant of built datasets is proved by following them from the empty one.  Two
things are settled here once, so that each invariant is a short case split:

  * `Growth d e` lists all that an accepted declaration may do, guards included, and
    `built_induction` says that nothing else ever happens;
  * the handles are read off the grown dataset: `var_…`, `group_…` and `dimension_…` say
    what stands under every handle afterwards, in terms of what stood there before.

Looking up a handle that is not there gives an empty declaration, which has no fields and
no members.  That is why the equations need no case for handles out of range.
-/
import Hyperslab.Dataset.Acceptance
import Mathlib.Data.List.Induction
import Mathlib.Data.List.Nodup

namespace Hyperslab.Dataset

/-! ## The ways to grow -/

/-- What an accepted declaration makes of a dataset. -/
inductive Growth (d : Dataset) : Dataset → Prop
  | group {parent : GroupId} {name : String} : parent.index < d.groups.length →
      d.declares parent name = false → Growth d (d.withGroup parent name)
  | dimension {g : GroupId} {name : String} {size : Nat} : g.index < d.groups.length →
      d.declares g name = false → Growth d (d.withDimension g name size)
  | anonymous {g : GroupId} {size : Nat} : g.index < d.groups.length →
      Growth d (d.withAnonymous g size)
  | enumeration {g : GroupId} {name : String} {base : AtomicType}
      {constants : List (String × Int)} : g.index < d.groups.length →
      d.declares g name = false → Growth d (d.withEnum g name base constants)
  | topLevel {g : GroupId} {name : String} {shape : Shape} {xs : List DimId} :
      g.index < d.groups.length → d.declares g name = false →
      (∀ x ∈ xs, x.index < d.dimensions.length) →
      (∀ y, shape = .atomic (.enumeration y) → y.index < d.enums.length) →
      Growth d (d.withVariable (.group g) name shape xs)
  | field {p : VarId} {name : String} {shape : Shape} {xs : List DimId} :
      p.index < d.vars.length → (d.var p).isCompound = true → d.field? p name = none →
      (∀ x ∈ xs, x.index < d.dimensions.length) →
      (∀ y, shape = .atomic (.enumeration y) → y.index < d.enums.length) →
      Growth d (d.withVariable (.compound p) name shape xs)
  | attr {owner : Node} {a : Attribute} : Growth d (d.addAttribute owner a).1

theorem requireFree_of_requireEnum {d : Dataset} {g : GroupId} {name : String} {base : AtomicType}
    (h : d.requireEnum g name base = .ok ()) : d.requireFree g name = .ok () := by
  obtain ⟨_, free, _⟩ := exists_ok_of_bind_eq_ok h
  exact free

/-- An accepted declaration is one of the ways to grow. -/
theorem growth_of_declare? {d e : Dataset} {x : Declaration} {n : Nat}
    (h : d.declare? x = .ok (e, n)) : Growth d e := by
  obtain ⟨required, rfl, -⟩ := declare?_eq_ok_iff.1 h
  cases x with
  | group =>
    obtain ⟨present, fresh⟩ := requireFree_eq_ok_iff.1 required
    exact .group present fresh
  | dimension =>
    obtain ⟨present, fresh⟩ := requireFree_eq_ok_iff.1 required
    exact .dimension present fresh
  | anonymous => exact .anonymous (requireGroup_eq_ok_iff.1 required)
  | enumeration =>
    obtain ⟨present, fresh⟩ := requireFree_eq_ok_iff.1 (requireFree_of_requireEnum required)
    exact .enumeration present fresh
  | var owner =>
    obtain ⟨type, dimensions, free⟩ := requireVariable_eq_ok_iff.1 required
    have typed := requireShape_eq_ok_iff.1 type
    have known := requireDimensions_eq_ok_iff.1 dimensions
    cases owner with
    | group g =>
      obtain ⟨present, fresh⟩ := requireFree_eq_ok_iff.1 free
      exact .topLevel present fresh known typed
    | compound p =>
      obtain ⟨present, compound, fresh⟩ := requireFreeField_eq_ok_iff.1 free
      exact .field present compound fresh known typed
  | attr => exact .attr

/-- What holds of the empty dataset and is kept by growing holds of all that are built. -/
theorem built_induction {P : Dataset → Prop} {name : String} (base : P (empty name))
    (step : ∀ {d e : Dataset}, P d → Growth d e → P e) (xs : List Declaration) :
    P (built name xs) := by
  induction xs using List.reverseRecOn with
  | nil => exact base
  | append_singleton xs x ih =>
    rw [built_append]
    show P ((built name xs).attempt x)
    cases h : (built name xs).declare? x with
    | error e => rw [attempt_of_error h]; exact ih
    | ok r => rw [attempt_of_ok h]; exact step ih (growth_of_declare? h)

/-! ## Lists with a default

A handle is looked up in a list, with a default for handles out of range. -/

theorem getD_concat {α : Type} (as : List α) (a b : α) (i : Nat) :
    (as ++ [b])[i]?.getD a = if i = as.length then b else as[i]?.getD a := by
  by_cases h : i = as.length
  · rw [if_pos h, h, List.getElem?_concat_length]
    rfl
  · rw [if_neg h]
    by_cases inside : i < as.length
    · rw [List.getElem?_append_left inside]
    · rw [List.getElem?_eq_none (by rw [List.length_append, List.length_singleton]; omega),
        List.getElem?_eq_none (Nat.le_of_not_lt inside)]

/-- A change at a place in range, or one that keeps the default. -/
theorem getD_modify {α : Type} {as : List α} {a : α} {f : α → α} {i : Nat}
    (h : i < as.length ∨ f a = a) (j : Nat) :
    (as.modify i f)[j]?.getD a = if i = j then f (as[j]?.getD a) else as[j]?.getD a := by
  rw [List.getElem?_modify]
  by_cases same : i = j
  · subst same
    rcases h with inside | default
    · rw [List.getElem?_eq_getElem inside]
      simp
    · cases as[i]? with
      | none => simp [default]
      | some b => simp
  · cases as[j]? <;> simp [same]

/-- A name that is not found can come last among distinct names. -/
theorem nodup_concat_of_find? {α : Type} {name : α → String} {as : List α} {n : String}
    (distinct : (as.map name).Nodup) (fresh : as.find? (fun a => name a == n) = none) :
    (as.map name ++ [n]).Nodup := by
  refine List.nodup_append.2 ⟨distinct, List.nodup_singleton n, ?_⟩
  intro old ho new hn same
  obtain ⟨a, ha, rfl⟩ := List.mem_map.1 ho
  rw [List.mem_singleton.1 hn] at same
  exact List.find?_eq_none.1 fresh a ha (beq_iff_eq.2 same)

/-! ## Variables

Only a declaration of a variable touches the variables.  It enters the new handle among the
fields of its owner, and leaves everything else of the owner as it was. -/

theorem var_of_length_le {d : Dataset} {v : VarId} (h : d.vars.length ≤ v.index) :
    d.var v = ⟨v, "", .group .root, .root, [], .atomic .string⟩ := by
  rw [var, List.getElem?_eq_none h]
  rfl

theorem fields_of_length_le {d : Dataset} {c : VarId} (h : d.vars.length ≤ c.index) :
    d.fields c = [] := by
  rw [fields, var_of_length_le h]
  rfl

/-- A variable with fields is a compound. -/
theorem isCompound_of_mem_fields {d : Dataset} {c f : VarId} (h : f ∈ d.fields c) :
    (d.var c).isCompound = true := by
  unfold Dataset.fields Variable.fields at h
  unfold Variable.isCompound
  split
  · rename_i hc
    rw [hc] at h
    exact absurd h List.not_mem_nil
  · rfl

theorem lt_length_of_owner {d : Dataset} {c f : VarId} (h : (d.var f).owner = .compound c) :
    f.index < d.vars.length := by
  refine Nat.lt_of_not_le fun le => ?_
  rw [var_of_length_le le] at h
  cases h

/-- Entering a variable changes the content of its owner, if that is a variable. -/
theorem var_enterVariable (d : Dataset) (owner : Owner) (v : VarId) :
    (d.enterVariable owner).var v =
      if owner = .compound v then
        { d.var v with content := (d.var v).content.addField d.nextVariable }
      else d.var v := by
  cases owner with
  | group g =>
    rw [if_neg (fun h => nomatch h)]
    rfl
  | compound p =>
    have same : Owner.compound p = .compound v ↔ p.index = v.index := by
      rw [Owner.compound.injEq, VarId.ext_iff]
    exact (getD_modify (.inr rfl) v.index).trans (if_congr same.symm rfl rfl)

theorem length_vars_enterVariable (d : Dataset) (owner : Owner) :
    (d.enterVariable owner).vars.length = d.vars.length := by
  cases owner with
  | group g => rfl
  | compound p => exact List.length_modify _ _ _

theorem length_vars_withVariable (d : Dataset) (owner : Owner) (name : String) (shape : Shape)
    (xs : List DimId) : (d.withVariable owner name shape xs).vars.length = d.vars.length + 1 := by
  show ((d.enterVariable owner).vars ++ [_]).length = _
  rw [List.length_append, length_vars_enterVariable, List.length_singleton]

/-- The variables of a dataset with one more. -/
theorem var_withVariable (d : Dataset) (owner : Owner) (name : String) (shape : Shape)
    (xs : List DimId) (v : VarId) :
    (d.withVariable owner name shape xs).var v =
      if v = d.nextVariable then
        ⟨d.nextVariable, name, owner, d.ownerGroup owner, xs, shape.content⟩
      else (d.enterVariable owner).var v := by
  refine (getD_concat _ _ _ v.index).trans ?_
  rw [length_vars_enterVariable]
  exact if_congr VarId.ext_iff.symm rfl rfl

section Variable

variable (d : Dataset) (owner : Owner) (name : String) (shape : Shape) (xs : List DimId)

theorem owner_var_withVariable (v : VarId) :
    ((d.withVariable owner name shape xs).var v).owner =
      if v = d.nextVariable then owner else (d.var v).owner := by
  rw [var_withVariable]
  split
  · rfl
  · rw [var_enterVariable]
    split <;> rfl

theorem name_var_withVariable (v : VarId) :
    ((d.withVariable owner name shape xs).var v).name =
      if v = d.nextVariable then name else (d.var v).name := by
  rw [var_withVariable]
  split
  · rfl
  · rw [var_enterVariable]
    split <;> rfl

theorem group_var_withVariable (v : VarId) :
    ((d.withVariable owner name shape xs).var v).group =
      if v = d.nextVariable then d.ownerGroup owner else (d.var v).group := by
  rw [var_withVariable]
  split
  · rfl
  · rw [var_enterVariable]
    split <;> rfl

/-- Variables that were there keep their names. -/
theorem map_name_withVariable {vs : List VarId} (there : ∀ v ∈ vs, v ≠ d.nextVariable) :
    (vs.map fun v => ((d.withVariable owner name shape xs).var v).name) =
      vs.map fun v => (d.var v).name := by
  refine List.map_congr_left fun v hv => ?_
  rw [name_var_withVariable, if_neg (there v hv)]

end Variable

/-- A new variable has no fields. -/
theorem fields_content (shape : Shape) : shape.content.fields = [] := by
  cases shape <;> rfl

/-- A new top-level variable is a field of nothing. -/
theorem fields_withVariable_group (d : Dataset) (g : GroupId) (name : String) (shape : Shape)
    (xs : List DimId) (c : VarId) :
    (d.withVariable (.group g) name shape xs).fields c = d.fields c := by
  show Variable.fields (Dataset.var _ c) = _
  rw [var_withVariable]
  split
  · rename_i h
    rw [fields_of_length_le (c := c) (h ▸ Nat.le_refl _)]
    exact fields_content shape
  · rw [var_enterVariable, if_neg (fun h => nomatch h)]
    rfl

/-- A new field comes last among those of its owner. -/
theorem fields_withVariable_compound {d : Dataset} {p : VarId} (present : p.index < d.vars.length)
    (compound : (d.var p).isCompound = true) (name : String) (shape : Shape) (xs : List DimId)
    (c : VarId) :
    (d.withVariable (.compound p) name shape xs).fields c =
      if c = p then d.fields c ++ [d.nextVariable] else d.fields c := by
  show Variable.fields (Dataset.var _ c) = _
  rw [var_withVariable]
  by_cases h : c = d.nextVariable
  · have apart : c ≠ p := fun e => by
      rw [← e, h] at present
      exact Nat.lt_irrefl _ present
    rw [if_pos h, if_neg apart, fields_of_length_le (c := c) (h ▸ Nat.le_refl _)]
    exact fields_content shape
  · rw [if_neg h, var_enterVariable]
    by_cases hc : c = p
    · subst hc
      rw [if_pos rfl, if_pos rfl]
      show ((d.var c).content.addField d.nextVariable).fields = (d.var c).content.fields ++ _
      rw [Content.fields_addField]
      unfold Variable.isCompound at compound
      cases hk : (d.var c).content with
      | atomic t => rw [hk] at compound; cases compound
      | struct fs => rfl
      | sequence fs => rfl
    · rw [if_neg (fun e => hc (by cases e; rfl)), if_neg hc]
      rfl

/-! ## Groups

A declaration in a group is entered in one of the lists of that group. -/

theorem group_of_length_le {d : Dataset} {g : GroupId} (h : d.groups.length ≤ g.index) :
    d.group g = emptyGroup g "" none [] := by
  rw [group, List.getElem?_eq_none h]
  rfl

theorem group_updateGroup {d : Dataset} {g : GroupId} (present : g.index < d.groups.length)
    (f : Group → Group) (k : GroupId) :
    (d.updateGroup g f).group k = if g = k then f (d.group k) else d.group k := by
  exact (getD_modify (.inl present) k.index).trans (if_congr GroupId.ext_iff.symm rfl rfl)

/-- The groups of a dataset with one more. -/
theorem group_withGroup {d : Dataset} {parent : GroupId} (present : parent.index < d.groups.length)
    (name : String) (k : GroupId) :
    (d.withGroup parent name).group k =
      if k = d.nextGroup then
        emptyGroup d.nextGroup name (some parent) ((d.group parent).path ++ [d.nextGroup])
      else if parent = k then { d.group k with groups := (d.group k).groups ++ [d.nextGroup] }
      else d.group k := by
  refine (getD_concat _ _ _ k.index).trans ?_
  have length : (d.updateGroup parent fun p =>
      { p with groups := p.groups ++ [d.nextGroup] }).groups.length = d.groups.length :=
    List.length_modify ..
  rw [length]
  exact if_congr GroupId.ext_iff.symm rfl (group_updateGroup present _ k)

/-- Of the groups that were there, only lists of subgroups change. -/
theorem group_withGroup_of_ne {d : Dataset} {parent : GroupId}
    (present : parent.index < d.groups.length) (name : String) {k : GroupId}
    (hk : k ≠ d.nextGroup) :
    (d.withGroup parent name).group k =
      { d.group k with groups := ((d.withGroup parent name).group k).groups } := by
  rw [group_withGroup present, if_neg hk]
  split <;> rfl

/-- A new group comes last among those of its parent. -/
theorem groups_withGroup {d : Dataset} {parent : GroupId} (present : parent.index < d.groups.length)
    (name : String) (k : GroupId) :
    ((d.withGroup parent name).group k).groups =
      if k = parent then (d.group k).groups ++ [d.nextGroup] else (d.group k).groups := by
  rw [group_withGroup present]
  by_cases hk : k = d.nextGroup
  · have apart : k ≠ parent := by
      rintro rfl
      rw [hk] at present
      exact Nat.lt_irrefl _ present
    rw [if_pos hk, if_neg apart, group_of_length_le (g := k) (hk ▸ Nat.le_refl _)]
    rfl
  · rw [if_neg hk]
    by_cases same : parent = k
    · rw [if_pos same, if_pos same.symm]
    · rw [if_neg same, if_neg (Ne.symm same)]

theorem length_groups_withGroup (d : Dataset) (parent : GroupId) (name : String) :
    (d.withGroup parent name).groups.length = d.groups.length + 1 := by
  show (List.modify _ _ _ ++ [_]).length = _
  rw [List.length_append, List.length_modify, List.length_singleton]

/-- A new variable enters the list of its group, or no group's list. -/
theorem group_withVariable_group {d : Dataset} {g : GroupId} (present : g.index < d.groups.length)
    (name : String) (shape : Shape) (xs : List DimId) (k : GroupId) :
    (d.withVariable (.group g) name shape xs).group k =
      if g = k then { d.group k with vars := (d.group k).vars ++ [d.nextVariable] }
      else d.group k :=
  group_updateGroup present _ k

/-! ## Dimensions -/

/-- A dimension under the next handle, and the others as they were. -/
theorem dimension_concat (d : Dataset) (x : Dimension) (y : DimId) :
    (d.dimensions ++ [x])[y.index]?.getD ⟨y, none, 0, false, .root⟩ =
      if y = d.nextDimension then x else d.dimension y := by
  exact (getD_concat _ _ _ y.index).trans (if_congr DimId.ext_iff.symm rfl rfl)

/-- A built dataset stores every dimension under its own handle. -/
theorem id_dimension_built (name : String) (xs : List Declaration) (y : DimId) :
    ((built name xs).dimension y).id = y := by
  revert y
  refine built_induction (P := fun d => ∀ y, (d.dimension y).id = y) (fun _ => rfl) ?_ xs
  intro d e h growth y
  cases growth with
  | group | enumeration | topLevel | field | attr => exact h y
  | dimension | anonymous =>
    refine (congrArg Dimension.id (dimension_concat d _ y)).trans ?_
    split
    · rename_i new
      exact new.symm
    · exact h y

end Hyperslab.Dataset
