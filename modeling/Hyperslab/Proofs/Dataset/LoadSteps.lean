/-
# `Hyperslab.Proofs.Dataset.LoadSteps` — loading as a run of steps

The functions that load a description call each other in two mutual recursions, and each makes
its declarations one after the other.  Here they are taken apart once (`…_eq_ok`), and what they
do is said as a run of steps (`LoadSteps`): a step enters one declaration, and a variable is
entered together with the anonymous dimensions that it uses.

So what holds of the empty dataset, and is kept by a step, holds of all that are loaded; and a
step leads from stage to stage like the declarations that it is made of (`LoadSteps.leads`).
-/
import Hyperslab.Dataset.Loading
import Hyperslab.Proofs.Dataset.Appending
import Mathlib.Logic.Relation

namespace Hyperslab.Dataset

variable {d e m : Dataset} {g : GroupId}

/-! ## Taking the functions apart -/

theorem ok_of_orRefused {α : Type} {x : Except DeclarationError α} {a : α}
    (h : orRefused x = .ok a) : x = .ok a := by
  cases x with
  | error _ => cases h
  | ok _ => cases h; rfl

theorem loadType_eq_ok_iff {name : String} {t : AtomicType} :
    d.loadType g name = .ok t ↔ d.resolveType? g name = some t := by
  unfold loadType
  cases d.resolveType? g name <;> simp

theorem loadAttributes_cons_eq_ok {owner : Node} {c : AttributeDescription}
    {cs : List AttributeDescription} (h : d.loadAttributes g owner (c :: cs) = .ok e) :
    ∃ t, d.resolveType? g c.type = some t ∧
      (d.addAttribute owner ⟨c.name, t, c.values⟩).1.loadAttributes g owner cs = .ok e := by
  obtain ⟨t, type, rest⟩ := exists_ok_of_bind_eq_ok h
  exact ⟨t, loadType_eq_ok_iff.1 type, rest⟩

theorem loadDimensions_cons_eq_ok {c : DimensionDescription} {cs : List DimensionDescription}
    (h : d.loadDimensions g (c :: cs) = .ok e) :
    ∃ r, d.addDimension? g c.name c.size = .ok r ∧ r.1.loadDimensions g cs = .ok e := by
  obtain ⟨r, added, rest⟩ := exists_ok_of_bind_eq_ok h
  exact ⟨r, ok_of_orRefused added, rest⟩

theorem loadEnums_cons_eq_ok {c : EnumDescription} {cs : List EnumDescription}
    (h : d.loadEnums g (c :: cs) = .ok e) : ∃ base r, AtomicType.ofName? c.base = some base ∧
      d.addEnum? g c.name base c.constants = .ok r ∧ r.1.loadEnums g cs = .ok e := by
  unfold loadEnums at h
  split at h
  · cases h
  · rename_i base named
    obtain ⟨r, added, rest⟩ := exists_ok_of_bind_eq_ok h
    exact ⟨base, r, named, ok_of_orRefused added, rest⟩

/-- What references in a group lead to: the dataset with the anonymous dimensions, and the
handles. -/
inductive Referred (g : GroupId) :
    Dataset → List DimensionReference → Dataset → List DimId → Prop
  | nil {d : Dataset} : Referred g d [] d []
  | named {d e : Dataset} {name : String} {x : DimId} {cs : List DimensionReference}
      {xs : List DimId} : d.resolveDimension? g name = some x → Referred g d cs e xs →
      Referred g d (.named name :: cs) e (x :: xs)
  | anonymous {d e : Dataset} {size : Nat} {cs : List DimensionReference} {xs : List DimId} :
      d.Has (.ofGroup g) → Referred g (d.withAnonymous g size) cs e xs →
      Referred g d (.anonymous size :: cs) e (d.nextDimension :: xs)

theorem referred_of_loadReferences {cs : List DimensionReference} {xs : List DimId}
    (h : d.loadReferences g cs = .ok (e, xs)) : Referred g d cs e xs := by
  induction cs generalizing d xs with
  | nil =>
    cases h
    exact .nil
  | cons c cs ih =>
    cases c with
    | named name =>
      unfold loadReferences at h
      split at h
      · cases h
      · rename_i x resolved
        obtain ⟨⟨e', ys⟩, rest, same⟩ := exists_ok_of_bind_eq_ok h
        cases same
        exact .named resolved (ih rest)
    | anonymous size =>
      obtain ⟨r, added, h⟩ := exists_ok_of_bind_eq_ok h
      obtain ⟨⟨e', ys⟩, rest, same⟩ := exists_ok_of_bind_eq_ok h
      cases same
      obtain ⟨present, rfl⟩ := addAnonymous?_eq_ok_iff.1 (ok_of_orRefused added)
      exact .anonymous (requireGroup_eq_ok_iff.1 present) (ih rest)

/-- The shape of a described variable. -/
inductive Shaped (d : Dataset) (g : GroupId) (c : VariableDescription) : Shape → Prop
  | struct : c.type = "structure" → Shaped d g c .struct
  | sequence : c.type = "sequence" → Shaped d g c .sequence
  | atomic {t : AtomicType} : c.type ≠ "structure" → c.type ≠ "sequence" → c.fields = [] →
      d.resolveType? g c.type = some t → Shaped d g c (.atomic t)

theorem shaped_of_loadShape {c : VariableDescription} {shape : Shape}
    (h : d.loadShape g c = .ok shape) : Shaped d g c shape := by
  unfold loadShape at h
  split at h
  · rename_i word
    cases h
    exact .struct word
  · rename_i notStruct
    split at h
    · rename_i word
      cases h
      exact .sequence word
    · rename_i notSequence
      obtain ⟨t, type, h⟩ := exists_ok_of_bind_eq_ok h
      cases fields : c.fields with
      | nil =>
        rw [fields] at h
        cases h
        exact .atomic notStruct notSequence fields (loadType_eq_ok_iff.1 type)
      | cons f fs =>
        rw [fields] at h
        cases h

theorem loadVariableAlone_eq_ok {owner : Owner} {c : VariableDescription} {v : VarId}
    (h : d.loadVariableAlone g owner c = .ok (e, v)) : ∃ m xs shape, Referred g d c.dims m xs ∧
      Shaped m g c shape ∧ m.requireVariable owner c.name shape xs = .ok () ∧
      v = m.nextVariable ∧
      (m.withVariable owner c.name shape xs).loadAttributes g (.ofVariable v) c.attributes =
        .ok e := by
  obtain ⟨⟨m, xs⟩, references, h⟩ := exists_ok_of_bind_eq_ok h
  obtain ⟨shape, shaped, h⟩ := exists_ok_of_bind_eq_ok h
  obtain ⟨⟨m', id⟩, added, h⟩ := exists_ok_of_bind_eq_ok h
  obtain ⟨e', attributes, same⟩ := exists_ok_of_bind_eq_ok h
  cases same
  obtain ⟨conditions, same⟩ := addVariable?_eq_ok_iff.1 (ok_of_orRefused added)
  cases same
  exact ⟨m, xs, shape, referred_of_loadReferences references, shaped_of_loadShape shaped,
    conditions, rfl, attributes⟩

theorem loadContents_eq_ok {c : GroupDescription} (h : d.loadContents g c = .ok e) :
    ∃ a x y, d.loadAttributes g (.ofGroup g) c.attributes = .ok a ∧
      a.loadDimensions g c.dimensions = .ok x ∧ x.loadEnums g c.enums = .ok y ∧
      y.loadVariables g (.group g) c.vars = .ok e := by
  obtain ⟨a, attributes, h⟩ := exists_ok_of_bind_eq_ok h
  obtain ⟨x, dimensions, h⟩ := exists_ok_of_bind_eq_ok h
  obtain ⟨y, enums, vars⟩ := exists_ok_of_bind_eq_ok h
  exact ⟨a, x, y, attributes, dimensions, enums, vars⟩

theorem loadGroups_cons_eq_ok {parent : GroupId} {c : GroupDescription}
    {cs : List GroupDescription} (h : d.loadGroups parent (c :: cs) = .ok e) :
    ∃ m, d.requireFree parent c.name = .ok () ∧
      (d.withGroup parent c.name).loadGroup d.nextGroup c = .ok m ∧
      m.loadGroups parent cs = .ok e := by
  unfold loadGroups at h
  obtain ⟨r, added, h⟩ := exists_ok_of_bind_eq_ok h
  obtain ⟨m, inner, rest⟩ := exists_ok_of_bind_eq_ok h
  obtain ⟨free, rfl⟩ := addGroup?_eq_ok_iff.1 (ok_of_orRefused added)
  exact ⟨m, free, inner, rest⟩

/-! ## Steps -/

/-- A group or a variable.  Descriptions give attributes to these, and to nothing else. -/
def bearsAttributes : Node → Bool
  | .ofGroup _ | .ofVariable _ => true
  | _ => false

/-- One declaration of a description is entered; for a variable, with the dimensions that only it
uses. -/
inductive LoadStep (d : Dataset) : Dataset → Prop
  | attr {owner : Node} {a : Attribute} : d.Has owner → bearsAttributes owner = true →
      LoadStep d (d.addAttribute owner a).1
  | dimension {g : GroupId} {name : String} {size : Nat} : d.requireFree g name = .ok () →
      LoadStep d (d.withDimension g name size)
  | enumeration {g : GroupId} {name : String} {base : AtomicType}
      {constants : List (String × Int)} : d.requireEnum g name base = .ok () →
      LoadStep d (d.withEnum g name base constants)
  | var {m : Dataset} {g : GroupId} {cs : List DimensionReference} {xs : List DimId}
      {owner : Owner} {name : String} {shape : Shape} : Referred g d cs m xs →
      m.requireVariable owner name shape xs = .ok () →
      LoadStep d (m.withVariable owner name shape xs)
  | group {parent : GroupId} {name : String} : d.requireFree parent name = .ok () →
      LoadStep d (d.withGroup parent name)

/-- A run of steps. -/
def LoadSteps : Dataset → Dataset → Prop := Relation.ReflTransGen LoadStep

theorem leads_withDeclared {x : Declaration} (required : d.requirement x = .ok ()) :
    Leads d (d.withDeclared x) :=
  leads_of_declare? (declare?_eq_ok_iff.2 ⟨required, rfl, rfl⟩)

theorem leads_addAttribute (d : Dataset) (owner : Node) (a : Attribute) :
    Leads d (d.addAttribute owner a).1 :=
  leads_withDeclared (x := .attr owner a) rfl

theorem leads_withGroup {parent : GroupId} {name : String}
    (free : d.requireFree parent name = .ok ()) : Leads d (d.withGroup parent name) :=
  leads_withDeclared (x := .group parent name) free

theorem leads_withDimension {name : String} {size : Nat} (free : d.requireFree g name = .ok ()) :
    Leads d (d.withDimension g name size) :=
  leads_withDeclared (x := .dimension g name size) free

theorem leads_withAnonymous {size : Nat} (there : d.Has (.ofGroup g)) :
    Leads d (d.withAnonymous g size) :=
  leads_withDeclared (x := .anonymous g size) (requireGroup_eq_ok_iff.2 there)

theorem leads_withEnum {name : String} {base : AtomicType} {constants : List (String × Int)}
    (free : d.requireEnum g name base = .ok ()) : Leads d (d.withEnum g name base constants) :=
  leads_withDeclared (x := .enumeration g name base constants) free

theorem leads_withVariable {owner : Owner} {name : String} {shape : Shape} {xs : List DimId}
    (conditions : d.requireVariable owner name shape xs = .ok ()) :
    Leads d (d.withVariable owner name shape xs) :=
  leads_withDeclared (x := .var owner name shape xs) conditions

theorem Referred.leads {cs : List DimensionReference} {xs : List DimId}
    (h : Referred g d cs m xs) : Leads d m := by
  induction h with
  | nil => exact Leads.refl _
  | named _ _ ih => exact ih
  | anonymous there _ ih => exact (leads_withAnonymous there).trans ih

/-- References add dimensions and nothing else. -/
theorem Referred.same {cs : List DimensionReference} {xs : List DimId}
    (h : Referred g d cs m xs) : m.groups = d.groups ∧ m.enums = d.enums ∧ m.vars = d.vars ∧
      m.attributes = d.attributes := by
  induction h with
  | nil => exact ⟨rfl, rfl, rfl, rfl⟩
  | named _ _ ih => exact ih
  | anonymous _ _ ih => exact ih

theorem LoadStep.leads (step : LoadStep d e) : Leads d e := by
  cases step with
  | attr => exact leads_addAttribute ..
  | dimension free => exact leads_withDimension free
  | enumeration free => exact leads_withEnum free
  | var references conditions => exact references.leads.trans (leads_withVariable conditions)
  | group free => exact leads_withGroup free

theorem LoadSteps.leads (steps : LoadSteps d e) : Leads d e := by
  induction steps with
  | refl => exact Leads.refl d
  | tail _ step ih => exact ih.trans step.leads

/-! ## Runs -/

theorem loadAttributes_steps {owner : Node} (there : d.Has owner)
    (bears : bearsAttributes owner = true) {cs : List AttributeDescription}
    (h : d.loadAttributes g owner cs = .ok e) : LoadSteps d e := by
  induction cs generalizing d with
  | nil =>
    cases h
    exact .refl
  | cons c cs ih =>
    obtain ⟨t, -, rest⟩ := loadAttributes_cons_eq_ok h
    have later := (leads_addAttribute d owner ⟨c.name, t, c.values⟩).grown.has there
    exact .head (.attr there bears) (ih later rest)

theorem loadDimensions_steps {cs : List DimensionDescription}
    (h : d.loadDimensions g cs = .ok e) : LoadSteps d e := by
  induction cs generalizing d with
  | nil =>
    cases h
    exact .refl
  | cons c cs ih =>
    obtain ⟨r, added, rest⟩ := loadDimensions_cons_eq_ok h
    obtain ⟨free, rfl⟩ := addDimension?_eq_ok_iff.1 added
    exact .head (.dimension free) (ih rest)

theorem loadEnums_steps {cs : List EnumDescription} (h : d.loadEnums g cs = .ok e) :
    LoadSteps d e := by
  induction cs generalizing d with
  | nil =>
    cases h
    exact .refl
  | cons c cs ih =>
    obtain ⟨base, r, -, added, rest⟩ := loadEnums_cons_eq_ok h
    obtain ⟨free, rfl⟩ := addEnum?_eq_ok_iff.1 added
    exact .head (.enumeration free) (ih rest)

theorem has_nextVariable (d : Dataset) (owner : Owner) (name : String) (shape : Shape)
    (xs : List DimId) :
    (d.withVariable owner name shape xs).Has (.ofVariable d.nextVariable) := by
  show _ < (d.withVariable owner name shape xs).vars.length
  rw [length_vars_withVariable]
  exact Nat.lt_succ_self _

theorem loadVariableAlone_steps {owner : Owner} {c : VariableDescription} {v : VarId}
    (h : d.loadVariableAlone g owner c = .ok (e, v)) : LoadSteps d e := by
  obtain ⟨m, xs, shape, references, -, conditions, rfl, attributes⟩ := loadVariableAlone_eq_ok h
  exact .head (.var references conditions)
    (loadAttributes_steps (has_nextVariable ..) rfl attributes)

mutual

theorem loadVariable_steps {owner : Owner} : {d e : Dataset} → (c : VariableDescription) →
    d.loadVariable g owner c = .ok e → LoadSteps d e
  | d, e, ⟨name, type, dims, fields, attributes⟩, h => by
    rw [loadVariable] at h
    obtain ⟨⟨m, v⟩, alone, inner⟩ := exists_ok_of_bind_eq_ok h
    exact (loadVariableAlone_steps alone).trans (loadVariables_steps fields inner)

theorem loadVariables_steps {owner : Owner} : {d e : Dataset} →
    (cs : List VariableDescription) → d.loadVariables g owner cs = .ok e → LoadSteps d e
  | d, e, [], h => by
    rw [loadVariables] at h
    cases h
    exact .refl
  | d, e, c :: cs, h => by
    rw [loadVariables] at h
    obtain ⟨m, first, rest⟩ := exists_ok_of_bind_eq_ok h
    exact (loadVariable_steps c first).trans (loadVariables_steps cs rest)

end

theorem loadContents_steps (there : d.Has (.ofGroup g)) {c : GroupDescription}
    (h : d.loadContents g c = .ok e) : LoadSteps d e := by
  obtain ⟨a, x, y, attributes, dimensions, enums, vars⟩ := loadContents_eq_ok h
  exact (loadAttributes_steps there rfl attributes).trans <|
    (loadDimensions_steps dimensions).trans <|
    (loadEnums_steps enums).trans (loadVariables_steps _ vars)

theorem has_nextGroup (d : Dataset) (parent : GroupId) (name : String) :
    (d.withGroup parent name).Has (.ofGroup d.nextGroup) := by
  show _ < (d.withGroup parent name).groups.length
  rw [length_groups_withGroup]
  exact Nat.lt_succ_self _

mutual

theorem loadGroup_steps : {d e : Dataset} → {g : GroupId} → d.Has (.ofGroup g) →
    (c : GroupDescription) → d.loadGroup g c = .ok e → LoadSteps d e
  | d, e, g, there, ⟨name, dimensions, enums, vars, groups, attributes⟩, h => by
    rw [loadGroup] at h
    obtain ⟨m, contents, inner⟩ := exists_ok_of_bind_eq_ok h
    exact (loadContents_steps there contents).trans (loadGroups_steps groups inner)

theorem loadGroups_steps : {d e : Dataset} → {parent : GroupId} → (cs : List GroupDescription) →
    d.loadGroups parent cs = .ok e → LoadSteps d e
  | d, e, parent, [], h => by
    rw [loadGroups] at h
    cases h
    exact .refl
  | d, e, parent, c :: cs, h => by
    obtain ⟨m, free, inner, rest⟩ := loadGroups_cons_eq_ok h
    exact .head (.group free) <|
      (loadGroup_steps (has_nextGroup ..) c inner).trans (loadGroups_steps cs rest)

end

theorem ofDescription?_steps {c : GroupDescription} (h : ofDescription? c = .ok e) :
    LoadSteps (empty c.name) e :=
  loadGroup_steps Nat.zero_lt_one c h

end Hyperslab.Dataset
