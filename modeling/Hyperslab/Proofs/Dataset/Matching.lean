/-
# `Hyperslab.Proofs.Dataset.Matching` — datasets that are as described

A dataset matches a description if reading it from the root, list by list, gives what the
description says, in the same order.  Names of dimensions and types are the one thing that cannot
be read off a dataset: a description writes a name where the dataset has a handle.  What the
handle has to do with the name is therefore left open here, and given by a `Naming`.

An anonymous dimension is matched by a dimension without a name and of the size described.
-/
import Hyperslab.Dataset.Loading
import Mathlib.Data.List.Forall2

namespace Hyperslab

/-- What a name in a description may stand for.  Variables use names of dimensions and types, and
attributes use names of types, each in some group. -/
structure Naming where
  dimension : VarId → GroupId → String → DimId → Prop
  variableType : VarId → GroupId → String → AtomicType → Prop
  attributeType : Node → GroupId → String → AtomicType → Prop

/-- Whatever the one allows, the other allows too. -/
structure Naming.Implies (R S : Naming) : Prop where
  dimension : ∀ v g name x, R.dimension v g name x → S.dimension v g name x
  variableType : ∀ v g name t, R.variableType v g name t → S.variableType v g name t
  attributeType : ∀ n g name t, R.attributeType n g name t → S.attributeType n g name t

namespace Dataset

variable (d : Dataset) (R : Naming)

/-! ## Small declarations -/

/-- A shared dimension of a group. -/
def DimensionMatches (g : GroupId) (x : DimId) (c : DimensionDescription) : Prop :=
  d.dimension x = ⟨x, some c.name, c.size, true, g⟩

/-- An enumeration of a group; its base type is read from the name of the type. -/
def EnumMatches (g : GroupId) (y : EnumId) (c : EnumDescription) : Prop :=
  ∃ base, AtomicType.ofName? c.base = some base ∧
    d.enumeration y = ⟨y, c.name, base, c.constants, g⟩

/-- An attribute of a node, with a type named in a group. -/
def AttributeMatches (n : Node) (g : GroupId) (a : AttrId) (c : AttributeDescription) : Prop :=
  ∃ t, d.attributes[a.index]? = some ⟨a, n, ⟨c.name, t, c.values⟩⟩ ∧ R.attributeType n g c.type t

/-- A dimension at one position of a variable. -/
def ReferenceMatches (v : VarId) (g : GroupId) (x : DimId) : DimensionReference → Prop
  | .named name => R.dimension v g name x
  | .anonymous size => d.dimension x = ⟨x, none, size, false, g⟩

/-- The kind of a variable; fields are described elsewhere. -/
def ContentMatches (v : VarId) (g : GroupId) (type : String) : Content → Prop
  | .struct _ => type = "structure"
  | .sequence _ => type = "sequence"
  | .atomic t => type ≠ "structure" ∧ type ≠ "sequence" ∧ R.variableType v g type t

/-! ## Variables and groups -/

/-- A variable that lies in a group, apart from its fields. -/
structure AloneMatches (g : GroupId) (v : VarId) (c : VariableDescription) : Prop where
  name : (d.var v).name = c.name
  home : (d.var v).group = g
  content : ContentMatches R v g c.type (d.var v).content
  dims : List.Forall₂ (d.ReferenceMatches R v g) (d.var v).dimensions c.dims
  attributes : List.Forall₂ (d.AttributeMatches R (.ofVariable v) g)
    (d.attributesOf (.ofVariable v)) c.attributes

/-- A variable with its fields. -/
inductive VariableMatches (g : GroupId) : VarId → VariableDescription → Prop
  | intro {v : VarId} {c : VariableDescription} : d.AloneMatches R g v c →
      List.Forall₂ (VariableMatches g) (d.fields v) c.fields → VariableMatches g v c

/-- What a group contains, apart from its subgroups. -/
structure ContentsMatch (g : GroupId) (c : GroupDescription) : Prop where
  name : (d.group g).name = c.name
  dimensions : List.Forall₂ (d.DimensionMatches g) (d.group g).dimensions c.dimensions
  enums : List.Forall₂ (d.EnumMatches g) (d.group g).enums c.enums
  vars : List.Forall₂ (d.VariableMatches R g) (d.group g).vars c.vars
  attributes : List.Forall₂ (d.AttributeMatches R (.ofGroup g) g)
    (d.attributesOf (.ofGroup g)) c.attributes

/-- A group with all that it contains. -/
inductive GroupMatches : GroupId → GroupDescription → Prop
  | intro {g : GroupId} {c : GroupDescription} : d.ContentsMatch R g c →
      List.Forall₂ GroupMatches (d.group g).groups c.groups → GroupMatches g c

/-! ## Other ways to read names -/

variable {d R} {S : Naming}

section Imp

variable (weaker : R.Implies S)

include weaker

theorem AttributeMatches.imp {n : Node} {g : GroupId} {a : AttrId} {c : AttributeDescription}
    (h : d.AttributeMatches R n g a c) : d.AttributeMatches S n g a c := by
  obtain ⟨t, found, named⟩ := h
  exact ⟨t, found, weaker.attributeType _ _ _ _ named⟩

theorem ReferenceMatches.imp {v : VarId} {g : GroupId} {x : DimId} {c : DimensionReference}
    (h : d.ReferenceMatches R v g x c) : d.ReferenceMatches S v g x c := by
  cases c with
  | named name => exact weaker.dimension _ _ _ _ h
  | anonymous size => exact h

theorem ContentMatches.imp {v : VarId} {g : GroupId} {type : String} {content : Content}
    (h : ContentMatches R v g type content) : ContentMatches S v g type content := by
  cases content with
  | struct | sequence => exact h
  | atomic t => exact ⟨h.1, h.2.1, weaker.variableType _ _ _ _ h.2.2⟩

theorem AloneMatches.imp {g : GroupId} {v : VarId} {c : VariableDescription}
    (h : d.AloneMatches R g v c) : d.AloneMatches S g v c where
  name := h.name
  home := h.home
  content := h.content.imp weaker
  dims := h.dims.imp fun _ _ k => k.imp weaker
  attributes := h.attributes.imp fun _ _ k => k.imp weaker

end Imp

mutual

theorem VariableMatches.imp (weaker : R.Implies S) {g : GroupId} {v : VarId} :
    (c : VariableDescription) → d.VariableMatches R g v c → d.VariableMatches S g v c
  | ⟨_, _, _, fields, _⟩, .intro alone inner =>
    .intro (alone.imp weaker) (forall₂_variableMatches_imp weaker fields inner)

theorem forall₂_variableMatches_imp (weaker : R.Implies S) {g : GroupId} : {vs : List VarId} →
    (cs : List VariableDescription) → List.Forall₂ (d.VariableMatches R g) vs cs →
    List.Forall₂ (d.VariableMatches S g) vs cs
  | _, [], .nil => .nil
  | _, c :: cs, .cons h rest => .cons (h.imp weaker c) (forall₂_variableMatches_imp weaker cs rest)

end

theorem ContentsMatch.imp (weaker : R.Implies S) {g : GroupId} {c : GroupDescription}
    (h : d.ContentsMatch R g c) : d.ContentsMatch S g c where
  name := h.name
  dimensions := h.dimensions
  enums := h.enums
  vars := forall₂_variableMatches_imp weaker c.vars h.vars
  attributes := h.attributes.imp fun _ _ k => k.imp weaker

mutual

theorem GroupMatches.imp (weaker : R.Implies S) {g : GroupId} :
    (c : GroupDescription) → d.GroupMatches R g c → d.GroupMatches S g c
  | ⟨_, _, _, _, groups, _⟩, .intro contents inner =>
    .intro (contents.imp weaker) (forall₂_groupMatches_imp weaker groups inner)

theorem forall₂_groupMatches_imp (weaker : R.Implies S) : {gs : List GroupId} →
    (cs : List GroupDescription) → List.Forall₂ (d.GroupMatches R) gs cs →
    List.Forall₂ (d.GroupMatches S) gs cs
  | _, [], .nil => .nil
  | _, c :: cs, .cons h rest => .cons (h.imp weaker c) (forall₂_groupMatches_imp weaker cs rest)

end

end Dataset

end Hyperslab
