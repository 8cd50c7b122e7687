/-
# `Hyperslab.Proofs.Dataset.Stages` — loading, seen from the finished dataset

A description is loaded in stages, and each name is resolved at one of them.  What a list of
smaller declarations leaves in the finished dataset is settled here for each kind: the lists that
get longer (`Enlarges`), and that their new members match the description.  The finished dataset
comes in as any later stage.

For the names that variables use it is said more exactly what the handle has to do with the name.
From the stage at which the variable is the next to be declared, the name denotes what the
variable got, at all stages up to the last (`lastingNames`).  The names that the attributes of a
group use are read around the group, and denote there in the end what they denoted then
(`loadedNames`).
-/
import Hyperslab.Proofs.Dataset.Inventory
import Hyperslab.Proofs.Dataset.Matching
import Hyperslab.Proofs.Dataset.Surroundings

namespace Hyperslab.Dataset

variable {d e f m : Dataset} {g : GroupId}

/-! ## Names -/

/-- At some stage of a dataset, and ever since, a question has the same answer. -/
def Lasting {α : Type} (f : Dataset) (moment : Dataset → Prop) (question : Dataset → Option α)
    (answer : α) : Prop :=
  ∃ d, Leads (empty f.name) d ∧ moment d ∧ Leads d f ∧ Lasts d f question answer

/-- Names that were resolved while the dataset was loaded.  What a variable uses is resolved when
it is the next to be declared, and what its attributes use when it is the last declared.  For
other attributes it is only said that their types were once denoted by the name. -/
def lastingNames (f : Dataset) : Naming where
  dimension v g name :=
    f.Lasting (fun d => d.vars.length = v.index) fun d => d.resolveDimension? g name
  variableType v g name :=
    f.Lasting (fun d => d.vars.length = v.index) fun d => d.resolveType? g name
  attributeType n g name t :=
    match n with
    | .ofVariable v =>
      f.Lasting (fun d => d.vars.length = v.index + 1) (fun d => d.resolveType? g name) t
    | _ => ∃ d, Leads (empty f.name) d ∧ Leads d f ∧ d.resolveType? g name = some t

/-- Names that were resolved while the dataset was loaded, with what those of attributes that no
variable has denote around their group. -/
def loadedNames (f : Dataset) : Naming where
  dimension := f.lastingNames.dimension
  variableType := f.lastingNames.variableType
  attributeType n g name t :=
    f.lastingNames.attributeType n g name t ∧
      ((∀ v, n ≠ .ofVariable v) → f.typeAround? g name = some t)

theorem loadedNames_implies (f : Dataset) : f.loadedNames.Implies f.lastingNames where
  dimension _ _ _ _ := id
  variableType _ _ _ _ := id
  attributeType _ _ _ _ := And.left

/-- A stage at which all is declared that names can denote in a group. -/
structure Stage (d f : Dataset) (g : GroupId) : Prop where
  built : Leads (empty f.name) d
  owned : OwnedAttributes d
  leads : Leads d f
  there : d.Has (.ofGroup g)
  scope : SameScope d f g

namespace Stage

theorem wellFormed (s : Stage d f g) : WellFormed d := s.built.wellFormed

theorem later (s : Stage d f g) (first : Leads d e) (owned : OwnedAttributes e)
    (second : Leads e f) : Stage e f g :=
  ⟨s.built.trans first, owned, second, first.grown.has s.there,
    (s.scope.between first.grown second.grown s.there).2⟩

theorem next (s : Stage d f g) (steps : LoadSteps d e) (second : Leads e f) : Stage e f g :=
  s.later steps.leads (s.owned.steps steps) second

theorem referred (s : Stage d f g) {cs : List DimensionReference} {xs : List DimId}
    (references : Referred g d cs m xs) (second : Leads m f) : Stage m f g :=
  s.later references.leads (s.owned.of_grown references.leads.grown references.same.2.2.2) second

theorem dimension (s : Stage d f g) {name : String} {x : DimId}
    (resolved : d.resolveDimension? g name = some x) :
    f.loadedNames.dimension d.nextVariable g name x :=
  ⟨d, s.built, rfl, s.leads, s.scope.lasts_resolveDimension? s.wellFormed s.there resolved⟩

theorem variableType (s : Stage d f g) {name : String} {t : AtomicType}
    (resolved : d.resolveType? g name = some t) :
    f.loadedNames.variableType d.nextVariable g name t :=
  ⟨d, s.built, rfl, s.leads, s.scope.lasts_resolveType? s.wellFormed s.there resolved⟩

theorem attributeType (s : Stage d f g) {name : String} {t : AtomicType} {v : VarId}
    (last : d.vars.length = v.index + 1) (resolved : d.resolveType? g name = some t) :
    f.loadedNames.attributeType (.ofVariable v) g name t :=
  ⟨⟨d, s.built, last, s.leads, s.scope.lasts_resolveType? s.wellFormed s.there resolved⟩,
    fun other => absurd rfl (other v)⟩

end Stage

/-! ## Lists that get longer -/

/-- Nodes were appended to one list, and no other list that was there has changed. -/
structure Enlarges (p : Place) (new : List Node) (d e : Dataset) : Prop where
  here : e.listAt p = d.listAt p ++ new
  elsewhere : ∀ q, d.Has q.node → q ≠ p → e.listAt q = d.listAt q

namespace Enlarges

variable {p : Place} {as bs : List Node}

theorem refl (p : Place) (d : Dataset) : Enlarges p [] d d :=
  ⟨(List.append_nil _).symm, fun _ _ _ => rfl⟩

theorem of_appends (h : Appends d e p as) : Enlarges p as d e :=
  ⟨by rw [h p, if_pos rfl], fun q _ other => by rw [h q, if_neg other]⟩

theorem trans (h : Enlarges p as d m) (k : Enlarges p bs m e) (grown : Grown d m) :
    Enlarges p (as ++ bs) d e where
  here := by rw [k.here, h.here, List.append_assoc]
  elsewhere q there other :=
    (k.elsewhere q (grown.has there) other).trans (h.elsewhere q there other)

/-- Afterwards only lists of new nodes change. -/
theorem followed (h : Enlarges p as d m) (there : d.Has p.node)
    (kept : ∀ q, d.Has q.node → e.listAt q = m.listAt q) : Enlarges p as d e where
  here := (kept p there).trans h.here
  elsewhere q has other := (kept q has).trans (h.elsewhere q has other)

/-- A list of a new node gets longer. -/
theorem kept (h : Enlarges p as m e) (grown : Grown d m) (absent : ¬ d.Has p.node) (q : Place)
    (there : d.Has q.node) : e.listAt q = m.listAt q := by
  refine h.elsewhere q (grown.has there) ?_
  rintro rfl
  exact absent there

end Enlarges

/-! ## Smaller declarations -/

theorem loadAttributes_matches {owner : Node} (there : d.Has owner)
    (bears : bearsAttributes owner = true) {cs : List AttributeDescription}
    (h : d.loadAttributes g owner cs = .ok e) :
    ∃ ids, Enlarges (.attributes owner) (ids.map .ofAttribute) d e ∧
      ∀ (f : Dataset) (R : Naming), Leads e f →
        (∀ name t, d.resolveType? g name = some t → R.attributeType owner g name t) →
        List.Forall₂ (f.AttributeMatches R owner g) ids cs := by
  induction cs generalizing d with
  | nil =>
    cases h
    exact ⟨[], .refl _ _, fun _ _ _ _ => .nil⟩
  | cons c cs ih =>
    obtain ⟨t, type, rest⟩ := loadAttributes_cons_eq_ok h
    have first := leads_addAttribute d owner ⟨c.name, t, c.values⟩
    have later := first.grown.has there
    obtain ⟨ids, longer, matched⟩ := ih later rest
    refine ⟨d.nextAttribute :: ids,
      (Enlarges.of_appends (appends_addAttribute _ _ _)).trans longer first.grown, ?_⟩
    intro f R last reads
    have grown := ((loadAttributes_steps later bears rest).leads.trans last).grown
    refine .cons ⟨t, ?_, reads _ _ type⟩ (matched f R last ?_)
    · -- the new attribute is the last one, and later ones come after it
      exact (getElem?_of_isPrefix grown.attributes (lt_length_concat d.attributes _)).trans
        List.getElem?_concat_length
    · rw [resolveType?_addAttribute]
      exact reads

theorem loadDimensions_matches {cs : List DimensionDescription}
    (h : d.loadDimensions g cs = .ok e) :
    ∃ xs, Enlarges (.dimensions g) (xs.map .ofDimension) d e ∧
      ∀ f : Dataset, Leads e f → List.Forall₂ (f.DimensionMatches g) xs cs := by
  induction cs generalizing d with
  | nil =>
    cases h
    exact ⟨[], .refl _ _, fun _ _ => .nil⟩
  | cons c cs ih =>
    obtain ⟨r, added, rest⟩ := loadDimensions_cons_eq_ok h
    obtain ⟨free, rfl⟩ := addDimension?_eq_ok_iff.1 added
    obtain ⟨xs, longer, matched⟩ := ih rest
    have present := (requireFree_eq_ok_iff.1 free).1
    refine ⟨d.nextDimension :: xs, (Enlarges.of_appends
      (appends_withDimension present _ _)).trans longer (leads_withDimension free).grown, ?_⟩
    intro f last
    have grown := ((loadDimensions_steps rest).leads.trans last).grown
    refine .cons ?_ (matched f last)
    exact (grown.dimension (lt_length_concat d.dimensions _)).trans
      ((dimension_concat ..).trans (if_pos rfl))

theorem loadEnums_matches {cs : List EnumDescription} (h : d.loadEnums g cs = .ok e) :
    ∃ ys, Enlarges (.enums g) (ys.map .ofEnumeration) d e ∧
      ∀ f : Dataset, Leads e f → List.Forall₂ (f.EnumMatches g) ys cs := by
  induction cs generalizing d with
  | nil =>
    cases h
    exact ⟨[], .refl _ _, fun _ _ => .nil⟩
  | cons c cs ih =>
    obtain ⟨base, r, named, added, rest⟩ := loadEnums_cons_eq_ok h
    obtain ⟨conditions, rfl⟩ := addEnum?_eq_ok_iff.1 added
    obtain ⟨ys, longer, matched⟩ := ih rest
    have present := (requireFree_eq_ok_iff.1 (requireFree_of_requireEnum conditions)).1
    refine ⟨d.nextEnum :: ys, (Enlarges.of_appends
      (appends_withEnum present _ _ _)).trans longer (leads_withEnum conditions).grown, ?_⟩
    intro f last
    have grown := ((loadEnums_steps rest).leads.trans last).grown
    refine .cons ⟨base, named, ?_⟩ (matched f last)
    exact (grown.enumeration (lt_length_concat d.enums _)).trans
      ((enumeration_concat ..).trans (if_pos rfl))

theorem Referred.matches {cs : List DimensionReference} {xs : List DimId}
    (references : Referred g d cs m xs) (s : Stage d f g) (last : Leads m f) :
    List.Forall₂ (f.ReferenceMatches f.loadedNames d.nextVariable g) xs cs := by
  induction references with
  | nil => exact .nil
  | named resolved _ ih => exact .cons (s.dimension resolved) (ih s last)
  | @anonymous d m size cs xs there rest ih =>
    have first : Leads d (d.withAnonymous g size) := leads_withAnonymous there
    have second := rest.leads.trans last
    refine .cons ?_ (ih (s.later first (s.owned.of_grown first.grown rfl) second) last)
    exact (second.grown.dimension (lt_length_concat d.dimensions _)).trans
      ((dimension_concat ..).trans (if_pos rfl))

end Hyperslab.Dataset
