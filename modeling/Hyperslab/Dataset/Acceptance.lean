/-
# `Hyperslab.Dataset.Acceptance` — when a declaration is accepted

Every way of declaring is a condition followed by an effect.  Here the conditions are
said without errors, as facts about the dataset, and the effects without a run, as the
dataset with one thing more.  Each call is taken apart into these once: it leaves the
dataset that the effect says if its condition holds, and if not it leaves the dataset as
it was (`call_declare`).
-/
import Hyperslab.Dataset.Declaration

namespace Hyperslab

namespace Dataset

/-! ## Conditions -/

theorem requireGroup_eq_ok_iff {d : Dataset} {g : GroupId} :
    d.requireGroup g = .ok () ↔ g.index < d.groups.length := by
  unfold requireGroup
  split
  · rename_i h
    exact ⟨fun _ => h, fun _ => rfl⟩
  · rename_i h
    exact ⟨fun e => (by cases e), fun e => absurd e h⟩

theorem requireFree_eq_ok_iff {d : Dataset} {g : GroupId} {name : String} :
    d.requireFree g name = .ok () ↔ g.index < d.groups.length ∧ d.declares g name = false := by
  unfold requireFree requireGroup
  split
  · rename_i h
    cases hd : d.declares g name
    · exact ⟨fun _ => ⟨h, rfl⟩, fun _ => rfl⟩
    · exact ⟨fun e => (by cases e), fun e => (by cases e.2)⟩
  · rename_i h
    exact ⟨fun e => (by cases e), fun e => absurd e.1 h⟩

theorem requireFreeField_eq_ok_iff {d : Dataset} {v : VarId} {name : String} :
    d.requireFreeField v name = .ok () ↔
      v.index < d.vars.length ∧ (d.var v).isCompound = true ∧ d.field? v name = none := by
  unfold requireFreeField
  split
  · rename_i h
    exact ⟨fun e => (by cases e), fun e => absurd e.1 (Nat.not_lt.2 h)⟩
  · rename_i h
    cases hc : (d.var v).isCompound with
    | false => exact ⟨fun e => (by cases e), fun e => (by cases e.2.1)⟩
    | true =>
      cases hf : d.field? v name with
      | none => exact ⟨fun _ => ⟨Nat.lt_of_not_le h, rfl, rfl⟩, fun _ => rfl⟩
      | some f => exact ⟨fun e => (by cases e), fun e => (by cases e.2.2)⟩

theorem requireShape_eq_ok_iff {d : Dataset} {shape : Shape} :
    d.requireShape shape = .ok () ↔
      ∀ e, shape = .atomic (.enumeration e) → e.index < d.enums.length := by
  unfold requireShape
  split
  · rename_i e
    split
    · rename_i h
      exact ⟨fun _ x hx => (by cases hx; exact h), fun _ => rfl⟩
    · rename_i h
      exact ⟨fun e => (by cases e), fun all => absurd (all e rfl) h⟩
  · rename_i other
    exact ⟨fun _ e he => absurd he (other e), fun _ => rfl⟩

theorem requireDimensions_eq_ok_iff {d : Dataset} {name : String} {xs : List DimId} :
    d.requireDimensions name xs = .ok () ↔ ∀ x ∈ xs, x.index < d.dimensions.length := by
  unfold requireDimensions
  split
  · rename_i x h
    have beyond : d.dimensions.length ≤ x.index := by
      have found := List.find?_some h
      exact of_decide_eq_true found
    exact ⟨fun e => (by cases e), fun all =>
      absurd (all x (List.mem_of_find?_eq_some h)) (Nat.not_lt.2 beyond)⟩
  · rename_i h
    refine ⟨fun _ x hx => ?_, fun _ => rfl⟩
    exact Nat.lt_of_not_le fun le => List.find?_eq_none.1 h x hx (decide_eq_true le)

theorem requireVariable_eq_ok_iff {d : Dataset} {owner : Owner} {name : String} {shape : Shape}
    {xs : List DimId} :
    d.requireVariable owner name shape xs = .ok () ↔
      d.requireShape shape = .ok () ∧ d.requireDimensions name xs = .ok () ∧
        d.requireOwner owner name = .ok () := by
  unfold requireVariable
  cases d.requireShape shape with
  | error e => exact ⟨fun h => (by cases h), fun h => (by cases h.1)⟩
  | ok u =>
    cases d.requireDimensions name xs with
    | error e => exact ⟨fun h => (by cases h), fun h => (by cases h.2.1)⟩
    | ok w => exact ⟨fun h => ⟨rfl, rfl, h⟩, fun h => h.2.2⟩

/-! ## Effects -/

/-- The dataset with one more group inside a group. -/
def withGroup (d : Dataset) (parent : GroupId) (name : String) : Dataset :=
  let d' := d.updateGroup parent fun p => { p with groups := p.groups ++ [d.nextGroup] }
  let path := (d.group parent).path ++ [d.nextGroup]
  { d' with groups := d'.groups ++ [emptyGroup d.nextGroup name (some parent) path] }

/-- The dataset with one more shared dimension. -/
def withDimension (d : Dataset) (g : GroupId) (name : String) (size : Nat) : Dataset :=
  let d' := d.updateGroup g fun p => { p with dimensions := p.dimensions ++ [d.nextDimension] }
  { d' with dimensions := d.dimensions ++ [⟨d.nextDimension, some name, size, true, g⟩] }

/-- The dataset with one more dimension without a name. -/
def withAnonymous (d : Dataset) (g : GroupId) (size : Nat) : Dataset :=
  { d with dimensions := d.dimensions ++ [⟨d.nextDimension, none, size, false, g⟩] }

/-- The dataset with one more enumeration. -/
def withEnum (d : Dataset) (g : GroupId) (name : String) (base : AtomicType)
    (constants : List (String × Int)) : Dataset :=
  let d' := d.updateGroup g fun p => { p with enums := p.enums ++ [d.nextEnum] }
  { d' with enums := d.enums ++ [⟨d.nextEnum, name, base, constants, g⟩] }

/-- The dataset with its next variable entered in the list of the owner. -/
def enterVariable (d : Dataset) : Owner → Dataset
  | .group g => d.updateGroup g fun p => { p with vars := p.vars ++ [d.nextVariable] }
  | .compound p => d.updateVariable p fun c =>
    { c with content := c.content.addField d.nextVariable }

/-- The dataset with one more variable or field. -/
def withVariable (d : Dataset) (owner : Owner) (name : String) (shape : Shape)
    (dimensions : List DimId) : Dataset :=
  let d' := d.enterVariable owner
  { d' with
    vars := d'.vars ++
      [⟨d.nextVariable, name, owner, d.ownerGroup owner, dimensions, shape.content⟩] }

/-! ## Calls -/

/-- What a call does under a condition: it answers with a value and leaves another dataset, or it is
refused and leaves the dataset that there was. -/
def answer {α : Type} (d : Dataset) (condition : Except DeclarationError Unit) (e : Dataset) (a : α) :
    Except DeclarationError α × Dataset :=
  match condition with
  | .ok () => (.ok a, e)
  | .error cause => (.error cause, d)

section Calls

open Building

variable {α : Type} {d : Dataset} {g parent : GroupId} {name : String}

/-- Nothing has been changed when a condition is looked at. -/
theorem call_require_bind (condition : Dataset → Except DeclarationError Unit) (b : Building α) :
    (require condition >>= fun _ => b).call d = match condition d with
      | .ok () => b.call d
      | .error cause => (.error cause, d) := by
  have checked : require condition d = match condition d with
      | .ok () => (.ok (), d)
      | .error cause => (.error cause, d) := by
    show (match condition d with | .ok () => _ | .error cause => _ : Building Unit) d = _
    cases condition d <;> rfl
  have run : (require condition >>= fun _ => b).call d =
      ExceptT.bindCont (fun _ => b) (require condition d).1 (require condition d).2 := rfl
  rw [run, checked]
  cases condition d <;> rfl

/-- A call that looks at a condition first, and does the same as an effect if that holds. -/
theorem call_eq_answer {condition : Dataset → Except DeclarationError Unit} {b : Building α}
    {e : Dataset} {a : α} (effect : condition d = .ok () → b.call d = (.ok a, e)) :
    (require condition >>= fun _ => b).call d = d.answer (condition d) e a := by
  rw [call_require_bind]
  cases holds : condition d with
  | error => rfl
  | ok => exact effect holds

/-- A member that is there can be changed before or after another is put at the end. -/
theorem modify_concat {as : List α} {i : Nat} (h : i < as.length) (a : α) (f : α → α) :
    (as ++ [a]).modify i f = as.modify i f ++ [a] := by
  induction as generalizing i with
  | nil => cases h
  | cons b as ih =>
    cases i with
    | zero => rfl
    | succ i => exact congrArg (b :: ·) (ih (Nat.lt_of_succ_lt_succ h))

theorem call_addGroup : (addGroup parent name).call d =
    d.answer (d.requireFree parent name) (d.withGroup parent name) d.nextGroup := by
  refine call_eq_answer fun free => ?_
  -- in place the new group comes before the change of its parent, and in the effect behind it
  have present := (requireFree_eq_ok_iff.1 free).1
  have same : { d with groups := (d.groups ++ [_]).modify parent.index _ } =
      d.withGroup parent name := congrArg (Dataset.mk _ · _ _ _ _) (modify_concat present _ _)
  exact congrArg (Except.ok d.nextGroup, ·) same

theorem call_addDimension {size : Nat} : (addDimension g name size).call d =
    d.answer (d.requireFree g name) (d.withDimension g name size) d.nextDimension :=
  call_eq_answer fun _ => rfl

theorem call_addAnonymous {size : Nat} : (addAnonymous g size).call d =
    d.answer (d.requireGroup g) (d.withAnonymous g size) d.nextDimension :=
  call_eq_answer fun _ => rfl

theorem call_addEnum {base : AtomicType} {constants : List (String × Int)} :
    (addEnum g name base constants).call d =
      d.answer (d.requireEnum g name base) (d.withEnum g name base constants) d.nextEnum :=
  call_eq_answer fun _ => rfl

theorem call_addVariable {owner : Owner} {shape : Shape} {xs : List DimId} :
    (addVariable owner name shape xs).call d =
      d.answer (d.requireVariable owner name shape xs) (d.withVariable owner name shape xs)
        d.nextVariable := by
  refine call_eq_answer fun conditions => ?_
  cases owner with
  | group g => rfl
  | compound p =>
    have free := (requireVariable_eq_ok_iff.1 conditions).2.2
    have present := (requireFreeField_eq_ok_iff.1 free).1
    have same : { d with vars := (d.vars ++ [_]).modify p.index _ } =
        d.withVariable (.compound p) name shape xs :=
      congrArg (Dataset.mk _ _ _ _ · _) (modify_concat present _ _)
    exact congrArg (Except.ok d.nextVariable, ·) same

/-- The answer of a call in another form. -/
theorem call_map {β : Type} {b : Building α} {condition : Except DeclarationError Unit} {e : Dataset}
    {a : α} (answers : b.call d = d.answer condition e a) (f : α → β) :
    (do return f (← b) : Building β).call d = d.answer condition e (f a) := by
  have run : (do return f (← b) : Building β).call d =
      ExceptT.bindCont (fun a => pure (f a) : α → Building β) (b.call d).1 (b.call d).2 := rfl
  rw [run, answers]
  cases condition <;> rfl

theorem result_eq_ok_iff {b : Building α} {e : Dataset} {a : α} :
    b.result d = .ok (e, a) ↔ b.call d = (.ok a, e) := by
  unfold result
  rcases b.call d with ⟨_ | _, _⟩ <;> simp [and_comm]

theorem result_eq_error_iff {b : Building α} {cause : DeclarationError} :
    b.result d = .error cause ↔ (b.call d).1 = .error cause := by
  unfold result
  rcases b.call d with ⟨_ | _, _⟩ <;> simp

theorem result_of_answer {b : Building α} {condition : Except DeclarationError Unit} {e : Dataset}
    {a : α} (answers : b.call d = d.answer condition e a) :
    b.result d = do condition; return (e, a) := by
  unfold result
  rw [answers]
  cases condition <;> rfl

/-- There is a result exactly if the condition holds. -/
theorem result_of_answer_eq_ok_iff {b : Building α} {condition : Except DeclarationError Unit}
    {e : Dataset} {a : α} {r : Dataset × α} (answers : b.call d = d.answer condition e a) :
    b.result d = .ok r ↔ condition = .ok () ∧ r = (e, a) := by
  rw [result_of_answer answers]
  cases condition with
  | error e => exact ⟨fun h => (by cases h), fun h => (by cases h.1)⟩
  | ok u => exact ⟨fun h => (by cases h; exact ⟨rfl, rfl⟩), fun h => (by rw [h.2]; rfl)⟩

theorem addGroup?_eq_ok_iff {r : Dataset × GroupId} : d.addGroup? parent name = .ok r ↔
    d.requireFree parent name = .ok () ∧ r = (d.withGroup parent name, d.nextGroup) :=
  result_of_answer_eq_ok_iff call_addGroup

theorem addDimension?_eq_ok_iff {size : Nat} {r : Dataset × DimId} :
    d.addDimension? g name size = .ok r ↔
      d.requireFree g name = .ok () ∧ r = (d.withDimension g name size, d.nextDimension) :=
  result_of_answer_eq_ok_iff call_addDimension

theorem addAnonymous?_eq_ok_iff {size : Nat} {r : Dataset × DimId} :
    d.addAnonymous? g size = .ok r ↔
      d.requireGroup g = .ok () ∧ r = (d.withAnonymous g size, d.nextDimension) :=
  result_of_answer_eq_ok_iff call_addAnonymous

theorem addEnum?_eq_ok_iff {base : AtomicType} {constants : List (String × Int)}
    {r : Dataset × EnumId} :
    d.addEnum? g name base constants = .ok r ↔
      d.requireEnum g name base = .ok () ∧ r = (d.withEnum g name base constants, d.nextEnum) :=
  result_of_answer_eq_ok_iff call_addEnum

theorem addVariable?_eq_ok_iff {owner : Owner} {shape : Shape} {xs : List DimId}
    {r : Dataset × VarId} :
    d.addVariable? owner name shape xs = .ok r ↔
      d.requireVariable owner name shape xs = .ok () ∧
        r = (d.withVariable owner name shape xs, d.nextVariable) :=
  result_of_answer_eq_ok_iff call_addVariable

end Calls

end Dataset

/-! ## Declarations -/

/-- The number of a node among those of its kind. -/
def Node.index : Node → Nat
  | .ofGroup g => g.index
  | .ofDimension x => x.index
  | .ofEnumeration y => y.index
  | .ofVariable v => v.index
  | .ofAttribute a => a.index

namespace Dataset

/-- The conditions on a declaration. -/
def requirement (d : Dataset) : Declaration → Except DeclarationError Unit
  | .group parent name => d.requireFree parent name
  | .dimension g name _ => d.requireFree g name
  | .anonymous g _ => d.requireGroup g
  | .enumeration g name base _ => d.requireEnum g name base
  | .var owner name shape xs => d.requireVariable owner name shape xs
  | .attr _ _ => .ok ()

/-- The dataset with what a declaration declares. -/
def withDeclared (d : Dataset) : Declaration → Dataset
  | .group parent name => d.withGroup parent name
  | .dimension g name size => d.withDimension g name size
  | .anonymous g size => d.withAnonymous g size
  | .enumeration g name base constants => d.withEnum g name base constants
  | .var owner name shape xs => d.withVariable owner name shape xs
  | .attr owner a => (d.addAttribute owner a).1

/-- The node that a declaration adds if it is accepted. -/
def nextNode (d : Dataset) : Declaration → Node
  | .group .. => .ofGroup d.nextGroup
  | .dimension .. | .anonymous .. => .ofDimension d.nextDimension
  | .enumeration .. => .ofEnumeration d.nextEnum
  | .var .. => .ofVariable d.nextVariable
  | .attr .. => .ofAttribute d.nextAttribute

section Declarations

variable {d e : Dataset} {x : Declaration}

theorem call_declare (d : Dataset) (x : Declaration) : (Building.declare x).call d =
    d.answer (d.requirement x) (d.withDeclared x) (d.nextNode x).index := by
  cases x with
  | group => exact call_map call_addGroup GroupId.index
  | dimension => exact call_map call_addDimension DimId.index
  | anonymous => exact call_map call_addAnonymous DimId.index
  | enumeration => exact call_map call_addEnum EnumId.index
  | var => exact call_map call_addVariable VarId.index
  | attr => rfl

theorem declare?_eq (d : Dataset) (x : Declaration) : d.declare? x = do
    d.requirement x
    return (d.withDeclared x, (d.nextNode x).index) :=
  result_of_answer (call_declare d x)

theorem declare?_eq_ok_iff {n : Nat} : d.declare? x = .ok (e, n) ↔
    d.requirement x = .ok () ∧ e = d.withDeclared x ∧ n = (d.nextNode x).index :=
  (result_of_answer_eq_ok_iff (call_declare d x)).trans (and_congr_right' Prod.ext_iff)

/-- A refused declaration leaves the dataset that there was. -/
theorem eq_of_declare_eq_error {cause : DeclarationError}
    (refused : (Building.declare x).call d = (.error cause, e)) : e = d := by
  rw [call_declare] at refused
  cases required : d.requirement x with
  | error =>
    rw [required] at refused
    exact (congrArg Prod.snd refused).symm
  | ok =>
    rw [required] at refused
    cases refused

theorem attempt_of_ok {n : Nat} (h : d.declare? x = .ok (e, n)) : d.attempt x = e :=
  congrArg Prod.snd (result_eq_ok_iff.1 h)

/-- A declaration that is refused leaves the dataset alone. -/
theorem attempt_of_error {cause : DeclarationError} (h : d.declare? x = .error cause) :
    d.attempt x = d :=
  eq_of_declare_eq_error (Prod.ext (result_eq_error_iff.1 h) rfl)

end Declarations

end Dataset

end Hyperslab
