/-
# `Hyperslab.Proofs.Request.Universal` — requests for the whole dataset

A request for the whole dataset has its other entries read like those of any request; the calls
that they stand for change nothing.  So the entries do not show in the view, which is the one of
the request that asks for the whole dataset and says nothing else.  But an entry that cannot be
read spoils the request: it is refused for the fault of the first such entry
(`build_of_universal`).
-/
import Hyperslab.Proofs.Request.Filters
import Hyperslab.Proofs.View.Retry

namespace Hyperslab

/-! ## Entries that can be read -/

/-- The bounds are those of a slice: a stride that is not zero, and a stop past the first
index. -/
def SliceBounds.IsValid (b : SliceBounds) : Prop :=
  b.stride ≠ some 0 ∧ ∀ stop ∈ b.stop, b.first.getD 0 < stop

/-- Each entry of a request means something in the dataset. -/
structure Request.Readable (r : Request) (d : Dataset) : Prop where
  redefinitions : ∀ x ∈ r.redefinitions,
    (d.findDimension? x.dimension).isSome ∧ x.bounds.IsValid
  projections : ∀ p ∈ r.projections, (d.findVariable? p.var).isSome ∧
    ∀ b ∈ p.bounds.getD [], b.IsValid
  filters : ∀ f ∈ r.filters, ∃ v, d.findVariable? f.var = some v ∧ (d.var v).isSequence = true
  overlays : ∀ o ∈ r.overlays, (d.lookup? o.node).isSome ∧ (AtomicType.ofName? o.type).isSome

section Entries

variable {d : Dataset} {α β ε : Type}

theorem orUnknown_eq_ok_iff {e : RequestError} {o : Option α} {x : α} :
    orUnknown e o = .ok x ↔ o = some x := by
  refine ⟨eq_some_of_orUnknown, ?_⟩
  rintro rfl
  rfl

theorem exists_orUnknown_iff {e : RequestError} {o : Option α} :
    (∃ x, orUnknown e o = .ok x) ↔ o.isSome := by
  simp only [orUnknown_eq_ok_iff, Option.isSome_iff_exists]

/-- Two steps can be made if the first can be made, and the second after it. -/
theorem exists_bind_eq_ok_iff {e : Except ε α} {f : α → Except ε β} :
    (∃ b, (e >>= f) = .ok b) ↔ ∃ a, e = .ok a ∧ ∃ b, f a = .ok b := by
  constructor
  · rintro ⟨b, h⟩
    obtain ⟨a, ha, hb⟩ := exists_ok_of_bind_eq_ok h
    exact ⟨a, ha, b, hb⟩
  · rintro ⟨a, rfl, b, hb⟩
    exact ⟨b, hb⟩

theorem exists_pure_eq_ok (a : α) : (∃ b, (pure a : Except ε α) = .ok b) ↔ True :=
  iff_true_intro ⟨a, rfl⟩

theorem exists_mapM_eq_ok_iff {f : α → Except ε β} {as : List α} :
    (∃ bs, as.mapM f = .ok bs) ↔ ∀ a ∈ as, ∃ b, f a = .ok b := by
  refine ⟨?_, exists_mapM_eq_ok⟩
  rintro ⟨bs, h⟩ a ha
  obtain ⟨b, -, hb⟩ := forall₂_mem_right (forall₂_of_mapM_eq_ok h).flip ha
  exact ⟨b, hb⟩

theorem SliceBounds.exists_slice_iff {b : SliceBounds} :
    (∃ s, b.slice = .ok s) ↔ b.IsValid := by
  have mapped : (∃ s, b.slice = .ok s) ↔ ∃ s, b.slice? = .ok s := by
    unfold SliceBounds.slice
    cases b.slice? with
    | error e => constructor <;> rintro ⟨_, ⟨⟩⟩
    | ok s => exact iff_of_true ⟨s, rfl⟩ ⟨s, rfl⟩
  have stride : 0 < b.stride.getD 1 ↔ b.stride ≠ some 0 := by
    cases b.stride with
    | none => decide
    | some k => simp [Nat.pos_iff_ne_zero]
  rw [mapped, slice?, IsValid]
  split
  · rename_i bare
    simp only [Bool.and_eq_true, Option.isNone_iff_eq_none] at bare
    simp [bare]
  · simp only [Slice.bounded?_eq_ok_iff, stride, exists_and_left, exists_eq, and_true]

theorem Redefinition.exists_call_iff {x : Redefinition} : (∃ c, x.call d = .ok c) ↔
    (d.findDimension? x.dimension).isSome ∧ x.bounds.IsValid := by
  simp only [Redefinition.call, exists_bind_eq_ok_iff, exists_pure_eq_ok, and_true,
    exists_and_right, exists_orUnknown_iff, SliceBounds.exists_slice_iff]

theorem Projection.exists_call_iff {p : Projection} : (∃ c, p.call d = .ok c) ↔
    (d.findVariable? p.var).isSome ∧ ∀ b ∈ p.bounds.getD [], b.IsValid := by
  simp only [Projection.call, exists_bind_eq_ok_iff, exists_pure_eq_ok, and_true,
    exists_and_right, exists_orUnknown_iff, exists_mapM_eq_ok_iff, SliceBounds.exists_slice_iff]

theorem FilterRequest.exists_call_iff {f : FilterRequest} : (∃ c, f.call d = .ok c) ↔
    ∃ v, d.findVariable? f.var = some v ∧ (d.var v).isSequence = true := by
  rw [FilterRequest.call, exists_bind_eq_ok_iff]
  refine exists_congr fun v => and_congr orUnknown_eq_ok_iff ?_
  cases (d.var v).isSequence with
  | false => exact iff_of_false (fun ⟨_, h⟩ => nomatch h) Bool.false_ne_true
  | true => exact iff_of_true ⟨_, rfl⟩ rfl

theorem Overlay.exists_call_iff {o : Overlay} : (∃ c, o.call d = .ok c) ↔
    (d.lookup? o.node).isSome ∧ (AtomicType.ofName? o.type).isSome := by
  simp only [Overlay.call, exists_bind_eq_ok_iff, exists_pure_eq_ok, and_true, exists_and_right,
    exists_orUnknown_iff]

/-- A request can be read if each of its entries stands for a call. -/
theorem Request.readable_iff {r : Request} :
    r.Readable d ↔ ∀ entry ∈ r.calls d, ∃ c, entry = .ok c := by
  have kinds : (∀ entry ∈ r.calls d, ∃ c, entry = .ok c) ↔
      (∀ x ∈ r.redefinitions, ∃ c, x.call d = .ok c) ∧
      (∀ p ∈ r.projections, ∃ c, p.call d = .ok c) ∧
      (∀ f ∈ r.filters, ∃ c, f.call d = .ok c) ∧ ∀ o ∈ r.overlays, ∃ c, o.call d = .ok c := by
    simp only [calls, List.forall_mem_append, List.forall_mem_map, and_assoc]
  simp only [kinds, Redefinition.exists_call_iff, Projection.exists_call_iff,
    FilterRequest.exists_call_iff, Overlay.exists_call_iff]
  exact ⟨fun h => ⟨h.1, h.2, h.3, h.4⟩, fun h => ⟨h.1, h.2.1, h.2.2.1, h.2.2.2⟩⟩

end Entries

/-! ## The whole dataset -/

/-- What is wrong with an entry, if something is. -/
def fault? {ε α : Type} : Except ε α → Option ε
  | .error e => some e
  | .ok _ => none

/-- The first fault among entries. -/
def firstFault? {ε α : Type} (entries : List (Except ε α)) : Option ε := entries.findSome? fault?

theorem firstFault?_eq_none_iff {ε α : Type} {entries : List (Except ε α)} :
    firstFault? entries = none ↔ ∀ entry ∈ entries, ∃ a, entry = .ok a := by
  rw [firstFault?, List.findSome?_eq_none_iff]
  refine forall₂_congr fun entry _ => ?_
  cases entry with
  | error e => exact iff_of_false nofun fun ⟨_, h⟩ => nomatch h
  | ok a => exact iff_of_true rfl ⟨a, rfl⟩

/-- Calls leave the whole dataset as it is; entries are gone through up to the first fault. -/
theorem View.performAll_universal (d : Dataset) (entries : List (Except RequestError ViewCall)) :
    (View.universal d).performAll entries =
      (match firstFault? entries with | some e => .error e | none => .ok (), .universal d) := by
  induction entries with
  | nil => rfl
  | cons entry rest ih =>
    cases entry with
    | error e => rfl
    | ok c => exact ih

namespace Request

variable {r : Request} {d : Dataset} {expand : Bool}

/-- The request for the whole dataset that says nothing else. -/
def whole : Request := ⟨true, none, [], [], [], []⟩

theorem build_eq_of_universal (universal : r.universal = true) :
    r.build d expand = match firstFault? (r.calls d) with
      | some e => .error e
      | none => .ok (.universal d) := by
  have start : r.start d = .universal d := by
    rw [Request.start, universal]
    rfl
  have same : (View.universal d).dataset = d := rfl
  rw [build, apply, start, View.performAll_universal, same]
  cases firstFault? (r.calls d) <;> rfl

/-- A request for the whole dataset gives the view that it would give without its other entries,
whether it expands or not, if all of them can be read.  If some entry cannot be read, then the
request is refused, for the first such entry. -/
theorem build_of_universal (universal : r.universal = true) (d : Dataset) (expand : Bool) :
    (∀ flag, whole.build d flag = .ok (.universal d)) ∧
    (r.Readable d → r.build d expand = .ok (.universal d)) ∧
    (¬ r.Readable d →
      ∃ e, firstFault? (r.calls d) = some e ∧ r.build d expand = .error e) := by
  have built : r.build d expand = _ := build_eq_of_universal universal
  have readable : r.Readable d ↔ firstFault? (r.calls d) = none :=
    readable_iff.trans firstFault?_eq_none_iff.symm
  refine ⟨fun flag => build_eq_of_universal rfl, fun h => ?_, fun h => ?_⟩
  · rw [built, readable.1 h]
  · obtain ⟨e, fault⟩ := Option.ne_none_iff_exists'.1 (mt readable.2 h)
    exact ⟨e, fault, by rw [built, fault]⟩

/-- The whole dataset, with another size for a dimension and a filter for a variable. -/
def wholeAndFilter (name : String) : Request where
  universal := true
  expand := some false
  projections := []
  redefinitions := [⟨"/level", ⟨none, some 2, none⟩⟩]
  filters := [⟨name, .literal (.bool true)⟩]
  overlays := []

/-- The filter does not show if the variable is a sequence, and otherwise there is no view. -/
theorem build_of_universal_filter :
    (wholeAndFilter "/profile.cast").universal = true ∧
    (wholeAndFilter "/profile.cast").Readable (Dataset.built "mooring" mooring) ∧
    (wholeAndFilter "/profile.cast").build (Dataset.built "mooring" mooring) false =
      whole.build (Dataset.built "mooring" mooring) true ∧
    (wholeAndFilter "/profile").universal = true ∧
    ¬ (wholeAndFilter "/profile").Readable (Dataset.built "mooring" mooring) ∧
    (wholeAndFilter "/profile").build (Dataset.built "mooring" mooring) false =
      .error (.notSequence "/profile") := by
  have all : firstFault? ((wholeAndFilter "/profile.cast").calls
      (Dataset.built "mooring" mooring)) = none := rfl
  have wrong : firstFault? ((wholeAndFilter "/profile").calls
      (Dataset.built "mooring" mooring)) = some (.notSequence "/profile") := rfl
  have readable := readable_iff.2 (firstFault?_eq_none_iff.1 all)
  have unreadable : ¬ (wholeAndFilter "/profile").Readable (Dataset.built "mooring" mooring) := by
    intro h
    rw [firstFault?_eq_none_iff.2 (readable_iff.1 h)] at wrong
    cases wrong
  obtain ⟨bare, same, -⟩ := build_of_universal (r := wholeAndFilter "/profile.cast") rfl
    (Dataset.built "mooring" mooring) false
  obtain ⟨-, -, refused⟩ := build_of_universal (r := wholeAndFilter "/profile") rfl
    (Dataset.built "mooring" mooring) false
  obtain ⟨e, first, built⟩ := refused unreadable
  cases wrong.symm.trans first
  exact ⟨rfl, readable, (same readable).trans (bare true).symm, rfl, unreadable, built⟩

end Request

end Hyperslab
