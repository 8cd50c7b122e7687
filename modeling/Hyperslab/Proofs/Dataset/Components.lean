/-
# `Hyperslab.Proofs.Dataset.Components` — qualified names as texts

A look-up cuts a name at its last slash.  In front of the cut it reads components between
slashes, where empty ones do not count, and behind it words between points.  Words that are
tidy are read as they were written (`components_slashed`, `dotted_intercalate`).

Names with the same components differ in slashes only.  The one among them without superfluous
slashes is canonical (`toList_canonicalName`).
-/
import Hyperslab.Proofs.Dataset.Naming
import Hyperslab.Proofs.Text.Cutting

namespace Hyperslab.Dataset

/-- A name that is not empty and can be told from its surroundings in a qualified name. -/
def IsTidy (name : String) : Prop := name ≠ "" ∧ '/' ∉ name.toList ∧ '.' ∉ name.toList

instance (name : String) : Decidable (IsTidy name) := inferInstanceAs (Decidable (_ ∧ _))

theorem slashed_concat (ws : List String) (w : String) :
    slashed (ws ++ [w]) = slashed ws ++ '/' :: w.toList := by
  simp [slashed]

/-! ## Reading a name -/

theorem map_toList_map_ofList (css : List (List Char)) :
    (css.map String.ofList).map String.toList = css := by
  simp

/-- The words between points. -/
def dotted (cs : List Char) : List String := (Text.splitAll '.' cs).map String.ofList

theorem components_of_not_mem {cs : List Char} (free : '/' ∉ cs) :
    components cs = if cs = [] then [] else [String.ofList cs] := by
  rw [components, Text.splitAll_of_not_mem free]
  cases cs <;> rfl

theorem components_append_cons (before after : List Char) :
    components (before ++ '/' :: after) = components before ++ components after := by
  rw [components, Text.splitAll_append_cons, List.filter_append, List.map_append]
  rfl

/-- Words with slashes in front are the components of what they make up. -/
theorem components_slashed {ws : List String} (tidy : ∀ w ∈ ws, IsTidy w) :
    components (slashed ws) = ws := by
  have free : ∀ cs ∈ [] :: ws.map String.toList, '/' ∉ cs := by
    intro cs hc
    rcases List.mem_cons.1 hc with rfl | there
    · exact List.not_mem_nil
    · obtain ⟨w, hw, rfl⟩ := List.mem_map.1 there
      exact (tidy w hw).2.1
  have whole : slashed ws = ['/'].intercalate ([] :: ws.map String.toList) := by
    rw [Text.intercalate_cons, List.nil_append]
    rfl
  have full : (ws.map String.toList).filter (fun piece => !piece.isEmpty) =
      ws.map String.toList := by
    refine List.filter_eq_self.2 fun cs hc => ?_
    obtain ⟨w, hw, rfl⟩ := List.mem_map.1 hc
    simpa using (tidy w hw).1
  rw [components, whole, Text.splitAll_intercalate free, List.filter_cons_of_neg (by simp), full,
    List.map_map]
  simp

/-- Behind the cut there is no slash. -/
theorem not_mem_splitName (name : String) : '/' ∉ (splitName name).2 := by
  unfold splitName
  cases cut : Text.splitLast? '/' name.toList with
  | none => exact Text.not_mem_of_splitLast?_eq_none cut
  | some parts => exact Text.not_mem_of_splitLast? cut

/-- The components of a name are those in front of the cut, and what is behind if there is
something. -/
theorem components_eq (name : String) :
    components name.toList = components (splitName name).1 ++
      if (splitName name).2 = [] then [] else [String.ofList (splitName name).2] := by
  rw [← components_of_not_mem (not_mem_splitName name)]
  unfold splitName
  cases cut : Text.splitLast? '/' name.toList with
  | none => rfl
  | some parts =>
    rw [Text.eq_append_of_splitLast? cut, components_append_cons]
    rfl

/-- The cut of an address in writing. -/
theorem splitName_eq {name : String} {ws : List String} {rest : List Char} (free : '/' ∉ rest)
    (text : name.toList = slashed ws ++ '/' :: rest) : splitName name = (slashed ws, rest) := by
  rw [splitName, text, Text.splitLast?_append free]
  rfl

/-- Tidy words with points between them are read as these words. -/
theorem dotted_intercalate {ws : List String} (some : ws ≠ []) (tidy : ∀ w ∈ ws, IsTidy w) :
    dotted (['.'].intercalate (ws.map String.toList)) = ws := by
  cases ws with
  | nil => exact absurd rfl some
  | cons w ws =>
    have free : ∀ cs ∈ w.toList :: ws.map String.toList, '.' ∉ cs := by
      rw [← List.map_cons]
      intro cs hc
      obtain ⟨u, hu, rfl⟩ := List.mem_map.1 hc
      exact (tidy u hu).2.2
    rw [dotted, List.map_cons, Text.splitAll_intercalate free, ← List.map_cons, List.map_map]
    simp

/-- The words between points make up what they were read from. -/
theorem intercalate_dotted (cs : List Char) :
    ['.'].intercalate ((dotted cs).map String.toList) = cs := by
  rw [dotted, map_toList_map_ofList, Text.intercalate_splitAll]

/-! ## Canonical names -/

/-- The name with each run of slashes shortened to one, a slash in front if there is none, and
without one at the end, unless it is all there is. -/
def canonicalName (name : String) : String :=
  let squeezed := Text.squeeze '/' name.toList
  let rooted := if squeezed.head? = some '/' then squeezed else '/' :: squeezed
  String.ofList (if rooted.getLast? = some '/' ∧ rooted ≠ ['/'] then rooted.dropLast else rooted)

/-- A slash in front of a squeezed name comes to the same as one put there before. -/
theorem rooted_squeeze (cs : List Char) :
    (if (Text.squeeze '/' cs).head? = some '/' then Text.squeeze '/' cs
      else '/' :: Text.squeeze '/' cs) = Text.squeeze '/' ('/' :: cs) := by
  rw [Text.head?_squeeze]
  split
  · rename_i front
    obtain ⟨rest, rfl⟩ := List.head?_eq_some_iff.1 front
    exact (Text.squeeze_cons_cons '/' rest).symm
  · rename_i other
    exact (Text.squeeze_cons other).symm

/-- Words with slashes in front do not end with a slash. -/
theorem getLast?_slashed {ws : List String} (full : ∀ w ∈ ws, w.toList ≠ [] ∧ '/' ∉ w.toList) :
    (slashed ws).getLast? ≠ some '/' := by
  rcases List.eq_nil_or_concat ws with rfl | ⟨front, w, rfl⟩
  · exact nofun
  · obtain ⟨some, free⟩ := full w (by simp)
    intro last
    rw [List.concat_eq_append, slashed_concat,
      List.getLast?_append_of_ne_nil _ (List.cons_ne_nil _ _),
      List.getLast?_cons_of_ne_nil some] at last
    exact free (List.mem_of_getLast? last)

theorem components_full (cs : List Char) :
    ∀ w ∈ components cs, w.toList ≠ [] ∧ '/' ∉ w.toList := by
  intro w hw
  obtain ⟨piece, hp, rfl⟩ := List.mem_map.1 hw
  obtain ⟨there, full⟩ := List.mem_filter.1 hp
  rw [String.toList_ofList]
  exact ⟨by simpa using full, Text.not_mem_of_mem_splitAll there⟩

/-- Where all pieces are empty, the last one is. -/
theorem getLast?_splitAll_of_components_eq_nil {cs : List Char} (none : components cs = []) :
    (Text.splitAll '/' cs).getLast? = some [] := by
  rw [components, List.map_eq_nil_iff, List.filter_eq_nil_iff] at none
  have last := List.getLast?_eq_some_getLast (Text.splitAll_ne_nil '/' cs)
  have empty := none _ (List.mem_of_getLast? last)
  rw [last, Option.some_inj]
  simpa using empty

/-- A canonical name is a slash, or its components with slashes in front. -/
theorem toList_canonicalName (name : String) : (canonicalName name).toList =
    if components name.toList = [] then ['/'] else slashed (components name.toList) := by
  have pieces := Text.squeeze_flatMap fun p (hp : p ∈ Text.splitAll '/' name.toList) =>
    Text.not_mem_of_mem_splitAll hp
  have front : ((Text.splitAll '/' name.toList).filter fun p => !p.isEmpty).flatMap ('/' :: ·) =
      slashed (components name.toList) := by
    rw [slashed, components, map_toList_map_ofList]
  rw [Text.flatMap_splitAll, front] at pieces
  unfold canonicalName
  dsimp only
  rw [rooted_squeeze, pieces, String.toList_ofList]
  by_cases none : components name.toList = []
  · rw [getLast?_splitAll_of_components_eq_nil none, none]
    rfl
  · have last := getLast?_slashed (components_full name.toList)
    have some : slashed (components name.toList) ≠ [] := by
      obtain ⟨w, rest, eq⟩ := List.exists_cons_of_ne_nil none
      rw [eq]
      exact List.cons_ne_nil _ _
    rw [if_neg none]
    split
    · rw [if_pos ⟨List.getLast?_concat, fun same => some (by simpa using same)⟩,
        List.dropLast_concat]
    · rw [List.append_nil, if_neg fun both => last both.1]

example : canonicalName "deep//north///" = "/deep/north" := rfl

end Hyperslab.Dataset
