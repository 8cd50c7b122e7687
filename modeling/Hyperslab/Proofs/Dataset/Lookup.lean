/-
# `Hyperslab.Proofs.Dataset.Lookup` — names and look-ups are inverse to each other

A look-up cuts a name at its last slash and reads an address off the two parts: the words of a
group in front, and the words between points behind.  Where all names are tidy, what it finds is
what has that address (`lookup?_eq_some_iff`).  In which order the kinds are tried does not
matter then, since an address belongs to one node.

Both directions follow.  A qualified name is an address in writing, so looking it up gives the
node back.  And what is found under a name is called by that name, up to slashes that do not
count (`lookup_names`).
-/
import Hyperslab.Proofs.Dataset.Address

namespace Hyperslab

/-- Where one element at most meets a condition, searching for it finds that element. -/
theorem find?_eq_some_iff_of_unique {α : Type} {p : α → Bool} {as : List α}
    (unique : ∀ a ∈ as, ∀ b ∈ as, p a = true → p b = true → a = b) {a : α} :
    as.find? p = some a ↔ a ∈ as ∧ p a = true := by
  constructor
  · intro h
    exact ⟨List.mem_of_find?_eq_some h, List.find?_some h⟩
  · rintro ⟨ha, pa⟩
    obtain ⟨b, hb⟩ := Option.isSome_iff_exists.1 (List.find?_isSome.2 ⟨a, ha, pa⟩)
    rw [hb, unique b (List.mem_of_find?_eq_some hb) a ha (List.find?_some hb) pa]

namespace Dataset

variable {d : Dataset} {g : GroupId} {n : Node} {name : String}

/-! ## Children -/

/-- Searching a list of a group for a name finds the member of that name. -/
theorem find?_member (wf : WellFormed d) {α : Type} {kind : α → Node}
    (inj : ∀ {a b}, kind a = kind b → a = b) {as : List α} {p : α → Bool} {w : String}
    (listed : ∀ a, a ∈ as ↔ d.Lists g (kind a))
    (named : ∀ a, p a = true ↔ d.ownName? (kind a) = some w) {a : α} :
    as.find? p = some a ↔ d.Lists g (kind a) ∧ d.ownName? (kind a) = some w := by
  rw [find?_eq_some_iff_of_unique, listed, named]
  intro a ha b hb pa pb
  exact inj (wf.members.distinct g _ _ ((listed a).1 ha) ((listed b).1 hb)
    (((named a).1 pa).trans ((named b).1 pb).symm))

section Children

variable (wf : WellFormed d) {w : String}

include wf

theorem childGroup?_eq_some_iff {k : GroupId} : d.childGroup? g w = some k ↔
    d.Lists g (.ofGroup k) ∧ d.ownName? (.ofGroup k) = some w :=
  find?_member wf Node.ofGroup.inj (fun _ => .rfl) fun _ => beq_iff_eq.trans Option.some_inj.symm

theorem childDimension?_eq_some_iff {x : DimId} : d.childDimension? g w = some x ↔
    d.Lists g (.ofDimension x) ∧ d.ownName? (.ofDimension x) = some w :=
  find?_member wf Node.ofDimension.inj (fun _ => .rfl) fun _ => beq_iff_eq

theorem childEnum?_eq_some_iff {y : EnumId} : d.childEnum? g w = some y ↔
    d.Lists g (.ofEnumeration y) ∧ d.ownName? (.ofEnumeration y) = some w :=
  find?_member wf Node.ofEnumeration.inj (fun _ => .rfl) fun _ =>
    beq_iff_eq.trans Option.some_inj.symm

theorem childVariable?_eq_some_iff {v : VarId} : d.childVariable? g w = some v ↔
    d.Lists g (.ofVariable v) ∧ d.ownName? (.ofVariable v) = some w :=
  find?_member wf Node.ofVariable.inj (fun _ => .rfl) fun _ =>
    beq_iff_eq.trans Option.some_inj.symm

theorem field?_eq_some_iff {p f : VarId} :
    d.field? p w = some f ↔ f ∈ d.fields p ∧ (d.var f).name = w := by
  rw [field?, find?_eq_some_iff_of_unique, beq_iff_eq]
  intro a ha b hb pa pb
  exact wf.forest.eq_of_name_eq ha hb ((beq_iff_eq.1 pa).trans (beq_iff_eq.1 pb).symm)

end Children

/-! ## Walks -/

theorem descendGroups?_append (g : GroupId) (us ws : List String) :
    d.descendGroups? g (us ++ ws) =
      (d.descendGroups? g us).bind fun k => d.descendGroups? k ws := by
  induction us generalizing g with
  | nil => rfl
  | cons u us ih => simp only [List.cons_append, descendGroups?, ih, Option.bind_assoc]

theorem descendFields?_append (v : VarId) (us ws : List String) :
    d.descendFields? v (us ++ ws) =
      (d.descendFields? v us).bind fun k => d.descendFields? k ws := by
  induction us generalizing v with
  | nil => rfl
  | cons u us ih => simp only [List.cons_append, descendFields?, ih, Option.bind_assoc]

theorem descendGroups?_singleton (g : GroupId) (w : String) :
    d.descendGroups? g [w] = d.childGroup? g w := by
  simp only [descendGroups?, Option.bind_fun_some]

theorem descendFields?_singleton (v : VarId) (w : String) :
    d.descendFields? v [w] = d.field? v w := by
  simp only [descendFields?, Option.bind_fun_some]

/-- The words of a group are the way to it from the root, and to no other. -/
theorem descendGroups?_eq_some_iff (wf : WellFormed d) {ws : List String} :
    d.descendGroups? .root ws = some g ↔ g.index < d.groups.length ∧ d.groupWords g = ws := by
  induction ws using List.reverseRecOn generalizing g with
  | nil =>
    rw [descendGroups?, Option.some_inj]
    constructor
    · rintro rfl
      exact ⟨wf.tree.root_lt, wf.tree.groupWords_root⟩
    · rintro ⟨below, none⟩
      exact wf.tree.groupWords_inj wf.tree.root_lt below (wf.tree.groupWords_root.trans none.symm)
  | append_singleton ws w ih =>
    rw [descendGroups?_append, Option.bind_eq_some_iff]
    simp only [descendGroups?_singleton, childGroup?_eq_some_iff wf, ih]
    constructor
    · rintro ⟨p, ⟨_, rfl⟩, listed, named⟩
      cases named
      exact ⟨lt_length_of_parent (wf.tree.owned.1 listed), wf.tree.groupWords_child listed⟩
    · rintro ⟨below, words⟩
      cases parent : (d.group g).parent with
      | none =>
        rw [wf.tree.orphan below parent, wf.tree.groupWords_root] at words
        exact absurd words.symm (List.append_ne_nil_of_right_ne_nil _ (List.cons_ne_nil _ _))
      | some p =>
        have listed := wf.tree.owned.2 parent
        rw [wf.tree.groupWords_child listed] at words
        obtain ⟨above, own⟩ := List.append_inj' words rfl
        exact ⟨p, ⟨lt_length_of_groups listed, above⟩, listed,
          congrArg some (List.cons.inj own).1⟩

/-- From a variable of the group through fields: the words that lead to a variable. -/
theorem descendFields?_eq_some_iff (wf : WellFormed d) {first : String} {rest : List String}
    {v : VarId} :
    ((d.childVariable? g first).bind fun u => d.descendFields? u rest) = some v ↔
      d.Located g (first :: rest) (.ofVariable v) := by
  induction rest using List.reverseRecOn generalizing v with
  | nil =>
    simp only [descendFields?, Option.bind_fun_some]
    rw [childVariable?_eq_some_iff wf]
    exact ⟨fun both => .member both.1 both.2, Located.member_of_singleton⟩
  | append_singleton rest w ih =>
    simp only [descendFields?_append, ← Option.bind_assoc]
    rw [Option.bind_eq_some_iff, ← List.cons_append]
    simp only [ih, descendFields?_singleton, field?_eq_some_iff wf]
    constructor
    · rintro ⟨p, outer, field, rfl⟩
      exact outer.field field
    · intro located
      obtain ⟨p, f, same, own, outer, field⟩ := located.exists_owner (List.cons_ne_nil _ _)
      cases same
      exact ⟨p, outer, field, own⟩

/-! ## Looking up -/

/-- The name is read as an address of the node; a name that ends with a slash, or is empty, is
read as that of a group. -/
def Denotes (d : Dataset) (name : String) (n : Node) : Prop :=
  ∃ g, d.findHome? name = some g ∧
    if (splitName name).2 = [] then n = .ofGroup g
    else d.Located g (dotted (splitName name).2) n

/-- A search among nodes of one kind, as a search among nodes. -/
theorem map_eq_some_iff_denotes {α : Type} {kind : α → Node} {o : Option α}
    (found : ∀ a, o = some a ↔ d.Denotes name (kind a)) (m : Node) :
    o.map kind = some m ↔ d.Denotes name m ∧ ∃ a, m = kind a := by
  rw [Option.map_eq_some_iff]
  constructor
  · rintro ⟨a, h, rfl⟩
    exact ⟨(found a).1 h, a, rfl⟩
  · rintro ⟨h, a, rfl⟩
    exact ⟨a, (found a).2 h, rfl⟩

section Lookup

variable (wf : WellFormed d)

include wf

theorem findHome?_eq_some_iff : d.findHome? name = some g ↔
    g.index < d.groups.length ∧ d.groupWords g = components (splitName name).1 :=
  descendGroups?_eq_some_iff wf

/-- A name denotes one node. -/
theorem Denotes.unique {m : Node} (hm : d.Denotes name m) (hn : d.Denotes name n) : m = n := by
  obtain ⟨g, home, hm⟩ := hm
  obtain ⟨k, same, hn⟩ := hn
  cases home.symm.trans same
  split at hm
  · rename_i last
    rw [if_pos last] at hn
    rw [hm, hn]
  · rename_i last
    rw [if_neg last] at hn
    exact hm.unique wf hn

theorem Denotes.has (h : d.Denotes name n) : d.Has n := by
  obtain ⟨g, home, h⟩ := h
  split at h
  · rw [h]
    exact ((findHome?_eq_some_iff wf).1 home).1
  · exact h.has wf

/-- The order of two searches does not matter where a name denotes one node. -/
theorem orElse_eq_some_iff_denotes {o p : Option Node} {Q R : Node → Prop}
    (first : ∀ m, o = some m ↔ d.Denotes name m ∧ Q m)
    (second : ∀ m, p = some m ↔ d.Denotes name m ∧ R m) (m : Node) :
    (o <|> p) = some m ↔ d.Denotes name m ∧ (Q m ∨ R m) := by
  cases ho : o with
  | none =>
    have unfound : ¬ (d.Denotes name m ∧ Q m) := fun h => nomatch ho.symm.trans ((first m).2 h)
    rw [show (none <|> p) = p from rfl, second]
    exact and_congr_right fun h => (or_iff_right fun q => unfound ⟨h, q⟩).symm
  | some k =>
    obtain ⟨denoted, q⟩ := (first k).1 ho
    rw [show (some k <|> p) = some k from rfl, Option.some_inj]
    constructor
    · rintro rfl
      exact ⟨denoted, .inl q⟩
    · rintro ⟨h, -⟩
      exact denoted.unique wf h

variable (tidy : TidyNames d)

include tidy

/-- Nothing is called by the empty word. -/
theorem not_located_dotted_nil : ¬ d.Located g (dotted []) n := fun located =>
  (tidy.of_located wf located "" (List.mem_cons_self ..)).1 rfl

theorem denotes_iff_of_ne_group (other : ∀ k, n ≠ .ofGroup k) : d.Denotes name n ↔
    ∃ g, d.findHome? name = some g ∧ d.Located g (dotted (splitName name).2) n := by
  refine exists_congr fun g => and_congr_right fun _ => ?_
  split
  · rename_i last
    rw [last]
    exact iff_of_false (other g) (not_located_dotted_nil wf tidy)
  · rfl

/-- What is not a variable is denoted by its own name, points or not. -/
theorem located_dotted_iff {cs : List Char} (other : ∀ v, n ≠ .ofVariable v) :
    d.Located g (dotted cs) n ↔ d.Lists g n ∧ d.ownName? n = some (String.ofList cs) := by
  constructor
  · intro located
    have whole := intercalate_dotted cs
    generalize dotted cs = ws at located whole
    cases located with
    | member listed named =>
      rw [List.map_singleton, List.intercalate_singleton] at whole
      rw [← whole, String.ofList_toList]
      exact ⟨listed, named⟩
    | field => exact absurd rfl (other _)
  · rintro ⟨listed, named⟩
    have free : '.' ∉ cs := by
      have own := (tidy.of_lists wf listed named).2.2
      rwa [String.toList_ofList] at own
    rw [dotted, Text.splitAll_of_not_mem free]
    exact .member listed named

theorem findVariable?_eq_some_iff {v : VarId} :
    d.findVariable? name = some v ↔ d.Denotes name (.ofVariable v) := by
  rw [denotes_iff_of_ne_group wf tidy (n := .ofVariable v) fun _ => nofun, findVariable?]
  refine Option.bind_eq_some_iff.trans (exists_congr fun g => and_congr_right fun _ => ?_)
  unfold dotted
  cases (Text.splitAll '.' (splitName name).2).map String.ofList with
  | nil => exact iff_of_false (fun h => nomatch h) fun h => h.ne_nil rfl
  | cons first rest => exact descendFields?_eq_some_iff wf

theorem findDimension?_eq_some_iff {x : DimId} :
    d.findDimension? name = some x ↔ d.Denotes name (.ofDimension x) := by
  rw [denotes_iff_of_ne_group wf tidy (n := .ofDimension x) fun _ => nofun, findDimension?]
  refine Option.bind_eq_some_iff.trans (exists_congr fun g => and_congr_right fun _ => ?_)
  rw [childDimension?_eq_some_iff wf,
    located_dotted_iff wf tidy (n := .ofDimension x) fun _ => nofun]

theorem findEnum?_eq_some_iff {y : EnumId} :
    d.findEnum? name = some y ↔ d.Denotes name (.ofEnumeration y) := by
  rw [denotes_iff_of_ne_group wf tidy (n := .ofEnumeration y) fun _ => nofun, findEnum?]
  refine Option.bind_eq_some_iff.trans (exists_congr fun g => and_congr_right fun _ => ?_)
  rw [childEnum?_eq_some_iff wf,
    located_dotted_iff wf tidy (n := .ofEnumeration y) fun _ => nofun]

theorem findGroup?_eq_some_iff {k : GroupId} :
    d.findGroup? name = some k ↔ d.Denotes name (.ofGroup k) := by
  unfold findGroup? Denotes
  rw [components_eq]
  split
  · rw [List.append_nil]
    simp only [Node.ofGroup.injEq, exists_eq_right']
    rfl
  · rw [descendGroups?_append]
    refine Option.bind_eq_some_iff.trans (exists_congr fun g => and_congr_right fun _ => ?_)
    rw [descendGroups?_singleton, childGroup?_eq_some_iff wf,
      located_dotted_iff wf tidy (n := .ofGroup k) fun _ => nofun]

/-- Looking up a name gives what it denotes. -/
theorem lookup?_eq_some_iff : d.lookup? name = some n ↔ d.Denotes name n := by
  unfold lookup?
  split
  · rename_i root
    have denotes : d.Denotes name (.ofGroup .root) := by
      rw [← findGroup?_eq_some_iff wf tidy]
      rcases root with rfl | rfl <;> rfl
    rw [Option.some_inj]
    constructor
    · rintro rfl
      exact denotes
    · exact denotes.unique wf
  · rw [orElse_eq_some_iff_denotes wf
      (map_eq_some_iff_denotes fun _ => findVariable?_eq_some_iff wf tidy)
      (orElse_eq_some_iff_denotes wf
        (map_eq_some_iff_denotes fun _ => findDimension?_eq_some_iff wf tidy)
        (orElse_eq_some_iff_denotes wf
          (map_eq_some_iff_denotes fun _ => findEnum?_eq_some_iff wf tidy)
          (map_eq_some_iff_denotes fun _ => findGroup?_eq_some_iff wf tidy)))]
    refine and_iff_left_of_imp fun denotes => ?_
    cases n with
    | ofVariable v => exact .inl ⟨v, rfl⟩
    | ofDimension x => exact .inr (.inl ⟨x, rfl⟩)
    | ofEnumeration y => exact .inr (.inr (.inl ⟨y, rfl⟩))
    | ofGroup k => exact .inr (.inr (.inr ⟨k, rfl⟩))
    | ofAttribute a =>
      obtain ⟨_, _, located⟩ :=
        (denotes_iff_of_ne_group wf tidy (n := .ofAttribute a) fun _ => nofun).1 denotes
      have member := (located_dotted_iff wf tidy (n := .ofAttribute a) fun _ => nofun).1 located
      exact absurd member.1 id

end Lookup

/-! ## There and back -/

section Inverse

variable (wf : WellFormed d) (tidy : TidyNames d)

include wf tidy

theorem tidy_groupWords (below : g.index < d.groups.length) : ∀ w ∈ d.groupWords g, IsTidy w :=
  wf.tree.forall_groupWords tidy.groups below

/-- An address in writing is read as the address. -/
theorem denotes_of_located {ws : List String} (located : d.Located g ws n)
    (text : name.toList =
      slashed (d.groupWords g) ++ '/' :: ['.'].intercalate (ws.map String.toList)) :
    d.Denotes name n := by
  have below := located.lt_length
  have words := tidy.of_located wf located
  have free : '/' ∉ ['.'].intercalate (ws.map String.toList) := by
    refine Text.not_mem_intercalate (by decide) fun cs hc => ?_
    obtain ⟨w, hw, rfl⟩ := List.mem_map.1 hc
    exact (words w hw).2.1
  have full : ['.'].intercalate (ws.map String.toList) ≠ [] := by
    intro empty
    have read := dotted_intercalate located.ne_nil words
    rw [empty] at read
    exact not_located_dotted_nil wf tidy (read ▸ located)
  have cut := splitName_eq free text
  refine ⟨g, (findHome?_eq_some_iff wf).2 ⟨below, ?_⟩, ?_⟩
  · rw [cut, components_slashed (tidy_groupWords wf tidy below)]
  · rw [cut, if_neg full, dotted_intercalate located.ne_nil words]
    exact located

/-- A node is denoted by its qualified name. -/
theorem denotes_qualifiedName? (has : d.Has n) (named : d.qualifiedName? n = some name) :
    d.Denotes name n := by
  rcases exists_located wf has named with rfl | ⟨g, ws, located⟩
  · have root : d.groupName .root = "/" := by
      rw [← String.toList_inj, toList_groupName, wf.tree.groupWords_root]
      rfl
    rw [← findGroup?_eq_some_iff wf tidy, ← Option.some.inj named, root]
    rfl
  · obtain ⟨other, same, text⟩ := qualifiedName?_of_located wf tidy located
    cases named.symm.trans same
    exact denotes_of_located wf tidy located text

/-- What a name denotes is called by the name in its canonical form. -/
theorem qualifiedName?_of_denotes (h : d.Denotes name n) :
    d.qualifiedName? n = some (canonicalName name) := by
  obtain ⟨g, home, h⟩ := h
  obtain ⟨-, words⟩ := (findHome?_eq_some_iff wf).1 home
  have canonical := toList_canonicalName name
  rw [components_eq, ← words] at canonical
  split at h
  · rename_i last
    rw [if_pos last, List.append_nil, ← toList_groupName, String.toList_inj] at canonical
    rw [h, canonical]
    rfl
  · rename_i last
    obtain ⟨other, named, text⟩ := qualifiedName?_of_located wf tidy h
    rw [if_neg last, if_neg (List.append_ne_nil_of_right_ne_nil _ (List.cons_ne_nil _ _)),
      slashed_concat, String.toList_ofList] at canonical
    rw [intercalate_dotted, ← canonical, String.toList_inj] at text
    rw [named, text]

end Inverse

/-- Names and look-ups are inverse to each other where all names are tidy.  What has a qualified
name is found under it, by the look-up for its kind and by the one for all kinds.  What is found
under a name has the name in its canonical form as its qualified name.  No two nodes have the
same qualified name. -/
theorem lookup_names (name : String) (xs : List Declaration) (tidy : TidyNames (built name xs)) :
    let d := built name xs
    (∀ g, d.Has (.ofGroup g) → d.findGroup? (d.groupName g) = some g) ∧
    (∀ v, d.Has (.ofVariable v) → d.findVariable? (d.variableName v) = some v) ∧
    (∀ x w, d.dimensionName? x = some w → d.findDimension? w = some x) ∧
    (∀ y, d.Has (.ofEnumeration y) → d.findEnum? (d.enumName y) = some y) ∧
    (∀ n w, d.Has n → d.qualifiedName? n = some w → d.lookup? w = some n) ∧
    (∀ s n, d.lookup? s = some n → d.Has n ∧ d.qualifiedName? n = some (canonicalName s)) ∧
    ∀ m n w, d.Has m → d.Has n → d.qualifiedName? m = some w → d.qualifiedName? n = some w →
      m = n := by
  intro d
  have wf : WellFormed d := wellFormed_built name xs
  have denotes : ∀ {n w}, d.Has n → d.qualifiedName? n = some w → d.Denotes w n := fun has named =>
    denotes_qualifiedName? wf tidy has named
  refine ⟨fun g has => ?_, fun v has => ?_, fun x w named => ?_, fun y has => ?_,
    fun n w has named => ?_, fun s n found => ?_, fun m n w hm hn namedM namedN => ?_⟩
  · exact (findGroup?_eq_some_iff wf tidy).2 (denotes has rfl)
  · exact (findVariable?_eq_some_iff wf tidy).2 (denotes has rfl)
  · obtain ⟨_, own, -⟩ := Option.map_eq_some_iff.1 named
    exact (findDimension?_eq_some_iff wf tidy).2 (denotes (lt_length_of_name own) named)
  · exact (findEnum?_eq_some_iff wf tidy).2 (denotes has rfl)
  · exact (lookup?_eq_some_iff wf tidy).2 (denotes has named)
  · have denoted := (lookup?_eq_some_iff wf tidy).1 found
    exact ⟨denoted.has wf, qualifiedName?_of_denotes wf tidy denoted⟩
  · exact (denotes hm namedM).unique wf (denotes hn namedN)

/-- A sequence with a field in a group of a group, beside a dimension and an enumeration. -/
def station : List Declaration :=
  [.group .root "deep", .group ⟨1⟩ "north", .dimension ⟨1⟩ "level" 5,
    .enumeration ⟨2⟩ "flag" .uint8 [("on", 1)], .var (.group ⟨2⟩) "cast" .sequence [],
    .var (.compound ⟨0⟩) "salt" (.atomic .float32) [⟨0⟩], .anonymous .root 3]

/-- The salt is found under its name, and under the same name with other slashes. -/
theorem lookup_names_station :
    TidyNames (built "station" station) ∧
    (built "station" station).variableName ⟨1⟩ = "/deep/north/cast.salt" ∧
    (built "station" station).findVariable? "/deep/north/cast.salt" = some ⟨1⟩ ∧
    (built "station" station).lookup? "/deep/level" = some (.ofDimension ⟨0⟩) ∧
    (built "station" station).lookup? "deep//north/cast.salt" = some (.ofVariable ⟨1⟩) ∧
    canonicalName "deep//north/cast.salt" = "/deep/north/cast.salt" := by
  have tidy : TidyNames (built "station" station) := ⟨by decide, by decide, by decide, by decide⟩
  obtain ⟨-, vars, -, -, nodes, back, -⟩ := lookup_names "station" station tidy
  have name : (built "station" station).variableName ⟨1⟩ = "/deep/north/cast.salt" := rfl
  have found : (built "station" station).lookup? "deep//north/cast.salt" =
      some (.ofVariable ⟨1⟩) := rfl
  have called : some ((built "station" station).variableName ⟨1⟩) =
      some (canonicalName "deep//north/cast.salt") := (back _ _ found).2
  refine ⟨tidy, name, ?_, nodes (.ofDimension ⟨0⟩) _ (by decide) rfl, found, ?_⟩
  · rw [← name]
    exact vars ⟨1⟩ (by decide)
  · rw [← name]
    exact (Option.some.inj called).symm

end Dataset

end Hyperslab
