/-
# `Hyperslab.Proofs.Dataset.Outline` — the listing is an outline of the declarations

What has a line in the listing of a dataset, and how far it is indented, can be said without the
listing: groups other than the root, dimensions with a name, enumerations and variables have one
each (`HasLine`), and the indentation counts the groups and the compounds around a declaration
(`around`).

The listing comes from above, through groups and from each variable down its fields, with a depth
that grows by one at each step.  So does the level of a node, and so the listing is the walk down
the tree of all nodes, line by line (`listing_eq`).  Every line is there once, and what is declared
in a group or a compound is one block behind the line of it, because this holds of that walk.
-/
import Hyperslab.Dataset.Listing
import Hyperslab.Proofs.Dataset.Lookup
import Hyperslab.Proofs.Dataset.Nesting
import Hyperslab.Proofs.Text.Cutting

namespace Hyperslab

namespace Dataset

variable {d : Dataset} {m n : Node}

/-! ## Lines -/

/-- What the line of a node says. -/
def lineWords (d : Dataset) : Node → String
  | .ofGroup g => "group " ++ (d.group g).name
  | .ofDimension x =>
    "dimension " ++ (d.dimension x).name.getD "?" ++ " = " ++ toString (d.dimension x).size
  | .ofEnumeration y => "enum " ++ (d.enumeration y).name ++ " : " ++ (d.enumeration y).base.name
  | .ofVariable v => d.variableWords v
  | .ofAttribute _ => ""

/-- Everything that has a line, in the order of the listing. -/
def outline (d : Dataset) : List Node := (d.contents (.ofGroup .root)).flatMap d.nodeWalk

/-- The line of a node. -/
noncomputable def lineAt (d : Dataset) (n : Node) : ListingLine := ⟨d.level n, d.lineWords n⟩

theorem fieldLines_eq (d : Dataset) (depth : Nat) (ts : List VariableTree) :
    d.fieldLines depth ts = ts.flatMap (d.variableLines depth) := by
  induction ts with
  | nil => rfl
  | cons t rest ih => rw [fieldLines, ih, List.flatMap_cons]

section Lines

variable (wf : WellFormed d) (settled : Settled d) (w : Walk d.Holds d.contents d.nodeWalk)

include wf settled w

theorem level_of_mem_contents (member : n ∈ d.contents m) : d.level n = d.level m + 1 :=
  level_of_holds wf settled (w.mem_children.1 member)

theorem variableLines_tree (v : VarId) : d.variableLines (d.level (.ofVariable v)) (d.tree v) =
    (d.nodeWalk (.ofVariable v)).map d.lineAt := by
  induction v using wf.forest.induction with
  | step v ih =>
    have contents : d.contents (.ofVariable v) = (d.fields v).map .ofVariable := by
      simp [Dataset.contents, Node.places, listAt, variablesOf]
    rw [wf.forest.tree_eq, variableLines, fieldLines_eq, w.walk_eq, List.map_cons, contents,
      List.flatMap_map, List.flatMap_map, List.map_flatMap]
    refine congrArg _ (List.flatMap_congr fun f hf => ?_)
    have member : .ofVariable f ∈ d.contents (.ofVariable v) := contents ▸ List.mem_map_of_mem hf
    rw [← level_of_mem_contents wf settled w member]
    exact ih f hf

/-- Below a group are the lines of its lists, and then those of its subgroups. -/
theorem map_flatMap_nodeWalk (g : GroupId) :
    ((d.contents (.ofGroup g)).flatMap d.nodeWalk).map d.lineAt =
      d.contentLines (d.level (.ofGroup g) + 1) g ++
        (d.group g).groups.flatMap fun k => (d.nodeWalk (.ofGroup k)).map d.lineAt := by
  have deeper : ∀ {p n}, p ∈ (Node.ofGroup g).places → n ∈ d.listAt p →
      d.level n = d.level (.ofGroup g) + 1 := fun hp hn =>
    level_of_mem_contents wf settled w (List.mem_flatMap.2 ⟨_, hp, hn⟩)
  have alone : ∀ {n}, d.contents n = [] → (d.nodeWalk n).map d.lineAt = [d.lineAt n] := by
    intro n none
    rw [w.walk_eq, none, List.flatMap_nil, List.map_singleton]
  simp only [Dataset.contents, Node.places, List.flatMap_cons, List.flatMap_nil, List.append_nil,
    List.flatMap_append, List.map_append, List.map_flatMap, contentLines, List.append_assoc]
  simp only [listAt, variablesOf, List.flatMap_map]
  refine congrArg₂ _ ?dimensions (congrArg₂ _ ?enums (congrArg₂ _ ?vars rfl))
  case dimensions =>
    rw [List.map_eq_flatMap]
    refine List.flatMap_congr fun x hx => ?_
    rw [alone rfl, lineAt, deeper (.head _) (List.mem_map_of_mem hx)]
    rfl
  case enums =>
    rw [List.map_eq_flatMap]
    refine List.flatMap_congr fun y hy => ?_
    rw [alone rfl, lineAt, deeper (.tail _ (.head _)) (List.mem_map_of_mem hy)]
    rfl
  case vars =>
    refine List.flatMap_congr fun v hv => ?_
    rw [← deeper (.tail _ (.tail _ (.head _))) (List.mem_map_of_mem hv)]
    exact (variableLines_tree wf settled w v).symm

/-- Subgroups have larger handles, so a count that reaches all of them cuts no group off. -/
theorem groupLines_eq {levels : Nat} {g : GroupId}
    (enough : d.groups.length ≤ levels + g.index + 1) :
    d.groupLines levels (d.level (.ofGroup g) + 1) g =
      ((d.contents (.ofGroup g)).flatMap d.nodeWalk).map d.lineAt := by
  rw [map_flatMap_nodeWalk wf settled w]
  induction levels generalizing g with
  | zero =>
    have last : (d.group g).groups = [] := by
      refine List.eq_nil_iff_forall_not_mem.2 fun k hk => ?_
      have later := wf.tree.later hk
      have below := lt_length_of_parent (wf.tree.owned.1 hk)
      omega
    rw [groupLines, last, List.flatMap_nil, List.append_nil]
  | succ levels ih =>
    rw [groupLines]
    refine congrArg _ (List.flatMap_congr fun k hk => ?_)
    have later := wf.tree.later hk
    have member : .ofGroup k ∈ d.contents (.ofGroup g) :=
      List.mem_flatMap.2 ⟨.groups g, by simp [Node.places], List.mem_map_of_mem hk⟩
    have deeper := level_of_mem_contents wf settled w member
    rw [w.walk_eq, List.map_cons, map_flatMap_nodeWalk wf settled w, ← ih (by omega), lineAt,
      deeper]
    rfl

/-- The listing is the walk down all nodes, line by line. -/
theorem listing_eq : d.listing = ⟨0, "dataset " ++ d.name⟩ :: d.outline.map d.lineAt := by
  have enough : d.groups.length ≤ d.groups.length + GroupId.root.index + 1 := by omega
  have lines := groupLines_eq wf settled w enough
  rw [level_root wf] at lines
  rw [listing, outline, ← lines]

end Lines

end Dataset

/-! ## Texts on one line -/

/-- There is no line break in the text. -/
def OneLine (text : String) : Prop := '\n' ∉ text.toList

instance (text : String) : Decidable (OneLine text) := inferInstanceAs (Decidable (¬ _))

theorem oneLine_empty : OneLine "" := by
  decide

theorem OneLine.append {s t : String} (hs : OneLine s) (ht : OneLine t) : OneLine (s ++ t) := by
  rw [OneLine, String.toList_append, List.mem_append, not_or]
  exact ⟨hs, ht⟩

theorem oneLine_join {ss : List String} (all : ∀ s ∈ ss, OneLine s) :
    OneLine (String.join ss) := by
  rw [OneLine, String.toList_join, List.mem_flatMap]
  rintro ⟨s, hs, there⟩
  exact all s hs there

theorem oneLine_toString (n : Nat) : OneLine (toString n) := by
  have digits : (toString n).toList = Nat.toDigits 10 n := by simp
  intro there
  rw [digits] at there
  exact Text.free_toDigits (by decide) n '\n' there (List.mem_singleton_self _)

theorem AtomicType.oneLine_name (t : AtomicType) : OneLine t.name := by
  cases t with
  | enumeration => exact (by decide : OneLine "enum")
  | _ => decide

namespace ListingLine

/-- What stands on the line, without its end. -/
def chars (l : ListingLine) : List Char := List.replicate (2 * l.depth) ' ' ++ l.words.toList

theorem toList_text (l : ListingLine) : l.text.toList = l.chars ++ ['\n'] := by
  simp [text, chars]

theorem not_mem_chars {l : ListingLine} (one : OneLine l.words) : '\n' ∉ l.chars := by
  rw [chars, List.mem_append, not_or]
  exact ⟨fun blank => absurd (List.eq_of_mem_replicate blank) (by decide), one⟩

end ListingLine

namespace Dataset

variable {d : Dataset} {n : Node}

/-- No name has a line break in it. -/
structure OneLineNames (d : Dataset) : Prop where
  dataset : OneLine d.name
  groups : ∀ x ∈ d.groups, OneLine x.name
  dimensions : ∀ x ∈ d.dimensions, ∀ w ∈ x.name, OneLine w
  enums : ∀ x ∈ d.enums, OneLine x.name
  vars : ∀ x ∈ d.vars, OneLine x.name

/-- What holds of a default and of everything in a list holds of what is looked up. -/
theorem forall_getD {α : Type} {P : α → Prop} {as : List α} {a : α} (all : ∀ x ∈ as, P x)
    (default : P a) (i : Nat) : P (as[i]?.getD a) := by
  cases found : as[i]? with
  | none => exact default
  | some x => exact all x (List.mem_of_getElem? found)

namespace OneLineNames

theorem group (h : OneLineNames d) (g : GroupId) : OneLine (d.group g).name :=
  forall_getD (P := fun x : Group => OneLine x.name) h.groups oneLine_empty g.index

theorem dimension (h : OneLineNames d) (x : DimId) : ∀ w ∈ (d.dimension x).name, OneLine w :=
  forall_getD (P := fun x : Dimension => ∀ w ∈ x.name, OneLine w) h.dimensions
    (fun w hw => absurd hw (Option.not_mem_none w)) x.index

theorem enumeration (h : OneLineNames d) (y : EnumId) : OneLine (d.enumeration y).name :=
  forall_getD (P := fun x : Enumeration => OneLine x.name) h.enums oneLine_empty y.index

theorem var (h : OneLineNames d) (v : VarId) : OneLine (d.var v).name :=
  forall_getD (P := fun x : Variable => OneLine x.name) h.vars oneLine_empty v.index

theorem typeWord (h : OneLineNames d) (v : VarId) : OneLine (d.typeWord v) := by
  unfold Dataset.typeWord
  split
  · exact h.enumeration _
  · exact AtomicType.oneLine_name _
  · decide
  · decide

theorem dimensionWord (h : OneLineNames d) (x : DimId) : OneLine (d.dimensionWord x) := by
  have inside : ∀ {w}, OneLine w → OneLine ("[" ++ w ++ "]") := fun one =>
    (OneLine.append (by decide) one).append (by decide)
  unfold Dataset.dimensionWord
  split
  · rename_i w name
    exact inside (h.dimension x w name)
  · exact inside (oneLine_toString _)

theorem variableWords (h : OneLineNames d) (v : VarId) : OneLine (d.variableWords v) := by
  have dimensions : OneLine (String.join ((d.var v).dimensions.map d.dimensionWord)) := by
    refine oneLine_join fun s hs => ?_
    obtain ⟨x, -, rfl⟩ := List.mem_map.1 hs
    exact h.dimensionWord x
  exact (((h.typeWord v).append (by decide)).append (h.var v)).append dimensions

theorem lineWords (h : OneLineNames d) (n : Node) : OneLine (d.lineWords n) := by
  cases n with
  | ofGroup g => exact OneLine.append (by decide) (h.group g)
  | ofDimension x =>
    have name : OneLine ((d.dimension x).name.getD "?") := by
      cases own : (d.dimension x).name with
      | none => decide
      | some w => exact h.dimension x w own
    exact ((OneLine.append (by decide) name).append (by decide)).append (oneLine_toString _)
  | ofEnumeration y =>
    have name := OneLine.append (s := "enum ") (by decide) (h.enumeration y)
    exact (name.append (by decide)).append (AtomicType.oneLine_name _)
  | ofVariable v => exact h.variableWords v
  | ofAttribute a => exact oneLine_empty

end OneLineNames

/-! ## The listing as a text -/

theorem splitAll_describe (one : ∀ l ∈ d.listing, OneLine l.words) :
    Text.splitAll '\n' d.describe.toList = d.listing.map ListingLine.chars ++ [[]] := by
  have text : d.describe.toList =
      (d.listing.map ListingLine.chars).flatMap fun cs => cs ++ ['\n'] := by
    rw [describe, String.toList_join, List.flatMap_map, List.flatMap_map]
    exact List.flatMap_congr fun l _ => l.toList_text
  rw [text]
  refine Text.splitAll_flatMap_concat fun cs hc => ?_
  obtain ⟨l, hl, rfl⟩ := List.mem_map.1 hc
  exact ListingLine.not_mem_chars (one l hl)

/-- What a text has to be, line by line, to outline a dataset in an order of its nodes. -/
structure Outlines (d : Dataset) (ns : List Node) (text : String) : Prop where
  /-- The heading, and behind it the lines of the nodes.  Nothing stands behind the last line. -/
  lines : Text.splitAll '\n' text.toList = ("dataset " ++ d.name).toList ::
    ns.map (fun n => List.replicate (2 * (1 + (d.around n).ncard)) ' ' ++ (d.lineWords n).toList) ++
      [[]]
  once : ns.Nodup
  all : ∀ n, n ∈ ns ↔ d.HasLine n
  /-- Right behind a node stands all that is declared in it. -/
  block : ∀ n ∈ ns, ∃ inner, n :: inner <:+: ns ∧ ∀ k, k ∈ inner ↔ d.Within n k

/-- Whatever is attempted, the listing of a built dataset outlines it. -/
theorem outlines_describe (name : String) (xs : List Declaration)
    (one : OneLineNames (built name xs)) :
    Outlines (built name xs) (built name xs).outline (built name xs).describe := by
  have wf := wellFormed_built name xs
  have settled := settled_built name xs
  have ascending := ascending_built name xs
  generalize built name xs = d at *
  have w := walk_nodeWalk wf ascending settled
  have all : ∀ n, n ∈ d.outline ↔ d.HasLine n := fun n =>
    w.mem_rest_iff.trans (within_root_iff wf settled)
  have listing := listing_eq wf settled w
  refine ⟨?lines, ?once, all, ?block⟩
  case lines =>
    have short : ∀ l ∈ d.listing, OneLine l.words := by
      rw [listing, List.forall_mem_cons, List.forall_mem_map]
      exact ⟨OneLine.append (by decide) one.dataset, fun n _ => one.lineWords n⟩
    rw [splitAll_describe short, listing, List.map_cons, List.map_map]
    -- the heading stands at depth 0, where there is nothing to indent
    refine congrArg (fun ls => ("dataset " ++ d.name).toList :: ls ++ [[]]) ?_
    refine List.map_congr_left fun n hn => ?_
    rw [← level_eq wf settled ((all n).1 hn)]
    rfl
  case once =>
    have whole := (w.parentsFirst (descent_holds wf settled) (.ofGroup .root)).nodup
    rw [w.walk_eq] at whole
    exact (List.nodup_cons.1 whole).2
  case block =>
    intro n hn
    refine ⟨(d.contents n).flatMap d.nodeWalk, ?_, fun k => w.mem_rest_iff⟩
    rw [← w.walk_eq]
    exact w.isInfix_rest hn

/-- The salt stands below a sequence in a group of a group, and the dimension without a name has no
line. -/
theorem outlines_describe_station :
    OneLineNames (built "station" station) ∧
    Outlines (built "station" station)
      [.ofGroup ⟨1⟩, .ofDimension ⟨0⟩, .ofGroup ⟨2⟩, .ofEnumeration ⟨0⟩, .ofVariable ⟨0⟩,
        .ofVariable ⟨1⟩]
      ("dataset station\n" ++ "  group deep\n" ++ "    dimension level = 5\n" ++
        "    group north\n" ++ "      enum flag : uint8\n" ++ "      sequence cast\n" ++
        "        float32 salt[level]\n") ∧
    ((built "station" station).around (.ofVariable ⟨1⟩)).ncard = 3 ∧
    ¬ (built "station" station).HasLine (.ofDimension ⟨1⟩) := by
  have one : OneLineNames (built "station" station) :=
    ⟨by decide, by decide, by decide, by decide, by decide⟩
  have outlines := outlines_describe "station" station one
  have order : (built "station" station).outline =
      [.ofGroup ⟨1⟩, .ofDimension ⟨0⟩, .ofGroup ⟨2⟩, .ofEnumeration ⟨0⟩, .ofVariable ⟨0⟩,
        .ofVariable ⟨1⟩] := by decide
  have text : (built "station" station).describe =
      "dataset station\n" ++ "  group deep\n" ++ "    dimension level = 5\n" ++
        "    group north\n" ++ "      enum flag : uint8\n" ++ "      sequence cast\n" ++
        "        float32 salt[level]\n" := by decide +kernel
  refine ⟨one, order ▸ text ▸ outlines, ?_, ?_⟩
  · -- the last line stands at depth 4, and its indentation says what that depth has to be
    have line : (built "station" station).listing[6]? =
        some ⟨4, (built "station" station).lineWords (.ofVariable ⟨1⟩)⟩ := by decide
    have lines := outlines.lines
    rw [splitAll_describe (by decide), order] at lines
    have last := congrArg (fun ls => ls[6]?) (List.append_cancel_right lines)
    simp only [List.getElem?_map, line, Option.map_some, List.map_cons, List.map_nil,
      List.getElem?_cons_succ, List.getElem?_cons_zero, ListingLine.chars] at last
    have blanks := congrArg List.length (List.append_cancel_right (Option.some.inj last))
    simp only [List.length_replicate] at blanks
    omega
  · rw [← outlines.all]
    decide

end Dataset

end Hyperslab
