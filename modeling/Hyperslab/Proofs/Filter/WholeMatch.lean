/-
# `Hyperslab.Proofs.Filter.WholeMatch` — patterns that have to match as a whole

A pattern that has to match as a whole is put between anchors, as the text of a group.  Whether that means
the pattern anchored depends on how the longer text is read.  It is read as the group of what the pattern
denotes by itself, between the anchors, if the parenthesis behind the pattern closes the group: if the
pattern has no closing parenthesis that closes nothing, and no comment that is still open at its end
(`readAhead?_anchored`).

Then the text matches if the pattern by itself spans it (`MatchesWhole`).  What is put around a pattern also
has to fit in: it counts for the depth and for the size that are accepted (`Enclosable`).

Patterns that close a group they have not opened denote nothing (`denotes?_of_unmatched`), but between the
anchors they may be accepted all the same, so nothing is promised of them.
-/
import Hyperslab.Filter.Engine
import Hyperslab.Proofs.Regex.Enclosing
import Hyperslab.Proofs.Regex.Spans

namespace Hyperslab

namespace Regex

/-! ## Reading between the anchors -/

/-- Nothing has been read yet. -/
def Progress.blank : Progress := ⟨false, ⟨0, []⟩, [], []⟩

/-- What is read of a text, and what is left of it where a parenthesis closes nothing. -/
def readAhead? (text : List Char) : Option ((Pattern × Captures) × List Char) :=
  parts? (text.length + 1) .blank text

/-- A text between the anchors. -/
def anchoredText (text : List Char) : List Char := '^' :: '(' :: '?' :: ':' :: (text ++ [')', '$'])

/-- A pattern between the anchors. -/
def Pattern.anchored (p : Pattern) : Pattern :=
  .sequence [.anchor .lineStart, .group [] p, .anchor .lineEnd]

theorem Pattern.nesting_anchored (p : Pattern) : p.anchored.nesting = p.nesting + 2 := by
  simp [Pattern.anchored, Pattern.nesting, Pattern.nestingOfList]

theorem Pattern.meaning?_anchored (p : Pattern) :
    p.anchored.meaning? .initial = (p.meaning? .initial).map fun m => (whole m.1, .initial) := by
  have unchanged : Flags.initial.apply [] = .initial := rfl
  simp only [Pattern.anchored, Pattern.meaning?, Pattern.listMeaning?, Option.bind_eq_bind,
    Option.bind_some, unchanged]
  cases p.meaning? .initial <;> rfl

/-- The text behind the opening of the group is read from the beginning. -/
theorem parts?_anchored (steps : Nat) (cs : List Char) :
    parts? (steps + 2) .blank ('^' :: '(' :: '?' :: ':' :: cs) =
      (parts? steps .blank cs).bind fun p => closing (parts? steps
        ((Progress.blank.add (.anchor .lineStart)).close p.1.2 (.group [] p.1.1))) p.2 :=
  calc
    _ = part (steps + 1) .blank '^' ('(' :: '?' :: ':' :: cs) := parts?_succ _ _ _
    _ = parts? (steps + 1) (Progress.blank.add (.anchor .lineStart)) ('(' :: '?' :: ':' :: cs) := rfl
    _ = part steps (Progress.blank.add (.anchor .lineStart)) '(' ('?' :: ':' :: cs) :=
      parts?_succ _ _ _
    _ = _ := rfl

/-- The text has a closing parenthesis that closes nothing. -/
def Unmatched (text : List Char) : Prop := ∃ a u, readAhead? text = some (a, ')' :: u)

theorem eq_nil_of_not_unmatched {text r : List Char} {a : Pattern × Captures}
    (matched : ¬Unmatched text) (read : readAhead? text = some (a, r)) : r = [] := by
  rcases parts?_stop _ _ read with none | ⟨u, rfl⟩
  · exact none
  · exact (matched ⟨a, u, read⟩).elim

/-- A parenthesis behind the text would close a group around it. -/
def Closes (text : List Char) : Prop := ∃ a, readAhead? (text ++ [')']) = some (a, [')'])

/-- A text that closes nothing by itself is read alike between the anchors if the parenthesis behind it
closes the group.  If not nothing is read, and the text by itself was not read either or has a comment. -/
theorem readAhead?_anchored {text : List Char} (matched : ¬Unmatched text) :
    (∃ p captures, readAhead? text = some ((p, captures), []) ∧ Closes text ∧
      readAhead? (anchoredText text) = some ((p.anchored, captures), [])) ∨
    (¬Closes text ∧ ∀ a r, readAhead? text = some (a, r) → '#' ∈ text) ∧
      readAhead? (anchoredText text) = none := by
  -- steps for the text with a parenthesis behind it, and with the anchor behind that
  let m (u : List Char) : Nat := text.length + 2 + 3 * u.length
  have closed : readAhead? (text ++ [')']) = parts? (m []) .blank (text ++ [')']) := by
    simp [readAhead?, m]
  have anchored : readAhead? (anchoredText text) =
      (parts? (m ['$']) .blank (text ++ [')', '$'])).bind fun p => closing (parts? (m ['$'])
        ((Progress.blank.add (.anchor .lineStart)).close p.1.2 (.group [] p.1.1))) p.2 := by
    rw [← parts?_anchored]
    simp [readAhead?, anchoredText, m]
  rcases parts?_follows .blank text (m := m) (fun u => by simp only [m]; omega) with
    @⟨⟨p, captures⟩, r, alone, behind⟩ | ⟨alone, behind⟩
  · left
    obtain rfl := eq_nil_of_not_unmatched matched alone
    refine ⟨p, captures, alone, ⟨(p, captures), closed.trans (behind [])⟩, ?_⟩
    rw [anchored, behind ['$']]
    rfl
  · right
    refine ⟨⟨?_, fun a r read => (alone a r read).2⟩, ?_⟩
    · rintro ⟨a, closes⟩
      have inside := behind [] a [')'] (closed ▸ closes)
      simp at inside
    · rw [anchored]
      refine Option.eq_none_iff_forall_ne_some.2 fun a read => ?_
      obtain ⟨⟨a, r⟩, first, second⟩ := Option.bind_eq_some_iff.1 read
      rcases List.suffix_cons_iff.1 (behind ['$'] a r first) with rfl | none
      · cases second
      · rw [List.suffix_nil.1 none] at second
        cases second

/-! ## Compiling between the anchors -/

theorem read?_eq_some_iff {text : List Char} {p : Pattern} :
    Pattern.read? text = some p ↔
      (∃ captures, readAhead? text = some ((p, captures), [])) ∧ p.nesting ≤ nestingLimit := by
  have ahead : parts? (text.length + 1) ⟨false, ⟨0, []⟩, [], []⟩ text = readAhead? text := rfl
  rw [Pattern.read?, ahead]
  rcases readAhead? text with _ | ⟨⟨q, captures⟩, _ | ⟨c, rest⟩⟩
  · simp
  · simp only [Option.ite_none_right_eq_some, Option.some.injEq, Prod.mk.injEq, and_true]
    constructor
    · rintro ⟨shallow, rfl⟩
      exact ⟨⟨captures, rfl, rfl⟩, shallow⟩
    · rintro ⟨⟨_, rfl, -⟩, shallow⟩
      exact ⟨shallow, rfl⟩
  · simp

theorem compile?_eq_some_iff {text : String} {e : Regex} :
    compile? text = some e ↔ ∃ p f, Pattern.read? text.toList = some p ∧
      p.meaning? .initial = some (e, f) ∧ isAffordable e = true := by
  simp only [compile?, Option.bind_eq_bind, Option.bind_eq_some_iff]
  constructor
  · rintro ⟨p, read, ⟨r, f⟩, meant, small⟩
    split at small
    · cases small
      exact ⟨p, f, read, meant, ‹_›⟩
    · cases small
  · rintro ⟨p, f, read, meant, small⟩
    exact ⟨p, read, (e, f), meant, by simp [small]⟩

/-- The expression that a text denotes, whatever its size. -/
def denotes? (text : String) : Option Regex :=
  (Pattern.read? text.toList).bind fun p => (p.meaning? .initial).map fun m => m.1

theorem denotes?_of_unmatched {text : String} (unmatched : Unmatched text.toList) :
    denotes? text = none := by
  obtain ⟨a, u, read⟩ := unmatched
  have unread : Pattern.read? text.toList = none :=
    Option.eq_none_iff_forall_ne_some.2 fun p known => by
      obtain ⟨⟨captures, alone⟩, -⟩ := read?_eq_some_iff.1 known
      cases read ▸ alone
  rw [denotes?, unread, Option.bind_none]

/-- There is room for the anchors and the group around a text that denotes an expression. -/
structure Enclosable (text : String) (r : Regex) : Prop where
  /-- No comment is open at the end of the text. -/
  closes : '#' ∈ text.toList → Closes text.toList
  /-- One sequence and one group more. -/
  shallow : ∀ p, Pattern.read? text.toList = some p → p.nesting + 2 ≤ nestingLimit
  small : isAffordable (whole r) = true

theorem toList_wholePattern (text : String) :
    (wholePattern text).toList = anchoredText text.toList := by
  simp [wholePattern, anchoredText]

theorem compile?_wholePattern {text : String} (matched : ¬Unmatched text.toList) (e : Regex) :
    compile? (wholePattern text) = some e ↔
      ∃ r, denotes? text = some r ∧ Enclosable text r ∧ e = whole r := by
  rw [compile?_eq_some_iff, toList_wholePattern]
  constructor
  · rintro ⟨q, f, read, meant, small⟩
    obtain ⟨⟨captures, read⟩, shallow⟩ := read?_eq_some_iff.1 read
    rcases readAhead?_anchored matched with ⟨p, captures, alone, closes, between⟩ | ⟨-, none⟩
    · cases between ▸ read
      rw [Pattern.nesting_anchored] at shallow
      have known : Pattern.read? text.toList = some p :=
        read?_eq_some_iff.2 ⟨⟨captures, alone⟩, by omega⟩
      rw [Pattern.meaning?_anchored] at meant
      obtain ⟨⟨r, g⟩, own, eq⟩ := Option.map_eq_some_iff.1 meant
      cases eq
      refine ⟨r, by simp [denotes?, known, own], ⟨fun _ => closes, fun q same => ?_, small⟩, rfl⟩
      cases known ▸ same
      exact shallow
    · cases none ▸ read
  · rintro ⟨r, denotes, room, rfl⟩
    obtain ⟨p, known, meant⟩ := Option.bind_eq_some_iff.1 denotes
    obtain ⟨⟨r, f⟩, own, rfl⟩ := Option.map_eq_some_iff.1 meant
    obtain ⟨⟨captures, alone⟩, -⟩ := read?_eq_some_iff.1 known
    rcases readAhead?_anchored matched with
      ⟨q, captures, again, -, between⟩ | ⟨⟨unclosed, comment⟩, -⟩
    · cases alone ▸ again
      refine ⟨p.anchored, .initial, read?_eq_some_iff.2 ⟨⟨captures, between⟩, ?_⟩, ?_, room.small⟩
      · rw [Pattern.nesting_anchored]
        exact room.shallow p known
      · rw [Pattern.meaning?_anchored, own]
        rfl
    · exact (unclosed (room.closes (comment _ _ alone))).elim

end Regex

/-! ## Verdicts -/

section

open Regex

/-- The text matches the expression from its beginning to its end. -/
def MatchesWhole (text : String) (r : Regex) : Prop :=
  Spans text.toList r 0 text.toList.length

/-- The engine compiles the pattern between the anchors, and matches the text against that. -/
theorem verdict_matching (x pattern : Scalar) :
    Operator.matching.verdict x pattern =
      match compile? (wholePattern pattern.display) with
      | some e => .ok (isMatch e x.display)
      | none => .error (.invalidPattern pattern.display) := by
  have engine : PatternCompiler.compile? (wholePattern pattern.display) =
      compile? (wholePattern pattern.display) := rfl
  simp only [Operator.verdict, matchWhole, compileWhole, engine]
  cases compile? (wholePattern pattern.display) <;> rfl

/-- A pattern that closes no parenthesis it has not opened matches a text as a whole or not at all.  It is
an error exactly if the pattern denotes nothing, or leaves no room for what is put around it. -/
theorem matching_verdict (x pattern : Scalar) (matched : ¬Unmatched pattern.display.toList) :
    (∀ r, denotes? pattern.display = some r → Enclosable pattern.display r →
      ∃ b, Operator.matching.verdict x pattern = .ok b ∧ (b = true ↔ MatchesWhole x.display r)) ∧
    ((∀ r, denotes? pattern.display = some r → ¬Enclosable pattern.display r) ↔
      Operator.matching.verdict x pattern = .error (.invalidPattern pattern.display)) := by
  have compiled := compile?_wholePattern matched
  rw [verdict_matching]
  constructor
  · intro r denotes room
    rw [(compiled (whole r)).2 ⟨r, denotes, room, rfl⟩]
    exact ⟨_, rfl, isMatch_whole_iff r x.display⟩
  · cases found : compile? (wholePattern pattern.display) with
    | none =>
      refine iff_of_true (fun r denotes room => ?_) rfl
      rw [(compiled (whole r)).2 ⟨r, denotes, room, rfl⟩] at found
      cases found
    | some e =>
      obtain ⟨r, denotes, room, -⟩ := (compiled e).1 found
      exact iff_of_false (fun none => none r denotes room) nofun

/-- What the alternatives `a` and `b` denote. -/
def eitherLetter : Regex := .alt (ofSet [(97, 97)]) (ofSet [(98, 98)])

/-- The text `ab` begins with one alternative and ends with the other, and is neither. -/
theorem matching_verdict_alternatives :
    ¬Unmatched "a|b".toList ∧ denotes? "a|b" = some eitherLetter ∧
      Enclosable "a|b" eitherLetter ∧
      Operator.matching.verdict (.text "ab") (.text "a|b") = .ok false ∧
      ¬MatchesWhole "ab" eitherLetter ∧
      Operator.matching.verdict (.text "b") (.text "a|b") = .ok true ∧
      MatchesWhole "b" eitherLetter := by
  have alone : readAhead? "a|b".toList = some ((.alternation [.literal ⟨'a', false⟩,
      .literal ⟨'b', false⟩], ⟨0, []⟩), []) := rfl
  have matched : ¬Unmatched "a|b".toList := by
    rintro ⟨a, u, read⟩
    cases alone ▸ read
  have room : Enclosable "a|b" eitherLetter := by
    refine ⟨fun comment => absurd comment (by decide), fun p read => ?_, by decide⟩
    cases read
    decide
  have both : Operator.matching.verdict (.text "ab") (.text "a|b") = .ok false := rfl
  have second : Operator.matching.verdict (.text "b") (.text "a|b") = .ok true := rfl
  obtain ⟨b, verdict, whole⟩ :=
    (matching_verdict (.text "ab") (.text "a|b") matched).1 eitherLetter rfl room
  obtain ⟨b', verdict', whole'⟩ :=
    (matching_verdict (.text "b") (.text "a|b") matched).1 eitherLetter rfl room
  cases both.symm.trans verdict
  cases second.symm.trans verdict'
  exact ⟨matched, rfl, room, both, fun spanned => Bool.false_ne_true (whole.2 spanned), second,
    whole'.1 rfl⟩

/-- A pattern that closes the group around it and opens another denotes nothing, and is accepted;
it matches a text of which it finds the beginning only. -/
theorem matching_accepts_unmatched :
    Unmatched "a)|(b".toList ∧ denotes? "a)|(b" = none ∧
      Operator.matching.verdict (.text "ax") (.text "a)|(b") = .ok true ∧
      ¬ ∀ x pattern : Scalar, denotes? pattern.display = none →
        Operator.matching.verdict x pattern = .error (.invalidPattern pattern.display) := by
  have accepted : Operator.matching.verdict (.text "ax") (.text "a)|(b") = .ok true := rfl
  refine ⟨⟨_, _, rfl⟩, rfl, accepted, fun refuses => ?_⟩
  cases accepted.symm.trans (refuses (.text "ax") (.text "a)|(b") rfl)

end

end Hyperslab
