/-
# `Hyperslab.Proofs.Filter.Wording` — the text of a filter says what it demands

Filters are written without blanks and without brackets: operands and operators stand next to
each other, and a comma stands between conjuncts.  Still the text can be taken apart again.

  * A string stands in quotes.  Quotes inside it are escaped and the closing one is not
    (`enclosed_escaped`), so it ends at the first quote that counts, whatever is in it.
  * Every other operand is a word that ends where an operator or a comma begins.  Words for
    numbers begin with a digit or a minus, and names do not; `true` and `false` are no names.
  * An operator may begin like another one, but no operand begins with a character of operators.

So filters with one text have the same conjuncts in the same order (`text_eq_iff_conjuncts_eq`).
How the conjuncts are nested cannot be seen, and it does not matter.
-/
import Hyperslab.Filter.Expression
import Hyperslab.Proofs.Text.Words

namespace Hyperslab

/-! ## Strings in quotes -/

namespace Scalar

/-- The text ends in a backslash that escapes what comes next; it is not escaped itself. -/
def escapesNext (cs : List Char) : Bool :=
  cs.foldl (fun escaping c => !escaping && c == '\\') false

/-- All quotes in a text are escaped, and one that comes behind it is not. -/
structure Enclosed (body : List Char) : Prop where
  inside : ∀ before after, body = before ++ '\x22' :: after → escapesNext before = true
  behind : escapesNext body = false

/-- A text that is enclosed does not go on with a quote where another one has ended. -/
theorem Enclosed.eq_nil_of_quote {u w q r : List Char} (hu : Enclosed u) (hv : Enclosed (u ++ w))
    (quote : '\x22' :: q = w ++ r) : w = [] := by
  cases w with
  | nil => rfl
  | cons c w =>
    obtain ⟨rfl, -⟩ := List.cons.inj quote
    exact absurd ((hv.inside u w rfl).symm.trans hu.behind) Bool.false_ne_true.symm

/-- What is enclosed ends at the first quote that is not escaped. -/
theorem Enclosed.append_inj {u v q r : List Char} (hu : Enclosed u) (hv : Enclosed v)
    (same : u ++ '\x22' :: q = v ++ '\x22' :: r) : u = v ∧ q = r := by
  have ends : u = v := by
    rcases List.append_eq_append_iff.1 same with ⟨w, rfl, rest⟩ | ⟨w, rfl, rest⟩
    · rw [hu.eq_nil_of_quote hv rest, List.append_nil]
    · rw [hv.eq_nil_of_quote hu rest, List.append_nil]
  rw [ends] at same
  exact ⟨ends, (List.cons.inj (List.append_cancel_left same)).2⟩

theorem escapesNext_escape_append (c : Char) (cs : List Char) :
    escapesNext (escape c ++ cs) = escapesNext cs := by
  unfold escapesNext
  rw [List.foldl_append]
  congr 1
  unfold escape
  split
  · rfl
  · rename_i plain
    rw [not_or] at plain
    simp [plain.2]

/-- Where a quote is written for a character, a backslash stands before it. -/
theorem eq_backslash_of_escape {c : Char} {before after : List Char}
    (h : escape c = before ++ '\x22' :: after) : before = ['\\'] := by
  unfold escape at h
  split at h
  · cases before with
    | nil => cases (List.cons.inj h).1
    | cons b before =>
      obtain ⟨rfl, rest⟩ := List.cons.inj h
      cases before with
      | nil => rfl
      | cons _ _ => simp at rest
  · rename_i plain
    cases before with
    | nil => exact absurd (.inl (List.cons.inj h).1) plain
    | cons _ _ => simp at h

/-- Escaping makes a text that can be enclosed. -/
theorem enclosed_escaped (cs : List Char) : Enclosed (cs.flatMap escape) := by
  induction cs with
  | nil => exact ⟨fun before after h => by simp at h, rfl⟩
  | cons c cs ih =>
    rw [List.flatMap_cons]
    refine ⟨fun before after h => ?_, ?_⟩
    · rcases List.append_eq_append_iff.1 h with ⟨rest, rfl, behind⟩ | ⟨rest, first, behind⟩
      · rw [escapesNext_escape_append]
        exact ih.inside rest after behind
      · cases rest with
        | nil =>
          rw [List.append_nil] at first
          rw [← first, ← List.append_nil (escape c), escapesNext_escape_append]
          exact ih.inside [] after behind.symm
        | cons b rest =>
          obtain ⟨rfl, -⟩ := List.cons.inj behind
          rw [eq_backslash_of_escape first]
          rfl
    · rw [escapesNext_escape_append]
      exact ih.behind

theorem escape_append_inj {c d : Char} {q r : List Char}
    (same : escape c ++ q = escape d ++ r) : c = d ∧ q = r := by
  unfold escape at same
  split at same <;> split at same
  · exact ⟨(List.cons.inj (List.cons.inj same).2).1, (List.cons.inj (List.cons.inj same).2).2⟩
  · rename_i plain
    exact absurd (.inr (List.cons.inj same).1.symm) plain
  · rename_i plain _
    exact absurd (.inr (List.cons.inj same).1) plain
  · exact List.cons.inj same

/-- Different texts are escaped differently. -/
theorem flatMap_escape_inj {cs ds : List Char} (same : cs.flatMap escape = ds.flatMap escape) :
    cs = ds := by
  have some : ∀ c, escape c ≠ [] := by
    intro c
    unfold escape
    split <;> exact List.cons_ne_nil _ _
  induction cs generalizing ds with
  | nil =>
    cases ds with
    | nil => rfl
    | cons d ds => exact absurd (List.append_eq_nil_iff.1 same.symm).1 (some d)
  | cons c cs ih =>
    cases ds with
    | nil => exact absurd (List.append_eq_nil_iff.1 same).1 (some c)
    | cons d ds =>
      obtain ⟨rfl, rest⟩ := escape_append_inj same
      rw [ih rest]

theorem toList_quote (s : String) :
    (quote s).toList = '\x22' :: (s.toList.flatMap escape ++ ['\x22']) := by
  simp [quote]

/-- A string in quotes says where it ends and what it is. -/
theorem quote_append_inj {s t : String} {q r : List Char}
    (same : (quote s).toList ++ q = (quote t).toList ++ r) : s = t ∧ q = r := by
  simp only [toList_quote, List.cons_append, List.append_assoc, List.nil_append, List.cons.injEq,
    true_and] at same
  obtain ⟨body, rest⟩ := (enclosed_escaped _).append_inj (enclosed_escaped _) same
  exact ⟨String.toList_inj.1 (flatMap_escape_inj body), rest⟩

end Scalar

/-! ## Words -/

namespace Expr

/-- The characters that may stand behind an operand: those of operators, and the comma. -/
def joints : List Char := [',', '<', '>', '=', '!', '~']

/-- The text begins like a number. -/
def beginsNumber (word : String) : Bool := word.toList.head?.any fun c => c.isDigit || c == '-'

/-- A name that cannot be taken for a literal, or for more than a name. -/
structure IsFieldName (name : String) : Prop where
  full : name ≠ ""
  free : Text.Free ('\x22' :: joints) name.toList
  noNumber : beginsNumber name = false
  noTruth : name ≠ "true" ∧ name ≠ "false"

/-- A letter is no digit. -/
theorem isDigit_eq_false_of_isAlpha {c : Char} (alpha : c.isAlpha = true) :
    c.isDigit = false := by
  have letter : (65 ≤ c.val.toNat ∧ c.val.toNat ≤ 90) ∨
      (97 ≤ c.val.toNat ∧ c.val.toNat ≤ 122) := by
    rcases (Bool.or_eq_true _ _).mp alpha with upper | lower
    · exact .inl (of_decide_eq_true upper)
    · obtain ⟨low, high⟩ := (Bool.and_eq_true _ _).mp lower
      exact .inr ⟨of_decide_eq_true low, of_decide_eq_true high⟩
  refine Bool.eq_false_iff.2 fun digit => ?_
  obtain ⟨-, high⟩ := (Bool.and_eq_true _ _).mp digit
  have high : c.val.toNat ≤ 57 := of_decide_eq_true high
  omega

/-- Letters, digits and underscores make a name, if no digit comes first and it is no truth
value. -/
theorem isFieldName_of_identifier {name : String}
    (head : ∃ c ∈ name.toList.head?, c.isAlpha = true ∨ c = '_')
    (word : name.toList.all (fun c => c.isAlphanum || c == '_') = true)
    (noTruth : name ≠ "true" ∧ name ≠ "false") : IsFieldName name := by
  obtain ⟨c, first, head⟩ := head
  have other : ('\x22' :: joints).any (fun c => c.isAlphanum || c == '_') = false := by decide
  have noDigit : c.isDigit = false ∧ c ≠ '-' := by
    rcases head with alpha | rfl
    · exact ⟨isDigit_eq_false_of_isAlpha alpha, fun same => absurd (same ▸ alpha) (by decide)⟩
    · decide
  refine ⟨?_, fun c hc mark => List.any_eq_false.1 other c mark (List.all_eq_true.1 word c hc), ?_,
    noTruth⟩
  · rintro rfl
    cases first
  · rw [beginsNumber, Option.mem_def.1 first, Option.any_some, noDigit.1, Bool.false_or]
    exact beq_eq_false_iff_ne.2 noDigit.2

/-- A field, or a literal that is no floating-point number. -/
inductive IsOperand : Expr → Prop
  | field {name : String} : IsFieldName name → IsOperand (.field name)
  | bool (b : Bool) : IsOperand (.literal (.bool b))
  | int (i : Int) : IsOperand (.literal (.int i))
  | text (s : String) : IsOperand (.literal (.text s))

/-- The number that digits stand for, perhaps behind a minus. -/
def numberOf (word : List Char) : Int :=
  if word.head? = some '-' then -(Nat.ofDigitChars 10 word.tail 0 : Int)
  else Nat.ofDigitChars 10 word 0

/-- What a word stands for. -/
def ofWord (word : String) : Expr :=
  if word = "true" then .literal (.bool true)
  else if word = "false" then .literal (.bool false)
  else if beginsNumber word then .literal (.int (numberOf word.toList))
  else .field word

/-- An operand without quotes, which can be read back. -/
structure IsWord (e : Expr) : Prop where
  full : e.text.toList ≠ []
  free : Text.Free ('\x22' :: joints) e.text.toList
  ofWord_text : ofWord e.text = e

theorem exists_head_toDigits (n : Nat) :
    ∃ c, (Nat.toDigits 10 n).head? = some c ∧ c.isDigit = true := by
  cases h : Nat.toDigits 10 n with
  | nil => exact absurd h Nat.toDigits_ne_nil
  | cons c cs =>
    have first : c ∈ Nat.toDigits 10 n := h ▸ List.mem_cons_self ..
    exact ⟨c, rfl, Nat.isDigit_of_mem_toDigits (by decide) (by decide) first⟩

theorem beginsNumber_int (i : Int) : beginsNumber (toString i) = true := by
  unfold beginsNumber
  rw [Text.toList_int]
  split
  · obtain ⟨c, head, digit⟩ := exists_head_toDigits i.toNat
    rw [head, Option.any_some, digit, Bool.true_or]
  · rfl

theorem numberOf_int (i : Int) : numberOf (toString i).toList = i := by
  unfold numberOf
  rw [Text.toList_int]
  split
  · obtain ⟨c, head, digit⟩ := exists_head_toDigits i.toNat
    have noMinus : ¬ (Nat.toDigits 10 i.toNat).head? = some '-' := by
      rw [head]
      rintro ⟨⟩
      exact absurd digit (by decide)
    rw [if_neg noMinus, Nat.ofDigitChars_ten_toDigits]
    omega
  · rw [List.head?_cons, if_pos rfl, List.tail_cons, Nat.ofDigitChars_ten_toDigits]
    omega

theorem isWord_int (i : Int) : IsWord (.literal (.int i)) := by
  have number := beginsNumber_int i
  have noTruth : ∀ w : String, beginsNumber w = false → toString i ≠ w := by
    rintro _ other rfl
    exact absurd (number.symm.trans other) Bool.false_ne_true.symm
  refine ⟨fun empty => noTruth "" rfl (String.toList_inj.1 empty), ?_, ?_⟩
  · exact Text.free_int (by decide) (by decide) i
  · show ofWord (toString i) = _
    rw [ofWord, if_neg (noTruth _ rfl), if_neg (noTruth _ rfl), if_pos number, numberOf_int]

theorem isWord_field {name : String} (h : IsFieldName name) : IsWord (.field name) where
  full empty := h.full (String.toList_inj.1 empty)
  free := h.free
  ofWord_text := by
    rw [text, ofWord, if_neg h.noTruth.1, if_neg h.noTruth.2, h.noNumber,
      if_neg Bool.false_ne_true]

/-- An operand is a string in quotes or a word. -/
theorem IsOperand.quoted_or_word {e : Expr} (h : IsOperand e) :
    (∃ s, e = .literal (.text s)) ∨ e.IsWord := by
  cases h with
  | text s => exact .inl ⟨s, rfl⟩
  | field name => exact .inr (isWord_field name)
  | int i => exact .inr (isWord_int i)
  | bool b =>
    refine .inr ⟨?_, ?_, ?_⟩ <;> cases b <;> decide

variable {a b : Expr} {q r : List Char}

/-- A word is not taken for a string in quotes. -/
theorem IsWord.ne_quote (h : IsWord a) (s : String) (q r : List Char) :
    (Scalar.quote s).toList ++ q ≠ a.text.toList ++ r := by
  intro same
  rw [Scalar.toList_quote, List.cons_append] at same
  have stops : Text.Stops ('\x22' :: joints) (a.text.toList ++ r) :=
    same ▸ Text.stops_cons (List.mem_cons_self ..) _
  exact h.free.not_stops h.full r stops

/-- No operand begins like what stands behind one. -/
theorem IsOperand.exists_cons (h : IsOperand a) :
    ∃ c cs, a.text.toList = c :: cs ∧ c ∉ joints := by
  rcases h.quoted_or_word with ⟨s, rfl⟩ | word
  · exact ⟨_, _, Scalar.toList_quote s, by decide⟩
  · cases h : a.text.toList with
    | nil => exact absurd h word.full
    | cons c cs =>
      have first := (Text.free_cons.1 (h ▸ word.free)).1
      exact ⟨c, cs, rfl, fun there => first (List.mem_cons_of_mem _ there)⟩

/-- Operands end where an operator or a comma begins, and their texts tell them apart. -/
theorem IsOperand.append_inj (ha : IsOperand a) (hb : IsOperand b) (hq : Text.Stops joints q)
    (hr : Text.Stops joints r) (same : a.text.toList ++ q = b.text.toList ++ r) :
    a = b ∧ q = r := by
  rcases ha.quoted_or_word with ⟨s, rfl⟩ | wa <;> rcases hb.quoted_or_word with ⟨t, rfl⟩ | wb
  · obtain ⟨rfl, rest⟩ := Scalar.quote_append_inj same
    exact ⟨rfl, rest⟩
  · exact absurd same (wb.ne_quote s q r)
  · exact absurd same.symm (wa.ne_quote t r q)
  · have sub : joints ⊆ '\x22' :: joints := List.subset_cons_self ..
    obtain ⟨texts, rest⟩ := wa.free.append_inj wb.free (hq.mono sub) (hr.mono sub) same
    exact ⟨by rw [← wa.ofWord_text, String.toList_inj.1 texts, wb.ofWord_text], rest⟩

/-! ## Operators -/

/-- An operator ends where its characters end. -/
theorem takeWhile_symbol_append (op : Operator) (hq : ∀ c ∈ q.head?, c ∉ joints) :
    (op.symbol.toList ++ q).takeWhile (· ∈ joints) = op.symbol.toList := by
  have inside : op.symbol.toList.all (· ∈ joints) = true := by
    cases op with
    | relation rel => cases rel <;> decide
    | matching => decide
  have ends : q.takeWhile (· ∈ joints) = [] := by
    cases q with
    | nil => rfl
    | cons c q => exact List.takeWhile_cons_of_neg (by simpa using hq c rfl)
  rw [List.takeWhile_append_of_pos (List.all_eq_true.1 inside), ends, List.append_nil]

theorem symbol_append_inj {o p : Operator} (hq : ∀ c ∈ q.head?, c ∉ joints)
    (hr : ∀ c ∈ r.head?, c ∉ joints)
    (same : o.symbol.toList ++ q = p.symbol.toList ++ r) : o = p ∧ q = r := by
  have symbols : o.symbol.toList = p.symbol.toList := by
    rw [← takeWhile_symbol_append o hq, same, takeWhile_symbol_append p hr]
  rw [symbols] at same
  refine ⟨Option.some.inj ?_, List.append_cancel_left same⟩
  rw [← Operator.ofSymbol?_symbol o, String.toList_inj.1 symbols, Operator.ofSymbol?_symbol]

/-- An operator stands behind an operand, and is no comma. -/
theorem stops_symbol (op : Operator) (q : List Char) :
    Text.Stops joints (op.symbol.toList ++ q) ∧ ¬ Text.Stops [','] (op.symbol.toList ++ q) := by
  have first : ∃ c cs, op.symbol.toList = c :: cs ∧ c ∈ joints ∧ c ∉ [','] := by
    cases op with
    | relation rel => cases rel <;> exact ⟨_, _, rfl, by decide⟩
    | matching => exact ⟨_, _, rfl, by decide⟩
  obtain ⟨c, cs, symbol, joint, other⟩ := first
  rw [symbol]
  exact ⟨Text.stops_cons joint _, fun stops => other (stops c rfl)⟩

/-! ## Conjuncts -/

/-- An operand by itself, or a comparison of two. -/
inductive IsConjunct : Expr → Prop
  | operand {e : Expr} : IsOperand e → IsConjunct e
  | compare {a b : Expr} (op : Operator) : IsOperand a → IsOperand b → IsConjunct (.compare op a b)

/-- All conjuncts of a filter are operands or comparisons of operands. -/
def Readable (e : Expr) : Prop := ∀ c ∈ e.conjuncts, c.IsConjunct

theorem toList_compare_append (op : Operator) (a b : Expr) (q : List Char) :
    (compare op a b).text.toList ++ q =
      a.text.toList ++ (op.symbol.toList ++ (b.text.toList ++ q)) := by
  simp [text]

/-- The right operand of a comparison does not begin like an operator. -/
theorem IsOperand.head_not_mem (h : IsOperand a) (q : List Char) :
    ∀ c ∈ (a.text.toList ++ q).head?, c ∉ joints := by
  obtain ⟨c, cs, text, other⟩ := h.exists_cons
  rw [text]
  rintro _ ⟨⟩
  exact other

theorem IsConjunct.append_inj {c d : Expr} (hc : IsConjunct c) (hd : IsConjunct d)
    (hq : Text.Stops [','] q) (hr : Text.Stops [','] r)
    (same : c.text.toList ++ q = d.text.toList ++ r) : c = d ∧ q = r := by
  have sub : [','] ⊆ joints := by decide
  cases hc with
  | operand hc =>
    cases hd with
    | operand hd => exact hc.append_inj hd (hq.mono sub) (hr.mono sub) same
    | @compare a b op ha hb =>
      rw [toList_compare_append] at same
      obtain ⟨-, rest⟩ := hc.append_inj ha (hq.mono sub) (stops_symbol op _).1 same
      exact absurd (rest ▸ hq) (stops_symbol op _).2
  | @compare a b op ha hb =>
    rw [toList_compare_append] at same
    cases hd with
    | operand hd =>
      obtain ⟨-, rest⟩ := ha.append_inj hd (stops_symbol op _).1 (hr.mono sub) same
      exact absurd (rest ▸ hr) (stops_symbol op _).2
    | @compare a' b' op' ha' hb' =>
      rw [toList_compare_append] at same
      obtain ⟨left, behind⟩ := ha.append_inj ha' (stops_symbol op _).1 (stops_symbol op' _).1 same
      obtain ⟨symbol, behind⟩ := symbol_append_inj (hb.head_not_mem q) (hb'.head_not_mem r) behind
      obtain ⟨right, ends⟩ := hb.append_inj hb' (hq.mono sub) (hr.mono sub) behind
      exact ⟨by rw [left, symbol, right], ends⟩

/-! ## Filters -/

/-- A filter is written as its conjuncts, with a comma in front of each but the first. -/
theorem cons_toList_text (e : Expr) :
    ',' :: e.text.toList = e.conjuncts.flatMap fun c => ',' :: c.text.toList := by
  induction e with
  | and a b iha ihb =>
    rw [conjuncts, List.flatMap_append, ← iha, ← ihb]
    simp [text]
  | compare op a b => simp [conjuncts]
  | field name => simp [conjuncts]
  | literal v => simp [conjuncts]

theorem stops_conjuncts (cs : List Expr) :
    Text.Stops [','] (cs.flatMap fun c => ',' :: c.text.toList) := by
  cases cs with
  | nil => exact Text.stops_nil _
  | cons c cs => exact Text.stops_cons (List.mem_singleton_self _) _

/-- Conjuncts with a comma in front of each can be told apart. -/
theorem conjuncts_inj {cs ds : List Expr} (hc : ∀ c ∈ cs, c.IsConjunct)
    (hd : ∀ d ∈ ds, d.IsConjunct)
    (same : (cs.flatMap fun c => ',' :: c.text.toList) =
      ds.flatMap fun d => ',' :: d.text.toList) : cs = ds := by
  induction cs generalizing ds with
  | nil =>
    cases ds with
    | nil => rfl
    | cons d ds => cases same
  | cons c cs ih =>
    cases ds with
    | nil => cases same
    | cons d ds =>
      rw [List.forall_mem_cons] at hc hd
      rw [List.flatMap_cons, List.flatMap_cons, List.cons_append, List.cons_append] at same
      obtain ⟨rfl, rest⟩ := hc.1.append_inj hd.1 (stops_conjuncts cs) (stops_conjuncts ds)
        (List.cons.inj same).2
      rw [ih hc.2 hd.2 rest]

/-- Readable filters are written the same exactly if they have the same conjuncts in the same
order.  A string literal is an enclosed text between two quotes, so that the closing quote is the
first one behind the opening quote that is not escaped, and it tells which string it is. -/
theorem text_eq_iff_conjuncts_eq :
    (∀ e f : Expr, e.Readable → f.Readable → (e.text = f.text ↔ e.conjuncts = f.conjuncts)) ∧
    ∀ s t : String, (∃ body, (Scalar.text s).literal = "\x22" ++ String.ofList body ++ "\x22" ∧
        Scalar.Enclosed body) ∧
      ∀ q r, (Scalar.text s).literal ++ q = (Scalar.text t).literal ++ r → s = t ∧ q = r := by
  refine ⟨fun e f he hf => ⟨fun same => ?_, fun same => ?_⟩, fun s t => ⟨?_, fun q r same => ?_⟩⟩
  · refine conjuncts_inj he hf ?_
    rw [← cons_toList_text, ← cons_toList_text, same]
  · have texts : ',' :: e.text.toList = ',' :: f.text.toList := by
      rw [cons_toList_text, cons_toList_text, same]
    exact String.toList_inj.1 (List.cons.inj texts).2
  · exact ⟨_, rfl, Scalar.enclosed_escaped s.toList⟩
  · have texts := congrArg String.toList same
    rw [String.toList_append, String.toList_append] at texts
    obtain ⟨rfl, rest⟩ := Scalar.quote_append_inj texts
    exact ⟨rfl, String.toList_inj.1 rest⟩

/-- A name is matched against one string, in which there are a quote and a comma. -/
def oneConjunct : Expr :=
  .compare .matching (.field "name") (.literal (.text "a\x22,b<=\x22c"))

/-- A name is matched against one string, and another one compared. -/
def twoConjuncts : Expr :=
  .and (.compare .matching (.field "name") (.literal (.text "a")))
    (.compare (.relation .le) (.field "b") (.literal (.text "c")))

/-- Without the backslashes both would be written the same. -/
theorem text_eq_iff_conjuncts_eq_comma : oneConjunct.Readable ∧ twoConjuncts.Readable ∧
    oneConjunct.text ≠ twoConjuncts.text ∧
    (Expr.and twoConjuncts (.and oneConjunct twoConjuncts)).text =
      (Expr.and (.and twoConjuncts oneConjunct) twoConjuncts).text := by
  have name : IsFieldName "name" :=
    isFieldName_of_identifier ⟨'n', by decide⟩ (by decide) (by decide)
  have b : IsFieldName "b" := isFieldName_of_identifier ⟨'b', by decide⟩ (by decide) (by decide)
  have one : oneConjunct.Readable :=
    List.forall_mem_singleton.2 (.compare _ (.field name) (.text _))
  have two : twoConjuncts.Readable := List.forall_mem_cons.2 ⟨.compare _ (.field name) (.text _),
    List.forall_mem_singleton.2 (.compare _ (.field b) (.text _))⟩
  have joined : ∀ {e f : Expr}, e.Readable → f.Readable → (Expr.and e f).Readable :=
    fun he hf => List.forall_mem_append.2 ⟨he, hf⟩
  refine ⟨one, two, fun same => ?_, ?_⟩
  · exact absurd ((text_eq_iff_conjuncts_eq.1 _ _ one two).1 same) (by decide)
  · refine (text_eq_iff_conjuncts_eq.1 _ _ (joined two (joined one two))
      (joined (joined two one) two)).2 ?_
    simp [conjuncts]

end Expr

end Hyperslab
