/-
# `Hyperslab.Proofs.Filter.Ending` — where the text of a filter ends

In the text of a selection a filter is followed by a semicolon, by a closing brace, or by
nothing.  A string in a filter may hold these marks too, but it stands in quotes, and a
reader that minds the quotes passes over it (`behind`).  Names of fields are written as
they are; a filter is *delimited* if none of them holds a mark or a quote.

Then the reader stops exactly where the filter ends (`behind_text`), so that a delimited
filter can be taken off the front of a text (`text_append_inj`).
-/
import Hyperslab.Filter.Expression
import Hyperslab.Proofs.Text.Words

namespace Hyperslab

/-! ## The reader -/

/-- The marks behind a filter. -/
def Expr.closers : List Char := [';', '}']

/-- The marks that a reader of a filter minds. -/
def Expr.marks : List Char := '\x22' :: Expr.closers

/-- The text from the first closing mark on that is not in quotes. -/
def Expr.behind : (quoted : Bool) → List Char → List Char
  | _, [] => []
  | false, c :: cs =>
    if c ∈ Expr.closers then c :: cs else Expr.behind (c == '\x22') cs
  | true, '\\' :: _ :: cs => Expr.behind true cs
  | true, c :: cs => Expr.behind (c != '\x22') cs

/-- The names of fields in a filter. -/
def Expr.names : Expr → List String
  | .and a b => a.names ++ b.names
  | .compare _ a b => a.names ++ b.names
  | .field name => [name]
  | .literal _ => []

/-- No name in the filter can be taken for its end. -/
def Expr.Delimited (e : Expr) : Prop := ∀ name ∈ e.names, Text.Free Expr.marks name.toList

instance (e : Expr) : Decidable e.Delimited :=
  inferInstanceAs (Decidable (∀ name ∈ e.names, Text.Free Expr.marks name.toList))

namespace Expr

/-- Outside of quotes, a text without marks is passed over. -/
theorem behind_of_free {w : List Char} (h : Text.Free marks w) (r : List Char) :
    behind false (w ++ r) = behind false r := by
  induction w with
  | nil => rfl
  | cons c w ih =>
    obtain ⟨hc, hw⟩ := Text.free_cons.1 h
    have quote : (c == '\x22') = false := by
      simpa using fun e : c = '\x22' => hc (e ▸ List.mem_cons_self ..)
    rw [List.cons_append, behind, if_neg fun m => hc (List.mem_cons_of_mem _ m), quote]
    exact ih hw

/-- A closing mark stops the reader. -/
theorem behind_of_stops {r : List Char} (h : Text.Stops closers r) : behind false r = r := by
  cases r with
  | nil => rfl
  | cons c r => rw [behind, if_pos (h c rfl)]

/-! ## Strings -/

/-- Inside quotes, an escaped character is passed over. -/
theorem behind_escape (c : Char) (r : List Char) :
    behind true (Scalar.escape c ++ r) = behind true r := by
  unfold Scalar.escape
  split
  · rfl
  · rename_i plain
    rw [not_or] at plain
    rw [List.singleton_append, behind]
    · rw [bne_iff_ne.2 plain.1]
    · intro _ _ e
      exact absurd e plain.2

theorem behind_escaped (cs r : List Char) :
    behind true (cs.flatMap Scalar.escape ++ r) = behind true r := by
  induction cs with
  | nil => rfl
  | cons c cs ih => rw [List.flatMap_cons, List.append_assoc, behind_escape, ih]

theorem behind_quote (s : String) (r : List Char) :
    behind false ((Scalar.quote s).toList ++ r) = behind false r := by
  have parts : (Scalar.quote s).toList ++ r =
      '\x22' :: (s.toList.flatMap Scalar.escape ++ '\x22' :: r) := by
    simp [Scalar.quote]
  rw [parts]
  exact behind_escaped s.toList ('\x22' :: r)

end Expr

/-! ## Numbers and words -/

namespace FloatLayout

/-- Neither point nor exponent ends a filter. -/
theorem free_positional (layout : FloatLayout) {ds : List Char} (h : Text.Free Expr.marks ds)
    (point : Int) : Text.Free Expr.marks (layout.positional ds point) := by
  have zeros : ∀ n, Text.Free Expr.marks (zeros n) := by
    intro n c hc
    rw [List.eq_of_mem_replicate hc]
    decide
  unfold positional
  refine .ite ?_ (.ite ?_ ?_)
  · simp only [Text.free_append, Text.free_cons]
    exact ⟨⟨by decide, by decide, zeros _⟩, h⟩
  · simp only [Text.free_append]
    exact ⟨⟨h, zeros _⟩, .ite (by decide) (by decide)⟩
  · simp only [Text.free_append, Text.free_cons]
    exact ⟨h.subset (List.take_subset _ _), by decide, h.subset (List.drop_subset _ _)⟩

theorem free_scientific {ds : List Char} (h : Text.Free Expr.marks ds) (exponent : Int) :
    Text.Free Expr.marks (scientific ds exponent) := by
  have fraction : Text.Free Expr.marks ('.' :: ds.drop 1) :=
    Text.free_cons.2 ⟨by decide, h.subset (List.drop_subset _ _)⟩
  unfold scientific
  simp only [Text.free_append, Text.free_cons]
  refine ⟨⟨h.subset (List.take_subset _ _), .ite (by decide) fraction⟩, by decide, ?_,
    Text.free_toDigits (by decide) _⟩
  split <;> decide

theorem free_lay (layout : FloatLayout) (n : Numeral) : Text.Free Expr.marks (layout.lay n) := by
  have digits : Text.Free Expr.marks (digits n.digits) := Text.free_toDigits (by decide) _
  have body (exponent : Int) : Text.Free Expr.marks (if n.digits = 0 then
      layout.positional (FloatLayout.digits n.digits) 1
      else if layout.isPositional (exponent - 1) then
        layout.positional (FloatLayout.digits n.digits) exponent
      else scientific (FloatLayout.digits n.digits) (exponent - 1)) :=
    .ite (layout.free_positional digits 1)
      (.ite (layout.free_positional digits exponent) (free_scientific digits (exponent - 1)))
  exact .ite (Text.free_cons.2 ⟨by decide, body _⟩) (body _)

end FloatLayout

namespace Expr

theorem free_plainText (x : Binary64) : Text.Free marks x.plainText.toList := by
  unfold Binary64.plainText FloatLayout.text
  split
  · decide
  · split
    · split <;> decide
    · rw [String.toList_ofList]
      exact FloatLayout.free_lay _ _

theorem free_symbol (op : Operator) : Text.Free marks op.symbol.toList := by
  cases op with
  | relation r => cases r <;> decide
  | matching => decide

/-! ## Filters -/

theorem behind_literal (v : Scalar) (r : List Char) :
    behind false (v.literal.toList ++ r) = behind false r := by
  cases v with
  | text s => exact behind_quote s r
  | bool b =>
    refine behind_of_free ?_ r
    cases b <;> decide
  | int i => exact behind_of_free (Text.free_int (by decide) (by decide) i) r
  | float x => exact behind_of_free (free_plainText x) r

/-- The reader passes over a delimited filter. -/
theorem behind_text {e : Expr} (h : e.Delimited) (r : List Char) :
    behind false (e.text.toList ++ r) = behind false r := by
  induction e generalizing r with
  | and a b iha ihb =>
    rw [text, String.toList_append, String.toList_append, List.append_assoc, List.append_assoc,
      iha (fun n hn => h n (List.mem_append_left _ hn))]
    exact ihb (fun n hn => h n (List.mem_append_right _ hn)) r
  | compare op a b iha ihb =>
    rw [text, String.toList_append, String.toList_append, List.append_assoc, List.append_assoc,
      iha (fun n hn => h n (List.mem_append_left _ hn)), behind_of_free (free_symbol op)]
    exact ihb (fun n hn => h n (List.mem_append_right _ hn)) r
  | field name => exact behind_of_free (h name (List.mem_singleton_self name)) r
  | literal v => exact behind_literal v r

/-- Delimited filters end together. -/
theorem text_append_inj {a b : Expr} (ha : a.Delimited) (hb : b.Delimited) {q r : List Char}
    (hq : Text.Stops closers q) (hr : Text.Stops closers r)
    (same : a.text.toList ++ q = b.text.toList ++ r) : a.text = b.text ∧ q = r := by
  -- both sides are what a reader finds behind the same text
  have rest : q = r := by
    rw [← behind_of_stops hq, ← behind_text ha, same, behind_text hb, behind_of_stops hr]
  rw [rest] at same
  exact ⟨String.toList_inj.1 (List.append_cancel_right same), rest⟩

end Expr

end Hyperslab
