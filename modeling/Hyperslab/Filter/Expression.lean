/-
# `Hyperslab.Filter.Expression` — filters as they are written

A filter is a conjunction of comparisons between fields of a record and literal
values.  The type admits more than makes sense, a comparison of comparisons for one;
what does not make sense is an error when it meets a record.

The text of a filter joins conjuncts by commas and does not show how they were
nested.  That is harmless: nesting does not matter (`Expr.conjuncts`).
-/
import Hyperslab.Filter.Comparison

namespace Hyperslab

/-- Operators between two operands. -/
inductive Operator where
  | relation (r : Relation)
  /-- The left operand as a whole matches the pattern on the right. -/
  | matching
deriving DecidableEq, Repr

namespace Operator

def symbol : Operator → String
  | .relation r => r.symbol
  | .matching => "~="

/-- All operators. -/
def all : List Operator :=
  [.relation .lt, .relation .le, .relation .gt, .relation .ge, .relation .eq, .relation .ne,
    .matching]

/-- The operator with a symbol. -/
def ofSymbol? (s : String) : Option Operator := all.find? fun op => op.symbol == s

@[simp] theorem ofSymbol?_symbol (op : Operator) : ofSymbol? op.symbol = some op := by
  cases op with
  | relation r => cases r <;> rfl
  | matching => rfl

/-- The operator asks for an order. -/
def isOrdering : Operator → Bool
  | .relation r => r.isOrdering
  | .matching => false

end Operator

/-- A filter. -/
inductive Expr where
  | and (a b : Expr)
  | compare (op : Operator) (a b : Expr)
  | field (name : String)
  | literal (v : Scalar)
deriving DecidableEq, Repr

namespace Expr

/-- The text of a filter. -/
def text : Expr → String
  | .and a b => a.text ++ "," ++ b.text
  | .compare op a b => a.text ++ op.symbol ++ b.text
  | .field name => name
  | .literal v => v.literal

/-- What a filter demands, from left to right. -/
def conjuncts : Expr → List Expr
  | .and a b => a.conjuncts ++ b.conjuncts
  | .compare op a b => [.compare op a b]
  | .field name => [.field name]
  | .literal v => [.literal v]

theorem conjuncts_ne_nil (e : Expr) : e.conjuncts ≠ [] := by
  induction e with
  | and a b iha _ => exact fun h => iha (List.append_eq_nil_iff.1 h).1
  | compare op a b => exact List.cons_ne_nil _ _
  | field name => exact List.cons_ne_nil _ _
  | literal v => exact List.cons_ne_nil _ _

/-- A conjunct is no conjunction itself. -/
theorem conjuncts_of_mem {e c : Expr} (h : c ∈ e.conjuncts) : c.conjuncts = [c] := by
  induction e with
  | and a b iha ihb =>
    cases List.mem_append.1 h with
    | inl h => exact iha h
    | inr h => exact ihb h
  | compare op a b => rw [List.mem_singleton.1 h]; rfl
  | field name => rw [List.mem_singleton.1 h]; rfl
  | literal v => rw [List.mem_singleton.1 h]; rfl

end Expr

end Hyperslab
