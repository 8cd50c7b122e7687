/-
# `Hyperslab.Filter.Evaluation` — the verdict of a filter on a record

A filter names fields of one sequence.  A name has to be a direct field that is atomic
and scalar; then the record is asked for its value.  Both operands of a conjunction are
always evaluated, the left one first, so an error is never hidden by a conjunct that is
false.

There are two evaluators.  `Expr.verdict` says what the answer is.  `Expr.evaluate`
compiles every pattern only once and remembers the result for the records to come;
patterns that do not compile are not remembered.

What a pattern is, and which texts it matches, is left to a `PatternCompiler`.  It is handed
texts, and no more is asked of it than that it compiles a text in one way.
-/
import Hyperslab.Dataset.Name
import Hyperslab.Filter.Expression
import Hyperslab.Filter.Record

namespace Hyperslab

/-- Why a filter has no verdict on a record. -/
inductive FilterError where
  | unknownField (name : String)
  /-- A field that has fields itself. -/
  | compoundField (name : String)
  /-- A field with dimensions. -/
  | arrayField (name : String)
  /-- A conjunct whose value is not a truth value. -/
  | notBoolean (v : Scalar)
  /-- An operand that is not a value. -/
  | invalidOperand (e : Expr)
  /-- Values of different types have no order. -/
  | incomparable (x y : Scalar)
  | invalidPattern (pattern : String)
  /-- The record does not give the value. -/
  | unread (cause : RecordError)
deriving DecidableEq, Repr

/-- The sentence that reports the cause. -/
def FilterError.message : FilterError → String
  | .unknownField name => "Unknown variable in filter: " ++ name
  | .compoundField name => "Non-atomic variable in filter: " ++ name
  | .arrayField name => "Non-scalar variable in filter: " ++ name
  | .notBoolean v => "filter must be boolean, got " ++ v.typeName ++ " '" ++ v.display ++ "'"
  | .invalidOperand e => "comparison operand must be a field or literal: " ++ e.text
  | .incomparable x y => "cannot order " ++ x.typeName ++ " '" ++ x.display ++ "' against "
      ++ y.typeName ++ " '" ++ y.display ++ "'"
  | .invalidPattern pattern => s!"invalid regex pattern '{pattern}'"
  | .unread cause => cause.message

instance : Reported FilterError where
  kind
    | .unread cause => Reported.kind cause
    | _ => .filterType
  message := FilterError.message

/-! ## Patterns -/

/-- Makes expressions of texts, and matches texts against them. -/
class PatternCompiler where
  /-- A compiled expression. -/
  Compiled : Type
  compile? : String → Option Compiled
  isMatch : Compiled → String → Bool

/-- The pattern that matches a text only as a whole. -/
def wholePattern (pattern : String) : String := "^(?:" ++ pattern ++ ")$"

variable [PatternCompiler]

/-- The expression of a pattern that has to match as a whole. -/
def compileWhole (pattern : String) : Except FilterError PatternCompiler.Compiled :=
  match PatternCompiler.compile? (wholePattern pattern) with
  | some r => .ok r
  | none => .error (.invalidPattern pattern)

/-- The patterns compiled so far. -/
structure PatternCache where
  entries : List (String × PatternCompiler.Compiled)

namespace PatternCache

/-- No patterns. -/
def empty : PatternCache := ⟨[]⟩

/-- The expression of a pattern, and the cache with it. -/
def find (cache : PatternCache) (pattern : String) :
    Except FilterError PatternCompiler.Compiled × PatternCache :=
  match cache.entries.lookup pattern with
  | some r => (.ok r, cache)
  | none =>
    match compileWhole pattern with
    | .ok r => (.ok r, ⟨(pattern, r) :: cache.entries⟩)
    | .error e => (.error e, cache)

end PatternCache

/-! ## Operands -/

variable {ρ : Type} [FieldReader ρ]

/-- The value of a field in a record of a sequence. -/
def fieldValue (d : Dataset) (sequence : VarId) (r : ρ) (name : String) :
    Except FilterError Scalar :=
  match d.field? sequence name with
  | none => .error (.unknownField name)
  | some f =>
    if (d.var f).isCompound then .error (.compoundField name)
    else if 0 < d.rank f then .error (.arrayField name)
    else match FieldReader.readField r name with
      | .ok v => .ok v
      | .error e => .error (.unread e)

/-- The value of an operand. -/
def Expr.operand (d : Dataset) (sequence : VarId) (r : ρ) : Expr → Except FilterError Scalar
  | .field name => fieldValue d sequence r name
  | .literal v => .ok v
  | e => .error (.invalidOperand e)

/-- The values of two operands. -/
def Expr.operands (d : Dataset) (sequence : VarId) (r : ρ) (a b : Expr) :
    Except FilterError (Scalar × Scalar) := do
  let x ← a.operand d sequence r
  let y ← b.operand d sequence r
  return (x, y)

/-- The truth value that an operand is by itself. -/
def Expr.truth (d : Dataset) (sequence : VarId) (r : ρ) (e : Expr) :
    Except FilterError Bool := do
  let v ← e.operand d sequence r
  match v.bool? with
  | some b => return b
  | none => throw (.notBoolean v)

/-- The relation between two values. -/
def Relation.decide (rel : Relation) (x y : Scalar) : Except FilterError Bool :=
  match rel.holds? x y with
  | some b => .ok b
  | none => .error (.incomparable x y)

/-! ## Verdicts -/

/-- The text of a value matches the pattern that is the text of another. -/
def matchWhole (x pattern : Scalar) : Except FilterError Bool :=
  (compileWhole pattern.display).map fun r => PatternCompiler.isMatch r x.display

/-- The verdict of an operator on two values. -/
def Operator.verdict (op : Operator) (x y : Scalar) : Except FilterError Bool :=
  match op with
  | .relation rel => rel.decide x y
  | .matching => matchWhole x y

/-- The verdict of a filter on a record of a sequence. -/
def Expr.verdict (d : Dataset) (sequence : VarId) (r : ρ) : Expr → Except FilterError Bool
  | .and a b => do
    let x ← a.verdict d sequence r
    let y ← b.verdict d sequence r
    return x && y
  | .compare op a b => do
    let (x, y) ← Expr.operands d sequence r a b
    op.verdict x y
  | .field name => (Expr.field name).truth d sequence r
  | .literal v => (Expr.literal v).truth d sequence r

/-! ## Evaluation with a cache -/

/-- The verdict of an operator on two values, and the cache after it. -/
def Operator.evaluate (op : Operator) (cache : PatternCache) (x y : Scalar) :
    Except FilterError Bool × PatternCache :=
  match op with
  | .relation rel => (rel.decide x y, cache)
  | .matching =>
    let (found, cache) := cache.find y.display
    (found.map fun r => PatternCompiler.isMatch r x.display, cache)

/-- The verdict of a filter on a record of a sequence, and the cache after it. -/
def Expr.evaluate (d : Dataset) (sequence : VarId) (r : ρ) :
    Expr → PatternCache → Except FilterError Bool × PatternCache
  | .and a b, cache =>
    match a.evaluate d sequence r cache with
    | (.error e, cache) => (.error e, cache)
    | (.ok x, cache) =>
      match b.evaluate d sequence r cache with
      | (.error e, cache) => (.error e, cache)
      | (.ok y, cache) => (.ok (x && y), cache)
  | .compare op a b, cache =>
    match Expr.operands d sequence r a b with
    | .error e => (.error e, cache)
    | .ok (x, y) => op.evaluate cache x y
  | .field name, cache => ((Expr.field name).truth d sequence r, cache)
  | .literal v, cache => ((Expr.literal v).truth d sequence r, cache)

end Hyperslab
