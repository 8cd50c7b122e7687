/-
# `Hyperslab.Request.Building` — from requests to views

Every entry of a request becomes one call, once the names in it have been found: first
the redefinitions, then the projections, the filters, and the attributes.  The calls are
made in this order until one is refused or an entry turns out to be wrong; those before
it stay made.  A request for the whole dataset has its entries checked all the same.

Whether compounds are expanded is up to the request, unless the surroundings of the
program say otherwise.
-/
import Hyperslab.Request.Reading
import Hyperslab.Unicode.Property
import Hyperslab.View.Basic

namespace Hyperslab

/-- Why a request gives no view. -/
inductive RequestError where
  /-- The text is no request. -/
  | malformed
  | unknownDimension (name : String)
  | unknownVariable (name : String)
  | unknownNode (name : String)
  /-- A filter on a variable without records. -/
  | notSequence (name : String)
  | unknownAttributeType (type name : String)
  | invalidSlice (cause : SliceError)
  | refused (cause : ViewError)
deriving DecidableEq, Repr

/-- The sentence that reports the cause. -/
def RequestError.message : RequestError → String
  | .malformed => ""
  | .unknownDimension name => s!"dimension '{name}'"
  | .unknownVariable name => s!"variable '{name}'"
  | .unknownNode name => s!"node '{name}'"
  | .notSequence name => s!"filter on '{name}', which is not a sequence"
  | .unknownAttributeType type name => s!"unknown attribute type '{type}' for '{name}'"
  | .invalidSlice cause => cause.message
  | .refused cause => cause.message

instance : Reported RequestError where
  kind
    | .malformed => .malformed
    | .unknownDimension _ => .notFound
    | .unknownVariable _ => .notFound
    | .unknownNode _ => .notFound
    | .notSequence _ => .filterType
    | .unknownAttributeType _ _ => .schema
    | .invalidSlice cause => Reported.kind cause
    | .refused cause => Reported.kind cause
  message := RequestError.message

/-! ## Entries as calls -/

/-- What a name stands for, or the error that it stands for nothing. -/
def orUnknown {α : Type} (e : RequestError) : Option α → Except RequestError α
  | some x => .ok x
  | none => .error e

/-- The slice of bounds. -/
def SliceBounds.slice (b : SliceBounds) : Except RequestError Slice :=
  b.slice?.mapError .invalidSlice

/-- The call that a redefinition asks for. -/
def Redefinition.call (d : Dataset) (r : Redefinition) : Except RequestError ViewCall := do
  let x ← orUnknown (.unknownDimension r.dimension) (d.findDimension? r.dimension)
  let slice ← r.bounds.slice
  return .addRedefinition x slice

/-- The call that a projection asks for. -/
def Projection.call (d : Dataset) (p : Projection) : Except RequestError ViewCall := do
  let v ← orUnknown (.unknownVariable p.var) (d.findVariable? p.var)
  let slices ← (p.bounds.getD []).mapM SliceBounds.slice
  return .addVariable v slices

/-- The call that a filter asks for. -/
def FilterRequest.call (d : Dataset) (f : FilterRequest) : Except RequestError ViewCall := do
  let v ← orUnknown (.unknownVariable f.var) (d.findVariable? f.var)
  if (d.var v).isSequence then return .setFilter v f.expr else throw (.notSequence f.var)

/-- The call that an attribute asks for.  Its type is one that has a name of its own. -/
def Overlay.call (d : Dataset) (o : Overlay) : Except RequestError ViewCall := do
  let n ← orUnknown (.unknownNode o.node) (d.lookup? o.node)
  let t ← orUnknown (.unknownAttributeType o.type o.name) (AtomicType.ofName? o.type)
  return .addAttribute n ⟨o.name, t, o.values⟩

/-! ## Building -/

/-- Makes calls until one fails. -/
def View.performAll (w : View) :
    List (Except RequestError ViewCall) → Except RequestError Unit × View
  | [] => (.ok (), w)
  | .error e :: _ => (.error e, w)
  | .ok c :: rest =>
    match w.call c with
    | .ok w => w.performAll rest
    | .error e => (.error (.refused e), w)

namespace Request

/-- The calls for all entries, in order. -/
def calls (r : Request) (d : Dataset) : List (Except RequestError ViewCall) :=
  r.redefinitions.map (Redefinition.call d) ++ r.projections.map (Projection.call d)
    ++ r.filters.map (FilterRequest.call d) ++ r.overlays.map (Overlay.call d)

/-- Makes the calls of a request on a view. -/
def apply (r : Request) (w : View) : Except RequestError Unit × View :=
  w.performAll (r.calls w.dataset)

/-- The view that a request begins with. -/
def start (r : Request) (d : Dataset) : View :=
  if r.universal then .universal d else .selection (.empty d)

/-- The finished view that a request asks for. -/
def build (r : Request) (d : Dataset) (expand : Bool) : Except RequestError View :=
  match r.apply (r.start d) with
  | (.error e, _) => .error e
  | (.ok (), w) => (w.call (.finish expand)).mapError .refused

end Request

/-! ## Expanding -/

/-- A text without the white space around it. -/
def trim (cs : List Char) : List Char :=
  ((cs.dropWhile Unicode.isWhiteSpace).reverse.dropWhile Unicode.isWhiteSpace).reverse

/-- The answer that a word gives, if it is one of the words for yes or no. -/
def switch? (word : String) : Option Bool :=
  let word := String.ofList ((trim word.toList).map Char.toLower)
  if ["1", "true", "yes", "on"].contains word then some true
  else if ["0", "false", "no", "off"].contains word then some false
  else none

/-- Whether to expand: a setting from outside goes before the request, and expanding is
the rule. -/
def resolveExpand (requested : Option Bool) (setting : Option String) : Bool :=
  ((setting.bind switch?) <|> requested).getD true

end Hyperslab
