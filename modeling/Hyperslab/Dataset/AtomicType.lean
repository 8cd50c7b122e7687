/-
# `Hyperslab.Dataset.AtomicType` — base types

The types that a variable without fields, or an attribute, can have.  Fourteen of
them have names of their own, some two; the names are read in any mixture of
cases.  The others are the enumerations of a dataset, which only the dataset can
name.
-/
import Hyperslab.Dataset.Node

namespace Hyperslab

/-- A base type. -/
inductive AtomicType where
  | char
  | int8
  | uint8
  | int16
  | uint16
  | int32
  | uint32
  | int64
  | uint64
  | float32
  | float64
  | string
  | url
  /-- Bytes without a meaning. -/
  | bytes
  /-- An enumeration of the dataset. -/
  | enumeration (e : EnumId)
deriving DecidableEq, Repr

namespace AtomicType

/-- The name of a type; all enumerations share one. -/
def name : AtomicType → String
  | .char => "char"
  | .int8 => "int8"
  | .uint8 => "uint8"
  | .int16 => "int16"
  | .uint16 => "uint16"
  | .int32 => "int32"
  | .uint32 => "uint32"
  | .int64 => "int64"
  | .uint64 => "uint64"
  | .float32 => "float32"
  | .float64 => "float64"
  | .string => "string"
  | .url => "url"
  | .bytes => "opaque"
  | .enumeration _ => "enum"

/-- The type with a name in lower case. -/
def ofLowerName? : String → Option AtomicType
  | "char" => some .char
  | "int8" | "byte" => some .int8
  | "uint8" | "ubyte" => some .uint8
  | "int16" | "short" => some .int16
  | "uint16" | "ushort" => some .uint16
  | "int32" | "int" => some .int32
  | "uint32" | "uint" => some .uint32
  | "int64" | "long" => some .int64
  | "uint64" | "ulong" => some .uint64
  | "float32" | "float" => some .float32
  | "float64" | "double" => some .float64
  | "string" => some .string
  | "url" => some .url
  | "opaque" => some .bytes
  | _ => none

/-- The type that a name of its own denotes, whatever the case of its letters. -/
def ofName? (name : String) : Option AtomicType :=
  ofLowerName? (String.ofList (name.toList.map Char.toLower))

/-- The enumeration that a type is. -/
def enumeration? : AtomicType → Option EnumId
  | .enumeration e => some e
  | _ => none

/-- Values are integers; those of an enumeration are. -/
def isInteger : AtomicType → Bool
  | .int8 | .uint8 | .int16 | .uint16 | .int32 | .uint32 | .int64 | .uint64 => true
  | .enumeration _ => true
  | _ => false

/-- Values are floating-point numbers. -/
def isFloat : AtomicType → Bool
  | .float32 | .float64 => true
  | _ => false

/-- An enumeration can be declared over the type: an integer type, but no other
enumeration. -/
def isEnumerable (t : AtomicType) : Bool := t.isInteger && t.enumeration?.isNone

/-- No enumeration is declared over floating-point numbers. -/
theorem isEnumerable_of_isFloat {t : AtomicType} (h : t.isFloat = true) :
    t.isEnumerable = false := by
  cases t with
  | float32 | float64 => rfl
  | _ => cases h

end AtomicType

end Hyperslab
