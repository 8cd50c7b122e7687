/-
# `Hyperslab.Json` — written JSON

The documents that the program writes, with members in the order in which they
were put.  There are two texts of a document: `compact`, without any blanks, and
`indented`, with two blanks per level.  Numbers are integers or binary numbers; a
binary number always shows that it is one (`2.0`), and one that JSON cannot write
becomes `null`.
-/
import Hyperslab.Decimal.Layout

namespace Hyperslab

/-- A JSON document. -/
inductive Json where
  | null
  | bool (b : Bool)
  | integer (i : Int)
  | float (x : Binary64)
  | string (s : String)
  | array (items : List Json)
  | object (members : List (String × Json))

namespace Json

/-- Numbers of JSON: an exponent is written below `10^-5` and from `10^16` on, always
with its sign. -/
def floatLayout : FloatLayout where
  positionalFrom := some (-5)
  positionalTo := some 15
  pointZero := true
  tie := .even

/-- The text of a binary number. -/
def floatText (x : Binary64) : String :=
  if x.isNaN || x.isInfinite then "null" else floatLayout.text x

/-- Four hexadecimal digits. -/
def hex4 (n : Nat) : List Char :=
  let ds := Nat.toDigits 16 n
  List.replicate (4 - ds.length) '0' ++ ds

/-- One character inside quotes: quotes, backslashes and control characters are
escaped, all others stand for themselves. -/
def escape (c : Char) : List Char :=
  if c = '\x22' then ['\\', '\x22']
  else if c = '\\' then ['\\', '\\']
  else if c = '\n' then ['\\', 'n']
  else if c = '\r' then ['\\', 'r']
  else if c = '\t' then ['\\', 't']
  else if c.toNat = 8 then ['\\', 'b']
  else if c.toNat = 12 then ['\\', 'f']
  else if c.toNat < 32 then '\\' :: 'u' :: hex4 c.toNat
  else [c]

/-- A quoted string. -/
def quote (s : String) : String :=
  "\x22" ++ String.ofList (s.toList.flatMap escape) ++ "\x22"

/-! ## Without blanks -/

mutual

/-- The text of a document on one line. -/
def compact : Json → String
  | .null => "null"
  | .bool b => if b then "true" else "false"
  | .integer i => toString i
  | .float x => floatText x
  | .string s => quote s
  | .array items => "[" ++ ",".intercalate (compactItems items) ++ "]"
  | .object members => "\x7b" ++ ",".intercalate (compactMembers members) ++ "\x7d"

/-- The texts of the items of an array. -/
def compactItems : List Json → List String
  | [] => []
  | v :: rest => v.compact :: compactItems rest

/-- The texts of the members of an object. -/
def compactMembers : List (String × Json) → List String
  | [] => []
  | (k, v) :: rest => (quote k ++ ":" ++ v.compact) :: compactMembers rest

end

/-! ## With blanks -/

/-- A line break and two blanks per level. -/
def lineBreak (level : Nat) : String :=
  "\n" ++ String.ofList (List.replicate (2 * level) ' ')

/-- Entries between brackets, one a line; nothing at all between the brackets when
there are no entries. -/
def block (level : Nat) (opening closing : String) (entries : List String) : String :=
  if entries.isEmpty then opening ++ closing
  else opening ++ lineBreak (level + 1) ++
    (("," ++ lineBreak (level + 1)).intercalate entries) ++ lineBreak level ++ closing

mutual

/-- The text of a document that stands at a level of indentation. -/
def indentedAt (level : Nat) : Json → String
  | .array items => block level "[" "]" (indentedItems (level + 1) items)
  | .object members => block level "\x7b" "\x7d" (indentedMembers (level + 1) members)
  | .null => compact .null
  | .bool b => compact (.bool b)
  | .integer i => compact (.integer i)
  | .float x => compact (.float x)
  | .string s => compact (.string s)

/-- The texts of the items of an array, at their level. -/
def indentedItems (level : Nat) : List Json → List String
  | [] => []
  | v :: rest => v.indentedAt level :: indentedItems level rest

/-- The texts of the members of an object, at their level. -/
def indentedMembers (level : Nat) : List (String × Json) → List String
  | [] => []
  | (k, v) :: rest => (quote k ++ ": " ++ v.indentedAt level) :: indentedMembers level rest

end

/-- The text of a document over several lines. -/
def indented (j : Json) : String := j.indentedAt 0

end Json

end Hyperslab
