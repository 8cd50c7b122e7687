/-
# `Hyperslab.Unicode.PropertyName` — sets of characters by name

A set is named by a property, a general category or a script, tried in this order; or by
a pair, the name of a property that has many values and the name of one of them.  Names
are compared loosely: blanks, hyphens, underscores, the case of letters and a leading
`is` do not count.
-/
import Hyperslab.Unicode.Age
import Hyperslab.Unicode.Segmentation

namespace Hyperslab.Unicode

/-- A name without what does not count. -/
def looseName (name : List Char) : String :=
  let small := (name.map Char.toLower).filter fun c =>
    c != ' ' && c != '_' && c != '-' && c.toNat < 128
  match name with
  | a :: b :: _ =>
    if a.toLower = 'i' ∧ b.toLower = 's' then
      let kept := small.drop 2
      if kept = ['c'] then "isc" else String.ofList kept
    else String.ofList small
  | _ => String.ofList small

/-- The table that one loose name denotes. -/
def tableNamed? (name : String) : Option Table :=
  findTable? properties name <|> findTable? categories name <|> findTable? scripts name

/-- The table that a loose name denotes as the value of a property. -/
def tableValued? (name value : String) : Option Table :=
  if name = "gc" ∨ name = "generalcategory" then findTable? categories value
  else if name = "sc" ∨ name = "script" then findTable? scripts value
  else if name = "scx" ∨ name = "scriptextensions" then findTable? extendedScripts value
  else if name = "age" then age? value
  else if name = "gcb" ∨ name = "graphemeclusterbreak" then findTable? graphemeBreaks value
  else if name = "wb" ∨ name = "wordbreak" then findTable? wordBreaks value
  else if name = "sb" ∨ name = "sentencebreak" then findTable? sentenceBreaks value
  else none

/-- The set with one name. -/
def setNamed? (name : List Char) : Option Ranges :=
  (tableNamed? (looseName name)).map Table.ranges

/-- The set that a pair of names denotes. -/
def setValued? (name value : List Char) : Option Ranges :=
  (tableValued? (looseName name) (looseName value)).map Table.ranges

end Hyperslab.Unicode
