/-
# `Hyperslab.Dataset.Scope` — names as seen from a group

Inside a description a dimension or an enumeration may be named without its path.  A
name that begins with a slash is looked up from the root; any other is searched in the
group itself and then in each group around it, so the innermost declaration wins.

The names of the other types are reserved: no enumeration can be reached under one.
-/
import Hyperslab.Dataset.Name

namespace Hyperslab.Dataset

/-- The groups in which a plain name is searched, innermost first. -/
def enclosing (d : Dataset) (g : GroupId) : List GroupId := (d.group g).path.reverse

/-- The name is to be looked up from the root. -/
def isAbsolute (name : String) : Bool := name.toList.head? == some '/'

/-- The dimension that a name denotes in a group. -/
def resolveDimension? (d : Dataset) (g : GroupId) (name : String) : Option DimId :=
  if isAbsolute name then d.findDimension? name
  else (d.enclosing g).findSome? fun h => d.childDimension? h name

/-- The enumeration that a name denotes in a group. -/
def resolveEnum? (d : Dataset) (g : GroupId) (name : String) : Option EnumId :=
  if isAbsolute name then d.findEnum? name
  else (d.enclosing g).findSome? fun h => d.childEnum? h name

/-- The type that a name denotes in a group. -/
def resolveType? (d : Dataset) (g : GroupId) (name : String) : Option AtomicType :=
  (AtomicType.ofName? name) <|> ((d.resolveEnum? g name).map AtomicType.enumeration)

end Hyperslab.Dataset
