import Mathlib.Init

/-! Paths as texts, by their components. -/

set_option autoImplicit false

namespace Wqm1.Ota

/-- An absolute path, by its components. -/
abbrev Path := List String

/-- The texts between the slashes. -/
def splitPath (text : String) : List String := (text.toList.splitOn '/').map String.ofList

/-- Where components lead from a directory when no name on the way is a link. -/
def walk (here : Path) : List String → Path
  | [] => here
  | component :: rest =>
    if component = "" ∨ component = "." then walk here rest
    else if component = ".." then walk here.dropLast rest
    else walk (here ++ [component]) rest

/-- A text after a directory, as `Path.__truediv__` joins them; an absolute text stands alone. -/
def joinPath (base : Path) (text : String) : Path :=
  walk (if text.toList.head? = some '/' then [] else base) (splitPath text)

end Wqm1.Ota
