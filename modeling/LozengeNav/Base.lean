import LozengeNav.Text.Search

/-!
# The base class

The class of the foreign code base whose descendants offer their methods to dialect documents.
-/

namespace LozengeNav

/-- How the base class is recognized. -/
structure BaseClass where
  name : String := "Context"
  /-- A text that occurs in the URI of the file that defines it. -/
  pathMarker : String := "appeldryck"
  /-- The root of all classes, which headers may list and which is no ancestor to follow. -/
  rootBase : String := "object"
  deriving DecidableEq, Repr, Inhabited

namespace BaseClass

/-- Whether a file may define the base class. -/
def definedIn (b : BaseClass) (uri : String) : Bool :=
  Text.occursIn b.pathMarker.toList uri.toList

def isBase (b : BaseClass) (name uri : String) : Bool :=
  name == b.name && b.definedIn uri

end BaseClass

end LozengeNav
