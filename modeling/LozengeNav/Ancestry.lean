import LozengeNav.Base
import LozengeNav.ClassHeader
import LozengeNav.Host
import LozengeNav.Search.Breadth
import LozengeNav.Search.Depth

/-!
# Ancestry

Whether a class descends from the base class.  Where the host has a type hierarchy for the class,
the hierarchy is searched breadth-first.  Otherwise the class header is read from the source and the
definitions of its bases are followed, depth-first.  Which of the two is done is decided once for a
question.
-/

namespace LozengeNav

/-- A class, known by the URI of the file that declares it and its simple name. -/
structure ClassRef where
  uri : String
  name : String
  deriving DecidableEq, Repr, Inhabited

inductive Strategy where
  | hierarchy (roots : List HierarchyNode)
  | chase

namespace Ancestry

variable {σ : Type}

def entry? (outline : List OutlineSymbol) (name : String) : Option OutlineSymbol :=
  outline.find? fun s => s.kind == .type && s.name == name

/-- Use the hierarchy if the class has an outline entry and the hierarchy has nodes for it. -/
def selectStrategy (host : Host σ) (uri name : String) : Query σ Strategy := do
  let outline ← host.documentOutline uri
  match entry? (outline.getD []) name with
  | none => return .chase
  | some symbol =>
    match ← host.prepareTypeHierarchy uri symbol.selection with
    | some (root :: roots) => return .hierarchy (root :: roots)
    | _ => return .chase

/-- Search the type hierarchy for the base class, the roots included. -/
def inHierarchy (host : Host σ) (base : BaseClass) (roots : List HierarchyNode) :
    Query σ Bool := do
  let fuel := host.classBound (← get)
  let hit ← Search.breadthFirst host.supertypes (fun n => pure (base.isBase n.name n.uri))
    HierarchyNode.key (roots.length + fuel) roots
  return hit.isSome

abbrev Sources :=
  List (String × Option String)

abbrev Chase (σ : Type) : Type → Type :=
  StateT Sources (Query σ)

/-- The text of a document, read at most once in a chase. -/
def source (host : Host σ) (uri : String) : Chase σ (Option String) := do
  match (← get).lookup uri with
  | some text => return text
  | none =>
    let text ← host.readText uri
    modify ((uri, text) :: ·)
    return text

def nameAt? (host : Host σ) (location : Location) : Chase σ (Option String) := do
  match ← source host location.uri with
  | none => return none
  | some text =>
    match (Text.lines text.toList)[location.span.start.line]? with
    | none => return none
    | some line => return classNameAt? line (some location.span.start.column)

/-- Look at the locations of one base: either one of them may define the base class, or they name
further classes. -/
def followLocations (host : Host σ) (base : BaseClass) :
    List Location → List ClassRef → Chase σ (Bool × List ClassRef)
  | [], found => return (false, found)
  | location :: rest, found => do
    if base.definedIn location.uri then
      return (true, [])
    match ← nameAt? host location with
    | some name => followLocations host base rest (found ++ [⟨location.uri, name⟩])
    | none => followLocations host base rest found

/-- Look at the bases of a header in order. -/
def followBases (host : Host σ) (base : BaseClass) (uri : String) :
    List BaseReference → List ClassRef → Chase σ (Bool × List ClassRef)
  | [], found => return (false, found)
  | reference :: rest, found => do
    let locations ← host.jumpToDefinition uri ⟨reference.line, reference.column⟩
    let (reached, found) ← followLocations host base (locations.getD []) found
    if reached then
      return (true, [])
    followBases host base uri rest found

/-- Whether the header of a class leads to the base class, and else which classes it leads to. -/
def expand (host : Host σ) (base : BaseClass) (ref : ClassRef) :
    Chase σ (Bool × List ClassRef) := do
  match ← source host ref.uri with
  | none => return (false, [])
  | some text =>
    match classHeader? text.toList ref.name with
    | none => return (false, [])
    | some (index, line) =>
      followBases host base ref.uri (baseList index line ref.name base.rootBase) []

def byChase (host : Host σ) (base : BaseClass) (ref : ClassRef) : Query σ Bool := do
  let fuel := host.classBound (← get)
  (Search.depthFirst (expand host base) id (fuel + 1) ref).run' []

def follow (host : Host σ) (base : BaseClass) (ref : ClassRef) : Strategy → Query σ Bool
  | .hierarchy roots => inHierarchy host base roots
  | .chase => byChase host base ref

/-- Whether a class descends from the base class. -/
def descends (host : Host σ) (base : BaseClass) (uri name : String) : Query σ Bool := do
  follow host base ⟨uri, name⟩ (← selectStrategy host uri name)

end Ancestry

end LozengeNav
