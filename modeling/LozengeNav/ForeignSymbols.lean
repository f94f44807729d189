import LozengeNav.Ancestry
import LozengeNav.Enclosing

/-!
# Foreign symbols

The functions of the foreign code base that a name refers to: top-level functions of that name, and
methods of that name whose class descends from the base class.
-/

namespace LozengeNav

/-- A function or method of the wanted name. -/
inductive SymbolMatch where
  | function (location : Location)
  /-- A method and the class that the index gives for it. -/
  | method (location : Location) (enclosing : Option String)
  deriving DecidableEq, Repr

namespace SymbolMatch

/-- Where the match is defined. -/
def location : SymbolMatch → Location
  | function l => l
  | method l _ => l

/-- A symbol as a match: classes and other names are none, and an empty container counts as
unknown. -/
def ofSymbol? (name : String) (s : WorkspaceSymbol) : Option SymbolMatch :=
  if s.name = name then
    match s.kind with
    | .type => none
    | .function => some (.function s.location)
    | .method => some (.method s.location (s.container.filter fun c => c ≠ ""))
  else none

/-- The matches among symbols, in order. -/
def ofSymbols (name : String) (symbols : List WorkspaceSymbol) : List SymbolMatch :=
  symbols.filterMap (ofSymbol? name)

end SymbolMatch

namespace ForeignSymbols

variable {σ : Type}

/-- The class of a method: the one that the index gives, or else the one around its location. -/
def methodClass? (host : Host σ) (location : Location) :
    Option String → Query σ (Option String)
  | some name => return some name
  | none => enclosingClass? host location.uri location.span.start

/-- Whether a match may be referred to. -/
def qualifies (host : Host σ) (base : BaseClass) : SymbolMatch → Query σ Bool
  | .function _ => return true
  | .method location enclosing => do
    match ← methodClass? host location enclosing with
    | none => return false
    | some name => Ancestry.descends host base location.uri name

/-- The locations of the matches that qualify, in order. -/
def keep (host : Host σ) (base : BaseClass) : List SymbolMatch → Query σ (List Location)
  | [] => return []
  | hit :: rest => do
    let qualified ← qualifies host base hit
    let others ← keep host base rest
    return if qualified then hit.location :: others else others

def resolve (host : Host σ) (base : BaseClass) (name : String) : Query σ (List Location) := do
  let symbols ← host.workspaceSymbols name
  keep host base (SymbolMatch.ofSymbols name (symbols.getD []))

end ForeignSymbols

end LozengeNav
