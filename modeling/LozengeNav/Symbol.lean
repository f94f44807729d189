import LozengeNav.Location

/-!
# Symbols

What an index of the foreign code base says about its classes, functions and methods.
-/

namespace LozengeNav

inductive SymbolKind where
  | type
  | function
  | method
  deriving DecidableEq, Repr, Inhabited

/-- An entry of a document outline.  An outline is a flat list in pre-order. -/
structure OutlineSymbol where
  name : String
  kind : SymbolKind
  span : Span
  /-- The first character of the name. -/
  selection : Position
  /-- The simple name of the enclosing class, if any. -/
  container : Option String
  deriving DecidableEq, Repr, Inhabited

structure WorkspaceSymbol where
  name : String
  kind : SymbolKind
  location : Location
  container : Option String
  deriving DecidableEq, Repr, Inhabited

namespace OutlineSymbol

/-- The span of the name, counted in code points from its first character. -/
def nameSpan (s : OutlineSymbol) : Span :=
  ⟨s.selection, ⟨s.selection.line, s.selection.column + s.name.length⟩⟩

end OutlineSymbol

end LozengeNav
