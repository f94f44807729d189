import LozengeNav.Host

/-!
# Enclosing classes

The class around a line, read off an outline.  In a pre-order list a nested class follows the class
around it, so the last class that brackets the line is the innermost one.
-/

namespace LozengeNav

/-- The name of the last class of an outline that brackets a line. -/
def innermostClass? (outline : List OutlineSymbol) (line : Int) : Option String :=
  (outline.reverse.find? fun s => s.kind == .type && s.span.bracketsLine line).map
    OutlineSymbol.name

def enclosingClass? {σ : Type} (host : Host σ) (uri : String) (position : Position) :
    Query σ (Option String) := do
  let outline ← host.documentOutline uri
  return innermostClass? (outline.getD []) position.line

end LozengeNav
