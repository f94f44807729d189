import LozengeNav.Fault
import LozengeNav.Symbol
import LozengeNav.Text.Utf8

/-!
# Syntax trees

The outline of a syntax tree that a parser makes of the bytes of a source.  The parser gives a place
as a row and a number of bytes on it; an outline counts code points.
-/

namespace LozengeNav

namespace Text

namespace Utf8

def lineFeed : UInt8 :=
  0x0A

/-- A place between two bytes. -/
structure BytePlace where
  row : Nat
  /-- The number of bytes before the place on its row. -/
  column : Nat
  deriving DecidableEq, Repr

/-- A place among some bytes, counted in code points.  A place on no row keeps its column. -/
def BytePlace.position (bytes : List UInt8) (p : BytePlace) : Position :=
  match (bytes.splitOn lineFeed)[p.row]? with
  | some row => ⟨p.row, (decodeLossy (row.take p.column)).length⟩
  | none => ⟨p.row, p.column⟩

end Utf8

end Text

namespace Outline

open Text.Utf8 (BytePlace)

inductive SyntaxKind where
  | classDefinition
  | functionDefinition
  | other
  deriving DecidableEq, Repr

/-- The name of a definition, in bytes. -/
structure WrittenName where
  text : List UInt8
  place : BytePlace
  deriving DecidableEq, Repr

def WrittenName.read (n : WrittenName) : Except Fault String :=
  match Text.Utf8.decode? n.text with
  | some name => .ok (String.ofList name)
  | none => .error .undecodable

/-- A node of a syntax tree, from its first byte up to the place behind its last. -/
inductive SyntaxNode where
  | mk (kind : SyntaxKind) (start stop : BytePlace) (name : Option WrittenName)
      (children : List SyntaxNode)

namespace SyntaxNode

/-- The symbol of a definition within the innermost class around it. -/
def symbol (bytes : List UInt8) (kind : SymbolKind) (start stop : BytePlace) (name : String)
    (place : BytePlace) (container : Option String) : OutlineSymbol :=
  { name := name
    kind := kind
    span := ⟨start.position bytes, stop.position bytes⟩
    selection := place.position bytes
    container := container }

mutual

/-- The definitions of a node in pre-order.  A definition without a name is looked through, and
definitions within functions are not listed. -/
def symbols (bytes : List UInt8) (container : Option String) :
    SyntaxNode → Except Fault (List OutlineSymbol)
  | mk kind start stop name children =>
    match kind, name.filter fun n => !n.text.isEmpty with
    | .classDefinition, some written => do
      let name ← written.read
      let inner ← symbolsAll bytes (some name) children
      return symbol bytes .type start stop name written.place container :: inner
    | .functionDefinition, some written => do
      let name ← written.read
      let kind := if container.isSome then .method else .function
      return [symbol bytes kind start stop name written.place container]
    | _, _ => symbolsAll bytes container children

def symbolsAll (bytes : List UInt8) (container : Option String) :
    List SyntaxNode → Except Fault (List OutlineSymbol)
  | [] => .ok []
  | node :: rest => do
    let first ← symbols bytes container node
    return first ++ (← symbolsAll bytes container rest)

end

end SyntaxNode

end Outline

end LozengeNav
