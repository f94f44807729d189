import LozengeNav.Data.Datum
import LozengeNav.Symbol

/-!
# Shapes on the wire

How places and symbols are written in messages.  A document outline comes as a forest of symbols or
as a flat list; the symbols of other kinds than classes, functions and methods are dropped, but what
stands below them is not.
-/

namespace LozengeNav

/-! ## Places -/

namespace Position

def ofData (d : Datum) : Position :=
  ⟨(d.natAt? "line").getD 0, (d.natAt? "character").getD 0⟩

def data (p : Position) : Datum :=
  .table [("line", .int p.line), ("character", .int p.column)]

end Position

namespace Span

def ofData (d : Datum) : Span :=
  ⟨Position.ofData ((d.get? "start").getD .null), Position.ofData ((d.get? "end").getD .null)⟩

def data (s : Span) : Datum :=
  .table [("start", s.start.data), ("end", s.stop.data)]

def at? (key : String) (d : Datum) : Option Span :=
  (d.get? key).map ofData

end Span

namespace Location

/-- The location in some data: one without a span stands for the start of its file. -/
def ofData (d : Datum) : Location :=
  ⟨(d.textAt? "uri").getD "", (Span.at? "range" d).getD .origin⟩

def data (l : Location) : Datum :=
  .table [("uri", .text l.uri), ("range", l.span.data)]

/-- The location that one item of an answer about a definition names: a link says where its target is
named, anything else is a location itself. -/
def ofDefinition (d : Datum) : Location :=
  match d.textAt? "targetUri" with
  | some uri => ⟨uri, (Span.at? "targetSelectionRange" d).getD .origin⟩
  | none => ofData d

def ofDefinitions : Datum → List Location
  | .null => []
  | .list items => items.map ofDefinition
  | item => [ofDefinition item]

end Location

/-! ## Symbols -/

namespace SymbolKind

/-- The kind that a number stands for; constructors are methods. -/
def ofCode? (code : Nat) : Option SymbolKind :=
  if code = 5 then some .type
  else if code = 12 then some .function
  else if code = 6 || code = 9 then some .method
  else none

end SymbolKind

inductive SymbolNode where
  | node (name : String) (kind : Nat) (span : Span) (selection : Position)
      (children : List SymbolNode)
  deriving Inhabited

namespace SymbolNode

mutual

def outline (container : Option String) : SymbolNode → List OutlineSymbol
  | node name kind span selection children =>
    ((SymbolKind.ofCode? kind).map fun k => ⟨name, k, span, selection, container⟩).toList ++
      outlines (some name) children

def outlines (container : Option String) : List SymbolNode → List OutlineSymbol
  | [] => []
  | s :: rest => outline container s ++ outlines container rest

end

mutual

def ofData : Datum → SymbolNode
  | .table entries =>
    let d := Datum.table entries
    node ((d.textAt? "name").getD "") ((d.natAt? "kind").getD 0)
      ((Span.at? "range" d).getD .origin) ((Span.at? "selectionRange" d).getD .origin).start
      (children entries)
  | _ => default

def forest : Datum → List SymbolNode
  | .list items => ofItems items
  | _ => []

def ofItems : List Datum → List SymbolNode
  | [] => []
  | d :: rest => ofData d :: ofItems rest

def children : List (String × Datum) → List SymbolNode
  | [] => []
  | (key, d) :: rest => if key = "children" then forest d else children rest

end

end SymbolNode

namespace OutlineSymbol

/-- The symbol of a flat outline: where it stands is all that is known of its name. -/
def ofFlat? (d : Datum) : Option OutlineSymbol :=
  let location := Location.ofData ((d.get? "location").getD .null)
  (SymbolKind.ofCode? ((d.natAt? "kind").getD 0)).map fun kind =>
    ⟨(d.textAt? "name").getD "", kind, location.span, location.span.start,
      d.nonemptyAt? "containerName"⟩

def ofItem (d : Datum) : List OutlineSymbol :=
  match d.get? "location" with
  | some _ => (ofFlat? d).toList
  | none => (SymbolNode.ofData d).outline none

def ofAnswer (d : Datum) : List OutlineSymbol :=
  (d.list?.getD []).flatMap ofItem

end OutlineSymbol

namespace WorkspaceSymbol

def ofItem? (d : Datum) : Option WorkspaceSymbol :=
  (SymbolKind.ofCode? ((d.natAt? "kind").getD 0)).map fun kind =>
    ⟨(d.textAt? "name").getD "", kind, Location.ofData ((d.get? "location").getD .null),
      d.nonemptyAt? "containerName"⟩

def ofAnswer (d : Datum) : List WorkspaceSymbol :=
  (d.list?.getD []).filterMap ofItem?

end WorkspaceSymbol

end LozengeNav
