import LozengeNav.Outline.Row

/-!
# Blocks

The rows of a source as a tree: a row that opens a block holds the rows of the block.  A comment
belongs to the blocks that it is indented for, as long as no dedented code came before it.  The
outline of a tree lists its definitions in pre-order.
-/

namespace LozengeNav

namespace Outline

/-- A row of code, its block, and the span of both. -/
inductive Node where
  | mk (declaration : Option Declaration) (span : Span) (children : List Node)

namespace Node

def span : Node → Span
  | mk _ span _ => span

/-- The symbol of a declaration within the innermost class around it. -/
def symbol (d : Declaration) (span : Span) (container : Option String) : OutlineSymbol :=
  { name := d.name
    kind := if d.kind = .function && container.isSome then .method else d.kind
    span := span
    selection := d.place
    container := container }

mutual

/-- The definitions of a node in pre-order.  Definitions within functions are not listed. -/
def symbols (container : Option String) : Node → List OutlineSymbol
  | mk none _ children => symbolsAll container children
  | mk (some d) span children =>
    symbol d span container ::
      if d.kind = .type then symbolsAll (some d.name) children else []

/-- The definitions of nodes in pre-order. -/
def symbolsAll (container : Option String) : List Node → List OutlineSymbol
  | [] => []
  | node :: rest => symbols container node ++ symbolsAll container rest

end

end Node

/-! ## Building the tree -/

/-- A block that rows are still added to: how far its rows are indented, the row that opens it, and
the nodes in it, the latest first. -/
structure Block where
  indent : Nat
  declaration : Option Declaration
  span : Span
  children : List Node

/-- The open blocks, the innermost first, and the nodes outside of all blocks, the latest first. -/
structure Layout where
  blocks : List Block
  done : List Node

namespace Block

def close (b : Block) : Node :=
  .mk b.declaration b.span b.children.reverse

def extend (b : Block) (stop : Position) : Block :=
  { b with span := ⟨b.span.start, stop⟩ }

/-- The block with one node more, which ends it for now. -/
def add (b : Block) (node : Node) : Block :=
  { b.extend node.span.stop with children := node :: b.children }

end Block

namespace Layout

def empty : Layout :=
  ⟨[], []⟩

def indent (l : Layout) : Nat :=
  (l.blocks.head?.map Block.indent).getD 0

def add (node : Node) : Layout → Layout
  | ⟨[], done⟩ => ⟨[], node :: done⟩
  | ⟨b :: outer, done⟩ => ⟨b.add node :: outer, done⟩

/-- Close blocks from the innermost on while their indentation satisfies `p`. -/
def closeWhile (p : Nat → Bool) (blocks : List Block) (done : List Node) : Layout :=
  match blocks with
  | [] => ⟨[], done⟩
  | [b] => if p b.indent then ⟨[], b.close :: done⟩ else ⟨[b], done⟩
  | b :: c :: outer =>
    if p b.indent then closeWhile p (c.add b.close :: outer) done else ⟨b :: c :: outer, done⟩
termination_by blocks.length

def extend (stop : Position) : Layout → Layout
  | ⟨[], done⟩ => ⟨[], done⟩
  | ⟨b :: outer, done⟩ => ⟨b.extend stop :: outer, done⟩

def addRow (l : Layout) (row : Row) (next : Nat) : Layout :=
  match row with
  | .comment indent stop =>
    (closeWhile (fun top => next < top && indent < top) l.blocks l.done).extend stop
  | .code indent span declaration opens =>
    let l := closeWhile (fun top => indent < top) l.blocks l.done
    if opens && l.indent < next then
      { l with blocks := ⟨next, declaration, span, []⟩ :: l.blocks }
    else l.add (.mk declaration span [])

/-- The indentation of the first row of code, zero if there is none. -/
def nextIndent : List Row → Nat
  | [] => 0
  | .comment .. :: rest => nextIndent rest
  | .code indent .. :: _ => indent

/-- Add rows in order. -/
def addRows (l : Layout) : List Row → Layout
  | [] => l
  | row :: rest => addRows (l.addRow row (nextIndent rest)) rest

def finish (l : Layout) : List Node :=
  (closeWhile (fun _ => true) l.blocks l.done).done.reverse

end Layout

def Node.ofSource (s : List Char) : List Node :=
  (Layout.empty.addRows (rows s)).finish

end Outline

def outlineOf (source : List Char) : List OutlineSymbol :=
  Outline.Node.symbolsAll none (Outline.Node.ofSource source)

end LozengeNav
