import LozengeNav.Outline.Node

/-! # Where symbols come from

Every symbol of an outline is that of a row that declares it. Adding rows,
closing blocks and moving their ends keep it so: a block begins where the row
begins that opens it, and ends where some row ends.
-/

namespace LozengeNav

namespace Outline

/-- A symbol is declared by one of some rows, and spans from the start of it. -/
def DeclaredIn (rows : List Row) (sym : OutlineSymbol) : Prop :=
  ∃ indent stop d opens, Row.code indent ⟨sym.span.start, stop⟩ (some d) opens ∈ rows ∧
    sym.name = d.name ∧ sym.selection = d.place ∧ (sym.kind = .type → d.kind = .type)

/-- What is declared at a place is declared by a row that begins there. -/
def Heads (rows : List Row) (declaration : Option Declaration) (start : Position) : Prop :=
  ∀ d, declaration = some d →
    ∃ indent stop opens, Row.code indent ⟨start, stop⟩ (some d) opens ∈ rows

def Row.stop : Row → Position
  | comment _ stop => stop
  | code _ span _ _ => span.stop

/-- A place where one of some rows ends. -/
def Ends (rows : List Row) (stop : Position) : Prop :=
  ∃ row ∈ rows, row.stop = stop

/-- A node and all nodes inside it are made of some rows. -/
inductive Node.Sound (rows : List Row) : Node → Prop
  | mk {declaration : Option Declaration} {span : Span} {children : List Node}
      (hhead : Heads rows declaration span.start) (hstop : Ends rows span.stop)
      (hchildren : ∀ node ∈ children, Node.Sound rows node) :
      Node.Sound rows (.mk declaration span children)

section Symbols

variable {rows : List Row}

theorem Node.mem_symbolsAll {container : Option String} {nodes : List Node} {sym : OutlineSymbol} :
    sym ∈ symbolsAll container nodes ↔ ∃ node ∈ nodes, sym ∈ node.symbols container := by
  induction nodes with
  | nil => simp [symbolsAll]
  | cons node rest ih => simp [symbolsAll, ih]

theorem Node.Sound.ends {node : Node} (h : node.Sound rows) : Ends rows node.span.stop := by
  cases h with
  | mk _ hstop _ => exact hstop

/-- All symbols of a node are declared by its rows, whatever class is around it. -/
theorem Node.Sound.declaredIn {node : Node} (h : node.Sound rows) (container : Option String) :
    ∀ sym ∈ node.symbols container, DeclaredIn rows sym := by
  induction h generalizing container with
  | @mk declaration span children hhead _ _ ih =>
      have hinner : ∀ container, ∀ sym ∈ symbolsAll container children, DeclaredIn rows sym := by
        intro container sym hsym
        obtain ⟨node, hnode, hmem⟩ := mem_symbolsAll.1 hsym
        exact ih node hnode container sym hmem
      intro sym hsym
      cases declaration with
      | none =>
          rw [symbols] at hsym
          exact hinner container sym hsym
      | some d =>
          rw [symbols, List.mem_cons] at hsym
          rcases hsym with rfl | hsym
          · obtain ⟨indent, stop, opens, hrow⟩ := hhead d rfl
            refine ⟨indent, stop, d, opens, hrow, rfl, rfl, fun hkind => ?_⟩
            simp only [symbol] at hkind
            split at hkind
            · cases hkind
            · exact hkind
          · split at hsym
            · exact hinner _ sym hsym
            · cases hsym

end Symbols

/-! ## Blocks -/

/-- A block is opened by one of some rows, ends with one and holds only what they declare. -/
structure Block.Sound (rows : List Row) (b : Block) : Prop where
  head : Heads rows b.declaration b.span.start
  stop : Ends rows b.span.stop
  children : ∀ node ∈ b.children, node.Sound rows

/-- All that is open or done comes from some rows. -/
structure Layout.Sound (rows : List Row) (l : Layout) : Prop where
  blocks : ∀ b ∈ l.blocks, b.Sound rows
  done : ∀ node ∈ l.done, node.Sound rows

section Layout

variable {rows : List Row}

theorem Block.Sound.close {b : Block} (h : b.Sound rows) : b.close.Sound rows :=
  .mk h.head h.stop fun node hnode => h.children node (List.mem_reverse.1 hnode)

theorem Block.Sound.extend {b : Block} (h : b.Sound rows) {stop : Position}
    (hstop : Ends rows stop) : (b.extend stop).Sound rows :=
  ⟨h.head, hstop, h.children⟩

theorem Block.Sound.add {b : Block} (h : b.Sound rows) {node : Node} (hnode : node.Sound rows) :
    (b.add node).Sound rows :=
  ⟨h.head, hnode.ends, List.forall_mem_cons.2 ⟨hnode, h.children⟩⟩

theorem Layout.Sound.add {l : Layout} (h : l.Sound rows) {node : Node} (hnode : node.Sound rows) :
    (l.add node).Sound rows := by
  obtain ⟨blocks, done⟩ := l
  cases blocks with
  | nil => exact ⟨h.blocks, List.forall_mem_cons.2 ⟨hnode, h.done⟩⟩
  | cons b outer =>
      obtain ⟨hb, houter⟩ := List.forall_mem_cons.1 h.blocks
      exact ⟨List.forall_mem_cons.2 ⟨hb.add hnode, houter⟩, h.done⟩

theorem Layout.Sound.extend {l : Layout} (h : l.Sound rows) {stop : Position}
    (hstop : Ends rows stop) : (l.extend stop).Sound rows := by
  obtain ⟨blocks, done⟩ := l
  cases blocks with
  | nil => exact h
  | cons b outer =>
      obtain ⟨hb, houter⟩ := List.forall_mem_cons.1 h.blocks
      exact ⟨List.forall_mem_cons.2 ⟨hb.extend hstop, houter⟩, h.done⟩

theorem Layout.sound_closeWhile (p : Nat → Bool) {blocks : List Block} {done : List Node}
    (hblocks : ∀ b ∈ blocks, b.Sound rows) (hdone : ∀ node ∈ done, node.Sound rows) :
    (closeWhile p blocks done).Sound rows := by
  fun_induction closeWhile p blocks done with
  | case1 => exact ⟨hblocks, hdone⟩
  | case2 b hp =>
      obtain ⟨hb, hnone⟩ := List.forall_mem_cons.1 hblocks
      exact ⟨hnone, List.forall_mem_cons.2 ⟨hb.close, hdone⟩⟩
  | case3 => exact ⟨hblocks, hdone⟩
  | case4 b c outer hp ih =>
      obtain ⟨hb, hrest⟩ := List.forall_mem_cons.1 hblocks
      obtain ⟨hc, houter⟩ := List.forall_mem_cons.1 hrest
      exact ih (List.forall_mem_cons.2 ⟨hc.add hb.close, houter⟩)
  | case5 => exact ⟨hblocks, hdone⟩

theorem Layout.Sound.addRow {l : Layout} (h : l.Sound rows) {row : Row} (hrow : row ∈ rows)
    (next : Nat) : (l.addRow row next).Sound rows := by
  cases row with
  | comment indent stop => exact (sound_closeWhile _ h.blocks h.done).extend ⟨_, hrow, rfl⟩
  | code indent span declaration opens =>
      have hclosed := sound_closeWhile (fun top => indent < top) h.blocks h.done
      have hhead : Heads rows declaration span.start := by
        rintro d rfl
        exact ⟨indent, span.stop, opens, hrow⟩
      have hstop : Ends rows span.stop := ⟨_, hrow, rfl⟩
      rw [Layout.addRow]
      split
      · exact ⟨List.forall_mem_cons.2 ⟨⟨hhead, hstop, List.forall_mem_nil _⟩, hclosed.blocks⟩,
          hclosed.done⟩
      · exact hclosed.add (.mk hhead hstop (List.forall_mem_nil _))

theorem Layout.Sound.addRows {l : Layout} (h : l.Sound rows) {more : List Row}
    (hmore : ∀ row ∈ more, row ∈ rows) : (l.addRows more).Sound rows := by
  induction more generalizing l with
  | nil => exact h
  | cons row rest ih =>
      obtain ⟨hrow, hrest⟩ := List.forall_mem_cons.1 hmore
      exact ih (h.addRow hrow _) hrest

theorem Layout.Sound.finish {l : Layout} (h : l.Sound rows) : ∀ node ∈ l.finish, node.Sound rows := by
  intro node hnode
  exact (sound_closeWhile _ h.blocks h.done).done node (List.mem_reverse.1 hnode)

end Layout

theorem Node.sound_ofSource (source : List Char) :
    ∀ node ∈ ofSource source, node.Sound (rows source) := by
  have hempty : Layout.empty.Sound (rows source) := ⟨List.forall_mem_nil _, List.forall_mem_nil _⟩
  exact (hempty.addRows fun row hrow => hrow).finish

theorem declaredIn_of_mem {source : List Char} {sym : OutlineSymbol} (h : sym ∈ outlineOf source) :
    DeclaredIn (rows source) sym := by
  obtain ⟨node, hnode, hmem⟩ := Node.mem_symbolsAll.1 h
  exact (Node.sound_ofSource source node hnode).declaredIn none sym hmem

end Outline

end LozengeNav
