import LozengeNav.Proofs.Enclosing.Innermost
import LozengeNav.Protocol.Shape
import Mathlib.Data.List.Basic

/-! # The innermost class of a forest of symbols

An outline lists a forest of symbols in pre-order and drops the symbols that are no
classes, functions or methods. If the lines of a symbol enclose those of its children
and siblings share no line, the symbols on one line stand below one another, so
the last class of the outline that has the line is the deepest class of the forest
that has it.
-/

namespace LozengeNav

namespace SymbolNode

/-! ## Symbols in their places -/

def name : SymbolNode → String
  | node name _ _ _ _ => name

def kind : SymbolNode → Nat
  | node _ kind _ _ _ => kind

def span : SymbolNode → Span
  | node _ _ span _ _ => span

def selection : SymbolNode → Position
  | node _ _ _ selection _ => selection

def inside : SymbolNode → List SymbolNode
  | node _ _ _ _ children => children

/-- A symbol in its place: its parent, if it has one, and how many symbols are around it. -/
structure Occurrence where
  parent : Option SymbolNode
  depth : Nat
  symbol : SymbolNode

mutual

/-- A symbol and all that is below it, in pre-order. -/
def occurrences (parent : Option SymbolNode) (depth : Nat) : SymbolNode → List Occurrence
  | node name kind span selection children =>
    ⟨parent, depth, node name kind span selection children⟩ ::
      occurrencesAll (some (node name kind span selection children)) (depth + 1) children

/-- Some siblings and all that is below them, in pre-order. -/
def occurrencesAll (parent : Option SymbolNode) (depth : Nat) : List SymbolNode → List Occurrence
  | [] => []
  | s :: rest => occurrences parent depth s ++ occurrencesAll parent depth rest

end

namespace Occurrence

/-- The entry of a symbol in an outline, none if its kind is dropped. Its container is its
parent, whatever kind that has. -/
def entry? (o : Occurrence) : Option OutlineSymbol :=
  (SymbolKind.ofCode? o.symbol.kind).map fun kind =>
    ⟨o.symbol.name, kind, o.symbol.span, o.symbol.selection, o.parent.map SymbolNode.name⟩

def isClassAt (line : Int) (o : Occurrence) : Bool :=
  SymbolKind.ofCode? o.symbol.kind == some .type && o.symbol.span.bracketsLine line

end Occurrence

theorem ofAnswer_eq_outlines {items : List Datum}
    (h : ∀ d ∈ items, d.get? "location" = none) :
    OutlineSymbol.ofAnswer (.list items) = outlines none (ofItems items) := by
  induction items with
  | nil => rfl
  | cons d rest ih =>
      obtain ⟨hd, hrest⟩ := List.forall_mem_cons.mp h
      rw [ofItems, outlines, ← ih hrest]
      simp only [OutlineSymbol.ofAnswer, Datum.list?, Option.getD_some, List.flatMap_cons,
        OutlineSymbol.ofItem, hd]

mutual

theorem outline_eq_filterMap (parent : Option SymbolNode) (depth : Nat) (s : SymbolNode) :
    s.outline (parent.map name) = (occurrences parent depth s).filterMap Occurrence.entry? := by
  match s with
  | node name kind span selection children =>
      have hinside := outlines_eq_filterMap (some (node name kind span selection children))
        (depth + 1) children
      rw [occurrences, outline, List.filterMap_cons, ← hinside]
      cases hkind : SymbolKind.ofCode? kind <;>
        simp [Occurrence.entry?, hkind, SymbolNode.name, SymbolNode.kind, SymbolNode.span,
          SymbolNode.selection]

/-- The outline keeps the symbols of the forest that are not dropped, in pre-order, each below the
name of its parent. -/
theorem outlines_eq_filterMap (parent : Option SymbolNode) (depth : Nat)
    (forest : List SymbolNode) :
    outlines (parent.map name) forest =
      (occurrencesAll parent depth forest).filterMap Occurrence.entry? := by
  match forest with
  | [] => rfl
  | s :: rest =>
      rw [occurrencesAll, outlines, List.filterMap_append, outline_eq_filterMap parent depth s,
        outlines_eq_filterMap parent depth rest]

end

theorem map_name_filter_entries (line : Int) (found : List Occurrence) :
    ((found.filterMap Occurrence.entry?).filter fun s =>
      s.kind == .type && s.span.bracketsLine line).map OutlineSymbol.name =
        (found.filter (·.isClassAt line)).map fun o => o.symbol.name := by
  induction found with
  | nil => rfl
  | cons o rest ih =>
      cases hkind : SymbolKind.ofCode? o.symbol.kind with
      | none => simpa [Occurrence.entry?, Occurrence.isClassAt, hkind] using ih
      | some kind =>
          have hentry : o.entry? = some ⟨o.symbol.name, kind, o.symbol.span, o.symbol.selection,
              o.parent.map SymbolNode.name⟩ := by
            rw [Occurrence.entry?, hkind]
            rfl
          have hclass : o.isClassAt line = (kind == .type && o.symbol.span.bracketsLine line) := by
            rw [Occurrence.isClassAt, hkind]
            rfl
          rw [List.filterMap_cons_some hentry, List.filter_cons, List.filter_cons, hclass]
          split
          · exact congrArg (List.cons o.symbol.name) ih
          · exact ih

/-- The innermost class is the last class of the forest, in pre-order, that has the line. -/
theorem innermostClass?_outlines_eq (forest : List SymbolNode) (line : Int) :
    innermostClass? (outlines none forest) line =
      (((occurrencesAll none 0 forest).filter (·.isClassAt line)).getLast?).map
        fun o => o.symbol.name := by
  rw [innermostClass?_eq_getLast?, ← List.getLast?_map, ← List.getLast?_map,
    ← map_name_filter_entries, ← outlines_eq_filterMap]
  rfl

/-! ## Nested lines -/

/-- No line belongs to both of two symbols. -/
def Apart (s t : SymbolNode) : Prop :=
  ∀ line, s.span.bracketsLine line = true → t.span.bracketsLine line = false

/-- Siblings are apart, and the lines of each symbol are lines of its parent. -/
inductive Laminar : List SymbolNode → Prop
  | intro {forest : List SymbolNode} (apart : forest.Pairwise Apart)
      (within : ∀ s ∈ forest, ∀ t ∈ s.inside, ∀ line, t.span.bracketsLine line = true →
        s.span.bracketsLine line = true)
      (inside : ∀ s ∈ forest, Laminar s.inside) : Laminar forest

theorem occurrences_eq (parent : Option SymbolNode) (depth : Nat) (s : SymbolNode) :
    occurrences parent depth s =
      ⟨parent, depth, s⟩ :: occurrencesAll (some s) (depth + 1) s.inside := by
  cases s
  rfl

theorem occurrencesAll_eq_flatMap (parent : Option SymbolNode) (depth : Nat)
    (forest : List SymbolNode) :
    occurrencesAll parent depth forest = forest.flatMap (occurrences parent depth) := by
  induction forest with
  | nil => rfl
  | cons s rest ih => rw [occurrencesAll, List.flatMap_cons, ih]

section Laminar

variable {forest : List SymbolNode}

/-- A line of what is below a symbol is a line of the symbol, and what is below is deeper. -/
theorem Laminar.nested (h : Laminar forest) {s : SymbolNode} (hs : s ∈ forest)
    {parent : Option SymbolNode} {depth : Nat} {o : Occurrence}
    (ho : o ∈ occurrences parent depth s) :
    depth ≤ o.depth ∧
      ∀ line, o.symbol.span.bracketsLine line = true → s.span.bracketsLine line = true := by
  induction h generalizing s parent depth with
  | intro apart within inside ih =>
      rw [occurrences_eq, occurrencesAll_eq_flatMap] at ho
      rcases List.mem_cons.mp ho with rfl | ho
      · exact ⟨Nat.le_refl depth, fun line hline => hline⟩
      · obtain ⟨t, ht, ho⟩ := List.mem_flatMap.mp ho
        obtain ⟨hdepth, hlines⟩ := ih s hs ht ho
        exact ⟨by omega, fun line hline => within s hs t ht line (hlines line hline)⟩

/-- Of two symbols that have a line the later one is deeper. -/
theorem Laminar.pairwise (h : Laminar forest) (line : Int) (parent : Option SymbolNode)
    (depth : Nat) :
    (occurrencesAll parent depth forest).Pairwise fun o o' =>
      o.symbol.span.bracketsLine line = true → o'.symbol.span.bracketsLine line = true →
        o.depth < o'.depth := by
  induction h generalizing parent depth with
  | @intro forest apart within inside ih =>
      rw [occurrencesAll_eq_flatMap, List.pairwise_flatMap]
      refine ⟨fun s hs => ?_,
        apart.imp_of_mem fun {s t} hs ht hapart o ho o' ho' hline hline' => ?_⟩
      · rw [occurrences_eq, List.pairwise_cons]
        refine ⟨fun o ho _ _ => ?_, ih s hs _ _⟩
        rw [occurrencesAll_eq_flatMap] at ho
        obtain ⟨t, ht, ho⟩ := List.mem_flatMap.mp ho
        exact ((inside s hs).nested ht ho).1
      · have hlaminar := Laminar.intro apart within inside
        have hs' := (hlaminar.nested hs ho).2 line hline
        have ht' := (hlaminar.nested ht ho').2 line hline'
        rw [hapart line hs'] at ht'
        exact absurd ht' Bool.false_ne_true

theorem Laminar.nil : Laminar [] :=
  .intro .nil (by simp) (by simp)

theorem Laminar.cons {s : SymbolNode}
    (apart : ∀ t ∈ forest, s.span.stop.line < t.span.start.line)
    (within : ∀ t ∈ s.inside, s.span.start.line ≤ t.span.start.line ∧
      t.span.stop.line ≤ s.span.stop.line)
    (hinside : Laminar s.inside) (h : Laminar forest) : Laminar (s :: forest) := by
  obtain ⟨hapart, hwithin, hrest⟩ := h
  refine .intro (List.pairwise_cons.mpr ⟨fun t ht line hline => ?_, hapart⟩)
    (List.forall_mem_cons.mpr ⟨fun t ht line hline => ?_, hwithin⟩)
    (List.forall_mem_cons.mpr ⟨hinside, hrest⟩)
  · have hlt := apart t ht
    rw [Span.bracketsLine_iff] at hline
    rw [← Bool.not_eq_true, Span.bracketsLine_iff]
    omega
  · have hle := within t ht
    rw [Span.bracketsLine_iff] at hline ⊢
    omega

end Laminar

/-- In a forest with nested lines the innermost class of a line is the deepest class that has it,
and there is none exactly if no class has it. The container of an entry is the parent
of its symbol in the forest, be it dropped or not. -/
theorem innermostClass?_outlines {forest : List SymbolNode} (h : Laminar forest) :
    (∀ items, (∀ d ∈ items, d.get? "location" = none) → ofItems items = forest →
      OutlineSymbol.ofAnswer (.list items) = outlines none forest) ∧
    outlines none forest = (occurrencesAll none 0 forest).filterMap Occurrence.entry? ∧
    ∀ line,
      (∃ o ∈ occurrencesAll none 0 forest, o.isClassAt line = true ∧
        (∀ o' ∈ occurrencesAll none 0 forest, o'.isClassAt line = true →
          o' = o ∨ o'.depth < o.depth) ∧
        innermostClass? (outlines none forest) line = some o.symbol.name) ∨
      ((∀ o ∈ occurrencesAll none 0 forest, o.isClassAt line = false) ∧
        innermostClass? (outlines none forest) line = none) := by
  refine ⟨fun items hsymbols hitems => hitems ▸ ofAnswer_eq_outlines hsymbols,
    outlines_eq_filterMap none 0 forest, fun line => ?_⟩
  rw [innermostClass?_outlines_eq]
  have hpairwise := (h.pairwise line none 0).filter (·.isClassAt line)
  have hline : ∀ o : Occurrence, o.isClassAt line = true →
      o.symbol.span.bracketsLine line = true := fun o ho => by
    rw [Occurrence.isClassAt, Bool.and_eq_true] at ho
    exact ho.2
  rcases List.eq_nil_or_concat' ((occurrencesAll none 0 forest).filter (·.isClassAt line)) with
    hnone | ⟨before, last, hclasses⟩
  · refine .inr ⟨fun o ho => ?_, by rw [hnone]; rfl⟩
    simpa using List.filter_eq_nil_iff.mp hnone o ho
  · rw [hclasses, List.pairwise_append] at hpairwise
    have hmem : ∀ o, o ∈ before ∨ o = last ↔
        o ∈ occurrencesAll none 0 forest ∧ o.isClassAt line = true := fun o => by
      rw [← List.mem_filter, hclasses, List.mem_append, List.mem_singleton]
    obtain ⟨hlast, hclass⟩ := (hmem last).mp (.inr rfl)
    refine .inl ⟨last, hlast, hclass, fun o ho hat => ?_, by simp [hclasses]⟩
    rcases (hmem o).mpr ⟨ho, hat⟩ with hbefore | rfl
    · exact .inr (hpairwise.2.2 o hbefore last (List.mem_singleton.mpr rfl) (hline o hat)
        (hline last hclass))
    · exact .inl rfl

/-- A class with a property, in which another class with a method stands, and a class behind it. -/
def propertyForest : List SymbolNode :=
  [node "A" 5 ⟨⟨0, 0⟩, ⟨5, 9⟩⟩ ⟨0, 6⟩
      [node "p" 7 ⟨⟨1, 4⟩, ⟨4, 9⟩⟩ ⟨1, 8⟩
        [node "B" 5 ⟨⟨2, 8⟩, ⟨3, 30⟩⟩ ⟨2, 14⟩ [node "f" 6 ⟨⟨3, 12⟩, ⟨3, 30⟩⟩ ⟨3, 16⟩ []]]],
    node "C" 5 ⟨⟨6, 0⟩, ⟨7, 9⟩⟩ ⟨6, 6⟩ []]

theorem laminar_propertyForest : Laminar propertyForest := by
  have hmethod := Laminar.cons (s := node "f" 6 ⟨⟨3, 12⟩, ⟨3, 30⟩⟩ ⟨3, 16⟩ []) (by decide)
    (by decide) .nil .nil
  refine .cons (by decide) (by decide) ?_ (.cons (by decide) (by decide) .nil .nil)
  exact .cons (by decide) (by decide) (.cons (by decide) (by decide) hmethod .nil) .nil

/-- On the line of the method the innermost class is that in the property, which is its
container. -/
theorem innermostClass?_outlines_property :
    Laminar propertyForest ∧
      outlines none propertyForest =
        [⟨"A", .type, ⟨⟨0, 0⟩, ⟨5, 9⟩⟩, ⟨0, 6⟩, none⟩,
          ⟨"B", .type, ⟨⟨2, 8⟩, ⟨3, 30⟩⟩, ⟨2, 14⟩, some "p"⟩,
          ⟨"f", .method, ⟨⟨3, 12⟩, ⟨3, 30⟩⟩, ⟨3, 16⟩, some "B"⟩,
          ⟨"C", .type, ⟨⟨6, 0⟩, ⟨7, 9⟩⟩, ⟨6, 6⟩, none⟩] ∧
      innermostClass? (outlines none propertyForest) 3 = some "B" ∧
      innermostClass? (outlines none propertyForest) 8 = none := by
  obtain ⟨-, houtline, hinnermost⟩ := innermostClass?_outlines laminar_propertyForest
  have hclasses : ∀ o ∈ occurrencesAll none 0 propertyForest, o.isClassAt 3 = true →
      o.symbol.name = "B" ∨ o.depth = 0 := by decide
  have hdeep : ∃ o ∈ occurrencesAll none 0 propertyForest, o.isClassAt 3 = true ∧ o.depth = 2 := by
    decide
  have hbehind : ∀ o ∈ occurrencesAll none 0 propertyForest, o.isClassAt 8 = false := by decide
  refine ⟨laminar_propertyForest, houtline.trans rfl, ?_, ?_⟩
  · obtain ⟨o', ho', hclass', hdepth⟩ := hdeep
    rcases hinnermost 3 with ⟨o, ho, hclass, hdeepest, hname⟩ | ⟨hnone, -⟩
    · rcases hclasses o ho hclass with hB | hdepth'
      · rw [hname, hB]
      · rcases hdeepest o' ho' hclass' with rfl | hlt <;> omega
    · simp [hnone o' ho'] at hclass'
  · rcases hinnermost 8 with ⟨o, ho, hclass, -, -⟩ | ⟨-, hnone⟩
    · simp [hbehind o ho] at hclass
    · exact hnone

end SymbolNode

end LozengeNav
