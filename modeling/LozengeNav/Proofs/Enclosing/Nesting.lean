import LozengeNav.Proofs.Enclosing.Innermost
import LozengeNav.Proofs.Enclosing.Scope
import LozengeNav.Proofs.Text.Line

/-! # Trees with nested lines

If the lines of a tree nest and definitions of which none is inside the other share
no line, the innermost class at the name of a function is the nearest class around
it. Trees whose nodes follow each other line by line are of this kind.
-/

namespace LozengeNav

namespace Outline

def Declaration.stop (d : Declaration) : Position :=
  ⟨d.place.line, d.place.column + d.name.length⟩

theorem Declaration.stop_line (d : Declaration) : d.stop.line = d.place.line :=
  rfl

namespace Node

/-! ## Lines of definitions -/

/-- No line belongs to a definition of each of two nodes. -/
def Apart (m n : Node) : Prop :=
  ∀ x ∈ m.definitions [], ∀ y ∈ n.definitions [], ∀ line,
    x.span.bracketsLine line = true → y.span.bracketsLine line = false

/-- The lines of each node are lines of the node around it, a definition has its name on a line of
its own, and definitions that are not inside each other are apart. -/
inductive Nests : List Node → Prop
  | intro {nodes : List Node} (apart : nodes.Pairwise Apart)
      (named : ∀ n ∈ nodes, ∀ d ∈ n.declaration,
        d.kind ≠ .method ∧ n.span.bracketsLine d.place.line = true)
      (within : ∀ n ∈ nodes, ∀ m ∈ n.inside, ∀ line, m.span.bracketsLine line = true →
        n.span.bracketsLine line = true)
      (inside : ∀ n ∈ nodes, Nests n.inside) : Nests nodes

theorem Nests.nested {nodes : List Node} (h : Nests nodes) {n : Node} (hn : n ∈ nodes)
    {around : List Declaration} {x : Scoped} (hx : x ∈ n.definitions around) :
    x.declaration.kind ≠ .method ∧ x.span.bracketsLine x.declaration.place.line = true ∧
      ∀ line, x.span.bracketsLine line = true → n.span.bracketsLine line = true := by
  induction h generalizing n around with
  | intro apart named within inside ih =>
      rcases mem_definitions hx with ⟨d, hd, rfl⟩ | ⟨m, hm, hx⟩
      · exact ⟨(named n hn d hd).1, (named n hn d hd).2, fun line hline => hline⟩
      · obtain ⟨hkind, hplace, hlines⟩ := ih n hn hm hx
        exact ⟨hkind, hplace, fun line hline => within n hn m hm line (hlines line hline)⟩

/-- An entry has its name on a line of its own, which is a line of the node that it is in. -/
theorem Nests.selection {nodes : List Node} (h : Nests nodes) {n : Node} (hn : n ∈ nodes)
    {container : Option String} {s : OutlineSymbol} (hs : s ∈ n.symbols container) :
    s.span.bracketsLine s.selection.line = true ∧ n.span.bracketsLine s.selection.line = true := by
  obtain ⟨x, hx, hspan, hselection⟩ := exists_definition [] hs
  obtain ⟨-, hplace, hlines⟩ := h.nested hn hx
  rw [hspan, hselection]
  exact ⟨hplace, hlines _ hplace⟩

theorem Apart.symm {m n : Node} (h : Apart m n) : Apart n m := by
  intro y hy x hx line hline
  rw [← Bool.not_eq_true]
  intro hx'
  rw [h x hx y hy line hx'] at hline
  exact Bool.false_ne_true hline

theorem Apart.symbols {m n : Node} (h : Apart m n) {container : Option String}
    {s t : OutlineSymbol} (hs : s ∈ m.symbols container) (ht : t ∈ n.symbols container) {line : Int}
    (hline : s.span.bracketsLine line = true) : t.span.bracketsLine line = false := by
  obtain ⟨x, hx, hspan, -⟩ := exists_definition [] hs
  obtain ⟨y, hy, hspan', -⟩ := exists_definition [] ht
  rw [hspan']
  exact h x hx y hy line (hspan ▸ hline)

theorem symbolsAll_append (container : Option String) (before after : List Node) :
    symbolsAll container (before ++ after) =
      symbolsAll container before ++ symbolsAll container after := by
  induction before with
  | nil => rfl
  | cons n before ih => rw [List.cons_append, symbolsAll, symbolsAll, ih, List.append_assoc]

/-- On the line of an entry there are no classes but those of its node. -/
theorem Nests.innermostClass?_node {nodes : List Node} (h : Nests nodes) {n : Node}
    (hn : n ∈ nodes) {container : Option String} {s : OutlineSymbol}
    (hs : s ∈ n.symbols container) :
    innermostClass? (symbolsAll container nodes) s.selection.line =
      innermostClass? (n.symbols container) s.selection.line := by
  have hline := (h.selection hn hs).1
  obtain ⟨before, after, rfl⟩ := List.append_of_mem hn
  obtain ⟨apart, -, -, -⟩ := h
  obtain ⟨-, hafter, hbefore⟩ := List.pairwise_append.mp apart
  have hnone : ∀ others : List Node, (∀ m ∈ others, Apart n m) →
      innermostClass? (symbolsAll container others) s.selection.line = none := by
    intro others hothers
    refine innermostClass?_eq_none fun t ht _ => ?_
    obtain ⟨m, hm, ht⟩ := mem_symbolsAll.mp ht
    exact (hothers m hm).symbols hs ht hline
  rw [symbolsAll_append, symbolsAll, innermostClass?_append, innermostClass?_append,
    hnone after fun m => List.rel_of_pairwise_cons hafter,
    hnone before fun m hm => (hbefore m hm n List.mem_cons_self).symm, Option.none_or,
    Option.or_none]

/-- On the line of an entry that is no class, the innermost class is the class around it. -/
theorem Nests.innermostClass?_symbolsAll {nodes : List Node} (h : Nests nodes)
    {container : Option String} {s : OutlineSymbol} (hs : s ∈ symbolsAll container nodes)
    (hkind : s.kind ≠ .type) :
    (innermostClass? (symbolsAll container nodes) s.selection.line).or container =
      s.container := by
  induction h generalizing container s with
  | @intro nodes apart named within inside ih =>
      have hnests := Nests.intro apart named within inside
      obtain ⟨n, hn, hs⟩ := mem_symbolsAll.mp hs
      have hline := (hnests.selection hn hs).2
      rw [hnests.innermostClass?_node hn hs]
      match n with
      | mk none span children => exact ih _ hn hs hkind
      | mk (some d) span children =>
          cases hd : d.kind with
          | type =>
              have hclass : (symbol d span container).kind = .type := by
                simp [symbol, hd]
              rw [symbols, if_pos hd] at hs ⊢
              rcases List.mem_cons.mp hs with rfl | hs
              · exact absurd hclass hkind
              · rw [innermostClass?_cons _ hclass hline, Option.or_assoc, Option.some_or]
                exact ih _ hn hs hkind
          | function =>
              rw [symbols, if_neg (by simp [hd]), List.mem_singleton] at hs
              subst hs
              rw [symbols, if_neg (by simp [hd]), innermostClass?_eq_none, Option.none_or, symbol]
              rintro t ht htype
              rw [List.mem_singleton.mp ht] at htype
              exact absurd htype hkind
          | method => exact absurd hd (named _ hn d rfl).1

theorem Nests.kinds {nodes : List Node} (h : Nests nodes) :
    ∀ x ∈ definitionsAll [] nodes, x.declaration.kind ≠ .method := by
  intro x hx
  rw [definitionsAll_eq_flatMap] at hx
  obtain ⟨n, hn, hx⟩ := List.mem_flatMap.mp hx
  exact (h.nested hn hx).1

/-! ## Trees line by line -/

/-- The name of a node and what is inside it lie within its span, what is inside on lines behind
its name. -/
def Framed (n : Node) : Prop :=
  n.span.start ≤ n.span.stop ∧
    (∀ d ∈ n.declaration, d.kind ≠ .method ∧ n.span.start ≤ d.place ∧ d.stop ≤ n.span.stop) ∧
    ∀ m ∈ n.inside, n.span.start.line < m.span.start.line ∧
      (∀ d ∈ n.declaration, d.place.line < m.span.start.line) ∧ m.span.stop ≤ n.span.stop

instance (n : Node) : Decidable n.Framed :=
  inferInstanceAs (Decidable (_ ∧ _ ∧ _))

mutual

/-- Whether a node and all nodes inside it are framed and follow each other line by line. -/
def linewise : Node → Bool
  | mk declaration span children =>
    Framed (mk declaration span children) && linewiseAll children

def linewiseAll : List Node → Bool
  | [] => true
  | n :: rest =>
    linewise n && rest.all (fun m => n.span.stop.line < m.span.start.line) && linewiseAll rest

end

theorem linewise_iff {n : Node} :
    n.linewise = true ↔ n.Framed ∧ linewiseAll n.inside = true := by
  cases n
  rw [linewise, Bool.and_eq_true, decide_eq_true_eq, inside]

theorem linewiseAll_cons {n : Node} {rest : List Node} :
    linewiseAll (n :: rest) = true ↔
      n.linewise = true ∧ (∀ m ∈ rest, n.span.stop.line < m.span.start.line) ∧
        linewiseAll rest = true := by
  simp only [linewiseAll, Bool.and_eq_true, List.all_eq_true, decide_eq_true_eq, and_assoc]

theorem Nests.nil : Nests [] :=
  .intro .nil (by simp) (by simp) (by simp)

theorem Framed.nests {n : Node} (h : n.Framed) (hinside : Nests n.inside) : Nests [n] := by
  obtain ⟨-, hnamed, hwithin⟩ := h
  refine .intro (List.pairwise_singleton _ _) (List.forall_mem_singleton.mpr fun d hd => ?_)
    (List.forall_mem_singleton.mpr fun m hm line hline => ?_)
    (List.forall_mem_singleton.mpr hinside)
  · obtain ⟨hkind, hstart, hstop⟩ := hnamed d hd
    have hfirst := Position.line_le hstart
    have hlast := Position.line_le hstop
    rw [Declaration.stop_line] at hlast
    refine ⟨hkind, ?_⟩
    rw [Span.bracketsLine_iff]
    omega
  · obtain ⟨hstart, -, hstop⟩ := hwithin m hm
    have hlast := Position.line_le hstop
    rw [Span.bracketsLine_iff] at hline ⊢
    omega

theorem Nests.append {before after : List Node} (hbefore : Nests before) (hafter : Nests after)
    (apart : ∀ m ∈ before, ∀ n ∈ after, m.span.stop.line < n.span.start.line) :
    Nests (before ++ after) := by
  have hlines : ∀ m ∈ before, ∀ n ∈ after, Apart m n := by
    intro m hm n hn x hx y hy line hline
    have hx := (hbefore.nested hm hx).2.2 line hline
    have hlt := apart m hm n hn
    rw [← Bool.not_eq_true]
    intro hline
    have hy := (hafter.nested hn hy).2.2 line hline
    rw [Span.bracketsLine_iff] at hx hy
    omega
  obtain ⟨apart₁, named₁, within₁, inside₁⟩ := hbefore
  obtain ⟨apart₂, named₂, within₂, inside₂⟩ := hafter
  exact .intro (List.pairwise_append.mpr ⟨apart₁, apart₂, hlines⟩)
    (List.forall_mem_append.mpr ⟨named₁, named₂⟩) (List.forall_mem_append.mpr ⟨within₁, within₂⟩)
    (List.forall_mem_append.mpr ⟨inside₁, inside₂⟩)

mutual

theorem nests_of_linewise (n : Node) (h : n.linewise = true) : Nests [n] := by
  match n with
  | mk declaration span children =>
      obtain ⟨hframed, hinside⟩ := linewise_iff.mp h
      exact hframed.nests (nests_of_linewiseAll children hinside)

theorem nests_of_linewiseAll (nodes : List Node) (h : linewiseAll nodes = true) : Nests nodes := by
  match nodes with
  | [] => exact .nil
  | n :: rest =>
      obtain ⟨hn, hapart, hrest⟩ := linewiseAll_cons.mp h
      exact (nests_of_linewise n hn).append (nests_of_linewiseAll rest hrest)
        (List.forall_mem_singleton.mpr hapart)

end

end Node

end Outline

end LozengeNav
