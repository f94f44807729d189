import LozengeNav.Proofs.Enclosing.Lines
import LozengeNav.SourceIndex

/-! # What symbols cover

The span of a definition takes in its name and the definitions inside it.
-/

namespace LozengeNav

def Span.Within (inner outer : Span) : Prop :=
  outer.start ≤ inner.start ∧ inner.stop ≤ outer.stop

namespace Span

instance (inner outer : Span) : Decidable (inner.Within outer) :=
  inferInstanceAs (Decidable (_ ∧ _))

theorem Within.refl (s : Span) : s.Within s :=
  ⟨le_refl _, le_refl _⟩

theorem Within.trans {s t u : Span} (hst : s.Within t) (htu : t.Within u) : s.Within u :=
  ⟨htu.1.trans hst.1, hst.2.trans htu.2⟩

end Span

namespace Outline

/-! ## Definitions in their spans -/

def Scoped.nameSpan (x : Scoped) : Span :=
  ⟨x.declaration.place, x.declaration.stop⟩

namespace Node

theorem Framed.within {n m : Node} (h : n.Framed) (hm : m ∈ n.inside) :
    m.span.Within n.span := by
  obtain ⟨-, -, hwithin⟩ := h
  obtain ⟨hstart, -, hstop⟩ := hwithin m hm
  exact ⟨Position.le_of_line_lt hstart, hstop⟩

mutual

theorem within_of_linewise (n : Node) (h : n.linewise = true) {around : List Declaration}
    {x : Scoped} (hx : x ∈ n.definitions around) :
    x.nameSpan.Within x.span ∧ x.span.Within n.span := by
  match n with
  | mk declaration span children =>
      obtain ⟨hframed, hinside⟩ := linewise_iff.mp h
      rcases mem_definitions hx with ⟨d, hd, rfl⟩ | ⟨m, hm, hx⟩
      · exact ⟨(hframed.2.1 d hd).2, .refl _⟩
      · obtain ⟨hname, hspan⟩ := within_of_linewiseAll children hinside hm hx
        exact ⟨hname, hspan.trans (hframed.within hm)⟩

theorem within_of_linewiseAll (nodes : List Node) (h : linewiseAll nodes = true) {n : Node}
    (hn : n ∈ nodes) {around : List Declaration} {x : Scoped} (hx : x ∈ n.definitions around) :
    x.nameSpan.Within x.span ∧ x.span.Within n.span := by
  match nodes with
  | [] => cases hn
  | m :: rest =>
      obtain ⟨hm, -, hrest⟩ := linewiseAll_cons.mp h
      rcases List.mem_cons.mp hn with hfirst | hn
      · rw [hfirst] at hx ⊢
        exact within_of_linewise m hm hx
      · exact within_of_linewiseAll rest hrest hn hx

end

theorem outlineOf_eq_map (source : List Char) :
    outlineOf source =
      ((definitionsAll [] (ofSource source)).filter fun x => !inFunction x.around).map
        Scoped.entry :=
  symbolsAll_eq_map rfl (ofSource source) (nests_ofSource source).kinds

theorem mem_outlineOf {source : List Char} {sym : OutlineSymbol} :
    sym ∈ outlineOf source ↔
      ∃ x ∈ definitionsAll [] (ofSource source), inFunction x.around = false ∧ x.entry = sym := by
  simp [outlineOf_eq_map, List.mem_map, List.mem_filter, and_assoc]

end Node

theorem nameSpan_within {source : List Char} {sym : OutlineSymbol} (h : sym ∈ outlineOf source) :
    sym.nameSpan.Within sym.span := by
  obtain ⟨x, hx, -, rfl⟩ := Node.mem_outlineOf.mp h
  rw [Node.definitionsAll_eq_flatMap, List.mem_flatMap] at hx
  obtain ⟨n, hn, hx⟩ := hx
  exact (Node.within_of_linewiseAll _ (Node.linewiseAll_ofSource source) hn hx).1

end Outline

end LozengeNav
