import LozengeNav.Enclosing

/-! # The last class on a line

What the innermost class of an outline is, read off its parts.
-/

namespace LozengeNav

theorem Span.bracketsLine_iff (span : Span) (line : Int) :
    span.bracketsLine line = true ↔ span.start.line ≤ line ∧ line ≤ span.stop.line := by
  rw [Span.bracketsLine, Bool.and_eq_true, decide_eq_true_eq, decide_eq_true_eq]

/-- The innermost class is the last one that has the line. -/
theorem innermostClass?_eq_getLast? (outline : List OutlineSymbol) (line : Int) :
    innermostClass? outline line =
      ((outline.filter fun s => s.kind == .type && s.span.bracketsLine line).getLast?).map
        OutlineSymbol.name := by
  rw [innermostClass?, ← List.head?_filter, List.filter_reverse, List.head?_reverse]

theorem innermostClass?_append (front back : List OutlineSymbol) (line : Int) :
    innermostClass? (front ++ back) line =
      (innermostClass? back line).or (innermostClass? front line) := by
  rw [innermostClass?, List.reverse_append, List.find?_append, Option.map_or]
  rfl

theorem innermostClass?_eq_none {outline : List OutlineSymbol} {line : Int}
    (h : ∀ s ∈ outline, s.kind = .type → s.span.bracketsLine line = false) :
    innermostClass? outline line = none := by
  rw [innermostClass?, Option.map_eq_none_iff, List.find?_eq_none]
  intro s hs
  cases hkind : s.kind <;> simp [h s (List.mem_reverse.mp hs), hkind]

theorem innermostClass?_cons {s : OutlineSymbol} (outline : List OutlineSymbol) {line : Int}
    (hkind : s.kind = .type) (hline : s.span.bracketsLine line = true) :
    innermostClass? (s :: outline) line = (innermostClass? outline line).or (some s.name) := by
  rw [← List.singleton_append, innermostClass?_append]
  simp [innermostClass?, hkind, hline]

end LozengeNav
