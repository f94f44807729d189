import LozengeNav.Outline.Row
import LozengeNav.Proofs.Outline.Lexeme

/-! # Rows of classes

A row that declares a class begins, behind blanks, with the keyword and the name
as its first two words. In the source there is nothing but gaps in front of the
keyword, as far as the row of the place goes, and between the two words.
-/

namespace LozengeNav

namespace Outline

/-! ## Groups -/

theorem groups_spec (depth : Nat) (placed : List Placed) :
    ∃ first more, groups depth placed = first :: more ∧ (∃ after, placed = first ++ after) ∧
      ∀ group ∈ more, ∃ before p after,
        placed = before ++ p :: (group ++ after) ∧ p.lexeme.kind = .lineBreak := by
  induction placed generalizing depth with
  | nil => exact ⟨[], [], rfl, ⟨[], rfl⟩, List.forall_mem_nil _⟩
  | cons p rest ih =>
      rw [groups]
      split
      · next hbreak =>
          rw [Bool.and_eq_true, decide_eq_true_eq] at hbreak
          obtain ⟨first, more, hgroups, ⟨after, hafter⟩, hmore⟩ := ih 0
          refine ⟨[], groups 0 rest, rfl, ⟨p :: rest, rfl⟩, ?_⟩
          rw [hgroups, List.forall_mem_cons]
          refine ⟨⟨[], p, after, by rw [hafter]; rfl, hbreak.1⟩, fun group hgroup => ?_⟩
          obtain ⟨before, q, behind, hcut, hkind⟩ := hmore group hgroup
          exact ⟨p :: before, q, behind, by rw [hcut]; rfl, hkind⟩
      · obtain ⟨first, more, hgroups, ⟨after, hafter⟩, hmore⟩ :=
          ih (depthAfter depth p.lexeme.kind)
        refine ⟨p :: first, more, by rw [hgroups]; rfl, ⟨after, by rw [hafter]; rfl⟩,
          fun group hgroup => ?_⟩
        obtain ⟨before, q, behind, hcut, hkind⟩ := hmore group hgroup
        exact ⟨p :: before, q, behind, by rw [hcut]; rfl, hkind⟩

theorem exists_before_group {depth : Nat} {placed group : List Placed}
    (h : group ∈ groups depth placed) :
    ∃ before after, placed = before ++ (group ++ after) ∧
      (before = [] ∨ ∃ front p, before = front ++ [p] ∧ p.lexeme.kind = .lineBreak) := by
  obtain ⟨first, more, hgroups, ⟨after, hafter⟩, hmore⟩ := groups_spec depth placed
  rw [hgroups, List.mem_cons] at h
  rcases h with rfl | hgroup
  · exact ⟨[], after, hafter, .inl rfl⟩
  · obtain ⟨before, p, behind, hcut, hkind⟩ := hmore group hgroup
    exact ⟨before ++ [p], behind, by rw [hcut, List.append_assoc]; rfl, .inr ⟨before, p, rfl, hkind⟩⟩

/-! ## Declarations -/

theorem declaration?_type {words : List Placed} {d : Declaration}
    (h : declaration? words = some d) (hkind : d.kind = .type) :
    ∃ keyword name more, words = keyword :: name :: more ∧
      keyword.lexeme.text = "class".toList ∧ d = declared .type name := by
  cases words with
  | nil => cases h
  | cons first rest =>
      unfold declaration? at h
      simp only at h
      split at h
      · next name more htext =>
          cases h
          refine ⟨first, name, more, rfl, ?_, rfl⟩
          rw [← htext, String.toList_ofList]
      · cases h
        cases hkind
      · split at h
        · cases h
          cases hkind
        · cases h
      · cases h

theorem leadingWords_eq_cons {placed more : List Placed} {p : Placed}
    (h : leadingWords placed = p :: more) :
    ∃ rest, placed = p :: rest ∧ p.lexeme.kind = .word ∧ leadingWords rest = more := by
  cases placed with
  | nil => cases h
  | cons q rest =>
      rw [leadingWords] at h
      split at h
      · next hword =>
          rw [List.cons.injEq] at h
          obtain ⟨rfl, hmore⟩ := h
          exact ⟨rest, rfl, hword, hmore⟩
      · cases h

theorem isSpace_of_not {p : Placed}
    (h : ¬ (decide (p.lexeme.kind ≠ .comment) &&
      (decide (p.lexeme.kind ≠ .blank) && decide (p.lexeme.kind ≠ .lineBreak))) = true) :
    isSpace p.lexeme = true := by
  cases hkind : p.lexeme.kind <;> simp_all [isSpace]

theorem exists_words_of_ofGroup? {group : List Placed} {indent : Nat} {span : Span}
    {d : Declaration} {opens : Bool}
    (h : Row.ofGroup? group = some (.code indent span (some d) opens)) (hkind : d.kind = .type) :
    ∃ lead keyword gap name rest,
      group = lead ++ keyword :: (gap ++ name :: rest) ∧
      (∀ p ∈ lead, isSpace p.lexeme = true) ∧ (∀ p ∈ gap, isSpace p.lexeme = true) ∧
      keyword.lexeme.kind = .word ∧ keyword.lexeme.text = "class".toList ∧
      name.lexeme.kind = .word ∧ d = declared .type name ∧ span.start = keyword.start := by
  unfold Row.ofGroup? at h
  simp only at h
  split at h
  · cases h
  · next first others hsolid =>
      rw [← hsolid, solid, List.filter_filter] at h
      split at h
      · cases h
      · next head more hcode =>
          simp only [Option.some.injEq, Row.code.injEq] at h
          obtain ⟨-, rfl, hdeclaration, -⟩ := h
          obtain ⟨keyword, name, words, hwords, htext, rfl⟩ := declaration?_type hdeclaration hkind
          obtain ⟨rest, hrest, hkeyword, hmore⟩ := leadingWords_eq_cons hwords
          obtain ⟨tail, rfl, hname, -⟩ := leadingWords_eq_cons hmore
          rw [List.cons.injEq] at hrest
          obtain ⟨rfl, rfl⟩ := hrest
          obtain ⟨lead, behind, rfl, hlead, -, hbehind⟩ := List.filter_eq_cons_iff.1 hcode
          obtain ⟨gap, after, rfl, hgap, -, -⟩ := List.filter_eq_cons_iff.1 hbehind
          exact ⟨lead, head, gap, name, after, rfl, fun p hp => isSpace_of_not (hlead p hp),
            fun p hp => isSpace_of_not (hgap p hp), hkeyword, htext, hname, rfl, rfl⟩

end Outline

end LozengeNav
