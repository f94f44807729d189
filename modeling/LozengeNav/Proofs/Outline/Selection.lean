import LozengeNav.Proofs.Outline.Node
import LozengeNav.Proofs.Outline.Row
import LozengeNav.Proofs.Text.Identifier

/-! # Where symbols are selected

A symbol of an outline is selected at a word of the source, whatever it is a symbol
of, so a character stands there that is no break.
-/

namespace LozengeNav

namespace Text

theorem isBreak_of_isNameContinue {c : Char} (h : isNameContinue c = true) : isBreak c = false := by
  by_cases hascii : c.toNat < 0x80
  · rw [isNameContinue, if_pos hascii] at h
    exact isBreak_of_isWord h
  · rw [isNameContinue, if_neg hascii] at h
    cases hbreak : isBreak c with
    | false => rfl
    | true =>
        have hcode : c.toNat = 0x85 ∨ c.toNat = 0x2028 ∨ c.toNat = 0x2029 := by
          simp only [isBreak, Bool.or_eq_true, Bool.and_eq_true, decide_eq_true_eq,
            beq_iff_eq] at hbreak
          omega
        rcases hcode with hcode | hcode | hcode <;> rw [hcode] at h <;>
          exact absurd h (by decide +kernel)

end Text

namespace Outline

theorem exists_name_of_declaration? {words : List Placed} {d : Declaration}
    (h : declaration? words = some d) : ∃ name ∈ words, d = declared d.kind name := by
  cases words with
  | nil => cases h
  | cons first rest =>
      unfold declaration? at h
      simp only at h
      split at h
      · cases h
        exact ⟨_, by simp, rfl⟩
      · cases h
        exact ⟨_, by simp, rfl⟩
      · split at h
        · cases h
          exact ⟨_, by simp, rfl⟩
        · cases h
      · cases h

theorem mem_of_mem_leadingWords {placed : List Placed} {p : Placed} (h : p ∈ leadingWords placed) :
    p ∈ placed ∧ p.lexeme.kind = .word := by
  induction placed with
  | nil => exact absurd h List.not_mem_nil
  | cons q rest ih =>
      rw [leadingWords] at h
      split at h
      · next hword =>
          rcases List.mem_cons.1 h with rfl | h
          · exact ⟨List.mem_cons_self, hword⟩
          · exact ⟨List.mem_cons_of_mem _ (ih h).1, (ih h).2⟩
      · exact absurd h List.not_mem_nil

theorem exists_word_of_ofGroup? {group : List Placed} {indent : Nat} {span : Span}
    {d : Declaration} {opens : Bool}
    (h : Row.ofGroup? group = some (.code indent span (some d) opens)) :
    ∃ name ∈ group, name.lexeme.kind = .word ∧ d = declared d.kind name := by
  unfold Row.ofGroup? at h
  simp only at h
  split at h
  · cases h
  · next first others hsolid =>
      rw [← hsolid, solid, List.filter_filter] at h
      split at h
      · cases h
      · next head more hcode =>
          simp only [Option.some.injEq, Row.code.injEq] at h
          obtain ⟨-, -, hdeclaration, -⟩ := h
          obtain ⟨name, hname, hdeclared⟩ := exists_name_of_declaration? hdeclaration
          obtain ⟨hmem, hword⟩ := mem_of_mem_leadingWords hname
          rw [← hcode] at hmem
          exact ⟨name, (List.mem_filter.1 hmem).1, hword, hdeclared⟩

/-- The name that a row declares stands in the source at its place. -/
theorem exists_name_of_row {s : List Char} {indent : Nat} {span : Span} {d : Declaration}
    {opens : Bool} (h : Row.code indent span (some d) opens ∈ rows s) :
    ∃ before rest, s = before ++ (d.name.toList ++ rest) ∧ d.name.toList ≠ [] ∧
      (∀ c ∈ d.name.toList, Text.isBreak c = false) ∧ d.place = Position.origin.advance before := by
  obtain ⟨group, hgroup, hofGroup⟩ := List.mem_filterMap.1 h
  obtain ⟨name, hname, hword, hdeclared⟩ := exists_word_of_ofGroup? hofGroup
  obtain ⟨before, behind, hscan, -⟩ := exists_before_group hgroup
  obtain ⟨front, back, hcut⟩ := List.append_of_mem
    (hscan ▸ List.mem_append_right before (List.mem_append_left behind hname))
  have hlexemes := Placed.scan_lexemes hcut
  have htext := joined_scan s
  rw [hlexemes, joined_append, joined_cons] at htext
  have hfromName := scan_joined hlexemes
  have hlist : d.name.toList = name.lexeme.text := by
    rw [hdeclared, declared, String.toList_ofList]
  refine ⟨joined (front.map Placed.lexeme), joined (back.map Placed.lexeme), ?_, ?_, ?_, ?_⟩
  · rw [hlist, htext]
  · obtain ⟨c, rest, -, -, hhead, -⟩ := scan_eq_cons hfromName
    rw [hlist, hhead]
    exact List.cons_ne_nil _ _
  · rw [hlist]
    exact fun c hc => Text.isBreak_of_isNameContinue ((word_spec hfromName hword).1 c hc)
  · rw [hdeclared]
    exact Placed.start_of_scan hcut

theorem exists_before_selection {s : List Char} {sym : OutlineSymbol} (h : sym ∈ outlineOf s) :
    ∃ before c rest, s = before ++ c :: rest ∧ Text.isBreak c = false ∧
      sym.selection = Position.origin.advance before := by
  obtain ⟨indent, stop, d, opens, hrow, -, hselection, -⟩ := declaredIn_of_mem h
  obtain ⟨before, rest, hs, hne, hplain, hplace⟩ := exists_name_of_row hrow
  obtain ⟨c, tail, hname⟩ := List.exists_cons_of_ne_nil hne
  rw [hname] at hs hplain
  exact ⟨before, c, tail ++ rest, hs, hplain c List.mem_cons_self, hselection.trans hplace⟩

end Outline

end LozengeNav
