import LozengeNav.Proofs.Outline.Node
import LozengeNav.Proofs.Outline.Row

/-! # Class statements

Every class of an outline stands in the source as a class statement: the keyword
where the symbol begins, and the name where it is selected.
-/

namespace LozengeNav

namespace Outline

/-- A source cut at a class statement: what stands before the keyword, between
the keyword and the name, the name, and what follows it. -/
structure ClassStatement where
  before : List Char
  gap : List Char
  name : List Char
  after : List Char

namespace ClassStatement

/-- What stands before the name. -/
def lead (c : ClassStatement) : List Char :=
  c.before ++ "class".toList ++ c.gap

def source (c : ClassStatement) : List Char :=
  c.lead ++ c.name ++ c.after

/-- The keyword and the name are words of their own, with gaps in front of them. -/
structure Lexical (c : ClassStatement) : Prop where
  indent : ∀ d ∈ Text.lastRow c.before, isGap d = true
  gap : ∀ d ∈ Text.lastRow c.gap, isGap d = true
  parted : c.gap ≠ []
  ended : ∀ d ∈ c.after.head?, Text.isNameContinue d = false

/-- A symbol names the class of a statement and spans from its keyword. -/
structure Declares (c : ClassStatement) (sym : OutlineSymbol) : Prop where
  name : sym.name = String.ofList c.name
  start : sym.span.start = Position.origin.advance c.before
  selection : sym.selection = Position.origin.advance c.lead

end ClassStatement

section Statement

variable {s : List Char}

theorem lastRow_behind_lineBreak {before lead after : List Lexeme}
    (h : Lexeme.scan s = before ++ (lead ++ after))
    (hbefore : before = [] ∨ ∃ front l, before = front ++ [l] ∧ l.kind = .lineBreak) :
    Text.lastRow (joined (before ++ lead)) = Text.lastRow (joined lead) := by
  rcases hbefore with rfl | ⟨front, l, rfl, hkind⟩
  · rfl
  · rw [List.append_assoc] at h
    have hfeed : l.text = ['\n'] := text_of_lineBreak (scan_joined h) hkind
    have hcut : joined (front ++ [l] ++ lead) = joined front ++ '\n' :: joined lead := by
      simp [hfeed]
    rw [hcut, Text.lastRow_append_newline]

theorem all_map_lexeme {placed : List Placed} (h : ∀ p ∈ placed, isSpace p.lexeme = true) :
    ∀ l ∈ placed.map Placed.lexeme, isSpace l = true := by
  intro l hl
  obtain ⟨p, hp, rfl⟩ := List.mem_map.1 hl
  exact h p hp

theorem exists_classStatement {sym : OutlineSymbol} (h : sym ∈ outlineOf s)
    (hkind : sym.kind = .type) :
    ∃ c : ClassStatement, c.source = s ∧ c.Lexical ∧ c.Declares sym := by
  obtain ⟨indent, stop, d, opens, hrow, hname, hselection, htype⟩ := declaredIn_of_mem h
  obtain ⟨group, hgroup, hofGroup⟩ := List.mem_filterMap.1 hrow
  obtain ⟨before, behind, hscan, hbefore⟩ := exists_before_group hgroup
  obtain ⟨lead, keyword, gap, name, rest, rfl, hlead, hgap, hkeyword, htext, hword, rfl, hstart⟩ :=
    exists_words_of_ofGroup? hofGroup (htype hkind)
  -- One list of lexemes, cut at each of the two words whose places count.
  have hatKeyword : Placed.scan s =
      (before ++ lead) ++ keyword :: (gap ++ name :: (rest ++ behind)) := by
    rw [hscan]
    simp
  have hatName : Placed.scan s =
      (before ++ lead ++ keyword :: gap) ++ name :: (rest ++ behind) := by
    rw [hscan]
    simp
  have hstartName := Placed.start_of_scan hatName
  have hstartKeyword := Placed.start_of_scan hatKeyword
  have hlexemes := Placed.scan_lexemes hatKeyword
  have hbefore' : before.map Placed.lexeme = [] ∨
      ∃ front l, before.map Placed.lexeme = front ++ [l] ∧ l.kind = .lineBreak := by
    rcases hbefore with rfl | ⟨front, p, rfl, hp⟩
    · exact .inl rfl
    · exact .inr ⟨front.map Placed.lexeme, p.lexeme, by simp, hp⟩
  simp only [List.map_append, List.map_cons, List.append_assoc] at hlexemes hstartName hstartKeyword
  have hfirst := lastRow_behind_lineBreak hlexemes hbefore'
  have hfromLead := scan_joined hlexemes
  have hfromKeyword := scan_joined hfromLead
  obtain ⟨-, -, -, -, -, -, hfromGap⟩ := scan_eq_cons hfromKeyword
  refine ⟨⟨joined (before.map Placed.lexeme ++ lead.map Placed.lexeme),
    joined (gap.map Placed.lexeme), name.lexeme.text,
    joined (rest.map Placed.lexeme ++ behind.map Placed.lexeme)⟩, ?_, ?_, ?_⟩
  · have hjoined := joined_scan s
    rw [hlexemes] at hjoined
    rw [← hjoined]
    simp [ClassStatement.source, ClassStatement.lead, htext]
  · refine ⟨?_, ?_, ?_, ?_⟩
    · rw [hfirst]
      exact isGap_of_mem_lastRow hfromLead (all_map_lexeme hlead) (by simp [hkeyword])
    · exact isGap_of_mem_lastRow hfromGap (all_map_lexeme hgap) (by simp [hword])
    · exact joined_ne_nil_of_words hfromKeyword hkeyword hword
    · exact (word_spec (scan_joined hfromGap) hword).2
  · refine ⟨hname, hstart.trans hstartKeyword, ?_⟩
    rw [hselection]
    refine hstartName.trans (congrArg _ ?_)
    simp [ClassStatement.lead, htext]

end Statement

end Outline

end LozengeNav
