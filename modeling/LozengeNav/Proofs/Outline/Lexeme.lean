import LozengeNav.Outline.Lexeme
import LozengeNav.Proofs.Text.Line

/-! # What lexemes are made of

The lexemes behind a lexeme are those of the text behind it, so each lexeme can
be read by itself: a word ends where no character of a name follows, a comment
ends at a line feed, and blanks hold nothing but gaps or end a row.
-/

namespace LozengeNav

namespace Outline

/-! ## Kinds -/

section Classify

variable {c : Char} {rest : List Char}

theorem classify_lineBreak (h : (classify c rest).1 = .lineBreak) :
    c = '\n' ∧ (classify c rest).2 = 0 := by
  revert h
  fun_cases classify c rest <;> simp_all

theorem ne_newline_of_classify (h : (classify c rest).1 ≠ .lineBreak) : c ≠ '\n' := by
  rintro rfl
  exact h (by simp [classify])

theorem classify_comment (h : (classify c rest).1 = .comment) :
    (classify c rest).2 = (rest.takeWhile (· ≠ '\n')).length := by
  revert h
  fun_cases classify c rest <;> simp_all

theorem classify_word (h : (classify c rest).1 = .word) :
    Text.isNameContinue c = true ∧
      (classify c rest).2 = (rest.takeWhile Text.isNameContinue).length := by
  revert h
  fun_cases classify c rest <;> simp_all <;> rfl

theorem classify_blank (h : (classify c rest).1 = .blank) :
    isGap c = true ∧ (classify c rest).2 = (rest.takeWhile isGap).length ∨
      ∃ front, c :: rest.take (classify c rest).2 = front ++ ['\n'] := by
  revert h
  fun_cases classify c rest <;> simp_all
  · exact .inr ⟨['\\'], rfl⟩
  · exact .inr ⟨['\\', '\r'], rfl⟩

end Classify

theorem take_takeWhile (p : Char → Bool) (s : List Char) :
    s.take (s.takeWhile p).length = s.takeWhile p :=
  (List.prefix_iff_eq_take.1 (List.takeWhile_prefix p)).symm

theorem drop_takeWhile (p : Char → Bool) (s : List Char) :
    s.drop (s.takeWhile p).length = s.dropWhile p := by
  have hcut : (s.takeWhile p ++ s.dropWhile p).drop (s.takeWhile p).length = s.dropWhile p :=
    List.drop_left
  rwa [List.takeWhile_append_dropWhile] at hcut

/-! ## Lexemes of a text -/

def joined (lexemes : List Lexeme) : List Char :=
  lexemes.flatMap Lexeme.text

@[simp] theorem joined_cons (l : Lexeme) (rest : List Lexeme) :
    joined (l :: rest) = l.text ++ joined rest :=
  List.flatMap_cons

@[simp] theorem joined_append (before after : List Lexeme) :
    joined (before ++ after) = joined before ++ joined after :=
  List.flatMap_append

theorem joined_scan (s : List Char) : joined (Lexeme.scan s) = s :=
  Lexeme.join_scan s

section Scan

variable {s : List Char} {l : Lexeme} {before after : List Lexeme}

theorem scan_eq_cons (h : Lexeme.scan s = l :: after) :
    ∃ c rest, s = c :: rest ∧ l.kind = (classify c rest).1 ∧
      l.text = c :: rest.take (classify c rest).2 ∧
      joined after = rest.drop (classify c rest).2 ∧ Lexeme.scan (joined after) = after := by
  cases s with
  | nil =>
      rw [Lexeme.scan] at h
      cases h
  | cons c rest =>
      rw [Lexeme.scan, List.cons.injEq] at h
      obtain ⟨rfl, rfl⟩ := h
      have hjoined := joined_scan (rest.drop (classify c rest).2)
      exact ⟨c, rest, rfl, rfl, rfl, hjoined, by rw [hjoined]⟩

theorem scan_joined (h : Lexeme.scan s = before ++ after) : Lexeme.scan (joined after) = after := by
  induction before generalizing s with
  | nil =>
      rw [List.nil_append] at h
      rw [← h, joined_scan]
  | cons l before ih =>
      obtain ⟨c, rest, -, -, -, -, hscan⟩ := scan_eq_cons h
      exact ih hscan

theorem exists_head (h : Lexeme.scan s = l :: after) : ∃ c ∈ l.text, s.head? = some c := by
  obtain ⟨c, rest, rfl, -, htext, -⟩ := scan_eq_cons h
  exact ⟨c, by rw [htext]; exact List.mem_cons_self, rfl⟩

theorem text_of_lineBreak (h : Lexeme.scan s = l :: after) (hkind : l.kind = .lineBreak) :
    l.text = ['\n'] := by
  obtain ⟨c, rest, -, hclass, htext, -, -⟩ := scan_eq_cons h
  obtain ⟨rfl, hlength⟩ := classify_lineBreak (hclass.symm.trans hkind)
  rw [htext, hlength, List.take_zero]

theorem head_ne_newline (h : Lexeme.scan s = l :: after) (hkind : l.kind ≠ .lineBreak) :
    s.head? ≠ some '\n' := by
  obtain ⟨c, rest, rfl, hclass, -⟩ := scan_eq_cons h
  rw [hclass] at hkind
  have hc := ne_newline_of_classify hkind
  simpa using hc

theorem head_after_comment (h : Lexeme.scan s = l :: after) (hkind : l.kind = .comment) :
    ∀ c ∈ (joined after).head?, c = '\n' := by
  obtain ⟨c, rest, -, hclass, -, hafter, -⟩ := scan_eq_cons h
  have hlength := classify_comment (hclass.symm.trans hkind)
  have hstop := List.head?_dropWhile_not (fun c => decide (c ≠ '\n')) rest
  intro d hd
  rw [hafter, hlength, drop_takeWhile] at hd
  rw [hd] at hstop
  simpa using hstop

theorem word_spec (h : Lexeme.scan s = l :: after) (hkind : l.kind = .word) :
    (∀ c ∈ l.text, Text.isNameContinue c = true) ∧
      ∀ c ∈ (joined after).head?, Text.isNameContinue c = false := by
  obtain ⟨c, rest, -, hclass, htext, hafter, -⟩ := scan_eq_cons h
  obtain ⟨hc, hlength⟩ := classify_word (hclass.symm.trans hkind)
  constructor
  · rw [htext, hlength, take_takeWhile, List.forall_mem_cons]
    exact ⟨hc, fun d hd => List.all_eq_true.1 List.all_takeWhile d hd⟩
  · have hstop := List.head?_dropWhile_not Text.isNameContinue rest
    intro d hd
    rw [hafter, hlength, drop_takeWhile] at hd
    rw [hd] at hstop
    exact hstop

theorem text_of_blank (h : Lexeme.scan s = l :: after) (hkind : l.kind = .blank) :
    (∀ c ∈ l.text, isGap c = true) ∨ ∃ front, l.text = front ++ ['\n'] := by
  obtain ⟨c, rest, -, hclass, htext, -⟩ := scan_eq_cons h
  rw [htext]
  refine (classify_blank (hclass.symm.trans hkind)).imp_left fun ⟨hc, hlength⟩ => ?_
  rw [hlength, take_takeWhile, List.forall_mem_cons]
  exact ⟨hc, fun d hd => List.all_eq_true.1 List.all_takeWhile d hd⟩

/-! ## Between lexemes of code -/

/-- Lexemes that say nothing about what a row declares. -/
def isSpace (l : Lexeme) : Bool :=
  l.kind = .blank || l.kind = .lineBreak || l.kind = .comment

theorem isGap_of_mem_lastRow_text (h : Lexeme.scan s = l :: after)
    (hkind : l.kind = .blank ∨ l.kind = .lineBreak) :
    ∀ c ∈ Text.lastRow l.text, isGap c = true := by
  rcases hkind with hblank | hbreak
  · rcases text_of_blank h hblank with hgap | ⟨front, htext⟩
    · exact fun c hc => hgap c (Text.mem_of_mem_behindLast hc)
    · rw [htext, Text.lastRow_append_newline]
      exact List.forall_mem_nil _
  · rw [text_of_lineBreak h hbreak]
    exact List.forall_mem_nil _

theorem newline_mem_after_comment {comment : Lexeme}
    (h : Lexeme.scan s = comment :: (before ++ l :: after)) (hkind : comment.kind = .comment)
    (hcode : l.kind ≠ .lineBreak) : '\n' ∈ joined before := by
  obtain ⟨-, -, -, -, -, -, hscan⟩ := scan_eq_cons h
  have hend := head_after_comment h hkind
  cases before with
  | nil =>
      obtain ⟨c, -, hhead⟩ := exists_head hscan
      exact absurd (hhead.trans (by rw [hend c hhead])) (head_ne_newline hscan hcode)
  | cons d before =>
      obtain ⟨c, hc, hhead⟩ := exists_head hscan
      rw [joined_cons, ← hend c hhead]
      exact List.mem_append_left _ hc

theorem isGap_of_mem_lastRow (h : Lexeme.scan s = before ++ l :: after)
    (hspace : ∀ b ∈ before, isSpace b = true) (hcode : l.kind ≠ .lineBreak) :
    ∀ c ∈ Text.lastRow (joined before), isGap c = true := by
  induction before generalizing s with
  | nil => exact List.forall_mem_nil _
  | cons b before ih =>
      obtain ⟨-, -, -, -, -, -, hscan⟩ := scan_eq_cons h
      have hrest := ih hscan fun d hd => hspace d (List.mem_cons_of_mem _ hd)
      rw [joined_cons]
      by_cases hfeed : '\n' ∈ joined before
      · rwa [Text.lastRow_append_of_mem _ hfeed]
      · rw [Text.lastRow_of_not_mem hfeed] at hrest
        rw [Text.lastRow_append_of_not_mem _ hfeed, List.forall_mem_append]
        have hkind := hspace b List.mem_cons_self
        rw [isSpace, Bool.or_eq_true, Bool.or_eq_true, decide_eq_true_eq, decide_eq_true_eq,
          decide_eq_true_eq] at hkind
        have hplain : b.kind = .blank ∨ b.kind = .lineBreak :=
          hkind.resolve_right fun hcomment => hfeed (newline_mem_after_comment h hcomment hcode)
        exact ⟨isGap_of_mem_lastRow_text h hplain, hrest⟩

theorem joined_ne_nil_of_words {word : Lexeme} (h : Lexeme.scan s = word :: before ++ l :: after)
    (hword : word.kind = .word) (hl : l.kind = .word) : joined before ≠ [] := by
  obtain ⟨-, hend⟩ := word_spec h hword
  obtain ⟨c, rest, -, -, -, -, hscan⟩ := scan_eq_cons h
  obtain ⟨d, hd, hhead⟩ := exists_head (scan_joined hscan)
  intro hnil
  rw [List.append_eq, joined_append, hnil, List.nil_append] at hend
  have hno := hend d hhead
  have hyes := (word_spec (scan_joined hscan) hl).1 d hd
  rw [hno] at hyes
  cases hyes

end Scan

/-! ## Places -/

namespace Placed

theorem map_lexeme_ofLexemes (start : Position) (lexemes : List Lexeme) :
    (ofLexemes start lexemes).map lexeme = lexemes := by
  induction lexemes generalizing start with
  | nil => rfl
  | cons l rest ih => rw [ofLexemes, List.map_cons, ih]

theorem start_ofLexemes {start : Position} {lexemes : List Lexeme} {before after : List Placed}
    {p : Placed} (h : ofLexemes start lexemes = before ++ p :: after) :
    p.start = start.advance (joined (before.map lexeme)) := by
  induction before generalizing start lexemes with
  | nil =>
      cases lexemes with
      | nil => cases h
      | cons l rest =>
          rw [ofLexemes, List.nil_append, List.cons.injEq] at h
          rw [← h.1]
          rfl
  | cons b before ih =>
      cases lexemes with
      | nil => cases h
      | cons l rest =>
          rw [ofLexemes, List.cons_append, List.cons.injEq] at h
          rw [ih h.2, ← h.1, List.map_cons, joined_cons, Position.advance_append]

section Scan

variable {s : List Char} {before after : List Placed} {p : Placed}

theorem scan_lexemes (h : scan s = before ++ p :: after) :
    Lexeme.scan s = before.map lexeme ++ p.lexeme :: after.map lexeme := by
  have hmap := map_lexeme_ofLexemes .origin (Lexeme.scan s)
  rw [← hmap, ← scan, h, List.map_append, List.map_cons]

theorem start_of_scan (h : scan s = before ++ p :: after) :
    p.start = Position.origin.advance (joined (before.map lexeme)) :=
  start_ofLexemes h

end Scan

end Placed

end Outline

end LozengeNav
