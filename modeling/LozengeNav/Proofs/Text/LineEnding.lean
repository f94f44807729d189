import LozengeNav.Proofs.Text.Line

/-! # Lines with their endings

A line is told from its ending by the breaks in it, and unifying the breaks of a
text leaves its lines as they are. So a column within a line is counted alike in
the text that an editor sends and in the text that is read from the file.
-/

namespace LozengeNav

namespace Text

namespace Line

/-- A line holds no break, its ending is at most one, and one of them is there. -/
structure Sound (l : Line) : Prop where
  text : ∀ c ∈ l.text, isBreak c = false
  ending : l.ending = [] ∨ l.ending = ['\r', '\n'] ∨ ∃ c, isBreak c = true ∧ l.ending = [c]
  whole : l.whole ≠ []

theorem sound_push {c : Char} (hc : isBreak c = false) {ls : List Line}
    (h : ∀ l ∈ ls, l.Sound) : ∀ l ∈ push c ls, l.Sound := by
  cases ls with
  | nil =>
      have htext : ∀ d ∈ [c], isBreak d = false := List.forall_mem_singleton.2 hc
      exact List.forall_mem_singleton.2 ⟨htext, .inl rfl, List.cons_ne_nil c _⟩
  | cons first rest =>
      obtain ⟨hfirst, hrest⟩ := List.forall_mem_cons.1 h
      refine List.forall_mem_cons.2 ⟨⟨?_, hfirst.ending, List.cons_ne_nil c _⟩, hrest⟩
      exact List.forall_mem_cons.2 ⟨hc, hfirst.text⟩

theorem sound_of_mem_split {s : List Char} : ∀ l ∈ split s, l.Sound := by
  have hnone : ∀ c ∈ ([] : List Char), isBreak c = false := List.forall_mem_nil _
  fun_induction split s with
  | case1 => exact List.forall_mem_nil _
  | case2 rest ih =>
      exact List.forall_mem_cons.2 ⟨⟨hnone, .inr (.inl rfl), List.cons_ne_nil _ _⟩, ih⟩
  | case3 c rest _ hc ih =>
      refine List.forall_mem_cons.2 ⟨⟨hnone, .inr (.inr ⟨c, hc, rfl⟩), ?_⟩, ih⟩
      exact List.cons_ne_nil _ _
  | case4 c rest _ hc ih => exact sound_push (by simpa using hc) ih

theorem ending_ne_nil_of_getLast? {s : List Char} (hend : ∀ c ∈ s.getLast?, isBreak c = true)
    {l : Line} (hl : (split s).getLast? = some l) : l.ending ≠ [] := by
  intro hnone
  have hsound := sound_of_mem_split l (List.mem_of_getLast? hl)
  have hwhole : l.whole = l.text := by rw [Line.whole, hnone, List.append_nil]
  have htext : l.text ≠ [] := hwhole ▸ hsound.whole
  obtain ⟨front, hfront⟩ := List.getLast?_eq_some_iff.1 hl
  have hcut : s = front.flatMap Line.whole ++ l.text := by
    rw [← join_split s, hfront, List.flatMap_append, ← hwhole]
    simp
  have hlast : s.getLast? = some (l.text.getLast htext) := by
    rw [hcut, List.getLast?_append, List.getLast?_eq_some_getLast htext]
    rfl
  have hbreak := hend _ hlast
  rw [hsound.text _ (List.getLast_mem htext)] at hbreak
  cases hbreak

end Line

/-! ## Unified breaks -/

theorem lines_pair (s : List Char) : lines ('\r' :: '\n' :: s) = [] :: lines s := by
  rw [lines, Line.split]
  rfl

theorem lines_break_of_not_pair {c : Char} {s : List Char} (hc : isBreak c = true)
    (hpair : ¬ (c = '\r' ∧ s.head? = some '\n')) : lines (c :: s) = [] :: lines s := by
  rw [lines, Line.split, if_pos hc]
  · rfl
  · rintro rest rfl rfl
    exact hpair ⟨rfl, rfl⟩

theorem lines_cons {c : Char} (s : List Char) (hc : isBreak c = false) :
    lines (c :: s) = (c :: (lines s).headD []) :: (lines s).tail := by
  rw [lines, Line.split, if_neg (by simp [hc])]
  · rw [lines]
    cases Line.split s <;> rfl
  · rintro rest rfl
    exact absurd hc (by decide)

theorem lines_unifyBreaks (s : List Char) : lines (unifyBreaks s) = lines s := by
  fun_induction unifyBreaks s with
  | case1 => rfl
  | case2 rest ih => rw [lines_break _ (by decide) (by decide), ih, lines_pair]
  | case3 c rest hpair ih =>
      have hpair' : ¬ (c = '\r' ∧ rest.head? = some '\n') := by
        rintro ⟨rfl, hhead⟩
        obtain ⟨more, rfl⟩ := List.head?_eq_some_iff.1 hhead
        exact hpair more rfl rfl
      cases hc : isBreak c with
      | true =>
          rw [lines_break_of_not_pair hc hpair', ← ih]
          by_cases hreturn : c = '\r'
          · rw [if_pos hreturn, lines_break _ (by decide) (by decide)]
          · rw [if_neg hreturn, lines_break _ hc hreturn]
      | false => rw [if_neg (ne_return_of_plain hc), lines_cons _ hc, lines_cons _ hc, ih]

theorem length_wholeLines (s : List Char) : (wholeLines s).length = (lines s).length := by
  rw [wholeLines, lines, List.length_map, List.length_map]

theorem exists_ending_of_line {s : List Char} {i : Nat} {line : List Char}
    (h : (lines s)[i]? = some line) :
    ∃ ending, Line.Sound ⟨line, ending⟩ ∧ (wholeLines s)[i]? = some (line ++ ending) := by
  rw [lines, List.getElem?_map, Option.map_eq_some_iff] at h
  obtain ⟨l, hl, rfl⟩ := h
  refine ⟨l.ending, Line.sound_of_mem_split l (List.mem_of_getElem? hl), ?_⟩
  rw [wholeLines, List.getElem?_map, hl]
  rfl

/-! ## Rows -/

theorem rows_newline (s : List Char) : rows ('\n' :: s) = [] :: rows s := by
  rw [rows, List.splitOn_cons_eq_if_modifyHead]
  rfl

theorem rows_cons {c : Char} (s : List Char) (hc : c ≠ '\n') :
    rows (c :: s) = (rows s).modifyHead (c :: ·) := by
  rw [rows, List.splitOn_cons_eq_if_modifyHead, if_neg (by simpa using hc)]
  rfl

theorem head?_rows (s : List Char) : (rows s)[0]? = some (s.takeWhile (· ≠ '\n')) := by
  induction s with
  | nil => rfl
  | cons c rest ih =>
      by_cases hc : c = '\n'
      · subst hc
        rw [rows_newline]
        rfl
      · rw [rows_cons rest hc, List.getElem?_modifyHead, ih]
        simp [hc]

theorem getElem?_rows (before after : List Char) :
    (rows (before ++ after))[before.count '\n']? =
      some (lastRow before ++ after.takeWhile (· ≠ '\n')) := by
  induction before with
  | nil => exact head?_rows after
  | cons c before ih =>
      by_cases hc : c = '\n'
      · subst hc
        have hrow : lastRow ('\n' :: before) = lastRow before := lastRow_append_newline [] before
        rw [List.cons_append, rows_newline, List.count_cons_self, List.getElem?_cons_succ, ih, hrow]
      · rw [List.cons_append, rows_cons _ hc, List.count_cons_of_ne hc, List.getElem?_modifyHead, ih]
        by_cases hfeed : '\n' ∈ before
        · have hrow : lastRow (c :: before) = lastRow before := lastRow_append_of_mem [c] hfeed
          rw [if_neg (Nat.ne_of_gt (List.count_pos_iff.2 hfeed)), hrow]
        · have hplain : '\n' ∉ c :: before := by simp [Ne.symm hc, hfeed]
          rw [if_pos (List.count_eq_zero.2 hfeed), lastRow_of_not_mem hplain,
            lastRow_of_not_mem hfeed]
          rfl

end Text

end LozengeNav
