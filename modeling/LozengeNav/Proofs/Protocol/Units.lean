import LozengeNav.Proofs.Text.LineEnding
import LozengeNav.Protocol.Units

/-! # Columns in units

The units of a part of a line lead back to that part, as long as a character
counts the same in both directions. A place in a row is told in units of the line
of the same number; it keeps its row, and its column is measured back on the row
unless a stray break stands before it.
-/

namespace LozengeNav

namespace Text

theorem units_cons (e : Encoding) (c : Char) (s : List Char) :
    units e (c :: s) = (if isAstral c then e.measure else 1) + units e s :=
  rfl

theorem units_append (e : Encoding) (s u : List Char) : units e (s ++ u) = units e s + units e u := by
  induction s with
  | nil => simp [units]
  | cons c rest ih => rw [List.cons_append, units_cons, units_cons, ih, Nat.add_assoc]

theorem length_le_units (e : Encoding) (s : List Char) : s.length ≤ units e s := by
  induction s with
  | nil => exact Nat.zero_le _
  | cons c rest ih =>
      have hone : 1 ≤ if isAstral c then e.measure else 1 := by
        split
        · cases e <;> decide
        · exact Nat.le_refl 1
      rw [units_cons, List.length_cons]
      omega

theorem charsWithin_zero (e : Encoding) (s : List Char) : charsWithin e 0 s = 0 := by
  cases s <;> rfl

theorem charsWithin_units (s u : List Char) :
    charsWithin .utf16 (units .utf16 s) (s ++ u) = s.length := by
  induction s with
  | nil => exact charsWithin_zero .utf16 u
  | cons c rest ih =>
      have hstep : ∀ n, charsWithin .utf16 ((if isAstral c then 2 else 1) + n) (c :: (rest ++ u)) =
          charsWithin .utf16 n (rest ++ u) + 1 := by
        intro n
        split
        · next hastral =>
            have hsum : 2 + n = n + 1 + 1 := by omega
            rw [hsum, charsWithin, if_pos hastral]
            rfl
        · next hplain =>
            rw [Nat.add_comm 1 n, charsWithin, if_neg hplain]
            rfl
      rw [units_cons, List.cons_append, List.length_cons, ← ih]
      exact hstep _

end Text

namespace Position

open Text

theorem unifyBreaks_append {line : List Char} (h : ∀ c ∈ line, isBreak c = false)
    (ending : List Char) : unifyBreaks (line ++ ending) = line ++ unifyBreaks ending := by
  induction line with
  | nil => rfl
  | cons c rest ih =>
      obtain ⟨hc, hrest⟩ := List.forall_mem_cons.1 h
      rw [List.cons_append, unifyBreaks_cons _ (ne_return_of_plain hc), ih hrest, List.cons_append]

theorem ofUnits_of_line {s line : List Char} {p : Position} (h : (lines s)[p.line]? = some line)
    (hcolumn : p.column ≤ line.length) :
    ofUnits .utf16 (wholeLines s) ⟨p.line, units .utf16 (line.take p.column)⟩ = p := by
  obtain ⟨ending, hsound, hwhole⟩ := exists_ending_of_line h
  have hcut : unifyBreaks (line ++ ending) =
      line.take p.column ++ (line.drop p.column ++ unifyBreaks ending) := by
    rw [unifyBreaks_append hsound.text, ← List.append_assoc, List.take_append_drop]
  have hlast : ∃ last, (wholeLines s).getLast? = some last := by
    cases hempty : wholeLines s with
    | nil => simp [hempty] at hwhole
    | cons first rest => exact ⟨_, List.getLast?_cons⟩
  obtain ⟨last, hlast⟩ := hlast
  have hlength : (line.take p.column).length = p.column := by
    rw [List.length_take]
    omega
  simp only [ofUnits, hlast, hwhole, hcut]
  rw [if_neg (by rw [units_append]; omega), charsWithin_units, hlength]

theorem ofUnits_behind (e : Encoding) {s last : List Char}
    (h : (wholeLines s).getLast? = some last) (column : Nat) :
    ofUnits e (wholeLines s) ⟨(lines s).length, column⟩ = ⟨(lines s).length - 1, units e last⟩ := by
  have hsame := length_wholeLines s
  have hnone : (wholeLines s)[(lines s).length]? = none := by
    rw [List.getElem?_eq_none_iff]
    omega
  simp only [ofUnits, h, hnone, hsame]

/-! ## Places in rows -/

theorem line_advance_origin (before : List Char) :
    (origin.advance before).line = before.count '\n' := by
  rw [line_advance]
  exact Nat.zero_add _

theorem toUnits_origin (e : Encoding) (s : List Char) :
    origin.toUnits e (wholeLines s) = origin := by
  cases hlines : wholeLines s with
  | nil => rfl
  | cons first rest => rfl

section Rows

variable {text shown before rest : List Char} {c : Char} (e : Encoding)
  (hlines : lines shown = lines text) (htext : text = before ++ c :: rest)
  (hc : isBreak c = false)

include hlines htext hc

/-- A character of a row stands on a line that is not before the line with the number
of the row, so there is one. -/
theorem toUnits_place :
    ((origin.advance before).toUnits e (wholeLines shown)).line = before.count '\n' ∧
      (strays before = 0 →
        ((origin.advance before).toUnits e (wholeLines shown)).column =
          units e (lastRow before)) := by
  have hplace := getElem?_lines_unifyBreaks before rest hc
  rw [lines_unifyBreaks, ← htext, ← hlines] at hplace
  have hcount : before.count '\n' < (lines shown).length := by
    have hlength := (List.getElem?_eq_some_iff.1 hplace).1
    rw [lineCount] at hlength
    omega
  obtain ⟨ending, -, hwhole⟩ := exists_ending_of_line (List.getElem?_eq_getElem hcount)
  simp only [toUnits, line_advance_origin, hwhole, column_advance_origin]
  refine ⟨trivial, fun hstrays => ?_⟩
  -- Without stray breaks the two numbers are one, and so are the two beginnings.
  rw [lineCount, hstrays, Nat.add_zero, List.getElem?_eq_getElem hcount, Option.some.injEq] at hplace
  rw [hplace, lastLine_eq_lastRow hstrays, List.append_assoc, List.take_left]

/-- On the row of the place the UTF-16 units are measured back, unless a stray break
stands before it. -/
theorem measured_place (hstrays : strays before = 0) :
    charsWithin .utf16 ((origin.advance before).toUnits .utf16 (wholeLines shown)).column
        ((rows text).getD ((origin.advance before).toUnits .utf16 (wholeLines shown)).line []) =
      (origin.advance before).column := by
  obtain ⟨hline, hcolumn⟩ := toUnits_place .utf16 hlines htext hc
  have hrow : (rows text).getD (before.count '\n') [] =
      lastRow before ++ (c :: rest).takeWhile (· ≠ '\n') := by
    rw [List.getD_eq_getElem?_getD, htext, getElem?_rows]
    rfl
  rw [hline, hcolumn hstrays, hrow, charsWithin_units, column_advance_origin]

end Rows

end Position

end LozengeNav
