import LozengeNav.Definition
import LozengeNav.Proofs.Protocol.Units
import LozengeNav.Proofs.Reference.Ending

/-! # Cursors in two documents

A document that an editor holds keeps line breaks that one read from its file has
lost, and its cursors are told in units. A cursor inside the document is over the
same reference in both.
-/

namespace LozengeNav

open Text

/-- A place inside a text: on one of its lines, or behind the break that ends it. -/
inductive Position.Inside (text : List Char) (p : Position) : Prop where
  | on (line : List Char) (hline : (lines text)[p.line]? = some line)
      (hcolumn : p.column ≤ line.length)
  | behind (hplace : p = ⟨(lines text).length, 0⟩) (hend : ∀ c ∈ text.getLast?, isBreak c = true)

/-- A place as an editor tells it that counts in UTF-16 units. -/
def Position.told (text : List Char) (p : Position) : Position :=
  p.toUnits .utf16 (wholeLines text)

/-- What is understood of a place that an editor tells. -/
def Position.understood (text : List Char) (p : Position) : Position :=
  (p.told text).ofUnits .utf16 (wholeLines text)

namespace Text

variable {p : Char → Bool} {c : Char} {s : List Char}

theorem dropRightWhile_concat (s : List Char) (c : Char) :
    dropRightWhile p (s ++ [c]) = if p c then dropRightWhile p s else s ++ [c] := by
  rw [dropRightWhile, List.reverse_concat, List.dropWhile_cons]
  split
  · rfl
  · rw [← List.reverse_concat, List.reverse_reverse]

theorem dropRightWhile_of_forall (h : ∀ c ∈ s, p c = false) : dropRightWhile p s = s := by
  rcases List.eq_nil_or_concat s with rfl | ⟨front, c, rfl⟩
  · rfl
  · rw [List.concat_eq_append, dropRightWhile_concat, if_neg (by simp [h c])]

end Text

namespace Document

variable {path : Path} {text line ending : List Char}

theorem at?_dropRightWhile (h : Line.Sound ⟨line, ending⟩) (column : Int) :
    Reference.at? (dropRightWhile (fun c => c == '\r' || c == '\n') (line ++ ending)) column =
      Reference.at? line column := by
  have hplain : ∀ c ∈ line, (c == '\r' || c == '\n') = false := by
    intro c hc
    have hbreak := h.text c hc
    rw [Bool.or_eq_false_iff, beq_eq_false_iff_ne, beq_eq_false_iff_ne]
    constructor <;> rintro rfl <;> exact absurd hbreak (by decide)
  have hdropped := dropRightWhile_of_forall hplain
  rcases h.ending with hnone | hpair | ⟨c, hc, hone⟩
  · obtain rfl : ending = [] := hnone
    rw [List.append_nil, hdropped]
  · obtain rfl : ending = ['\r', '\n'] := hpair
    have hcut : line ++ ['\r', '\n'] = line ++ ['\r'] ++ ['\n'] := by simp
    rw [hcut, dropRightWhile_concat, if_pos (by decide), dropRightWhile_concat, if_pos (by decide),
      hdropped]
  · obtain rfl : ending = [c] := hone
    rw [dropRightWhile_concat]
    split
    · rw [hdropped]
    · exact Reference.at?_concat (Reference.inert_of_isBreak hc) line column

theorem line_ofFile (i : Nat) :
    (ofFile path (unifyBreaks text)).line i = ((Text.lines text)[i]?).getD [] := by
  rw [Document.line, if_neg (by omega), ofFile, lines_unifyBreaks, lines_unifyBreaks,
    List.getD_eq_getElem?_getD, Int.toNat_natCast]

theorem line_ofEditor (i : Nat) :
    (ofEditor path text).line i =
      ((wholeLines text)[i]?.map (dropRightWhile fun c => c == '\r' || c == '\n')).getD [] := by
  rw [Document.line, if_neg (by omega), ofEditor, List.getD_eq_getElem?_getD, List.getElem?_map,
    Int.toNat_natCast]

theorem at?_understood_on {p : Position} (hline : (Text.lines text)[p.line]? = some line)
    (hcolumn : p.column ≤ line.length) :
    Reference.at? ((ofEditor path text).line (p.understood text).line) (p.understood text).column =
      Reference.at? ((ofFile path (unifyBreaks text)).line p.line) p.column := by
  obtain ⟨ending, hsound, hwhole⟩ := exists_ending_of_line hline
  have htold : p.told text = ⟨p.line, units .utf16 (line.take p.column)⟩ := by
    rw [Position.told, Position.toUnits, hwhole]
    dsimp only
    rw [List.take_append_of_le_length hcolumn]
  have hplace : p.understood text = p := by
    rw [Position.understood, htold, Position.ofUnits_of_line hline hcolumn]
  rw [hplace, line_ofEditor, line_ofFile, hline, hwhole]
  exact at?_dropRightWhile hsound p.column

theorem at?_understood_behind (hend : ∀ c ∈ text.getLast?, isBreak c = true) {p : Position}
    (hp : p = ⟨(Text.lines text).length, 0⟩) :
    Reference.at? ((ofEditor path text).line (p.understood text).line) (p.understood text).column =
      none := by
  have hsame : (wholeLines text).length = (Text.lines text).length := length_wholeLines text
  have htold : p.told text = ⟨(Text.lines text).length, 0⟩ := by
    rw [hp, Position.told, Position.toUnits, List.getElem?_eq_none (Nat.le_of_eq hsame)]
    rw [hsame]
  rw [Position.understood, htold]
  cases hlast : (Line.split text).getLast? with
  | none =>
      have hempty : wholeLines text = [] := by
        rw [wholeLines, List.getLast?_eq_none_iff.1 hlast]
        rfl
      rw [hempty, ofEditor, hempty]
      rfl
  | some l =>
      have hending := Line.ending_ne_nil_of_getLast? hend hlast
      have hsound := Line.sound_of_mem_split l (List.mem_of_getLast? hlast)
      have hwhole : (wholeLines text).getLast? = some l.whole := by
        rw [wholeLines, List.getLast?_map, hlast]
        rfl
      have hread : (wholeLines text)[(Text.lines text).length - 1]? = some l.whole := by
        rw [← hsame, ← List.getLast?_eq_getElem?, hwhole]
      rw [Position.ofUnits_behind .utf16 hwhole, line_ofEditor, hread]
      refine (at?_dropRightWhile hsound _).trans (Reference.at?_eq_none ?_)
      -- The end of the line is behind its break.
      have hunits := length_le_units .utf16 l.whole
      have hlength := List.length_pos_iff.2 hending
      rw [Line.whole, List.length_append] at hunits
      rw [Line.whole]
      exact_mod_cast (by omega : l.text.length < units .utf16 (l.text ++ l.ending))

theorem at?_understood {p : Position} (h : p.Inside text) :
    Reference.at? ((ofEditor path text).line (p.understood text).line) (p.understood text).column =
      Reference.at? ((ofFile path (unifyBreaks text)).line p.line) p.column := by
  cases h with
  | on line hline hcolumn => exact at?_understood_on hline hcolumn
  | behind hplace hend =>
      rw [at?_understood_behind hend hplace, hplace, line_ofFile,
        List.getElem?_eq_none (Nat.le_refl _)]
      rfl

end Document

end LozengeNav
