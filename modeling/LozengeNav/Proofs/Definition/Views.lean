import LozengeNav.Proofs.Definition.Cursor
import LozengeNav.Proofs.Server.Told

/-! # Two views of one text

An editor holds a text with the ends of its lines, of which line feeds and carriage
returns are dropped; a file is read with its line breaks unified and cut at all of
them. Both views have the same lines up to a break that stays at the end of one, and
no reference takes in a break. So the same references are found in both views,
wherever a cursor is put.
-/

namespace LozengeNav

open Text

namespace Document

variable {path file : Path} {text : List Char}

theorem length_lines_ofEditor : (ofEditor path text).lines.length = (Text.lines text).length := by
  rw [ofEditor, List.length_map, length_wholeLines]

theorem length_lines_ofFile :
    (ofFile path (unifyBreaks text)).lines.length = (Text.lines text).length := by
  rw [ofFile, lines_unifyBreaks, lines_unifyBreaks]

theorem line_eq_nil {d : Document} {index : Int} (h : index < 0 ∨ (d.lines.length : Int) ≤ index) :
    d.line index = [] := by
  rw [line]
  split
  · rfl
  · have hlength : d.lines.length ≤ index.toNat := by omega
    rw [List.getD_eq_getElem?_getD, List.getElem?_eq_none hlength]
    rfl

/-- A line of the text has the same references with what the editor leaves of its ending. -/
theorem at?_line_views (index : Nat) (column : Int) :
    Reference.at? ((ofEditor path text).line index) column =
      Reference.at? ((ofFile file (unifyBreaks text)).line index) column := by
  rw [line_ofEditor, line_ofFile]
  cases hline : (Text.lines text)[index]? with
  | none =>
      have hlength := List.getElem?_eq_none_iff.1 hline
      rw [← length_wholeLines] at hlength
      rw [List.getElem?_eq_none hlength]
      rfl
  | some line =>
      obtain ⟨ending, hsound, hwhole⟩ := exists_ending_of_line hline
      rw [hwhole]
      exact at?_dropRightWhile hsound column

/-- A text in an editor and a file with that text, encoded in UTF-8, have equally many
lines and show the same reference under every cursor. Before the first line and behind
the last one there is none. -/
theorem at?_views_eq {t : FileTree} (hfile : t.read file = .ok (Utf8.encode text)) (path : Path) :
    ∃ kept, t.readText file = .ok kept ∧
      (ofEditor path text).lines.length = (ofFile file kept).lines.length ∧
      ∀ index column : Int,
        Reference.at? ((ofEditor path text).line index) column =
            Reference.at? ((ofFile file kept).line index) column ∧
          (index < 0 ∨ ((ofFile file kept).lines.length : Int) ≤ index →
            Reference.at? ((ofFile file kept).line index) column = none) := by
  have hkept : t.readText file = .ok (unifyBreaks text) :=
    FileTree.readText_of_decode? hfile (Utf8.decode?_encode text)
  refine ⟨unifyBreaks text, hkept, ?_, fun index column => ⟨?_, fun houtside => ?_⟩⟩
  · rw [length_lines_ofEditor, length_lines_ofFile]
  · cases index with
    | ofNat index => exact at?_line_views index column
    | negSucc index =>
        have hbefore : Int.negSucc index < 0 := Int.negSucc_lt_zero index
        rw [line_eq_nil (.inl hbefore), line_eq_nil (.inl hbefore)]
  · rw [line_eq_nil houtside]
    rfl

/-- References in front of a form feed, a lone carriage return and a line separator,
each with a colon behind it. -/
def brokenText : List Char :=
  "◊a\x0c: ◊(b.c)\r:\r\n◊d-e\u2028\r: ◊f".toList

def brokenFile : Path :=
  ⟨.root, ["ws", "page.dryck"]⟩

def broken : FileTree where
  entries :=
    [(["ws"], .directory), (["ws", "page.dryck"], .file (Utf8.encode brokenText) 1)]
  here := []

theorem at?_views_eq_broken :
    broken.read brokenFile = .ok (Utf8.encode brokenText) ∧
      ∃ kept, broken.readText brokenFile = .ok kept ∧
        (ofFile brokenFile kept).lines.length = 6 ∧
        Reference.at? ((ofFile brokenFile kept).line 0) 2 = some ⟨['a'], 0, 2, .bare⟩ ∧
        (ofEditor brokenFile brokenText).line 0 = ['◊', 'a', '\x0c'] ∧
        Reference.at? ((ofFile brokenFile kept).line 6) 0 = none := by
  have hread : broken.read brokenFile = .ok (Utf8.encode brokenText) := by decide +kernel
  obtain ⟨kept, hkept, hlength, hviews⟩ := at?_views_eq hread brokenFile
  have hsix : (ofFile brokenFile kept).lines.length = 6 := by
    rw [← hlength]
    decide +kernel
  refine ⟨hread, kept, hkept, hsix, ?_, by decide +kernel, ?_⟩
  · rw [← (hviews 0 2).1]
    decide +kernel
  · exact (hviews 6 0).2 (.inr (by rw [hsix]; decide))

end Document

end LozengeNav
