import LozengeNav.CommandLine.Run
import LozengeNav.Proofs.Definition.Targets
import LozengeNav.Proofs.Editor.View
import LozengeNav.Proofs.Files.Plain
import LozengeNav.Proofs.Outline.Selection
import LozengeNav.Proofs.Protocol.Units
import LozengeNav.Proofs.Text.Utf8

/-! # What an editor is told

A told location names the file and the row of a location. Its column counts UTF-16
units, and it is measured back on the row unless a stray line break stands before it
in the file: the units were counted on the line of that number, and stray breaks end
lines but no rows.
-/

namespace LozengeNav

open Text

/-! ## Files of text -/

namespace FileTree

def textOf? (t : FileTree) (uri : String) : Option (List Char) :=
  match Path.ofUri uri with
  | .error _ => none
  | .ok p =>
    match t.read p with
    | .error _ => none
    | .ok bytes => Utf8.decode? bytes

def AllText (t : FileTree) : Prop :=
  ∀ p content modified, t.HasFile p content modified → ∃ text, Utf8.decode? content = some text

/-- Whether an entry is no file or a file in UTF-8. -/
def isText : Entry → Bool
  | .file content _ => (Utf8.decode? content).isSome
  | _ => true

theorem LinkFree.allText {t : FileTree} (h : t.LinkFree)
    (htext : ∀ e ∈ t.entries, isText e.2 = true) : t.AllText := by
  rintro p content modified ⟨trail, hfile⟩
  obtain ⟨-, hentry⟩ := h.locate_eq_ok hfile
  rcases mem_entries_of_entry? hentry with hdirectory | hmem
  · cases hdirectory
  · exact Option.isSome_iff_exists.1 (htext _ hmem)

theorem exists_file_of_textOf? {t : FileTree} {uri : String} {text : List Char}
    (h : t.textOf? uri = some text) :
    ∃ p content, Path.ofUri uri = .ok p ∧ t.read p = .ok content ∧
      Utf8.decode? content = some text := by
  unfold textOf? at h
  split at h
  · cases h
  · next p huri =>
      split at h
      · cases h
      · next content hread => exact ⟨p, content, huri, hread, h⟩

theorem readText_of_decode? {t : FileTree} {p : Path} {content : List UInt8} {text : List Char}
    (hread : t.read p = .ok content) (hdecode : Utf8.decode? content = some text) :
    t.readText p = .ok (unifyBreaks text) := by
  rw [readText, hread]
  simp only [bind, Except.bind, hdecode]
  rfl

theorem textOf?_of_read {t : FileTree} {uri : String} {p : Path} {content : List UInt8}
    (huri : Path.ofUri uri = .ok p) (hread : t.read p = .ok content) :
    t.textOf? uri = Utf8.decode? content := by
  simp only [textOf?, huri, hread]

end FileTree

/-- Every open document is in its file as it is in the editor. -/
def Editor.View.OnDisk (v : Editor.View) (t : FileTree) : Prop :=
  ∀ uri text, v.open? uri = some text → t.textOf? uri = some text

/-! ## Targets -/

namespace Location

/-- A told location, its column measured back in code points on the row of its file. -/
def measuredIn (t : FileTree) (l : Location) : Location :=
  ⟨l.uri, ⟨⟨l.span.start.line, charsWithin .utf16 l.span.start.column
    ((rows ((t.textOf? l.uri).getD [])).getD l.span.start.line [])⟩, l.span.stop⟩⟩

/-- No stray line break stands before a location in its file. -/
def Unstrayed (t : FileTree) (l : Location) : Prop :=
  strays (upTo l.span.start ((t.textOf? l.uri).getD [])) = 0

/-- A told location has the file and the row of a location. Unless a stray line break
stands before it, both are shown alike. -/
structure ToldAs (t : FileTree) (l told : Location) : Prop where
  uri : told.uri = l.uri
  row : told.span.start.line = l.span.start.line
  shown : l.Unstrayed t →
    CommandLine.showLocation (told.measuredIn t) = CommandLine.showLocation l

end Location

theorem showLocation_congr {l l' : Location} (huri : l.uri = l'.uri)
    (hstart : l.span.start = l'.span.start) :
    CommandLine.showLocation l = CommandLine.showLocation l' := by
  rw [CommandLine.showLocation, CommandLine.showLocation, huri, hstart]

section Target

variable {x : SourceIndex} {t : FileTree} {near : List Path} {p : Path} {l : Location}
  {view : Editor.View}

theorem Target.start (h : Target x t near p l) {content : List UInt8} {modified : Int}
    (hfile : t.HasFile p content modified) {text : List Char}
    (htext : Utf8.decode? content = some text) :
    l.span.start = .origin ∨ ∃ before c rest, text = before ++ c :: rest ∧ isBreak c = false ∧
      l.span.start = Position.origin.advance before := by
  rcases h.span with hspan | ⟨symbol, hsymbol, hspan⟩
  · rw [hspan]
    exact .inl rfl
  · rw [hfile.freshOutline_eq, Utf8.decodeLossy_of_decode? htext] at hsymbol
    rw [hspan]
    exact .inr (Outline.exists_before_selection hsymbol)

theorem toldAs_of_target (h : Target x t near p l) (hp : p.Plain) (htexts : t.AllText)
    (hdisk : view.OnDisk t) (hutf16 : view.encoding = .utf16) :
    ∃ told, view.encode t l = .ok told ∧ l.ToldAs t told := by
  obtain ⟨content, modified, hfile⟩ := FileTree.exists_hasFile_of_isFile h.file
  obtain ⟨text, htext⟩ := htexts p content modified hfile
  have hof : t.textOf? l.uri = some text := by
    rw [FileTree.textOf?_of_read (hp.ofUri_of_toUri h.uri) hfile.read_eq, htext]
  -- An open text is the one on disk; any other is read with its breaks unified.
  obtain ⟨shown, hdocument, hlines⟩ :
      ∃ shown, view.document t l.uri = .ok (p, shown) ∧ lines shown = lines text := by
    cases hopen : view.open? l.uri with
    | some opened =>
        have hsame := (hdisk _ _ hopen).symm.trans hof
        cases hsame
        exact ⟨text, Editor.View.document_of_open hp h.uri hopen, rfl⟩
    | none =>
        refine ⟨unifyBreaks text, ?_, lines_unifyBreaks text⟩
        rw [Editor.View.document_of_not_open hp (hfile.parts_ne_nil hp.root) h.uri hopen,
          FileTree.readText_of_decode? hfile.read_eq htext]
        rfl
  refine ⟨_, Editor.View.encode_of_document hdocument, ?_⟩
  rw [hutf16]
  rcases h.start hfile htext with hstart | ⟨before, c, rest, hcut, hc, hstart⟩
  · have htold : (l.span.toUnits .utf16 (wholeLines shown)).start = .origin := by
      rw [Span.toUnits, hstart]
      exact Position.toUnits_origin .utf16 shown
    refine ⟨rfl, by rw [htold, hstart], fun _ => showLocation_congr rfl ?_⟩
    simp only [Location.measuredIn, htold, hstart]
    rw [Position.origin, charsWithin_zero]
  · obtain ⟨hline, -⟩ := Position.toUnits_place .utf16 hlines hcut hc
    refine ⟨rfl, ?_, fun hunstrayed => showLocation_congr rfl ?_⟩
    · rw [Span.toUnits, hstart, hline, Position.line_advance_origin]
    · have hstrays : strays before = 0 := by
        rw [Location.Unstrayed, hof, Option.getD_some, hstart, hcut, upTo_advance] at hunstrayed
        exact hunstrayed
      have hmeasured := Position.measured_place hlines hcut hc hstrays
      simp only [Location.measuredIn, hof, Option.getD_some, Span.toUnits, hstart]
      rw [hmeasured, hline, ← Position.line_advance_origin]

end Target

end LozengeNav
