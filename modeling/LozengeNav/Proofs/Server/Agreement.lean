import LozengeNav.Proofs.CommandLine.Resolve
import LozengeNav.Proofs.Config
import LozengeNav.Proofs.Definition.Cursor
import LozengeNav.Proofs.Files.Sources
import LozengeNav.Proofs.Server.Answer
import LozengeNav.Proofs.Server.Told
import LozengeNav.Proofs.SourceIndex.Jump

/-! # The editor and the command line

A server and the command for one root directory look up the same, for a cursor in a
document that the editor holds as it is in its file. What the editor is told names
the same files and rows, in the same order, as the lines that the command shows, and
the same columns wherever no stray line break stands before a target.
-/

namespace LozengeNav

open Text Query

/-! ## The two answers -/

namespace Navigation

theorem definition_congr {σ : Type} (nav : Navigation) (host : Host σ) {d e : Document}
    {p q : Position} (hpath : d.path = e.path)
    (hat : Reference.at? (d.line p.line) p.column = Reference.at? (e.line q.line) q.column) :
    nav.definition host d p = nav.definition host e q := by
  rw [definition, definition, hat, hpath]

end Navigation

namespace Server

variable {m : Machine} {past : List FileTree} {s : Server} {view : Editor.View} {config : Config}
  {x : SourceIndex}

/-- Where the lookup for a cursor in a file leads. -/
def lookUpFrom (x : SourceIndex) (config : Config) (t : FileTree) (file : Path) (text : List Char)
    (cursor : Position) : Except Fault (List Location) :=
  x.lookUp config t (.ofFile file (unifyBreaks text)) cursor

/-- The reply to a cursor is what the lookup from the file finds, told one by one. -/
theorem reply_of_cursor {t : FileTree} {uri : String} {text : List Char} {file : Path}
    (hopen : view.open? uri = some text) (huri : Path.ofUri uri = .ok file)
    (hutf16 : view.encoding = .utf16) {cursor : Position} (hinside : cursor.Inside text) :
    view.reply x config t uri (cursor.told text) =
      lookUpFrom x config t file text cursor >>= fun found => found.mapM (view.encode t) := by
  obtain ⟨path, hpath, rfl⟩ := Path.exists_toPath_of_ofUri huri
  have hdocument : view.document t uri = .ok (.ofString (String.ofList path), text) := by
    rw [Editor.View.document, Uri.anyPath_of_toPath hpath, hopen]
    rfl
  have hsame : x.lookUp config t (.ofEditor (.ofString (String.ofList path)) text)
        (cursor.understood text) =
      lookUpFrom x config t (.ofString (String.ofList path)) text cursor := by
    have hquery := Navigation.definition_congr (Engine.navigation config) x.host
      (d := .ofEditor (.ofString (String.ofList path)) text)
      (e := .ofFile (.ofString (String.ofList path)) (unifyBreaks text)) rfl
      (Document.at?_understood hinside)
    rw [SourceIndex.lookUp, hquery, lookUpFrom, SourceIndex.lookUp]
  rw [Editor.View.reply, hdocument, ← hsame, hutf16]
  rfl

/-- An editor asks for a cursor in an open document, and some words ask the command
line for the same cursor in its file and the same root directory. -/
structure SameQuestion (m : Machine) (t : FileTree) (root : Path) (view : Editor.View)
    (uri : String) (text : List Char) (file : Path) (cursor : Position) (words : List String) :
    Prop where
  encoding : view.encoding = .utf16
  opened : view.open? uri = some text
  named : Path.ofUri uri = .ok file
  inside : cursor.Inside text
  inRange : Position.ofInts cursor.line cursor.column = .ok cursor
  words : ∃ fileWord rootWord,
    CommandLine.Command.read words =
        .ok (.resolve ⟨some fileWord, some cursor.line, some cursor.column⟩ (some rootWord) none) ∧
      CommandLine.realPath m t (some fileWord) = .ok file ∧
      CommandLine.realPath m t (some rootWord) = .ok root

/-- All files are text, the open documents are as their files, and paths are plain. -/
structure TextOnly (x : SourceIndex) (t : FileTree) (view : Editor.View) (file : Path) : Prop where
  texts : t.AllText
  onDisk : view.OnDisk t
  workspace : x.PlainIn t
  document : file.Plain

theorem run_of_sameQuestion {e : EngineState} {root : Path} {uri : String} {text : List Char}
    {file : Path} {cursor : Position} {words : List String}
    (hsetUp : Engine.SetUp m e.tree root config x) (hdisk : view.OnDisk e.tree)
    (h : SameQuestion m e.tree root view uri text file cursor words) :
    ((CommandLine.run m words).run.run e).1 =
      CommandLine.reportOn (lookUpFrom x config e.tree file text cursor) := by
  obtain ⟨fileWord, rootWord, hread, hfile, hroot⟩ := h.words
  obtain ⟨p, content, huri, hcontent, hdecode⟩ :=
    FileTree.exists_file_of_textOf? (hdisk uri text h.opened)
  obtain rfl := Except.ok.inj (h.named.symm.trans huri)
  have htext := FileTree.readText_of_decode? hcontent hdecode
  rw [CommandLine.run, hread]
  exact CommandLine.resolve_run hsetUp hfile hroot htext h.inRange

theorem answer_of_sameQuestion (htells : FileTree.Recallable past) (ht : s.inner.tree ∈ past)
    (h : s.Attends m past view config x) {root : Path} {uri : String} {text : List Char}
    {file : Path} {cursor : Position} {words : List String}
    (hasked : SameQuestion m s.inner.tree root view uri text file cursor words) :
    (answer m (.definition uri (cursor.told text)) s).1 =
      answerOf (lookUpFrom x config s.inner.tree file text cursor >>= fun found =>
        found.mapM (view.encode s.inner.tree)) := by
  obtain ⟨hanswer, -, -⟩ := answer_definition htells ht h uri (cursor.told text)
  rw [hanswer, reply_of_cursor hasked.opened hasked.named hasked.encoding hasked.inside]

theorem exists_told {t : FileTree} (htells : FileTree.Recallable past) (ht : t ∈ past) {file : Path}
    (htexts : TextOnly x t view file) (hextension : '/' ∉ config.extension.toList)
    (hutf16 : view.encoding = .utf16) {text : List Char} {cursor : Position} {found : List Location}
    (hfound : lookUpFrom x config t file text cursor = .ok found) :
    ∃ told, found.mapM (view.encode t) = .ok told ∧
      List.Forall₂ (Location.ToldAs t) found told := by
  refine Fault.exists_mapM_of_forall fun l hl => ?_
  obtain ⟨near, p, htarget, hplain⟩ := exists_target_of_lookUp htells ht hfound hl
  have hp := hplain htexts.document htexts.workspace hextension
  exact toldAs_of_target htarget hp htexts.texts htexts.onDisk hutf16

/-- A server and the command line list the same targets in the same order, line by
line wherever no stray break stands before a target, and there are none on one side if
and only if there are none on the other; if the lookup ends with a fault, both fail. -/
theorem definition_agrees (htells : FileTree.Recallable past) (ht : s.inner.tree ∈ past)
    (h : s.Attends m past view config x) {uri : String} {text : List Char} {file : Path}
    {cursor : Position} {words : List String} {e : EngineState} (he : e.tree = s.inner.tree)
    (hasked : SameQuestion m s.inner.tree (s.rootFor view) view uri text file cursor words)
    (htexts : TextOnly x s.inner.tree view file) :
    (∀ found, lookUpFrom x config s.inner.tree file text cursor = .ok found →
      ((CommandLine.run m words).run.run e).1 =
          .ok (.found (found.map CommandLine.showLocation)) ∧
        ∃ told, (answer m (.definition uri (cursor.told text)) s).1 = .locations told ∧
          List.Forall₂ (Location.ToldAs s.inner.tree) found told ∧
          ((answer m (.definition uri (cursor.told text)) s).1.result = .null ↔
            (CommandLine.Report.found (found.map CommandLine.showLocation)).code = 1)) ∧
      ∀ fault, lookUpFrom x config s.inner.tree file text cursor = .error fault →
        (answer m (.definition uri (cursor.told text)) s).1 = .failed ∧
          ∀ report, ((CommandLine.run m words).run.run e).1 = .ok report → report.code = 2 := by
  have hanswer := answer_of_sameQuestion htells ht h hasked
  have hrun : ((CommandLine.run m words).run.run e).1 =
      CommandLine.reportOn (lookUpFrom x config s.inner.tree file text cursor) := by
    rw [← he] at hasked htexts ⊢
    refine run_of_sameQuestion ?_ htexts.onDisk hasked
    rw [he]
    exact h.setUp
  refine ⟨fun found hfound => ?_, fun fault hfault => ?_⟩
  · rw [hfound] at hanswer hrun
    have hextension := Config.slash_not_mem_of_load h.setUp.loaded
    obtain ⟨told, hencode, htargets⟩ :=
      exists_told htells ht htexts hextension hasked.encoding hfound
    have hlocations : (answer m (.definition uri (cursor.told text)) s).1 = .locations told := by
      rw [hanswer]
      simp only [bind, Except.bind, hencode, answerOf]
    refine ⟨hrun, told, hlocations, htargets, ?_⟩
    rw [hlocations]
    cases htargets with
    | nil => exact iff_of_true rfl rfl
    | cons first rest =>
        refine iff_of_false (by simp [Editor.Answer.result]) ?_
        simp [CommandLine.Report.found]
  · rw [hfault] at hanswer hrun
    refine ⟨hanswer, fun report hreport => ?_⟩
    rw [hrun, CommandLine.reportOn] at hreport
    split at hreport
    · cases hreport
      rfl
    · cases hreport

/-! ## Two functions -/

def pageText : List Char :=
  "😀 ◊sell ◊greet\r\n".toList

def pageFile : Path :=
  ⟨.root, ["ws", "page.dryck"]⟩

/-- A document that refers to two functions, one of them behind a form feed. -/
def toolbox : FileTree where
  entries :=
    [(["ws"], .directory),
     (["ws", "page.dryck"], SourceIndex.sourceFile "😀 ◊sell ◊greet\r\n" 1),
     (["ws", "shop.py"], SourceIndex.sourceFile "if True:\n    def sell():\n        pass\n" 2),
     (["ws", "tools.py"], SourceIndex.sourceFile "\x0c\ndef greet():\n    pass\n" 3)]
  here := []

def opened : Server :=
  take bareMachine (.didOpen "file:///ws/page.dryck" pageText) (introduced toolbox)

def pageView : Editor.View :=
  ⟨"/ws", .utf16, [("file:///ws/page.dryck", pageText)]⟩

/-- The words that resolve a reference on the line of the document. -/
def wordsFor (column : String) : List String :=
  ["resolve", "/ws/page.dryck", "0", column, "--root", "/ws"]

theorem served_toolbox :
    opened.Attends bareMachine [toolbox] pageView {} bareIndex ∧
      TextOnly bareIndex toolbox pageView pageFile := by
  have hlinks : toolbox.LinkFree := by
    intro trail target hmem
    simp [toolbox, SourceIndex.sourceFile] at hmem
  have hpage : ∀ uri text, (uri, text) ∈ pageView.documents →
      (∃ path, Uri.anyPath uri.toList = .ok path) ∧ toolbox.textOf? uri = some text := by
    intro uri text hmem
    cases List.mem_singleton.1 hmem
    exact ⟨⟨"/ws/page.dryck".toList, by decide +kernel⟩, by decide +kernel⟩
  constructor
  · exact ⟨by decide +kernel, fun d hd => (hpage d.1 d.2 hd).1, ⟨rfl, rfl, rfl, rfl, rfl⟩, .inl rfl⟩
  · refine ⟨hlinks.allText (by decide +kernel), fun uri text hopen => ?_, ?_, ?_⟩
    · obtain ⟨before, after, hdocuments, -⟩ := List.lookup_eq_some_iff.1 hopen
      exact (hpage uri text (by simp [hdocuments])).2
    · exact ⟨Path.plain_iff.2 (by decide +kernel), List.cons_ne_nil _ _, by decide +kernel⟩
    · exact Path.plain_iff.2 (by decide +kernel)

theorem lookUpFrom_toolbox :
    lookUpFrom bareIndex {} toolbox pageFile pageText ⟨0, 4⟩ =
        .ok [⟨"file:///ws/shop.py", ⟨⟨1, 8⟩, ⟨1, 12⟩⟩⟩] ∧
      lookUpFrom bareIndex {} toolbox pageFile pageText ⟨0, 10⟩ =
        .ok [⟨"file:///ws/tools.py", ⟨⟨1, 4⟩, ⟨1, 9⟩⟩⟩] := by
  have hfiles : bareIndex.workspace.pythonFiles toolbox =
      .ok [⟨.root, ["ws", "shop.py"]⟩, ⟨.root, ["ws", "tools.py"]⟩] := by
    have hmatchers : bareIndex.workspace.matchers toolbox = .ok [] := rfl
    exact Workspace.pythonFiles_of_sorted hmatchers (by decide +kernel) (by decide +kernel)
      (by decide +kernel)
  constructor
  · have hat : Reference.at? ((Document.ofFile pageFile (unifyBreaks pageText)).line 0) 4 =
        some ⟨"sell".toList, 2, 7, .bare⟩ := by decide +kernel
    have hfound : ((SourceIndex.symbolsIn "sell"
        [⟨.root, ["ws", "shop.py"]⟩, ⟨.root, ["ws", "tools.py"]⟩]).run.run ⟨toolbox, []⟩).1 =
        .ok [⟨"sell", .function, ⟨"file:///ws/shop.py", ⟨⟨1, 8⟩, ⟨1, 12⟩⟩⟩, none⟩] := by
      decide +kernel
    exact SourceIndex.lookUp_functions (.ofFile pageFile (unifyBreaks pageText)) ⟨0, 4⟩ hat rfl
      (by decide +kernel) (by decide +kernel) hfiles hfound (by decide)
  · have hat : Reference.at? ((Document.ofFile pageFile (unifyBreaks pageText)).line 0) 10 =
        some ⟨"greet".toList, 8, 14, .bare⟩ := by decide +kernel
    have hfound : ((SourceIndex.symbolsIn "greet"
        [⟨.root, ["ws", "shop.py"]⟩, ⟨.root, ["ws", "tools.py"]⟩]).run.run ⟨toolbox, []⟩).1 =
        .ok [⟨"greet", .function, ⟨"file:///ws/tools.py", ⟨⟨1, 4⟩, ⟨1, 9⟩⟩⟩, none⟩] := by
      decide +kernel
    exact SourceIndex.lookUp_functions (.ofFile pageFile (unifyBreaks pageText)) ⟨0, 10⟩ hat rfl
      (by decide +kernel) (by decide +kernel) hfiles hfound (by decide)

theorem sameQuestion_toolbox {column : Nat} {word : String} (hcolumn : column ≤ 14)
    (hword : CommandLine.Command.read (wordsFor word) =
      .ok (.resolve ⟨some "/ws/page.dryck", some 0, some column⟩ (some "/ws") none)) :
    SameQuestion bareMachine toolbox ⟨.root, ["ws"]⟩ pageView "file:///ws/page.dryck" pageText
      pageFile ⟨0, column⟩ (wordsFor word) where
  encoding := rfl
  opened := by decide
  named := by decide
  inside := .on _ rfl hcolumn
  inRange := by
    have hadmits : Position.admits column = true := by
      rw [Position.admits, Position.limit]
      simp only [Bool.and_eq_true, decide_eq_true_eq]
      omega
    change Position.ofInts 0 column = .ok ⟨0, column⟩
    rw [Position.ofInts, if_neg (by decide), if_neg (by rw [hadmits]; decide)]
    rfl
  words := ⟨_, _, hword, by decide, by decide⟩

/-- Of a function without a form feed before it, the editor and the command line are
told alike. -/
theorem definition_agrees_sell :
    FileTree.Recallable [toolbox] ∧
      opened.Attends bareMachine [toolbox] pageView {} bareIndex ∧
      SameQuestion bareMachine toolbox (opened.rootFor pageView) pageView "file:///ws/page.dryck"
        pageText pageFile ⟨0, 4⟩ (wordsFor "4") ∧
      TextOnly bareIndex toolbox pageView pageFile ∧
      ((CommandLine.run bareMachine (wordsFor "4")).run.run opened.inner).1 =
        .ok (.found ["/ws/shop.py:2:9"]) ∧
      ∃ told, (answer bareMachine (.definition "file:///ws/page.dryck" ⟨0, 5⟩) opened).1 =
          .locations [told] ∧
        CommandLine.showLocation (told.measuredIn toolbox) = "/ws/shop.py:2:9" := by
  have htells := FileTree.recallable_singleton toolbox
  have hasked : SameQuestion bareMachine toolbox (opened.rootFor pageView) pageView
      "file:///ws/page.dryck" pageText pageFile ⟨0, 4⟩ (wordsFor "4") :=
    sameQuestion_toolbox (by decide) (by decide +kernel)
  obtain ⟨hattends, htexts⟩ := served_toolbox
  refine ⟨htells, hattends, hasked, htexts, ?_⟩
  obtain ⟨hagrees, -⟩ := definition_agrees htells List.mem_cons_self hattends (e := opened.inner)
    rfl hasked htexts
  obtain ⟨hrun, told, hanswer, htargets, -⟩ := hagrees _ lookUpFrom_toolbox.1
  have hcursor : Position.told pageText ⟨0, 4⟩ = ⟨0, 5⟩ := by decide +kernel
  have hshow : CommandLine.showLocation ⟨"file:///ws/shop.py", ⟨⟨1, 8⟩, ⟨1, 12⟩⟩⟩ =
      "/ws/shop.py:2:9" := by decide +kernel
  rw [hcursor] at hanswer
  rw [List.map_singleton, hshow] at hrun
  obtain ⟨first, others, htarget, hnone, rfl⟩ := List.forall₂_cons_left_iff.1 htargets
  cases hnone
  refine ⟨hrun, first, hanswer, ?_⟩
  have hunstrayed : Location.Unstrayed toolbox ⟨"file:///ws/shop.py", ⟨⟨1, 8⟩, ⟨1, 12⟩⟩⟩ := by
    rw [Location.Unstrayed]
    decide +kernel
  exact (htarget.shown hunstrayed).trans hshow

/-- Behind a form feed the server tells another column of the same definition than the command line
shows. -/
theorem definition_differs_greet :
    opened.Attends bareMachine [toolbox] pageView {} bareIndex ∧
      SameQuestion bareMachine toolbox (opened.rootFor pageView) pageView "file:///ws/page.dryck"
        pageText pageFile ⟨0, 10⟩ (wordsFor "10") ∧
      TextOnly bareIndex toolbox pageView pageFile ∧
      ((CommandLine.run bareMachine (wordsFor "10")).run.run opened.inner).1 =
        .ok (.found ["/ws/tools.py:2:5"]) ∧
      ∃ told, (answer bareMachine (.definition "file:///ws/page.dryck" ⟨0, 11⟩) opened).1 =
          .locations [told] ∧
        CommandLine.showLocation (told.measuredIn toolbox) = "/ws/tools.py:2:2" := by
  have htells := FileTree.recallable_singleton toolbox
  have hasked : SameQuestion bareMachine toolbox (opened.rootFor pageView) pageView
      "file:///ws/page.dryck" pageText pageFile ⟨0, 10⟩ (wordsFor "10") :=
    sameQuestion_toolbox (by decide) (by decide +kernel)
  obtain ⟨hattends, htexts⟩ := served_toolbox
  have hrun := run_of_sameQuestion hattends.setUp htexts.onDisk hasked
  have hanswer := answer_of_sameQuestion htells List.mem_cons_self hattends hasked
  have hcursor : Position.told pageText ⟨0, 10⟩ = ⟨0, 11⟩ := by decide +kernel
  have htold : [(⟨"file:///ws/tools.py", ⟨⟨1, 4⟩, ⟨1, 9⟩⟩⟩ : Location)].mapM
      (pageView.encode opened.inner.tree) = .ok [⟨"file:///ws/tools.py", ⟨⟨1, 1⟩, ⟨1, 1⟩⟩⟩] := by
    decide +kernel
  have hlookUp : lookUpFrom bareIndex {} opened.inner.tree pageFile pageText ⟨0, 10⟩ =
      .ok [⟨"file:///ws/tools.py", ⟨⟨1, 4⟩, ⟨1, 9⟩⟩⟩] :=
    lookUpFrom_toolbox.2
  refine ⟨hattends, hasked, htexts, ?_, ⟨"file:///ws/tools.py", ⟨⟨1, 1⟩, ⟨1, 1⟩⟩⟩, ?_,
    by decide +kernel⟩
  · rw [hrun, hlookUp]
    decide +kernel
  · rw [hlookUp, hcursor] at hanswer
    simp only [hanswer, bind, Except.bind, htold, answerOf]

end Server

end LozengeNav
