import LozengeNav.Ancestry
import LozengeNav.Proofs.ClassHeader
import LozengeNav.Proofs.Outline.ClassStatement
import LozengeNav.Proofs.SourceIndex.Jump
import LozengeNav.Proofs.Uri

/-! # Reading the class at a location

A location of the index is a place of an outline, which counts rows. The chase
looks at the line of the same number of the text that it reads. Where no stray
line break stands before the name of a class, it finds the class there.
-/

namespace LozengeNav

namespace SourceIndex

/-! ## The line of a class -/

theorem isWord_of_isGap {c : Char} (h : Outline.isGap c = true) : Text.isWord c = false := by
  simp only [Outline.isGap, Bool.or_eq_true, beq_iff_eq] at h
  rcases h with ((((((rfl | rfl) | rfl) | rfl) | rfl) | rfl) | rfl) | rfl <;> decide

section Statement

variable {c : Outline.ClassStatement}

theorem lastRow_lead (hgap : '\n' ∉ c.gap) :
    Text.lastRow c.lead = Text.lastRow c.before ++ (classKeyword ++ c.gap) := by
  have hplain : '\n' ∉ classKeyword ++ c.gap := by
    rw [List.mem_append, not_or]
    exact ⟨by decide, hgap⟩
  have hlead : c.lead = c.before ++ (classKeyword ++ c.gap) := List.append_assoc ..
  rw [hlead, Text.lastRow_append_of_not_mem _ hplain]

theorem classLine_of_lexical (hc : c.Lexical) (hgap : '\n' ∉ c.gap)
    (hname : Text.Identifier c.name) :
    ClassLine (Text.lastRow c.before) c.gap c.name
      (c.after.takeWhile fun d => !Text.isBreak d) := by
  have hgaps := hc.gap
  rw [Text.lastRow_of_not_mem hgap] at hgaps
  refine ⟨?_, hc.parted, hname, fun d hd => ?_⟩
  · rw [List.forall_mem_append]
    exact ⟨fun d hd => isWord_of_isGap (hc.indent d hd), fun d hd => isWord_of_isGap (hgaps d hd)⟩
  · have hhead : c.after.head? = some d := by
      cases hafter : c.after with
      | nil => simp [hafter] at hd
      | cons e rest =>
          rw [hafter, List.takeWhile_cons] at hd
          split at hd
          · exact hd
          · cases hd
    have hended := hc.ended d hhead
    cases hword : Text.isWord d with
    | false => rfl
    | true =>
        rw [Text.isNameContinue_of_isWord hword] at hended
        cases hended

/-- The class is named at the place of its name if the line there is that of its
row. -/
theorem classNameAt?_statement (hc : c.Lexical) (hgap : '\n' ∉ c.gap)
    (hname : Text.Identifier c.name) (hstrays : Text.strays c.lead = 0) :
    classNameAt? (Text.lastLine c.lead ++ (c.name ++ c.after.takeWhile fun d => !Text.isBreak d))
      (some ((Text.readPlace c.lead).column : Int)) = some (String.ofList c.name) := by
  have hlast : Text.lastLine c.lead = Text.lastRow c.before ++ (classKeyword ++ c.gap) := by
    rw [Text.lastLine_eq_lastRow hstrays, lastRow_lead hgap]
  have hcolumn : (Text.readPlace c.lead).column =
      (Text.lastRow c.before).length + 5 + c.gap.length := by
    show (Text.lastLine c.lead).length = _
    rw [hlast, List.length_append, List.length_append, Nat.add_assoc]
    rfl
  have hnamed := (classLine_of_lexical hc hgap hname).classNameAt?
  rw [hcolumn, hlast, List.append_assoc, List.append_assoc]
  exact hnamed

end Statement

/-! ## Asking for the class at a location -/

/-- A class that a source file without faults declares on one line, by an ASCII
name. -/
structure ClassIn (t : FileTree) (file : Path) (text : List Char) (sym : OutlineSymbol) : Prop where
  read : ∃ bytes, t.read file = .ok bytes ∧ Text.Utf8.decode? bytes = some text
  listed : sym ∈ freshOutline t file
  kind : sym.kind = .type
  identifier : Text.Identifier sym.name.toList
  oneLine : sym.span.start.line = sym.selection.line

section ClassIn

variable {t : FileTree} {file : Path} {text : List Char} {sym : OutlineSymbol}
  {s : IndexState} {kept : Ancestry.Sources} {uri : String}

theorem ClassIn.statement (h : ClassIn t file text sym) :
    ∃ c : Outline.ClassStatement, c.source = text ∧ c.Lexical ∧ c.Declares sym ∧ '\n' ∉ c.gap := by
  obtain ⟨bytes, hread, hdecode⟩ := h.read
  have hlisted := h.listed
  rw [freshOutline, hread] at hlisted
  simp only [Text.Utf8.decodeLossy_of_decode? hdecode] at hlisted
  obtain ⟨c, hsource, hlexical, hdeclares⟩ := Outline.exists_classStatement hlisted h.kind
  refine ⟨c, hsource, hlexical, hdeclares, ?_⟩
  have hline := h.oneLine
  rw [hdeclares.start, hdeclares.selection, Position.line_advance, Position.line_advance,
    Outline.ClassStatement.lead, List.count_append, List.count_append] at hline
  rw [← List.count_eq_zero]
  omega

theorem ClassIn.readText_eq (h : ClassIn t file text sym) {uri : String}
    (huri : Path.ofUri uri = .ok file) :
    Workspace.readText t uri = some (String.ofList (Text.unifyBreaks text)) := by
  obtain ⟨bytes, hread, hdecode⟩ := h.read
  have htext : t.readText file = .ok (Text.unifyBreaks text) := by
    simp only [FileTree.readText, hread, Except.bind, bind, hdecode]
    rfl
  simp only [Workspace.readText, huri, htext]

theorem source_run (x : SourceIndex)
    (hkept : ∀ source, kept.lookup uri = some source → source = Workspace.readText s.tree uri) :
    ∃ kept', ((Ancestry.source x.host uri).run kept).run.run s =
      (.ok (Workspace.readText s.tree uri, kept'), s) := by
  unfold Ancestry.source
  cases hlookup : kept.lookup uri with
  | some source =>
      refine ⟨kept, ?_⟩
      rw [← hkept source hlookup]
      simp only [StateT.run_bind, StateT.run_get, pure_bind, hlookup]
      rfl
  | none =>
      refine ⟨(uri, Workspace.readText s.tree uri) :: kept, ?_⟩
      simp only [StateT.run_bind, StateT.run_get, pure_bind, hlookup]
      rfl

theorem ClassIn.nameAt?_run (h : ClassIn s.tree file text sym) (x : SourceIndex)
    (huri : Path.ofUri uri = .ok file)
    (hkept : ∀ source, kept.lookup uri = some source → source = Workspace.readText s.tree uri)
    {line : List Char}
    (hline : (Text.lines (Text.unifyBreaks text))[sym.selection.line]? = some line) :
    ∃ kept', ((Ancestry.nameAt? x.host (sym.location uri)).run kept).run.run s =
      (.ok (classNameAt? line (some (sym.selection.column : Int)), kept'), s) := by
  obtain ⟨kept', hsource⟩ := source_run x hkept
  refine ⟨kept', ?_⟩
  rw [h.readText_eq huri] at hsource
  unfold Ancestry.nameAt?
  simp only [StateT.run_bind, ExceptT.run_bind, OutlineSymbol.location, OutlineSymbol.nameSpan]
  rw [hsource]
  show StateT.run (ExceptT.run (StateT.run _ kept')) s = _
  simp only [String.toList_ofList, hline]
  rfl

/-- The name of a class stands in the text that is read where the text before it
ends. That is the place of its symbol if and only if no stray line break stands
before it, and then the chase finds the class at the location of the symbol. -/
theorem nameAt?_of_classIn (x : SourceIndex) (hfile : file.Plain) (huri : file.toUri = .ok uri)
    (h : ClassIn s.tree file text sym)
    (hkept : ∀ source, kept.lookup uri = some source → source = Workspace.readText s.tree uri) :
    Text.StandsAt (Text.lines (Text.unifyBreaks text))
        (Text.readPlace (Text.upTo sym.selection text)) sym.name.toList ∧
      (Text.readPlace (Text.upTo sym.selection text) = sym.selection ↔
        Text.strays (Text.upTo sym.selection text) = 0) ∧
      (Text.strays (Text.upTo sym.selection text) = 0 →
        ∃ kept', ((Ancestry.nameAt? x.host (sym.location uri)).run kept).run.run s =
          (.ok (some sym.name, kept'), s)) := by
  obtain ⟨c, rfl, hlexical, hdeclares, hgap⟩ := h.statement
  have hname : Text.Identifier c.name := by
    have hidentifier := h.identifier
    rwa [hdeclares.name, String.toList_ofList] at hidentifier
  have hcut : c.source = c.lead ++ (c.name ++ c.after) := List.append_assoc ..
  have hupTo : Text.upTo sym.selection c.source = c.lead := by
    rw [hdeclares.selection, hcut, Text.upTo_advance]
  have hline : (Text.lines (Text.unifyBreaks c.source))[(Text.readPlace c.lead).line]? =
      some (Text.lastLine c.lead ++ (c.name ++ c.after.takeWhile fun d => !Text.isBreak d)) := by
    obtain ⟨d, tail, hhead, -⟩ := hname.head
    rw [hcut]
    exact Text.getElem?_readPlace c.lead c.after (by simp [hhead])
      fun e he => Text.isBreak_of_isWord (hname.word e he)
  rw [hupTo]
  refine ⟨?_, ?_, fun hstrays => ?_⟩
  · refine ⟨Text.lastLine c.lead, c.after.takeWhile fun d => !Text.isBreak d, ?_, rfl⟩
    rw [hline, hdeclares.name, String.toList_ofList, List.append_assoc]
  · rw [hdeclares.selection, Text.readPlace_eq_iff]
  · -- With no stray break the line of the name is the line of the symbol.
    have hplace := (Text.readPlace_eq_iff c.lead).2 hstrays
    rw [← hdeclares.selection] at hplace
    have hnamed := classNameAt?_statement hlexical hgap hname hstrays
    rw [hplace] at hline hnamed
    obtain ⟨kept', hrun⟩ := h.nameAt?_run x (hfile.ofUri_of_toUri huri) hkept hline
    rw [hnamed, ← hdeclares.name] at hrun
    exact ⟨kept', hrun⟩

end ClassIn

/-- A class in a file with carriage returns in front of its line feeds. -/
def paired : FileTree where
  entries :=
    [(["ws"], .directory),
     (["ws", "page.py"],
      sourceFile "import shop\r\n\r\nclass Page(shop.Base):\r\n    pass\r\n" 1)]
  here := []

def pageSymbol : OutlineSymbol :=
  ⟨"Page", .type, ⟨⟨2, 0⟩, ⟨3, 8⟩⟩, ⟨2, 6⟩, none⟩

theorem nameAt?_paired :
    Path.Plain ⟨.root, ["ws", "page.py"]⟩ ∧
      ClassIn paired ⟨.root, ["ws", "page.py"]⟩
        "import shop\r\n\r\nclass Page(shop.Base):\r\n    pass\r\n".toList pageSymbol ∧
      ∃ kept, ((Ancestry.nameAt? rootIndex.host (pageSymbol.location "file:///ws/page.py")).run
        []).run.run ⟨paired, []⟩ = (.ok (some "Page", kept), ⟨paired, []⟩) := by
  have hplain : Path.Plain ⟨.root, ["ws", "page.py"]⟩ := ⟨rfl, by decide, by decide +kernel⟩
  have hclass : ClassIn paired ⟨.root, ["ws", "page.py"]⟩
      "import shop\r\n\r\nclass Page(shop.Base):\r\n    pass\r\n".toList pageSymbol :=
    ⟨⟨_, rfl, by decide +kernel⟩, by decide +kernel, rfl, by decide, rfl⟩
  refine ⟨hplain, hclass, ?_⟩
  exact (nameAt?_of_classIn rootIndex (s := ⟨paired, []⟩) hplain (by decide +kernel) hclass
    (fun _ hnone => by cases hnone)).2.2 (by decide +kernel)

def fed : FileTree where
  entries :=
    [(["ws"], .directory), (["ws", "page.py"], sourceFile "\x0c\nclass Page:\n    pass\n" 1),
     (["ws", "shop.py"], sourceFile "from page import Page\n\nPage\n" 2)]
  here := []

/-- A form feed ends a line but no row, and the chase does not find the class
where the index says that it is. -/
theorem nameAt?_fed :
    (⟨"Page", .type, ⟨⟨1, 0⟩, ⟨2, 8⟩⟩, ⟨1, 6⟩, none⟩ : OutlineSymbol) ∈
        freshOutline fed ⟨.root, ["ws", "page.py"]⟩ ∧
      ((rootIndex.jump "file:///ws/shop.py" ⟨2, 0⟩).run.run ⟨fed, []⟩).1 =
        .ok [⟨"file:///ws/page.py", ⟨⟨1, 6⟩, ⟨1, 10⟩⟩⟩] ∧
      ((((Ancestry.nameAt? rootIndex.host ⟨"file:///ws/page.py", ⟨⟨1, 6⟩, ⟨1, 10⟩⟩⟩).run
        []).run.run ⟨fed, []⟩).1.map Prod.fst) = .ok none := by
  decide +kernel

end SourceIndex

end LozengeNav
