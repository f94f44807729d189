import LozengeNav.Proofs.NameTable
import LozengeNav.Proofs.SourceIndex.Locate

/-! # Jumping to what a name means

A jump reads the name under the cursor by the name table of its document. Within
a module an import of a name counts before a class or function of that name;
from outside, where the module is looked up, the class or function counts first.
Where a module does not both define and import a name, the two ways agree.
-/

namespace LozengeNav

namespace SourceIndex

/-! ## A name in a document -/

/-- A place of a document at which a name is written: the file of the document,
its text and the name of its module. -/
structure Use (x : SourceIndex) (t : FileTree) (uri : String) (place : Position) (name : String)
    (file : Path) (text : List Char) (module : String) : Prop where
  path : localPath? uri = some file
  source : source? t file = .ok (some text)
  module : x.moduleName t file = .ok module
  line : ∃ line, (Text.lines text)[place.line]? = some line ∧
    expressionAt? line place.column = some name

def tableOf (t : FileTree) (file : Path) (module : String) (text : List Char) : NameTable :=
  NameTable.build module (isPackage file) (freshOutline t file) (importsOf text)

/-- What a jump on a bound name asks for. -/
def followBinding (x : SourceIndex) (file : Path) (module name : String) (b : Binding) :
    Lookup (Option Location) :=
  match b.origin with
  | .definition => memberIn file module name [] none
  | _ => x.locate hopLimit (ModuleName.pieces b.qualified)

section Jump

variable {x : SourceIndex} {t : FileTree} {uri name : String} {place : Position} {file : Path}
  {text : List Char} {module : String}

theorem Use.jump_yields (h : Use x t uri place name file text module)
    (hname : '.' ∉ name.toList) {b : Binding} (hb : (tableOf t file module text).get? name = some b)
    {r : Except Fault (Option Location)} (hr : Yields t (followBinding x file module name b) r) :
    Yields t (x.jump uri place) (r.map Option.toList) := by
  obtain ⟨line, hline, hexpression⟩ := h.line
  have hlocate : Yields t (x.locateExpression file text name) r := by
    unfold locateExpression
    refine yields_get fun s htree _ => ?_
    rw [htree, h.module]
    refine yields_bind (yields_ofExcept (.ok module)) ?_
    refine yields_bind (nameTable_yields t file module text) ?_
    rw [ModuleName.pieces_eq_singleton hname]
    unfold tableOf at hb
    unfold followBinding at hr
    simp only [hb]
    cases horigin : b.origin <;> simp only [horigin, List.append_nil] at hr ⊢ <;> exact hr
  unfold jump
  simp only [h.path]
  refine yields_get fun s htree _ => ?_
  rw [htree, h.source]
  refine yields_bind (yields_ofExcept (.ok (some text))) ?_
  simp only [hline, hexpression]
  cases r with
  | error fault => exact yields_bind_error hlocate
  | ok found => exact yields_bind hlocate (yields_pure _)

end Jump

/-! ## Hops to spare -/

section Hops

variable {x : SourceIndex} {t : FileTree} {n : Nat} {q : String}

theorem clear_succ_iff (hlast : ∀ q', ¬ Hops x t (n + 1) q q') :
    Clear x t (n + 1) q ↔ Clear x t n q := by
  constructor
  · intro hclear k hk
    exact hclear k (by omega)
  · intro hclear k hk q' hops
    by_cases hend : k = n + 1
    · subst hend
      exact absurd hops (hlast q')
    · exact hclear k (by omega) q' hops

theorem leadsTo_succ_iff {l : Location} (hlast : ∀ q', ¬ Hops x t (n + 1) q q') :
    LeadsTo x t (n + 1) q l ↔ LeadsTo x t n q l := by
  constructor
  · rintro ⟨k, hk, q', file, hops, hlands⟩
    have hend : k ≠ n + 1 := by
      rintro rfl
      exact hlast q' hops
    exact ⟨k, by omega, q', file, hops, hlands⟩
  · rintro ⟨k, hk, q', file, hops, hlands⟩
    exact ⟨k, by omega, q', file, hops, hlands⟩

theorem Settles.eq_nothing_iff {r : Except Fault (Option Location)} (h : Settles x t n q r) :
    r = .ok none ↔ Clear x t n q ∧ ∀ l, ¬ LeadsTo x t n q l := by
  have hfaulty := h.faulty
  have hlocated := h.located
  cases r with
  | error fault => simp at hfaulty; simp [hfaulty]
  | ok found =>
      simp at hfaulty
      cases found with
      | none => simpa [hfaulty] using hlocated
      | some l => simpa [hfaulty] using ⟨l, ((hlocated l).1 rfl).2⟩

theorem not_hops_of_leadsTo {l : Location} (h : LeadsTo x t 0 q l) (q' : String) :
    ¬ Hops x t (n + 1) q q' := by
  obtain ⟨k, hk, q₀, file, hops₀, hlands, -⟩ := h
  rintro (_ | ⟨hop, -⟩)
  cases hops₀ with
  | refl => exact hop.not_lands hlands
  | head => omega

theorem Settles.eq_ok_iff {r r' : Except Fault (Option Location)} (h : Settles x t (n + 1) q r)
    (h' : Settles x t n q r') (hlast : ∀ q', ¬ Hops x t (n + 1) q q') (found : Option Location) :
    r = .ok found ↔ r' = .ok found := by
  cases found with
  | none =>
      rw [h.eq_nothing_iff, h'.eq_nothing_iff, clear_succ_iff hlast]
      simp only [leadsTo_succ_iff hlast]
  | some l => rw [h.located, h'.located, clear_succ_iff hlast, leadsTo_succ_iff hlast]

end Hops

/-! ## Inside and outside of a module -/

section Meaning

variable {x : SourceIndex} {t : FileTree} {m name : String} {file : Path}

/-- Looking up a name behind a module is looking it up in the file of the module. -/
theorem locate_member_yields {n : Nat} {r : Except Fault (Option Location)}
    (hname : '.' ∉ name.toList)
    (hfile : x.moduleFile? t (ModuleName.pieces m) = .ok (some file))
    (hmember : x.moduleFile? t (ModuleName.pieces m ++ [name]) = .ok none)
    (hr : Yields t (memberIn file m name [] (some (x.locate n))) r) :
    Yields t (x.locate (n + 1) (ModuleName.pieces (m ++ "." ++ name))) r := by
  obtain ⟨last, before, hparts⟩ :=
    List.exists_cons_of_ne_nil (List.reverse_ne_nil_iff.2 (ModuleName.pieces_ne_nil m))
  have hreverse : (last :: before).reverse = ModuleName.pieces m := by
    rw [← hparts, List.reverse_reverse]
  rw [ModuleName.pieces_append_dot, ModuleName.pieces_eq_singleton hname, locate,
    List.reverse_append, List.reverse_singleton, List.singleton_append]
  refine locateFrom_step (by rw [List.reverse_cons, List.reverse_reverse, hmember]) ?_
  simp only
  rw [hparts]
  refine locateFrom_step (by rw [hreverse, hfile]) ?_
  rwa [hreverse, ModuleName.spell_pieces]

theorem memberIn_definition_yields {top : OutlineSymbol} (module : String)
    (follow : Option Follow) (htop : topLevel? (freshOutline t file) name = some top) :
    Yields t (memberIn file module name [] follow)
      (file.toUri.map fun uri => some ⟨uri, top.nameSpan⟩) := by
  unfold memberIn
  refine yields_bind (outline_yields t file) ?_
  simp only [htop]
  exact target_yields rfl

theorem exists_topLevel? {outline : List OutlineSymbol}
    (h : ∃ s ∈ outline, s.container = none ∧ s.name = name) :
    ∃ top, topLevel? outline name = some top := by
  obtain ⟨s, hs, hcontainer, hname⟩ := h
  have hsome : (topLevel? outline name).isSome := by
    rw [topLevel?, List.find?_isSome]
    exact ⟨s, hs, by simp [hcontainer, hname]⟩
  exact Option.isSome_iff_exists.1 hsome

variable {text : List Char} {own : String} {b : Binding}

/-- Inside a module its name table says what a name leads to, outside its
outline does first. The two lead to the same as long as no class or function
hides behind an import, and imports are read in the module that is looked up. -/
theorem followBinding_iff_locate (hname : '.' ∉ name.toList)
    (hfile : x.moduleFile? t (ModuleName.pieces m) = .ok (some file))
    (hmember : x.moduleFile? t (ModuleName.pieces m ++ [name]) = .ok none)
    (hsource : source? t file = .ok (some text))
    (hb : (tableOf t file own text).get? name = some b)
    (hone : b.origin = .definition ∨ topLevel? (freshOutline t file) name = none ∧ own = m ∧
      ∀ q, ¬ Hops x t hopLimit b.qualified q) :
    ∃ r r', Yields t (followBinding x file own name b) r ∧
      Yields t (x.locate hopLimit (ModuleName.pieces (m ++ "." ++ name))) r' ∧
      ∀ found, r = .ok found ↔ r' = .ok found := by
  by_cases horigin : b.origin = .definition
  · obtain ⟨top, htop⟩ := exists_topLevel? (NameTable.exists_symbol_of_get? hb horigin)
    refine ⟨_, _, ?_, locate_member_yields hname hfile hmember
      (memberIn_definition_yields m _ htop), fun _ => Iff.rfl⟩
    unfold followBinding
    simp only [horigin]
    exact memberIn_definition_yields own none htop
  · -- From outside the import itself takes a hop, so one less is left behind it.
    obtain ⟨htop, rfl, hlast⟩ := hone.resolve_left horigin
    obtain ⟨r, hr, hsettles⟩ := locate_yields x t hopLimit b.qualified
    obtain ⟨r', hr', hsettles'⟩ := locate_yields x t 3 b.qualified
    have hisFile := yes_isFile_of_module? (moduleFile?_eq_ok hfile).symm
    have htext : (t.readText file).toOption = some text := by
      rw [source?_of_isFile hisFile] at hsource
      exact Except.ok.inj hsource
    have hbound : bound? t (ModuleName.pieces own) file name = some b := by
      rw [bound?_eq _ _ htext, ModuleName.spell_pieces]
      exact hb
    have hmeant : Yields t (memberIn file own name [] (some (x.locate 3))) r' := by
      rw [← ModuleName.spell_pieces own]
      exact memberIn_of_bound hisFile htop hbound (by rwa [List.append_nil])
    refine ⟨r, r', ?_, locate_member_yields hname hfile hmember hmeant,
      hsettles.eq_ok_iff hsettles' hlast⟩
    unfold followBinding
    cases h : b.origin with
    | definition => exact absurd h horigin
    | moduleImport => exact hr
    | memberImport => exact hr

/-- A name that a module binds is led to the same place from within the module
and from a document that imports it from there: one jump answers what the other
answers. -/
theorem jump_inside_iff_outside {s s' : IndexState} (hs : s.Faithful) (hs' : s'.Faithful)
    (htree : s'.tree = s.tree) {uri uri' : String} {place place' : Position} {file' : Path}
    {text' : List Char} {module' : String} (hm : m ≠ "") (hname : '.' ∉ name.toList)
    (hinside : Use x s.tree uri place name file text own)
    (houtside : Use x s.tree uri' place' name file' text' module')
    (hfile : x.moduleFile? s.tree (ModuleName.pieces m) = .ok (some file))
    (hmember : x.moduleFile? s.tree (ModuleName.pieces m ++ [name]) = .ok none)
    (hb : (tableOf s.tree file own text).get? name = some b)
    (himport : ∃ earlier line later,
      importsOf text' = earlier ++ ⟨name, m, some name, 0, line⟩ :: later ∧
        ∀ c ∈ later, c.name ≠ name)
    (hone : b.origin = .definition ∨ topLevel? (freshOutline s.tree file) name = none ∧ own = m ∧
      ∀ q, ¬ Hops x s.tree hopLimit b.qualified q) (answer : List Location) :
    ((x.jump uri place).run.run s).1 = .ok answer ↔
      ((x.jump uri' place').run.run s').1 = .ok answer := by
  obtain ⟨r, r', hr, hr', hsame⟩ := followBinding_iff_locate hname hfile hmember hinside.source hb hone
  obtain ⟨earlier, line, later, himports, hlast⟩ := himport
  have hb' : (tableOf s.tree file' module' text').get? name =
      some ⟨name, m ++ "." ++ name, .memberImport⟩ := by
    rw [tableOf, himports, NameTable.get?_build_of_last hlast]
    simp [NameTable.ofImport, NameTable.qualify, hm]
  obtain ⟨s₁, hrun, -⟩ := hinside.jump_yields hname hb hr s rfl hs
  obtain ⟨s₁', hrun', -⟩ := houtside.jump_yields hname hb' hr' s' htree hs'
  rw [hrun, hrun']
  have hmap : ∀ found : Except Fault (Option Location), found.map Option.toList = .ok answer ↔
      ∃ l, found = .ok l ∧ l.toList = answer := by
    intro found
    cases found <;> simp [Except.map]
  simp only [hmap, hsame]

end Meaning

/-! ## Two modules that bind a name twice over -/

def sourceFile (text : String) (modified : Int) : Entry :=
  .file (text.toList.flatMap Text.Utf8.encodeChar) modified

/-- A package that uses the class it offers, and a module that gets it from there. -/
def showcase : FileTree where
  entries :=
    [(["ws"], .directory), (["ws", "site"], .directory),
     (["ws", "site", "__init__.py"], sourceFile "from .pages import Page\n\nPage\n" 1),
     (["ws", "site", "pages.py"], sourceFile "class Page:\n    pass\n" 2),
     (["ws", "shop.py"], sourceFile "from site import Page\n\nPage\n" 3)]
  here := []

theorem jump_showcase :
    (∀ q, ¬ Hops rootIndex showcase hopLimit "site.pages.Page" q) ∧
      ((rootIndex.jump "file:///ws/site/__init__.py" ⟨2, 0⟩).run.run ⟨showcase, []⟩).1 =
        .ok [⟨"file:///ws/site/pages.py", ⟨⟨0, 6⟩, ⟨0, 10⟩⟩⟩] ∧
      ((rootIndex.jump "file:///ws/shop.py" ⟨2, 0⟩).run.run ⟨showcase, []⟩).1 =
        .ok [⟨"file:///ws/site/pages.py", ⟨⟨0, 6⟩, ⟨0, 10⟩⟩⟩] := by
  have hs := IndexState.faithful_fresh showcase
  have hlast : ∀ q, ¬ Hops rootIndex showcase hopLimit "site.pages.Page" q := by
    intro q
    obtain ⟨result, hyields, hsettles⟩ := locate_yields rootIndex showcase 0 "site.pages.Page"
    obtain ⟨s', hrun, -⟩ := hyields ⟨showcase, []⟩ rfl hs
    have hfound : ((rootIndex.locate 0 (ModuleName.pieces "site.pages.Page")).run.run
        ⟨showcase, []⟩).1 = .ok (some ⟨"file:///ws/site/pages.py", ⟨⟨0, 6⟩, ⟨0, 10⟩⟩⟩) := by
      decide +kernel
    rw [hrun] at hfound
    exact not_hops_of_leadsTo ((hsettles.located _).1 hfound).2 q
  have hinside : Use rootIndex showcase "file:///ws/site/__init__.py" ⟨2, 0⟩ "Page"
      ⟨.root, ["ws", "site", "__init__.py"]⟩ "from .pages import Page\n\nPage\n".toList "site" :=
    ⟨by decide +kernel, by decide +kernel, by decide +kernel, "Page".toList, by decide +kernel,
      by decide +kernel⟩
  have houtside : Use rootIndex showcase "file:///ws/shop.py" ⟨2, 0⟩ "Page"
      ⟨.root, ["ws", "shop.py"]⟩ "from site import Page\n\nPage\n".toList "shop" :=
    ⟨by decide +kernel, by decide +kernel, by decide +kernel, "Page".toList, by decide +kernel,
      by decide +kernel⟩
  have himports : importsOf "from site import Page\n\nPage\n".toList =
      [] ++ ⟨"Page", "site", some "Page", 0, 1⟩ :: [] := by
    decide +kernel
  have hfrom : ((rootIndex.jump "file:///ws/site/__init__.py" ⟨2, 0⟩).run.run ⟨showcase, []⟩).1 =
      .ok [⟨"file:///ws/site/pages.py", ⟨⟨0, 6⟩, ⟨0, 10⟩⟩⟩] := by
    decide +kernel
  refine ⟨hlast, hfrom, ?_⟩
  exact (jump_inside_iff_outside hs hs rfl (m := "site") (by decide) (by decide) hinside houtside
    (by decide +kernel) (by decide +kernel)
    (b := ⟨"Page", "site.pages.Page", .memberImport⟩) (by decide +kernel)
    ⟨[], 1, [], himports, by simp⟩ (.inr ⟨by decide +kernel, rfl, hlast⟩) _).1 hfrom

/-- A module that imports a function and defines it where that fails, and another
that gets it from there. -/
def fallback : FileTree where
  entries :=
    [(["ws"], .directory), (["ws", "fast.py"], sourceFile "def n():\n    pass\n" 1),
     (["ws", "m.py"],
      sourceFile "try:\n    from fast import n\nexcept ImportError:\n    def n():\n        pass\n\nn\n" 2),
     (["ws", "u.py"], sourceFile "from m import n\n\nn\n" 3)]
  here := []

/-- A name that is both imported and defined leads to the import from inside and
to the definition from outside. -/
theorem jump_fallback :
    rootIndex.moduleFile? fallback ["m"] = .ok (some ⟨.root, ["ws", "m.py"]⟩) ∧
      rootIndex.moduleFile? fallback ["m", "n"] = .ok none ∧
      rootIndex.moduleName fallback ⟨.root, ["ws", "m.py"]⟩ = .ok "m" ∧
      ((rootIndex.jump "file:///ws/m.py" ⟨6, 0⟩).run.run ⟨fallback, []⟩).1 =
        .ok [⟨"file:///ws/fast.py", ⟨⟨0, 4⟩, ⟨0, 5⟩⟩⟩] ∧
      ((rootIndex.jump "file:///ws/u.py" ⟨2, 0⟩).run.run ⟨fallback, []⟩).1 =
        .ok [⟨"file:///ws/m.py", ⟨⟨3, 8⟩, ⟨3, 9⟩⟩⟩] := by
  decide +kernel

end SourceIndex

end LozengeNav
