import LozengeNav.Proofs.Files.Limits
import LozengeNav.Proofs.ModuleName
import LozengeNav.Proofs.SourceIndex.Scan

/-! # Looking qualified names up

A lookup always ends. It finds a location exactly where the name leads within the
allowed hops, provided that every question on the way has an answer; without
that proviso it ends with a fault.
-/

namespace LozengeNav

namespace SourceIndex

open Fault (yes)

/-! ## What a result says about a name -/

/-- A result is right for looking a name up with `n` hops: it is a location where
the name leads there and all questions have an answer, and a fault where one of
them has none. -/
structure Settles (x : SourceIndex) (t : FileTree) (n : Nat) (q : String)
    (r : Except Fault (Option Location)) : Prop where
  located : ∀ l, r = .ok (some l) ↔ Clear x t n q ∧ LeadsTo x t n q l
  faulty : (∃ fault, r = .error fault) ↔ ¬ Clear x t n q

section Settles

variable {x : SourceIndex} {t : FileTree} {n : Nat} {q q' : String}

theorem settles_fault (fault : Fault) (h : ¬ Answered x t q) : Settles x t n q (.error fault) := by
  have hclear : ¬ Clear x t n q := fun hclear => h (hclear 0 (Nat.zero_le n) q (.refl q))
  exact ⟨fun l => by simp [hclear], by simp [hclear]⟩

theorem answered_of_not_lands (hmodules : ModulesAnswered x t q)
    (hlands : ∀ file span, ¬ Lands x t q file span) : Answered x t q :=
  ⟨hmodules, fun file span h => absurd h (hlands file span)⟩

theorem settles_nothing (hlast : n = 0 ∨ ∀ q', ¬ Hop x t q q') (hmodules : ModulesAnswered x t q)
    (hlands : ∀ file span, ¬ Lands x t q file span) : Settles x t n q (.ok none) := by
  have hanswered := answered_of_not_lands hmodules hlands
  have hclear : Clear x t n q := (clear_iff_answered hlast).2 hanswered
  exact ⟨fun l => by simp [leadsTo_iff_lands hlast, hlands], by simp [hclear]⟩

theorem settles_target {file : Path} {span : Span} (hlands : Lands x t q file span)
    (hmodules : ModulesAnswered x t q) :
    Settles x t n q (file.toUri.map fun uri => some ⟨uri, span⟩) := by
  have hlast : n = 0 ∨ ∀ q', ¬ Hop x t q q' := .inr fun q' hop => hop.not_lands hlands
  cases huri : file.toUri with
  | error fault =>
      refine settles_fault fault fun hanswered => ?_
      obtain ⟨uri, hok⟩ := hanswered.target file span hlands
      rw [huri] at hok
      cases hok
  | ok uri =>
      have hanswered : Answered x t q := by
        refine ⟨hmodules, fun file' span' hlands' => ⟨uri, ?_⟩⟩
        rw [(hlands.unique hlands').1, huri]
      have hclear : Clear x t n q := (clear_iff_answered hlast).2 hanswered
      refine ⟨fun l => ?_, by simp [hclear, Except.map]⟩
      rw [leadsTo_iff_lands hlast]
      constructor
      · intro hok
        cases hok
        exact ⟨hclear, file, hlands, huri⟩
      · rintro ⟨-, file', hlands', huri'⟩
        obtain ⟨rfl, hspan⟩ := hlands.unique hlands'
        rw [huri] at huri'
        cases huri'
        rw [← hspan]
        rfl

theorem settles_hop {r : Except Fault (Option Location)} (hop : Hop x t q q')
    (hanswered : Answered x t q) (h : Settles x t n q' r) : Settles x t (n + 1) q r := by
  have hclear : Clear x t (n + 1) q ↔ Clear x t n q' := by
    rw [clear_succ_of_hop hop, and_iff_right hanswered]
  refine ⟨fun l => ?_, ?_⟩
  · rw [hclear, leadsTo_succ_of_hop hop]
    exact h.located l
  · rw [hclear]
    exact h.faulty

end Settles

/-! ## The lookup -/

/-- What a lookup may do with a name that is left: nothing, or look it up right. -/
inductive Follows (x : SourceIndex) (t : FileTree) : Nat → Option Follow → Prop where
  | stop : Follows x t 0 none
  | go {n : Nat} {f : Follow} :
      (∀ q, ∃ r, Yields t (f (ModuleName.pieces q)) r ∧ Settles x t n q r) →
      Follows x t (n + 1) (some f)

section Lookup

variable {x : SourceIndex} {t : FileTree} {n : Nat} {q : String} {follow : Option Follow}

theorem modulesAnswered_of_missed {parts rest : List String} {file : Path}
    (hcut : Cut x t q parts rest file) (hmissed : Missed x t parts rest)
    (hfound : x.moduleFile? t parts = .ok (some file)) : ModulesAnswered x t q := by
  intro parts' rest' h
  obtain ⟨extra, rfl⟩ := hcut.prefix_of_asked h
  by_cases hextra : extra = []
  · rw [hextra, List.append_nil]
    exact ⟨_, hfound⟩
  · have happ := hcut.spelled.symm.trans h.spelled
    rw [List.append_assoc] at happ
    exact ⟨_, hmissed extra hextra ⟨rest', (List.append_cancel_left happ).symm⟩⟩

theorem target_yields {file : Path} {span : Span} {q : Lookup (Option Location)}
    (h : q = do return some ⟨← Query.ofExcept file.toUri, span⟩) :
    Yields t q (file.toUri.map fun uri => some ⟨uri, span⟩) := by
  subst h
  cases huri : file.toUri with
  | error fault => exact yields_bind_error (yields_ofExcept (.error fault))
  | ok uri => exact yields_bind (yields_ofExcept (.ok uri)) (yields_pure _)

/-- The bindings of a module are those of the name table that the lookup builds. -/
theorem bound?_eq {file : Path} {text : List Char} (parts : List String) (name : String)
    (htext : (t.readText file).toOption = some text) :
    bound? t parts file name =
      (NameTable.build (ModuleName.spell parts) (isPackage file) (freshOutline t file)
        (importsOf text)).get? name := by
  rw [bound?, htext]
  rfl

theorem nameTable_yields (t : FileTree) (file : Path) (module : String) (text : List Char) :
    Yields t (nameTable file module text) (.ok (NameTable.build module (isPackage file)
      (freshOutline t file) (importsOf text))) :=
  yields_bind (outline_yields t file) (yields_pure _)

/-- A name whose head is a symbol of the module stands for that symbol, a member
of it, or nothing. -/
theorem memberIn_symbol {parts tail : List String} {head : String} {file : Path}
    {top : OutlineSymbol} (hcut : Cut x t q parts (head :: tail) file)
    (hmodules : ModulesAnswered x t q) (htop : topLevel? (freshOutline t file) head = some top) :
    ∃ r, Yields t (memberIn file (ModuleName.spell parts) head tail follow) r ∧
      Settles x t n q r := by
  unfold memberIn
  cases hsymbol : symbolOf? (freshOutline t file) top tail with
  | some symbol =>
      have hlands : Lands x t q file symbol.nameSpan :=
        hcut.lands_iff_symbol.2 ⟨rfl, top, symbol, htop, hsymbol, rfl⟩
      refine ⟨_, yields_bind (outline_yields t file) ?_, settles_target hlands hmodules⟩
      simp only [htop, hsymbol]
      exact target_yields rfl
  | none =>
      have hhop : ∀ q', ¬ Hop x t q q' := by
        intro q' hop
        rw [hcut.hop_iff, htop] at hop
        cases hop.1
      have hlands : ∀ file span, ¬ Lands x t q file span := by
        intro file' span hlands
        obtain ⟨-, top', s, htop', hsymbol', -⟩ := hcut.lands_iff_symbol.1 hlands
        rw [htop] at htop'
        cases htop'
        rw [hsymbol] at hsymbol'
        cases hsymbol'
      refine ⟨_, yields_bind (outline_yields t file) ?_,
        settles_nothing (.inr hhop) hmodules hlands⟩
      simp only [htop, hsymbol]
      exact yields_pure none

section Outside

variable {parts tail : List String} {head : String} {file : Path} {f : Follow}
  (hfile : yes (t.isFile file) = true) (htop : topLevel? (freshOutline t file) head = none)

include hfile htop

theorem memberIn_of_unbound (hbound : bound? t parts file head = none) :
    Yields t (memberIn file (ModuleName.spell parts) head tail (some f)) (.ok none) := by
  unfold memberIn
  refine yields_bind (outline_yields t file) ?_
  simp only [htop]
  refine yields_get fun s htree _ => ?_
  rw [htree, source?_of_isFile hfile]
  cases htext : (t.readText file).toOption with
  | none => exact yields_bind (yields_ofExcept (.ok none)) (yields_pure none)
  | some text =>
      refine yields_bind (yields_ofExcept (.ok (some text))) ?_
      refine yields_bind (nameTable_yields t file (ModuleName.spell parts) text) ?_
      rw [← bound?_eq parts head htext, hbound]
      exact yields_pure none

theorem memberIn_of_bound {b : Binding} {r : Except Fault (Option Location)}
    (hbound : bound? t parts file head = some b)
    (hr : Yields t (f (ModuleName.pieces b.qualified ++ tail)) r) :
    Yields t (memberIn file (ModuleName.spell parts) head tail (some f)) r := by
  unfold memberIn
  refine yields_bind (outline_yields t file) ?_
  simp only [htop]
  refine yields_get fun s htree _ => ?_
  rw [htree, source?_of_isFile hfile]
  cases htext : (t.readText file).toOption with
  | none =>
      rw [bound?, htext] at hbound
      cases hbound
  | some text =>
      refine yields_bind (yields_ofExcept (.ok (some text))) ?_
      refine yields_bind (nameTable_yields t file (ModuleName.spell parts) text) ?_
      rw [← bound?_eq parts head htext, hbound]
      exact hr

end Outside

/-- A name whose head is no symbol of the module is followed to what the module
binds, if it does and a hop is left. -/
theorem memberIn_import {parts tail : List String} {head : String} {file : Path}
    (hfollow : Follows x t n follow) (hcut : Cut x t q parts (head :: tail) file)
    (hmodules : ModulesAnswered x t q) (htop : topLevel? (freshOutline t file) head = none) :
    ∃ r, Yields t (memberIn file (ModuleName.spell parts) head tail follow) r ∧
      Settles x t n q r := by
  have hfile := yes_isFile_of_module? hcut.found
  have hlands : ∀ file span, ¬ Lands x t q file span := by
    intro file' span hlands
    obtain ⟨-, top, s, htop', -⟩ := hcut.lands_iff_symbol.1 hlands
    rw [htop] at htop'
    cases htop'
  cases hfollow with
  | stop =>
      refine ⟨.ok none, yields_bind (outline_yields t file) ?_,
        settles_nothing (.inl rfl) hmodules hlands⟩
      simp only [htop]
      exact yields_pure none
  | go hf =>
      cases hbound : bound? t parts file head with
      | none =>
          have hhop : ∀ q', ¬ Hop x t q q' := by
            intro q' hop
            obtain ⟨-, b, hb, -⟩ := hcut.hop_iff.1 hop
            rw [hbound] at hb
            cases hb
          exact ⟨.ok none, memberIn_of_unbound hfile htop hbound,
            settles_nothing (.inr hhop) hmodules hlands⟩
      | some b =>
          have hdots : ∀ part ∈ tail, '.' ∉ part.toList := by
            intro part hpart
            have hpiece : part ∈ ModuleName.pieces q := by
              rw [hcut.spelled]
              exact List.mem_append_right _ (List.mem_cons_of_mem _ hpart)
            exact ModuleName.not_mem_of_mem_pieces hpiece
          obtain ⟨r, hr, hsettles⟩ := hf (ModuleName.spell (b.qualified :: tail))
          rw [ModuleName.pieces_spell_cons b.qualified hdots] at hr
          exact ⟨r, memberIn_of_bound hfile htop hbound hr,
            settles_hop (.bound hcut htop hbound) (answered_of_not_lands hmodules hlands) hsettles⟩

theorem memberIn_yields {parts tail : List String} {head : String} {file : Path}
    (hfollow : Follows x t n follow) (hcut : Cut x t q parts (head :: tail) file)
    (hmodules : ModulesAnswered x t q) :
    ∃ r, Yields t (memberIn file (ModuleName.spell parts) head tail follow) r ∧
      Settles x t n q r := by
  cases htop : topLevel? (freshOutline t file) head with
  | some top => exact memberIn_symbol hcut hmodules htop
  | none => exact memberIn_import hfollow hcut hmodules htop

theorem locateFrom_missed (hmissed : Missed x t [] (ModuleName.pieces q)) :
    Yields t (locateFrom x follow [] (ModuleName.pieces q).reverse) (.ok none) ∧
      Settles x t n q (.ok none) := by
  have hall : ∀ parts rest, ModuleName.pieces q = parts ++ rest → parts ≠ [] →
      x.moduleFile? t parts = .ok none := fun parts rest hspelled hne =>
    hmissed parts hne ⟨rest, hspelled.symm⟩
  have hcut : ∀ parts rest file, ¬ Cut x t q parts rest file := by
    intro parts rest file hcut
    have hnone := moduleFile?_eq_ok (hall parts rest hcut.spelled hcut.nonempty)
    rw [hcut.found] at hnone
    cases hnone
  have hhop : ∀ q', ¬ Hop x t q q' := fun q' ⟨h, _, _⟩ => hcut _ _ _ h
  have hlands : ∀ file span, ¬ Lands x t q file span := by
    intro file span hlands
    obtain ⟨parts, rest, h⟩ := hlands.cut
    exact hcut parts rest file h
  have hmodules : ModulesAnswered x t q := fun parts rest h =>
    ⟨none, hall parts rest h.spelled h.nonempty⟩
  refine ⟨?_, settles_nothing (.inr hhop) hmodules hlands⟩
  have hend : Yields t (locateFrom x follow (ModuleName.pieces q ++ []) [].reverse) (.ok none) :=
    yields_pure none
  exact locateFrom_skip hmissed hend

theorem locateFrom_yields (hfollow : Follows x t n follow) (q : String) :
    ∃ r, Yields t (locateFrom x follow [] (ModuleName.pieces q).reverse) r ∧
      Settles x t n q r := by
  -- The parts in `front` are the most that name a module, or have no answer.
  rcases exists_stop (missed_all x t (ModuleName.pieces q)) with
    ⟨front, back, happ, hne, hmissed, hstop⟩ | hmissed
  · have hspelled : ModuleName.pieces q = front ++ back := by rw [happ, List.append_nil]
    have hasked := hmissed.asked hspelled hne
    obtain ⟨last, before, hfront⟩ := List.exists_cons_of_ne_nil (List.reverse_ne_nil_iff.2 hne)
    have hreverse : (last :: before).reverse = front := by rw [← hfront, List.reverse_reverse]
    rw [hspelled]
    cases hfound : x.moduleFile? t front with
    | error fault =>
        have hfault : ¬ Answered x t q := by
          intro hanswered
          obtain ⟨found, hok⟩ := hanswered.modules front back hasked
          rw [hfound] at hok
          cases hok
        refine ⟨.error fault, locateFrom_skip hmissed ?_, settles_fault fault hfault⟩
        rw [hfront]
        exact locateFrom_fault (by rw [hreverse, hfound])
    | ok found =>
        cases found with
        | none => exact absurd hfound hstop
        | some file =>
            have hcut : Cut x t q front back file :=
              { hasked with found := (moduleFile?_eq_ok hfound).symm }
            have hmodules := modulesAnswered_of_missed hcut hmissed hfound
            cases back with
            | nil =>
                have hlands : Lands x t q file .origin := .module hcut
                refine ⟨_, locateFrom_skip hmissed ?_, settles_target hlands hmodules⟩
                rw [List.append_nil, hfront]
                exact locateFrom_step (by rw [hreverse, hfound]) (target_yields rfl)
            | cons head tail =>
                obtain ⟨r, hr, hsettles⟩ := memberIn_yields hfollow hcut hmodules
                refine ⟨r, locateFrom_skip hmissed ?_, hsettles⟩
                rw [List.append_nil, hfront]
                exact locateFrom_step (by rw [hreverse, hfound]) (by rwa [hreverse])
  · exact ⟨_, locateFrom_missed (by rwa [List.append_nil] at hmissed)⟩

/-- Every lookup of a name has a result, and the result is right. -/
theorem locate_yields (x : SourceIndex) (t : FileTree) (n : Nat) (q : String) :
    ∃ r, Yields t (x.locate n (ModuleName.pieces q)) r ∧ Settles x t n q r := by
  induction n generalizing q with
  | zero => exact locateFrom_yields .stop q
  | succ n ih => exact locateFrom_yields (.go ih) q

end Lookup

/-- A lookup always ends. It finds a location exactly where the name leads within
the hops it has and all questions on the way have an answer, and it ends with a
fault exactly where one of them has none. -/
theorem locate_iff_leadsTo (x : SourceIndex) (hops : Nat) (q : String) (s : IndexState)
    (hs : s.Faithful) :
    ∃ result s', (x.locate hops (ModuleName.pieces q)).run.run s = (result, s') ∧
      s'.tree = s.tree ∧ s'.Faithful ∧
      (∀ l, result = .ok (some l) ↔ Clear x s.tree hops q ∧ LeadsTo x s.tree hops q l) ∧
      ((∃ fault, result = .error fault) ↔ ¬ Clear x s.tree hops q) := by
  obtain ⟨result, hyields, hlocated, hfaulty⟩ := locate_yields x s.tree hops q
  obtain ⟨s', hrun, htree, hs'⟩ := hyields s rfl hs
  exact ⟨result, s', hrun, htree, hs', hlocated, hfaulty⟩

def rootIndex : SourceIndex :=
  ⟨⟨⟨.root, ["ws"]⟩, [], false⟩, [], []⟩

def offering : FileTree where
  entries :=
    [(["ws"], .directory), (["ws", "site"], .directory),
     (["ws", "site", "__init__.py"],
      .file ("from .pages import Page\n".toList.flatMap Text.Utf8.encodeChar) 1),
     (["ws", "site", "pages.py"],
      .file ("class Page:\n    pass\n".toList.flatMap Text.Utf8.encodeChar) 2)]
  here := []

theorem locate_offering :
    IndexState.Faithful ⟨offering, []⟩ ∧ Clear rootIndex offering hopLimit "site.Page" ∧
      LeadsTo rootIndex offering hopLimit "site.Page"
        ⟨"file:///ws/site/pages.py", ⟨⟨0, 6⟩, ⟨0, 10⟩⟩⟩ := by
  have hs := IndexState.faithful_fresh offering
  obtain ⟨result, s', hrun, -, -, hlocated, -⟩ :=
    locate_iff_leadsTo rootIndex hopLimit "site.Page" ⟨offering, []⟩ hs
  have hfound : ((rootIndex.locate hopLimit (ModuleName.pieces "site.Page")).run.run
      ⟨offering, []⟩).1 = .ok (some ⟨"file:///ws/site/pages.py", ⟨⟨0, 6⟩, ⟨0, 10⟩⟩⟩) := by
    decide +kernel
  rw [hrun] at hfound
  exact ⟨hs, (hlocated _).1 hfound⟩

def longName : String :=
  String.ofList (List.replicate 256 'x')

/-- The same root directory, and a directory with a name that is too long. -/
def longIndex : SourceIndex :=
  ⟨⟨⟨.root, ["ws"]⟩, [], false⟩, [⟨.root, [longName]⟩], []⟩

def single : FileTree where
  entries :=
    [(["ws"], .directory),
     (["ws", "a.py"], .file ("class B:\n    pass\n".toList.flatMap Text.Utf8.encodeChar) 1)]
  here := []

theorem nameLimit_lt_longName : FileTree.nameLimit < longName.utf8ByteSize := by
  decide +kernel

theorem nul_not_mem_longName : '\x00' ∉ longName.toList := by
  have hrepeated : ∀ n, '\x00' ∉ (String.ofList (List.replicate n 'x')).toList := by
    intro n h
    rw [String.toList_ofList] at h
    exact absurd (List.eq_of_mem_replicate h) (by decide)
  exact hrepeated 256

theorem isFile_longName (rest : List String) (hrest : ∀ part ∈ rest, '\x00' ∉ part.toList) :
    single.isFile ⟨.root, longName :: rest⟩ = .error .pathTooLong :=
  FileTree.test_of_long_head single _ (List.forall_mem_cons.2 ⟨nul_not_mem_longName, hrest⟩)
    nameLimit_lt_longName

theorem base_longName : ["a", "B"].foldl Path.join ⟨.root, [longName]⟩ =
    ⟨.root, [longName, "a", "B"]⟩ := by
  rw [List.foldl_cons, List.foldl_cons, List.foldl_nil,
    Path.join_of_name _ (by decide) (by decide) (by decide),
    Path.join_of_name _ (by decide) (by decide) (by decide)]
  rfl

theorem roots_longIndex : longIndex.roots single =
    .ok [⟨.root, ["ws"]⟩, ⟨.root, ["ws", "src"]⟩, ⟨.root, [longName]⟩] := by
  have hjoin : Path.join ⟨.root, ["ws"]⟩ "src" = ⟨.root, ["ws", "src"]⟩ := by decide
  rw [← hjoin]
  rfl

theorem module?_single : longIndex.module? single ["a", "B"] = none := by
  have hnear : ((places ["a", "B"] ⟨.root, ["ws"]⟩) ++ places ["a", "B"] ⟨.root, ["ws", "src"]⟩).find?
      (fun p => yes (single.isFile p)) = none := by
    decide
  have hlong : (places ["a", "B"] ⟨.root, [longName]⟩).find? (fun p => yes (single.isFile p)) =
      none := by
    have hplaces : places ["a", "B"] ⟨.root, [longName]⟩ =
        [⟨.root, [longName, "a", "B", packageFile]⟩, ⟨.root, [longName, "a", "B.py"]⟩] := by
      rw [places, base_longName]
      rfl
    have hpackage : single.isFile ⟨.root, [longName, "a", "B", packageFile]⟩ =
        .error .pathTooLong := isFile_longName _ (by decide)
    have hplain : single.isFile ⟨.root, [longName, "a", "B.py"]⟩ = .error .pathTooLong :=
      isFile_longName _ (by decide)
    rw [hplaces, List.find?_eq_none]
    simp [hpackage, hplain, yes]
  rw [module?, ← roots_eq_ok roots_longIndex, List.flatMap_cons, List.flatMap_cons,
    List.flatMap_cons, List.flatMap_nil, List.append_nil, ← List.append_assoc, List.find?_append,
    hnear, hlong]
  rfl

theorem moduleFile?_single :
    longIndex.moduleFile? single ["a", "B"] = .error .pathTooLong := by
  have hroot : moduleFileIn? single ["a", "B"] ⟨.root, ["ws"]⟩ = .ok none := by decide
  have hsource : moduleFileIn? single ["a", "B"] ⟨.root, ["ws", "src"]⟩ = .ok none := by
    decide
  have hlong : moduleFileIn? single ["a", "B"] ⟨.root, [longName]⟩ = .error .pathTooLong := by
    have hpackage := isFile_longName ["a", "B", packageFile] (by decide)
    simp only [moduleFileIn?, base_longName]
    rw [Path.child, List.cons_append, List.cons_append, List.cons_append, List.nil_append, hpackage]
    rfl
  rw [moduleFile?_of_roots roots_longIndex, firstModuleFile?_of_none hroot,
    firstModuleFile?_of_none hsource, firstModuleFile?_of_fault hlong]

/-- A name may lead to a location although a question about a longer prefix of it
has no answer; then the lookup ends with a fault. -/
theorem locate_single :
    LeadsTo longIndex single hopLimit "a.B" ⟨"file:///ws/a.py", ⟨⟨0, 6⟩, ⟨0, 7⟩⟩⟩ ∧
      ∃ fault, ((longIndex.locate hopLimit (ModuleName.pieces "a.B")).run.run
        ⟨single, []⟩).1 = .error fault := by
  have hpieces : ModuleName.pieces "a.B" = ["a", "B"] := by decide +kernel
  have hasked : Asked longIndex single "a.B" ["a", "B"] [] :=
    ⟨hpieces, List.cons_ne_nil _ _, fun extra hne hprefix => absurd (List.prefix_nil.1 hprefix) hne⟩
  have hcut : Cut longIndex single "a.B" ["a"] ["B"] ⟨.root, ["ws", "a.py"]⟩ := by
    refine ⟨⟨hpieces, List.cons_ne_nil _ _, ?_⟩, by decide +kernel⟩
    intro extra hne hprefix
    rcases List.prefix_cons_iff.1 hprefix with rfl | ⟨more, rfl, hmore⟩
    · exact absurd rfl hne
    · rw [List.prefix_nil.1 hmore]
      exact module?_single
  have htop : topLevel? (freshOutline single ⟨.root, ["ws", "a.py"]⟩) "B" =
      some ⟨"B", .type, ⟨⟨0, 0⟩, ⟨1, 8⟩⟩, ⟨0, 6⟩, none⟩ := by
    decide +kernel
  have hclear : ¬ Clear longIndex single hopLimit "a.B" := by
    intro hclear
    obtain ⟨found, hfound⟩ := (hclear 0 (Nat.zero_le _) _ (.refl _)).modules _ _ hasked
    rw [moduleFile?_single] at hfound
    cases hfound
  obtain ⟨result, hyields, hsettles⟩ := locate_yields longIndex single hopLimit "a.B"
  obtain ⟨s', hrun, -⟩ := hyields ⟨single, []⟩ rfl (IndexState.faithful_fresh single)
  obtain ⟨fault, hfault⟩ := hsettles.faulty.2 hclear
  refine ⟨⟨0, Nat.zero_le _, _, _, .refl _, .symbol hcut htop, by decide +kernel⟩, fault, ?_⟩
  rw [hrun, hfault]

end SourceIndex

end LozengeNav
