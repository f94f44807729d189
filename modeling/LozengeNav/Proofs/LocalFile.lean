import LozengeNav.LocalFile
import LozengeNav.Proofs.Config
import LozengeNav.Proofs.Definition.Targets
import LozengeNav.Proofs.Files.Found
import LozengeNav.Proofs.Files.LinkFree
import LozengeNav.Proofs.Files.Wildcard
import LozengeNav.Proofs.Protocol.Shared
import LozengeNav.Proofs.Uri.Return

/-! # Files that references are resolved to

The name of a sibling file is looked up as it stands near the document, but it is
a pattern when the workspace is searched. So a reference is resolved to a file of
its own unless the extension stands for others too: any extension that is no
pattern with a second meaning is safe, and for every other one there is a
workspace in which a reference leads into a file that is not its own.
-/

namespace LozengeNav

open Glob (isWild hasDouble)

/-- A host that shows the files of a workspace as they are. -/
structure Host.Shows {σ : Type} (host : Host σ) (w : Workspace) (t : FileTree) (s : σ) : Prop where
  fileExists : ∀ p, (host.fileExists p).run.run s = (t.isFile p, s)
  findFiles : ∀ pattern limit,
    (host.findFiles pattern limit).run.run s = (w.findFiles t pattern limit, s)

theorem SourceIndex.host_shows (x : SourceIndex) (s : IndexState) :
    x.host.Shows x.workspace s.tree s where
  fileExists p := by
    have hask : x.host.fileExists p = (do Query.ofExcept ((← get).tree.isFile p)) := rfl
    rw [hask, Query.run_get, Query.run_ofExcept]
  findFiles pattern limit := by
    have hask : x.host.findFiles pattern limit =
        (do Query.ofExcept (x.workspace.findFiles (← get).tree pattern limit)) := rfl
    rw [hask, Query.run_get, Query.run_ofExcept]

theorem Session.host_shows (x : Session) (w : Workspace) (s : SessionState) :
    (x.host w).Shows w s.tree s where
  fileExists p := by
    have hask : (x.host w).fileExists p = (do Query.ofExcept ((← get).tree.isFile p)) := rfl
    rw [hask, Query.run_get, Query.run_ofExcept]
  findFiles pattern limit := by
    have hask : (x.host w).findFiles pattern limit =
        (do Query.ofExcept (w.findFiles (← get).tree pattern limit)) := rfl
    rw [hask, Query.run_get, Query.run_ofExcept]

namespace LocalFile

open Query

/-! ## What is looked up -/

section Lookup

variable {σ : Type} {host : Host σ} {w : Workspace} {t : FileTree} {s s' : σ}
  (h : host.Shows w t s)

include h

theorem firstFile?_eq_ok {paths : List Path} {found : Option Path}
    (hrun : (firstFile? host paths).run.run s = (.ok found, s')) :
    s' = s ∧ ∀ p ∈ found, p ∈ paths ∧ t.isFile p = .ok true := by
  induction paths with
  | nil =>
      cases hrun
      exact ⟨rfl, nofun⟩
  | cons path rest ih =>
      obtain ⟨isFile, s₁, hasked, hrun⟩ := exists_of_run_bind hrun
      rw [h.fileExists] at hasked
      obtain ⟨hfile, rfl⟩ := Prod.mk.inj hasked
      cases isFile with
      | true =>
          cases hrun
          refine ⟨rfl, ?_⟩
          rintro _ ⟨⟩
          exact ⟨List.mem_cons_self, hfile⟩
      | false =>
          obtain ⟨hstate, hfound⟩ := ih hrun
          exact ⟨hstate, fun p hp => ⟨List.mem_cons_of_mem _ (hfound p hp).1, (hfound p hp).2⟩⟩

theorem firstFound?_eq_ok {files : List String} {found : Option String}
    (hrun : (firstFound? host files).run.run s = (.ok found, s')) :
    ∀ uri ∈ found, ∃ file ∈ files, ∃ others,
      w.findFiles t ("**/" ++ file) 1 = .ok (uri :: others) := by
  induction files with
  | nil =>
      cases hrun
      exact nofun
  | cons file rest ih =>
      obtain ⟨uris, s₁, hasked, hrun⟩ := exists_of_run_bind hrun
      rw [h.findFiles] at hasked
      obtain ⟨hsearch, rfl⟩ := Prod.mk.inj hasked
      cases uris with
      | nil =>
          intro uri huri
          obtain ⟨other, hother, hfound⟩ := ih hrun uri huri
          exact ⟨other, List.mem_cons_of_mem _ hother, hfound⟩
      | cons first others =>
          cases hrun
          rintro _ ⟨⟩
          exact ⟨file, List.mem_cons_self, others, hsearch⟩

/-- What a reference is resolved to is a file near the document or found in the workspace. -/
theorem resolve_eq_ok {extension name uri : String} {directory : Path}
    (hrun : (resolve host extension name directory).run.run s = (.ok (some uri), s')) :
    ∃ p, p.toUri = .ok uri ∧ t.isFile p = .ok true ∧
      (p ∈ nearby directory (candidates name extension) ∨
        ∃ file ∈ candidates name extension, ∃ files, w.glob t ("**/" ++ file) = .ok files ∧
          p ∈ files) := by
  obtain ⟨near, s₁, hnear, hrun⟩ := exists_of_run_bind hrun
  obtain ⟨rfl, hfile⟩ := firstFile?_eq_ok h hnear
  cases near with
  | some p =>
      obtain ⟨hmem, hfile⟩ := hfile p rfl
      obtain ⟨found, s₂, hasked, hrun⟩ := exists_of_run_bind hrun
      have hlift : (liftM p.toUri : Query σ String).run.run s₁ = (p.toUri, s₁) := by
        cases p.toUri <;> rfl
      rw [hlift] at hasked
      obtain ⟨huri, rfl⟩ := Prod.mk.inj hasked
      cases hrun
      exact ⟨p, huri, hfile, .inl hmem⟩
  | none =>
      obtain ⟨file, hmem, others, hsearch⟩ := firstFound?_eq_ok h hrun uri rfl
      obtain ⟨files, hglob, p, hp, huri⟩ :=
        Workspace.exists_of_mem_findFiles hsearch List.mem_cons_self
      exact ⟨p, huri, Workspace.isFile_of_mem_glob hglob hp, .inr ⟨file, hmem, files, hglob, hp⟩⟩

end Lookup

/-! ## Names and extensions -/

/-- An extension that is a pattern for itself only, among the ends that the names of files can
have. -/
def Literal (extension : String) : Prop :=
  ∀ ending : String, '/' ∉ ending.toList → '\x00' ∉ ending.toList →
    ending.utf8ByteSize + 2 ≤ FileTree.nameLimit → Wildcard.fits extension ending = true →
    ending = extension

/-- An extension with which the workspace is searched for files of its own only, or not at all. -/
def Harmless (extension : String) : Prop :=
  hasDouble extension.toList = true ∨ Literal extension

theorem literal_of_not_wild {extension : String} (h : isWild extension = false) :
    Literal extension :=
  fun ending _ _ _ hfits => (Wildcard.fits_iff_eq h ending).1 hfits

theorem hasDouble_append (front : List Char) {s : List Char} (h : hasDouble s = true) :
    hasDouble (front ++ s) = true := by
  induction front with
  | nil => exact h
  | cons c front ih =>
      rw [List.cons_append]
      unfold hasDouble
      split
      · rfl
      · next heq =>
          cases heq
          exact ih
      · next heq => cases heq

theorem not_wild_of_spelled {s : List Char} (h : Reference.Spelled s) :
    (s.any fun c => c = '*' || c = '?' || c = '[') = false := by
  rw [List.any_eq_false]
  intro c hc
  simp only [Bool.or_eq_true, decide_eq_true_eq]
  rintro ((rfl | rfl) | rfl)
  all_goals exact h.not_mem (by decide) (by decide) hc

/-- A file name that begins like a reference is a plain beginning and the extension. -/
theorem exists_front_of_spelled {front : List Char} {extension file : String}
    (hbegins : Reference.Begins front) (hspelled : Reference.Spelled front)
    (hfile : file.toList = front ++ '.' :: extension.toList) :
    (∃ plain, file = plain ++ extension ∧ isWild plain = false ∧ 2 ≤ plain.utf8ByteSize) ∧
      file ≠ "**" := by
  have hdot : Reference.Spelled ['.'] := List.forall_mem_singleton.2 (.inr rfl)
  obtain ⟨c, rest, rfl, hc⟩ := hbegins
  refine ⟨⟨String.ofList (c :: rest) ++ ".", ?_, ?_, ?_⟩, ?_⟩
  · apply String.toList_inj.1
    have hlist : ".".toList = ['.'] := rfl
    rw [hfile, String.toList_append, String.toList_append, String.toList_ofList, hlist]
    simp
  · have hlist : (String.ofList (c :: rest) ++ ".").toList = (c :: rest) ++ ['.'] := by
      rw [String.toList_append, String.toList_ofList]
      rfl
    rw [isWild, hlist]
    exact not_wild_of_spelled (hspelled.append hdot)
  · have hone : ".".utf8ByteSize = 1 := by decide
    have hne : (String.ofList (c :: rest)).utf8ByteSize ≠ 0 := by
      rw [ne_eq, String.utf8ByteSize_eq_zero_iff, ← String.toList_eq_nil_iff, String.toList_ofList]
      exact List.cons_ne_nil c rest
    rw [String.utf8ByteSize_append, hone]
    omega
  · rintro rfl
    have hstar : c = '*' := by
      have hlist : "**".toList = ['*', '*'] := rfl
      rw [hlist, List.cons_append, List.cons.injEq] at hfile
      exact hfile.1.symm
    rw [hstar] at hc
    exact absurd hc (by decide)

theorem exists_front {name extension file : String} (hbegins : Reference.Begins name.toList)
    (hspelled : Reference.Spelled name.toList) (hextension : '/' ∉ extension.toList)
    (hfile : file ∈ candidates name extension) :
    ((∃ plain, file = plain ++ extension ∧ isWild plain = false ∧ 2 ≤ plain.utf8ByteSize) ∧
      file ≠ "**") ∧ Path.IsName file := by
  have hdot : ".".toList = ['.'] := rfl
  have hunderscore : "_".toList = ['_'] := rfl
  rw [candidates, List.mem_pair] at hfile
  rcases hfile with rfl | rfl
  · have hlist : (name ++ "." ++ extension).toList = name.toList ++ '.' :: extension.toList := by
      simp [hdot]
    exact ⟨exists_front_of_spelled hbegins hspelled hlist,
      (isName_of_spelled hbegins hspelled hextension hlist).1⟩
  · have hlist : ("_" ++ name ++ "." ++ extension).toList =
        ('_' :: name.toList) ++ '.' :: extension.toList := by
      simp [hdot, hunderscore]
    have hhead : Reference.Begins ('_' :: name.toList) := ⟨'_', name.toList, rfl, by decide⟩
    have hfront : Reference.Spelled ('_' :: name.toList) :=
      List.forall_mem_cons.2 ⟨.inl (by decide), hspelled⟩
    exact ⟨exists_front_of_spelled hhead hfront hlist,
      (isName_of_spelled hhead hfront hextension hlist).1⟩

/-- With a harmless extension, a file name is a pattern for itself only. -/
theorem name_of_fits {t : FileTree} {extension file : String} {q : Path}
    (hharmless : Harmless extension)
    (hfront : ∃ plain, file = plain ++ extension ∧ isWild plain = false ∧ 2 ≤ plain.utf8ByteSize)
    (hdouble : hasDouble file.toList = false) (hnames : ∀ part ∈ q.parts, Path.IsName part)
    (hfile : t.isFile q = .ok true) (hfits : Wildcard.fits file q.name = true) : q.name = file := by
  obtain ⟨plain, rfl, hplain, hsize⟩ := hfront
  obtain ⟨ending, hname, hending⟩ := (Wildcard.fits_append hplain extension q.name).1 hfits
  have hmem : q.name ∈ q.parts := by
    cases hparts : q.parts.getLast? with
    | none =>
        have hempty : q.name = "" := by rw [Path.name, List.getLastD_eq_getLast?, hparts]; rfl
        have hzero : q.name.utf8ByteSize = 0 := by rw [hempty]; rfl
        rw [hname, String.utf8ByteSize_append] at hzero
        omega
    | some last =>
        rw [Path.name, List.getLastD_eq_getLast?, hparts]
        exact List.mem_of_getLast? hparts
  have hslash : '/' ∉ ending.toList := fun h => (hnames _ hmem).2.1 (by simp [hname, h])
  have hfitting := FileTree.fitting_of_isFile hfile _ hmem
  have hnul : '\x00' ∉ ending.toList := fun h => hfitting.noNul (by simp [hname, h])
  have hshort := hfitting.short
  rw [hname, String.utf8ByteSize_append] at hshort
  rcases hharmless with hstars | hliteral
  · rw [String.toList_append, hasDouble_append _ hstars] at hdouble
    cases hdouble
  · rw [hname, hliteral ending hslash hnul (by omega) hending]

/-! ## Resolved references -/

/-- A file that one of some names stands for, for a document in a directory. -/
structure OwnFile (w : Workspace) (t : FileTree) (directory : Path) (names : List String)
    (p : Path) : Prop where
  file : t.isFile p = .ok true
  name : p.name ∈ names
  place : p.parent = directory ∨ p.parent = directory.parent ∨ w.Inside t p

/-- A name that was read off a line is resolved to a URI. -/
structure Resolved (w : Workspace) (t : FileTree) (extension name : String) (directory : Path)
    (uri : String) : Prop where
  named : t.Named
  root : w.root.Absolute
  start : directory.Absolute
  token : ∃ line column reference, Reference.at? line column = some reference ∧
    name = String.ofList reference.name
  run : ∃ (σ : Type) (host : Host σ) (s s' : σ), host.Shows w t s ∧
    (resolve host extension name directory).run.run s = (.ok (some uri), s')

/-- A file near the document, or one in the workspace whose name a pattern stands for. -/
def Leads (w : Workspace) (t : FileTree) (directory : Path) (file : String) (p : Path) : Prop :=
  p = directory.child file ∨ p = directory.parent.child file ∨
    hasDouble file.toList = false ∧ w.Inside t p ∧ Wildcard.fits file p.name = true

section Resolved

variable {w : Workspace} {t : FileTree} {extension name uri : String} {directory : Path}
  (h : Resolved w t extension name directory uri) (hextension : '/' ∉ extension.toList)

include h hextension

theorem Resolved.exists_front {file : String} (hfile : file ∈ candidates name extension) :
    ((∃ plain, file = plain ++ extension ∧ isWild plain = false ∧ 2 ≤ plain.utf8ByteSize) ∧
      file ≠ "**") ∧ Path.IsName file := by
  obtain ⟨line, column, reference, hat, rfl⟩ := h.token
  exact LocalFile.exists_front (by simpa using Reference.begins_of_at? hat)
    (by simpa using Reference.spelled_of_at? hat) hextension hfile

/-- Where a reference is resolved to, there is a file near the document with one of its names, or a
file in the workspace with a name that one of them stands for as a pattern. -/
theorem Resolved.exists_leads : ∃ p, p.toUri = .ok uri ∧ t.isFile p = .ok true ∧ p.Absolute ∧
    ∃ file ∈ candidates name extension, Leads w t directory file p := by
  obtain ⟨σ, host, s, s', hshows, hrun⟩ := h.run
  obtain ⟨p, huri, hfile, hplace⟩ := resolve_eq_ok hshows hrun
  refine ⟨p, huri, hfile, ?_⟩
  rcases hplace with hnear | ⟨file, hmem, files, hglob, hp⟩
  · obtain ⟨above, habove, hnear⟩ := List.mem_flatMap.1 hnear
    obtain ⟨file, hmem, rfl⟩ := List.mem_map.1 hnear
    have hname := (h.exists_front hextension hmem).2
    rw [Path.join_of_name above hname.2.1 hname.1 hname.2.2]
    rcases List.mem_pair.1 habove with rfl | rfl
    · exact ⟨h.start.child hname, file, hmem, .inl rfl⟩
    · exact ⟨h.start.parent.child hname, file, hmem, .inr (.inl rfl)⟩
  · obtain ⟨⟨-, hstars⟩, hname⟩ := h.exists_front hextension hmem
    obtain ⟨matchers, found, hfound, hcandidate, hadmits⟩ :=
      Workspace.exists_admits_of_mem_glob hglob hp
    obtain ⟨hdouble, hfits⟩ := Glob.fits_of_mem_find hname hstars hfound hcandidate
    obtain ⟨names, rfl, hnames⟩ := Glob.exists_names_of_mem_find h.named hfound hcandidate
    exact ⟨h.root.below hnames, file, hmem,
      .inr (.inr ⟨hdouble, Workspace.inside_of_admits hadmits, hfits⟩)⟩

theorem Resolved.ownFile (hharmless : Harmless extension) {file : String} {p : Path}
    (hmem : file ∈ candidates name extension) (hfile : t.isFile p = .ok true) (hp : p.Absolute)
    (hleads : Leads w t directory file p) :
    OwnFile w t directory (candidates name extension) p := by
  rcases hleads with rfl | rfl | ⟨hdouble, hinside, hfits⟩
  · exact ⟨hfile, by rwa [Path.name_child], .inl (Path.parent_child _ _)⟩
  · exact ⟨hfile, by rwa [Path.name_child], .inr (.inl (Path.parent_child _ _))⟩
  · have hname := name_of_fits hharmless (h.exists_front hextension hmem).1.1 hdouble hp.names hfile
      hfits
    exact ⟨hfile, by rwa [hname], .inr (.inr hinside)⟩

end Resolved

/-! ## A workspace with one file -/

section Found

variable {σ : Type} {host : Host σ} {w : Workspace} {t : FileTree} {s : σ} (h : host.Shows w t s)

include h

theorem firstFile?_of_forall {paths : List Path} (hall : ∀ p ∈ paths, t.isFile p = .ok false) :
    (firstFile? host paths).run.run s = (.ok none, s) := by
  induction paths with
  | nil => rfl
  | cons path rest ih =>
      obtain ⟨hpath, hrest⟩ := List.forall_mem_cons.1 hall
      rw [firstFile?, run_bind_of_ok _ ((h.fileExists path).trans (by rw [hpath]))]
      exact ih hrest

theorem resolve_of_isFile {extension name uri : String} {directory : Path}
    (hfile : t.isFile (directory.join (name ++ "." ++ extension)) = .ok true)
    (huri : (directory.join (name ++ "." ++ extension)).toUri = .ok uri) :
    (resolve host extension name directory).run.run s = (.ok (some uri), s) := by
  obtain ⟨rest, hrest⟩ : ∃ rest, nearby directory (candidates name extension) =
      directory.join (name ++ "." ++ extension) :: rest := ⟨_, rfl⟩
  have hfirst : (firstFile? host (nearby directory (candidates name extension))).run.run s =
      (.ok (some (directory.join (name ++ "." ++ extension))), s) := by
    rw [hrest, firstFile?, run_bind_of_ok _ ((h.fileExists _).trans (by rw [hfile]))]
    rfl
  rw [resolve, run_bind_of_ok _ hfirst]
  simp only [huri]
  rfl

theorem resolve_of_findFiles {extension name uri : String} {directory : Path}
    (hnear : ∀ p ∈ nearby directory (candidates name extension), t.isFile p = .ok false)
    (hfound : w.findFiles t ("**/" ++ (name ++ "." ++ extension)) 1 = .ok [uri]) :
    (resolve host extension name directory).run.run s = (.ok (some uri), s) := by
  rw [resolve, run_bind_of_ok _ (firstFile?_of_forall h hnear), candidates, firstFound?,
    run_bind_of_ok _ ((h.findFiles _ _).trans (by rw [hfound]))]
  rfl

end Found

def lone (file : String) : FileTree where
  entries := [(["w"], .directory), (["w", file], .file [] 1)]
  here := []

def loneIndex : SourceIndex :=
  ⟨⟨⟨.root, ["w"]⟩, [], false⟩, [], []⟩

section Lone

variable {file : String}

theorem locate_lone (hup : file ≠ "..") (hfitting : FileTree.Fitting file) (last : Bool) :
    (lone file).locate last ⟨.root, ["w", file]⟩ = .ok (["w", file], .file [] 1) := by
  have hnames : ∀ name ∈ ["w", file], FileTree.Fitting name :=
    List.forall_mem_cons.2 ⟨⟨by decide, by decide⟩,
      List.forall_mem_singleton.2 hfitting⟩
  have hnul : ¬ (Path.toString ⟨.root, ["w", file]⟩).toList.contains '\x00' = true := by
    rw [List.contains_iff_mem]
    exact FileTree.not_mem_nul_of_fitting hnames
  have hsize : ¬ FileTree.pathLimit < (Path.toString ⟨.root, ["w", file]⟩).utf8ByteSize := by
    have hwritten := Path.utf8ByteSize_toString (p := ⟨.root, ["w", file]⟩) (List.cons_ne_nil _ _)
    have hw : "w".utf8ByteSize = 1 := by decide
    have hroot : (Path.slashes .root).utf8ByteSize = 1 := by decide
    have hshort : file.utf8ByteSize ≤ 255 := hfitting.short
    have hlimit : FileTree.pathLimit = 4095 := rfl
    simp only [Path.slashedSize, List.foldr, hw, hroot] at hwritten
    omega
  have hentry : FileTree.entry? (lone file) ["w", file] = some (.file [] 1) := by
    unfold FileTree.entry?
    simp [lone, List.lookup]
  have hfollow : (lone file).follow last 40 [] ["w", file] =
      (lone file).walk last (some ((lone file).follow last 39)) ["w"] [file] := rfl
  have hstart : FileTree.startOf (lone file).here ⟨.root, ["w", file]⟩ = [] := rfl
  rw [FileTree.locate]
  simp only [if_neg hnul, if_neg hsize, hstart]
  rw [FileTree.linkLimit, hfollow, FileTree.walk, if_neg hup, if_neg (Nat.not_lt.2 hfitting.short)]
  simp [hentry]

theorem isFile_lone {names : List String}
    (hsize : (Path.toString ⟨.root, "d" :: names⟩).utf8ByteSize ≤ FileTree.pathLimit) :
    (lone file).isFile ⟨.root, "d" :: names⟩ = .ok false := by
  have hentry : FileTree.entry? (lone file) ["d"] = none := by
    unfold FileTree.entry?
    simp [lone, List.lookup]
  have hfollow : (lone file).follow true FileTree.linkLimit [] ("d" :: names) = .error .missing := by
    rw [FileTree.linkLimit, FileTree.follow, FileTree.walk, if_neg (by decide),
      if_neg (by decide)]
    simp only [List.nil_append, hentry]
  have hstart : FileTree.startOf (lone file).here ⟨.root, "d" :: names⟩ = [] := rfl
  rw [FileTree.isFile, FileTree.test, FileTree.locate]
  simp only [if_neg (Nat.not_lt.2 hsize), hstart, hfollow]
  cases (Path.toString ⟨.root, "d" :: names⟩).toList.contains '\x00' <;> rfl

theorem matchers_lone (hignore : file ≠ Workspace.ignoreName) :
    loneIndex.workspace.matchers (lone file) = .ok [] := by
  have htop : loneIndex.workspace.root.join Workspace.ignoreName = ⟨.root, ["w", ".gitignore"]⟩ := by
    decide
  have hentry : FileTree.entry? (lone file) ["w", ".gitignore"] = none := by
    have hne : (".gitignore" == file) = false := beq_eq_false_iff_ne.2 hignore.symm
    unfold FileTree.entry?
    simp [lone, List.lookup, hne]
  have hwalk : (lone file).locate true ⟨.root, ["w", ".gitignore"]⟩ =
      (lone file).walk true (some ((lone file).follow true 39)) ["w"] [".gitignore"] := rfl
  have hlocate : (lone file).locate true ⟨.root, ["w", ".gitignore"]⟩ = .error .missing := by
    rw [hwalk, FileTree.walk, if_neg (by decide), if_neg (by decide)]
    simp only [List.singleton_append, hentry]
  have hfiles : loneIndex.workspace.ignoreFiles (lone file) = .ok [] := by
    rw [Workspace.ignoreFiles]
    simp only [htop, FileTree.isFile, FileTree.test, hlocate]
    rfl
  rw [Workspace.matchers, hfiles]
  rfl

theorem find_lone {pattern : String} (hname : Path.IsName pattern)
    (hsegment : Glob.Segment.ofString pattern = .ok (.wildcard pattern))
    (hfits : Wildcard.fits pattern file = true) :
    Glob.find (lone file) ⟨.root, ["w"]⟩ ("**/" ++ pattern) = .ok [⟨.root, ["w", file]⟩] := by
  have hbelow : Glob.below (lone file) ⟨.root, ["w"]⟩ = .ok [⟨.root, ["w"]⟩] := rfl
  have hentries : Glob.entriesIn (lone file) ⟨.root, ["w"]⟩ = .ok [(file, .file [] 1)] := rfl
  have hinner : Glob.select (lone file) false [.wildcard pattern] ⟨.root, ["w"]⟩ =
      .ok [⟨.root, ["w", file]⟩] := by
    rw [Glob.select_wildcard_last, hentries]
    dsimp only [bind, Except.bind]
    rw [List.filter_cons, if_pos hfits]
    rfl
  have hdirectory : (lone file).isDirectory ⟨.root, ["w"]⟩ = .ok true := rfl
  rw [Glob.find, Glob.ofString_everywhere hname, hsegment]
  simp only [bind, Except.bind, Except.map, hdirectory, if_true]
  rw [Glob.select, hbelow]
  simp [hinner, bind, Except.bind, pure, Except.pure, List.eraseDups_cons]

theorem admits_lone (hup : file ≠ "..") (hfitting : FileTree.Fitting file) :
    loneIndex.workspace.admits (lone file) [] ⟨.root, ["w", file]⟩ = .ok true := by
  have hlocate := locate_lone hup hfitting
  have ht : (lone file).Resolvable :=
    ⟨fun trail target h => by simp [lone] at h, FileTree.clear_nil _⟩
  have hfile : (lone file).isFile ⟨.root, ["w", file]⟩ = .ok true := by
    rw [FileTree.isFile, FileTree.test, hlocate]
  have hlink : (lone file).isLink ⟨.root, ["w", file]⟩ = false := by
    rw [FileTree.isLink, hlocate]
  have htop : (lone file).realPath loneIndex.workspace.root = .ok ⟨.root, ["w"]⟩ :=
    FileTree.realPath_of_locate ht rfl
  have hreal : (lone file).realPath ⟨.root, ["w", file]⟩ = .ok ⟨.root, ["w", file]⟩ :=
    FileTree.realPath_of_locate ht (hlocate true)
  have hholds : loneIndex.workspace.holds (lone file) ⟨.root, ["w", file]⟩ = .ok true := by
    rw [Workspace.holds, htop, hreal]
    simp [bind, Except.bind, pure, Except.pure, Path.relativeTo?]
  exact @Workspace.admits_of_holds loneIndex.workspace _ _ [file] false hfile hlink hholds rfl

theorem findFiles_lone {pattern : String} (hup : file ≠ "..") (hfitting : FileTree.Fitting file)
    (hignore : file ≠ Workspace.ignoreName) (hfile : Path.IsName file) (hname : Path.IsName pattern)
    (hsegment : Glob.Segment.ofString pattern = .ok (.wildcard pattern))
    (hfits : Wildcard.fits pattern file = true) :
    loneIndex.workspace.findFiles (lone file) ("**/" ++ pattern) 1 =
      .ok [Path.localUri ⟨.root, ["w", file]⟩] := by
  have hglob : loneIndex.workspace.glob (lone file) ("**/" ++ pattern) =
      .ok [⟨.root, ["w", file]⟩] := by
    rw [Workspace.glob_eq_sorted (matchers_lone hignore) (find_lone hname hsegment hfits)]
    refine Workspace.sorted_of_pairwise ?_ (List.pairwise_singleton _ _)
    rw [List.filterM, List.filterAuxM, admits_lone hup hfitting]
    rfl
  have hwell : Path.WellFormed ⟨.root, ["w", file]⟩ :=
    List.forall_mem_cons.2 ⟨by decide, List.forall_mem_singleton.2 ⟨hfile.1, hfile.2.1⟩⟩
  have huri := Path.toUri_of_wellFormed hwell fun h => by cases h
  rw [Workspace.findFiles, hglob]
  simp [bind, Except.bind, Workspace.limited, huri, pure, Except.pure]

end Lone

section Astray

variable {extension ending : String}

theorem spelled_a : Reference.Begins "a".toList ∧ Reference.Spelled "a".toList :=
  ⟨⟨'a', [], rfl, by decide⟩, List.forall_mem_singleton.2 (.inl (by decide))⟩

theorem isName_a {s : String} (h : '/' ∉ s.toList) : Path.IsName ("a." ++ s) := by
  have hlist : ("a." ++ s).toList = "a".toList ++ '.' :: s.toList := by
    rw [String.toList_append]
    rfl
  exact (isName_of_spelled spelled_a.1 spelled_a.2 h hlist).1

theorem ne_of_head? {s : String} {c : Char} (hc : c ≠ 'a') {other : String}
    (h : other.toList.head? = some c) : "a." ++ s ≠ other := by
  rintro rfl
  have hfront : "a.".toList = ['a', '.'] := rfl
  rw [String.toList_append, hfront, List.cons_append, List.head?_cons, Option.some_inj] at h
  exact hc h.symm

theorem segment_a (hwild : isWild extension = true) (hdouble : hasDouble extension.toList = false) :
    Glob.Segment.ofString ("a." ++ extension) = .ok (.wildcard ("a." ++ extension)) := by
  have hfront : "a.".toList = ['a', '.'] := rfl
  have hstars : "a." ++ extension ≠ "**" := ne_of_head? (by decide) rfl
  have hinside : hasDouble ("a." ++ extension).toList = false := by
    rw [String.toList_append, hfront, ← hdouble]
    rfl
  have hasked : isWild ("a." ++ extension) = true := by
    rw [isWild] at hwild ⊢
    rw [String.toList_append, List.any_append, hwild, Bool.or_true]
  rw [Glob.Segment.ofString, if_neg hstars, if_neg (by rw [hinside]; decide), if_pos hasked]

theorem utf8ByteSize_of_mem_candidates {name file : String} (h : file ∈ candidates name extension) :
    file.utf8ByteSize ≤ name.utf8ByteSize + extension.utf8ByteSize + 2 := by
  have hdot : ".".utf8ByteSize = 1 := by decide
  have hunderscore : "_".utf8ByteSize = 1 := by decide
  rcases List.mem_pair.1 h with rfl | rfl
  all_goals
    simp only [String.utf8ByteSize_append, hdot, hunderscore]
    omega

theorem isFile_nearby (hextension : '/' ∉ extension.toList)
    (hsize : extension.utf8ByteSize + 8 ≤ FileTree.pathLimit) {p : Path}
    (hp : p ∈ nearby ⟨.root, ["d", "e"]⟩ (candidates "a" extension)) :
    (lone ending).isFile p = .ok false := by
  obtain ⟨above, habove, hp⟩ := List.mem_flatMap.1 hp
  obtain ⟨file, hfile, rfl⟩ := List.mem_map.1 hp
  have hname := (exists_front spelled_a.1 spelled_a.2 hextension hfile).2
  have hshort := utf8ByteSize_of_mem_candidates hfile
  have hletter : ∀ s ∈ ["a", "d", "e"], s.utf8ByteSize = 1 := by decide
  have hroot : (Path.slashes .root).utf8ByteSize = 1 := by decide
  have hall : ∀ s ∈ [["e", file], [file]],
      (Path.toString ⟨.root, "d" :: s⟩).utf8ByteSize ≤ FileTree.pathLimit := by
    intro s hs
    have hwritten := Path.utf8ByteSize_toString (p := ⟨.root, "d" :: s⟩) (List.cons_ne_nil _ _)
    rcases List.mem_pair.1 hs with rfl | rfl
    all_goals
      simp only [Path.slashedSize, List.foldr, hroot, hletter "d" (by decide),
        hletter "e" (by decide)] at hwritten
      rw [hletter "a" (by decide)] at hshort
      omega
  rw [Path.join_of_name above hname.2.1 hname.1 hname.2.2]
  rcases List.mem_pair.1 habove with rfl | rfl
  · exact isFile_lone (hall _ List.mem_cons_self)
  · exact isFile_lone (hall _ (List.mem_cons_of_mem _ List.mem_cons_self))

/-- A reference is resolved to the only file of a workspace if its name stands for it as a pattern
and nothing is near. -/
theorem resolved_lone {directory : Path} (hdirectory : directory.Absolute)
    (hnear : ∀ p ∈ nearby directory (candidates "a" extension),
      (lone ("a." ++ ending)).isFile p = .ok false)
    (hextension : '/' ∉ extension.toList) (hwild : isWild extension = true)
    (hdouble : hasDouble extension.toList = false) (hslash : '/' ∉ ending.toList)
    (hnul : '\x00' ∉ ending.toList) (hshort : ending.utf8ByteSize + 2 ≤ FileTree.nameLimit)
    (hfits : Wildcard.fits extension ending = true) :
    Resolved loneIndex.workspace (lone ("a." ++ ending)) extension "a" directory
        (Path.localUri ⟨.root, ["w", "a." ++ ending]⟩) ∧
      Path.ofUri (Path.localUri ⟨.root, ["w", "a." ++ ending]⟩) =
        .ok ⟨.root, ["w", "a." ++ ending]⟩ := by
  have hfront : "a.".toList = ['a', '.'] := rfl
  have hfile : Path.IsName ("a." ++ ending) := isName_a hslash
  have hw : Path.IsName "w" := by decide
  have hfitting : FileTree.Fitting ("a." ++ ending) := by
    have htwo : "a.".utf8ByteSize = 2 := by decide
    refine ⟨by simp [hfront, hnul], ?_⟩
    rw [String.utf8ByteSize_append, htwo]
    omega
  have hfound := findFiles_lone (ne_of_head? (by decide) rfl) hfitting (ne_of_head? (by decide) rfl)
    hfile (isName_a hextension) (segment_a hwild hdouble)
    ((Wildcard.fits_append (by decide) extension _).2 ⟨ending, rfl, hfits⟩)
  have habsolute : Path.Absolute ⟨.root, ["w", "a." ++ ending]⟩ :=
    ⟨rfl, List.forall_mem_cons.2 ⟨hw, List.forall_mem_singleton.2 hfile⟩⟩
  have hdriveless : Path.Driveless ⟨.root, ["w", "a." ++ ending]⟩ := by
    rintro _ ⟨⟩
    decide
  have hshows := loneIndex.host_shows ⟨lone ("a." ++ ending), []⟩
  refine ⟨⟨?_, ⟨rfl, by decide⟩, hdirectory, ⟨"◊a".toList, 1, _, rfl, rfl⟩,
    _, loneIndex.host, _, _, hshows, resolve_of_findFiles hshows hnear hfound⟩, ?_⟩
  · exact List.forall_mem_cons.2 ⟨List.forall_mem_singleton.2 hw, List.forall_mem_singleton.2
      (List.forall_mem_cons.2 ⟨hw, List.forall_mem_singleton.2 hfile⟩)⟩
  · exact Path.ofUri_of_toUri habsolute hdriveless
      (Path.toUri_of_wellFormed habsolute.wellFormed fun h => by cases h)

/-- With an extension that is not harmless, the only file of a workspace can be another one. -/
theorem exists_resolved (hextension : '/' ∉ extension.toList) (hharmful : ¬ Harmless extension)
    (hsize : extension.utf8ByteSize + 8 ≤ FileTree.pathLimit) :
    ∃ w t name directory uri p, Resolved w t extension name directory uri ∧
      Path.ofUri uri = .ok p ∧ p.name ∉ candidates name extension := by
  obtain ⟨hdouble, hliteral⟩ := not_or.1 hharmful
  obtain ⟨ending, hslash, hnul, hshort, hfits, hne⟩ :
      ∃ ending : String, '/' ∉ ending.toList ∧ '\x00' ∉ ending.toList ∧
        ending.utf8ByteSize + 2 ≤ FileTree.nameLimit ∧ Wildcard.fits extension ending = true ∧
        ending ≠ extension := by
    simpa [Literal] using hliteral
  have hwild : isWild extension = true := by
    by_contra hplain
    exact hne ((Wildcard.fits_iff_eq (Bool.eq_false_iff.2 hplain) ending).1 hfits)
  obtain ⟨hresolved, hback⟩ := resolved_lone ⟨rfl, by decide⟩
    (fun p hp => isFile_nearby hextension hsize hp) hextension hwild (Bool.eq_false_iff.2 hdouble)
    hslash hnul hshort hfits
  refine ⟨_, _, _, _, _, _, hresolved, hback, fun hmem => ?_⟩
  have hname : Path.name ⟨.root, ["w", "a." ++ ending]⟩ = "a." ++ ending := rfl
  rw [hname] at hmem
  rcases List.mem_pair.1 hmem with hsame | hother
  · have hfront : "a" ++ "." = "a." := by decide
    rw [hfront, String.append_right_inj] at hsame
    exact hne hsame
  · refine ne_of_head? (c := '_') (by decide) ?_ hother
    simp

end Astray

/-- Where a reference is resolved to, there is a file near the document with one of its names, or a
file in the workspace with a name that one of them stands for as a pattern. With a harmless extension
that is a file of its own, and with any other one there is a workspace in which it is not. -/
theorem resolved_ownFile {d : Datum} {config : Config} (hconfig : Config.ofData d = .ok config) :
    (∀ w t name directory uri, Resolved w t config.extension name directory uri →
      ∃ p, p.toUri = .ok uri ∧ (p.Driveless → Path.ofUri uri = .ok p) ∧ t.isFile p = .ok true ∧
        (∃ file ∈ candidates name config.extension, Leads w t directory file p) ∧
        (Harmless config.extension →
          OwnFile w t directory (candidates name config.extension) p)) ∧
    (¬ Harmless config.extension →
      config.extension.utf8ByteSize + 8 ≤ FileTree.pathLimit →
      ∃ w t name directory uri p, Resolved w t config.extension name directory uri ∧
        Path.ofUri uri = .ok p ∧ p.name ∉ candidates name config.extension) := by
  obtain ⟨-, -, hextension, -⟩ := (Config.valid_of_ofData hconfig).suffix
  constructor
  · intro w t name directory uri h
    obtain ⟨p, huri, hfile, hp, file, hmem, hleads⟩ := h.exists_leads hextension
    exact ⟨p, huri, fun hdriveless => Path.ofUri_of_toUri hp hdriveless huri, hfile,
      ⟨file, hmem, hleads⟩, fun hharmless => h.ownFile hextension hharmless hmem hfile hp hleads⟩
  · exact exists_resolved hextension

theorem resolved_dryck : ∀ directory ∈ [(⟨.root, ["w"]⟩ : Path), ⟨.root, ["d", "e"]⟩],
    Resolved loneIndex.workspace (lone "a.dryck") "dryck" "a" directory "file:///w/a.dryck" := by
  have hshows := loneIndex.host_shows ⟨lone "a.dryck", []⟩
  have hfound : Glob.find (lone "a.dryck") ⟨.root, ["w"]⟩ "**/a.dryck" =
      .ok [⟨.root, ["w", "a.dryck"]⟩] := by
    decide +kernel
  have hglob : loneIndex.workspace.glob (lone "a.dryck") "**/a.dryck" =
      .ok [⟨.root, ["w", "a.dryck"]⟩] := by
    rw [Workspace.glob_eq_sorted (matchers_lone (by decide)) hfound]
    exact Workspace.sorted_of_pairwise (by decide +kernel) (List.pairwise_singleton _ _)
  have hfiles : loneIndex.workspace.findFiles (lone "a.dryck") "**/a.dryck" 1 =
      .ok ["file:///w/a.dryck"] := by
    rw [Workspace.findFiles, hglob]
    decide
  intro directory hdirectory
  rcases List.mem_pair.1 hdirectory with rfl | rfl
  · exact ⟨by decide, ⟨rfl, by decide⟩, ⟨rfl, by decide⟩, ⟨"◊a".toList, 1, _, rfl, rfl⟩,
      _, loneIndex.host, _, _, hshows, resolve_of_isFile hshows (by decide) (by decide)⟩
  · exact ⟨by decide, ⟨rfl, by decide⟩, ⟨rfl, by decide⟩, ⟨"◊a".toList, 1, _, rfl, rfl⟩,
      _, loneIndex.host, _, _, hshows, resolve_of_findFiles hshows (by decide) hfiles⟩

/-- A file is found beside a document, and from elsewhere by a search of the workspace. -/
theorem resolved_ownFile_found :
    Config.ofData (.table []) = .ok {} ∧
      ∀ directory ∈ [(⟨.root, ["w"]⟩ : Path), ⟨.root, ["d", "e"]⟩],
        Resolved loneIndex.workspace (lone "a.dryck") "dryck" "a" directory "file:///w/a.dryck" ∧
        ∃ p, p.toUri = .ok "file:///w/a.dryck" ∧
          OwnFile loneIndex.workspace (lone "a.dryck") directory ["a.dryck", "_a.dryck"] p := by
  have hconfig : Config.ofData (.table []) = .ok {} := rfl
  have hharmless : Harmless ({} : Config).extension := .inr (literal_of_not_wild (by decide))
  have hnames : candidates "a" ({} : Config).extension = ["a.dryck", "_a.dryck"] := by
    decide
  refine ⟨hconfig, fun directory hdirectory => ?_⟩
  have hresolved := resolved_dryck directory hdirectory
  obtain ⟨p, huri, -, -, -, hown⟩ := (resolved_ownFile hconfig).1 _ _ _ _ _ hresolved
  rw [hnames] at hown
  exact ⟨hresolved, p, huri, hown hharmless⟩

/-- With an extension that stands for others too, a reference is resolved to a file that is not its
own. -/
theorem resolved_astray : ∃ config, Config.ofData (.table [("extension", .text "dr*")]) = .ok config ∧
    Resolved loneIndex.workspace (lone "a.dryck") config.extension "a" ⟨.root, ["w"]⟩
      "file:///w/a.dryck" ∧
    Path.ofUri "file:///w/a.dryck" = .ok ⟨.root, ["w", "a.dryck"]⟩ ∧
    ¬ OwnFile loneIndex.workspace (lone "a.dryck") ⟨.root, ["w"]⟩ (candidates "a" config.extension)
      ⟨.root, ["w", "a.dryck"]⟩ := by
  have hfits : Wildcard.fits "dr*" "dryck" = true := by cbv
  have hnear : ∀ p ∈ nearby ⟨.root, ["w"]⟩ (candidates "a" "dr*"),
      (lone ("a." ++ "dryck")).isFile p = .ok false := by decide
  obtain ⟨hresolved, hback⟩ := resolved_lone ⟨rfl, by decide⟩ hnear (by decide) (by decide)
    (by decide) (by decide) (by decide) (by decide) hfits
  have hfile : "a." ++ "dryck" = "a.dryck" := by decide
  have huri : Path.localUri ⟨.root, ["w", "a.dryck"]⟩ = "file:///w/a.dryck" := by decide
  rw [hfile, huri] at hresolved hback
  refine ⟨{ extension := "dr*" }, rfl, hresolved, hback, ?_⟩
  rintro ⟨-, hname, -⟩
  exact absurd hname (by decide)

end LocalFile

end LozengeNav
