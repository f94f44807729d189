import LozengeNav.Proofs.Files.LinkFree
import LozengeNav.Proofs.ModuleName
import LozengeNav.Proofs.SourceIndex.Locate

/-! # Relative imports and directories

A relative import in a file below the root is turned into the name of a module,
and the name is looked up again below every directory that is searched. Without
links and without another file for that name, the lookup comes back to the file
that dots and names lead to from directory to directory, unless it has to ask
about a path that is too long on the way.
-/

namespace LozengeNav

namespace SourceIndex

/-- The parts of the name that a relative import in a file means. -/
def importedParts (x : SourceIndex) (t : FileTree) (file : Path) (relative : String)
    (level : Nat) : Except Fault (List String) := do
  let module ← x.moduleName t file
  return ModuleName.pieces (ModuleName.relativeTo module relative level (isPackage file))

/-- The file that a relative import in a file reads from. -/
def importedFile? (x : SourceIndex) (t : FileTree) (file : Path) (relative : String)
    (level : Nat) : Except Fault (Option Path) := do
  x.moduleFile? t (← x.importedParts t file relative level)

def sourceBelow (x : SourceIndex) (directories : List String) (stem : String) : Path :=
  x.workspace.root.below (directories ++ [stem ++ ".py"])

/-- All that is asked on the way to a source file below the root has an answer:
the import path can be asked for directories, and the package of the same name,
which is tried before the file, has no path that is too long. -/
structure Reached (x : SourceIndex) (t : FileTree) (directories : List String) (last : String) :
    Prop where
  importPath : ∀ p ∈ x.importPath, ∃ answer, t.isDirectory p = .ok answer
  package : (x.workspace.root.below (directories ++ [last, packageFile])).toString.utf8ByteSize ≤
    FileTree.pathLimit

open ModuleName (Undotted packagesOf partsOf)

theorem up_not_mem {names : List String} (h : ∀ name ∈ names, Undotted name) : ".." ∉ names :=
  fun hmem => (h ".." hmem).noDot (by decide)

/-! ## Names of files -/

section Names

variable {x : SourceIndex} {t : FileTree} {directories : List String} {stem : String}

theorem isPackage_sourceBelow (x : SourceIndex) (directories : List String) (stem : String) :
    isPackage (x.sourceBelow directories stem) = (stem = "__init__" : Bool) := by
  have hname : (x.sourceBelow directories stem).name = stem ++ ".py" := by
    simp [sourceBelow, Path.name, List.getLastD_eq_getLast?]
  have hsuffix : packageFile = "__init__" ++ ".py" := rfl
  rw [isPackage, hname, hsuffix, decide_eq_decide, String.append_left_inj]

theorem up_not_mem_sourceBelow (hdirectories : ∀ name ∈ directories, Undotted name) :
    ".." ∉ directories ++ [stem ++ ".py"] := by
  intro hmem
  rcases List.mem_append.1 hmem with hdirectory | hfile
  · exact up_not_mem hdirectories hdirectory
  · have hlist := congrArg (fun s : String => s.toList.getLast?) (List.mem_singleton.1 hfile)
    simp at hlist

theorem moduleName_sourceBelow (hfree : t.LinkFree)
    (hroots : ∃ roots, x.roots t = .ok roots)
    (hnul : '\x00' ∉ (x.sourceBelow directories stem).toString.toList)
    (hdirectories : ∀ name ∈ directories, Undotted name ∧ '\\' ∉ name.toList)
    (hstem : '/' ∉ stem.toList ∧ '\\' ∉ stem.toList) :
    x.moduleName t (x.sourceBelow directories stem) =
      .ok (ModuleName.spell (partsOf directories stem)) := by
  have hup : ".." ∉ directories ++ [stem ++ ".py"] :=
    up_not_mem_sourceBelow fun name hname => (hdirectories name hname).1
  have hroot : '\x00' ∉ x.workspace.root.toString.toList := by
    intro hmem
    obtain ⟨part, hpart, hc⟩ := (Path.mem_toString_iff (by decide) (by decide) _).1 hmem
    refine hnul ((Path.mem_toString_iff (by decide) (by decide) _).2 ⟨part, ?_, hc⟩)
    exact List.mem_append_left _ hpart
  obtain ⟨roots, hroots⟩ := hroots
  have hreal := hfree.realPath_eq hnul
  rw [sourceBelow, hfree.realTrail_below _ hup, ← sourceBelow] at hreal
  have hbelow : firstBelow? t ⟨.root, t.realTrail x.workspace.root ++ (directories ++ [stem ++ ".py"])⟩
      roots = .ok (some ⟨.here, directories ++ [stem ++ ".py"]⟩) := by
    rw [roots_eq_ok hroots, searched, List.cons_append, List.cons_append, firstBelow?,
      hfree.realPath_eq hroot]
    simp [Path.relativeTo?]
  have hwritten : Path.toString ⟨.here, directories ++ [stem ++ ".py"]⟩ =
      "/".intercalate (directories ++ [stem ++ ".py"]) := by
    cases directories <;> simp [Path.toString, Path.slashes]
  rw [moduleName, hreal, hroots]
  simp only [Except.bind, bind, hbelow, hwritten]
  rw [ModuleName.ofPath_source _ hstem]
  · rfl
  · exact fun name hname =>
      ⟨(hdirectories name hname).1.nonempty, (hdirectories name hname).1.noSlash,
        (hdirectories name hname).2⟩

theorem importedParts_sourceBelow {relative : String} {level : Nat} (hfree : t.LinkFree)
    (hroots : ∃ roots, x.roots t = .ok roots)
    (hnul : '\x00' ∉ (x.sourceBelow directories stem).toString.toList)
    (hdirectories : ∀ name ∈ directories, Undotted name ∧ '\\' ∉ name.toList)
    (hstem : '/' ∉ stem.toList ∧ '\\' ∉ stem.toList ∧ '.' ∉ stem.toList)
    (hrelative : relative ≠ "") (hlevel : 1 ≤ level) :
    x.importedParts t (x.sourceBelow directories stem) relative level =
      .ok ((packagesOf directories).take ((packagesOf directories).length + 1 - level) ++
        ModuleName.pieces relative) := by
  rw [importedParts, moduleName_sourceBelow hfree hroots hnul hdirectories ⟨hstem.1, hstem.2.1⟩,
    isPackage_sourceBelow]
  have hpieces := ModuleName.pieces_relativeTo_source (fun name hname => (hdirectories name hname).1)
    hstem.2.2 hrelative hlevel
  rw [← hpieces]
  rfl

end Names

/-! ## Looking the name up -/

section Places

variable {t : FileTree} {names : List String} {last : String}

theorem places_of_names (root : Path) (hnames : ∀ name ∈ names ++ [last], Undotted name) :
    places (names ++ [last]) root =
      [root.below (names ++ [last, packageFile]), root.below (names ++ [last ++ ".py"])] := by
  have hbase : (names ++ [last]).foldl Path.join root = root.below (names ++ [last]) := by
    refine Path.foldl_join root fun name hname => ?_
    have hpart := hnames name hname
    refine ⟨hpart.noSlash, hpart.nonempty, fun hdot => hpart.noDot ?_⟩
    rw [hdot]
    decide
  have hplain : (root.below (names ++ [last])).withName? (last ++ ".py") =
      some (root.below (names ++ [last ++ ".py"])) := by
    simp [Path.withName?, Path.below, Path.parent, Path.child]
  have hlast : (root.below (names ++ [last])).name = last := by
    simp [Path.name, Path.below, List.getLastD_eq_getLast?]
  rw [places, hbase, hlast, hplain]
  simp [Path.child_eq_below, Path.below_below]

variable {parts : List String} {root package plain : Path}

theorem moduleFileIn?_of_places (hplaces : places parts root = [package, plain]) :
    moduleFileIn? t parts root = do
      if ← t.isFile package then return some package
      else return if ← t.isFile plain then some plain else none := by
  rw [places, List.cons.injEq] at hplaces
  obtain ⟨rfl, hplain⟩ := hplaces
  rw [Option.toList_eq_singleton_iff] at hplain
  simp only [moduleFileIn?, hplain]

theorem moduleFileIn?_fault (hplaces : places parts root = [package, plain])
    (hpackage : ∃ fault, t.isFile package = .error fault) :
    ∃ fault, moduleFileIn? t parts root = .error fault := by
  obtain ⟨fault, hpackage⟩ := hpackage
  rw [moduleFileIn?_of_places hplaces, hpackage]
  exact ⟨fault, rfl⟩

theorem moduleFileIn?_plain {answer : Bool} (hplaces : places parts root = [package, plain])
    (hpackage : t.isFile package = .ok false) (hplain : t.isFile plain = .ok answer) :
    moduleFileIn? t parts root = .ok (if answer then some plain else none) := by
  rw [moduleFileIn?_of_places hplaces, hpackage, hplain]
  rfl

end Places

/-- A source file below the root or its source directory that no other file is
taken for: among the places for its module, a file stands at its own only. -/
structure Alone (x : SourceIndex) (t : FileTree) (lead names : List String) (last : String) :
    Prop where
  free : t.LinkFree
  leading : lead = [] ∨ lead = ["src"]
  undotted : ∀ name ∈ names ++ [last], Undotted name
  file : t.isFile (x.sourceBelow (lead ++ names) last) = .ok true
  only : ∀ p ∈ (x.searched t).flatMap (places (names ++ [last])), t.isFile p = .ok true →
    t.realTrail p = t.realTrail (x.sourceBelow (lead ++ names) last)

section Lookup

variable {x : SourceIndex} {t : FileTree} {lead names : List String} {last : String}

theorem join_source (root : Path) : root.join "src" = root.below ["src"] :=
  Path.join_of_name root (by decide) (by decide) (by decide)

theorem Alone.searched_lead (h : Alone x t lead names last) :
    x.workspace.root.below lead ∈ x.searched t := by
  rcases h.leading with rfl | rfl
  · simp [searched, Path.below]
  · simp [searched, join_source]

theorem Alone.fitting (h : Alone x t lead names last) {others : List String}
    (hothers : ∀ name ∈ others, name ∈ lead ++ names ++ [last, packageFile, last ++ ".py"]) :
    ∀ name ∈ (x.workspace.root.below others).parts, FileTree.Fitting name := by
  have hfile := FileTree.fitting_of_isFile h.file
  rw [sourceBelow, Path.parts_below, List.forall_mem_append, List.forall_mem_append] at hfile
  obtain ⟨hroot, hbefore, hsource⟩ := hfile
  have hsource := hsource _ List.mem_cons_self
  have hlast : FileTree.Fitting last := by
    have hnul := hsource.noNul
    have hshort := hsource.short
    rw [String.utf8ByteSize_append] at hshort
    refine ⟨fun hc => hnul ?_, by omega⟩
    rw [String.toList_append]
    exact List.mem_append_left _ hc
  have hpackage : FileTree.Fitting packageFile := ⟨by decide, by decide⟩
  rw [Path.parts_below, List.forall_mem_append]
  refine ⟨hroot, fun name hname => ?_⟩
  rcases List.mem_append.1 (hothers name hname) with hmem | hmem
  · exact hbefore name hmem
  · simp only [List.mem_cons, List.not_mem_nil, or_false] at hmem
    rcases hmem with rfl | rfl | rfl
    · exact hlast
    · exact hpackage
    · exact hsource

theorem Alone.up_not_mem (h : Alone x t lead names last) {others : List String}
    (hothers : ∀ name ∈ others, name ∈ lead ++ names ++ [last, packageFile, last ++ ".py"]) :
    ".." ∉ others := by
  intro hmem
  have hup := hothers _ hmem
  have hplain := SourceIndex.up_not_mem h.undotted
  have hlead : ".." ∉ lead := by
    rcases h.leading with rfl | rfl <;> decide
  have hsource : ".." ≠ last ++ ".py" := by
    intro heq
    have hlist := congrArg (fun s : String => s.toList.getLast?) heq
    simp at hlist
  have hpackage : ".." ≠ packageFile := by decide
  simp only [List.mem_append, List.mem_singleton, not_or] at hplain
  simp [hlead, hplain, hsource, hpackage] at hup

theorem Alone.isFile_eq_false (h : Alone x t lead names last) {others : List String}
    (hothers : ∀ name ∈ others, name ∈ lead ++ names ++ [last, packageFile, last ++ ".py"])
    {root : Path} (hroot : root ∈ x.searched t)
    (hplace : x.workspace.root.below others ∈ places (names ++ [last]) root)
    (hne : others ≠ lead ++ names ++ [last ++ ".py"])
    (hsize : (x.workspace.root.below others).toString.utf8ByteSize ≤ FileTree.pathLimit) :
    t.isFile (x.workspace.root.below others) = .ok false := by
  refine h.free.isFile_eq_false (h.fitting hothers) hsize fun hanswer => hne ?_
  have hself : ".." ∉ lead ++ names ++ [last ++ ".py"] :=
    h.up_not_mem (by grind)
  have hreal := h.only _ (List.mem_flatMap.2 ⟨root, hroot, hplace⟩) hanswer
  rw [sourceBelow, h.free.realTrail_below _ (h.up_not_mem hothers),
    h.free.realTrail_below _ hself] at hreal
  exact List.append_cancel_left hreal

theorem Alone.places_lead (h : Alone x t lead names last) :
    places (names ++ [last]) (x.workspace.root.below lead) =
      [x.workspace.root.below (lead ++ names ++ [last, packageFile]),
        x.sourceBelow (lead ++ names) last] := by
  rw [places_of_names _ h.undotted, Path.below_below, Path.below_below, sourceBelow,
    List.append_assoc, List.append_assoc]

theorem Alone.moduleFileIn?_lead (h : Alone x t lead names last)
    (hsize : (x.workspace.root.below (lead ++ names ++ [last, packageFile])).toString.utf8ByteSize ≤
      FileTree.pathLimit) :
    moduleFileIn? t (names ++ [last]) (x.workspace.root.below lead) =
      .ok (some (x.sourceBelow (lead ++ names) last)) := by
  have hpackage : t.isFile (x.workspace.root.below (lead ++ names ++ [last, packageFile])) =
      .ok false := by
    refine h.isFile_eq_false ?_ h.searched_lead ?_ ?_ hsize
    · grind
    · rw [h.places_lead]
      exact List.mem_cons_self
    · intro heq
      have hlength := congrArg List.length heq
      simp at hlength
  rw [moduleFileIn?_plain h.places_lead hpackage h.file]
  rfl

theorem Alone.moduleFileIn?_lead_fault (h : Alone x t lead names last)
    (hsize : FileTree.pathLimit <
      (x.workspace.root.below (lead ++ names ++ [last, packageFile])).toString.utf8ByteSize) :
    ∃ fault, moduleFileIn? t (names ++ [last]) (x.workspace.root.below lead) = .error fault := by
  refine moduleFileIn?_fault h.places_lead ((h.free.isFile_fault_iff (h.fitting ?_)).2 hsize)
  grind

/-- Below the root itself nothing is found in place of a file below its source
directory. -/
theorem Alone.moduleFileIn?_root (h : Alone x t ["src"] names last)
    (hsize : (x.workspace.root.below (names ++ [last, packageFile])).toString.utf8ByteSize ≤
      FileTree.pathLimit) :
    moduleFileIn? t (names ++ [last]) x.workspace.root = .ok none := by
  have hplaces := places_of_names x.workspace.root h.undotted
  have hroot : x.workspace.root ∈ x.searched t := by
    simp [searched]
  have hpackage : t.isFile (x.workspace.root.below (names ++ [last, packageFile])) = .ok false := by
    refine h.isFile_eq_false (by grind) hroot (by simp [hplaces]) ?_ hsize
    -- The names would have to begin with as many source directories as they end with.
    intro heq
    have hends : names ++ [last] = "src" :: names ∧ packageFile = last ++ ".py" := by
      have hsplit : (names ++ [last]) ++ [packageFile] = ("src" :: names) ++ [last ++ ".py"] := by
        simpa using heq
      exact ⟨(List.append_inj' hsplit rfl).1, by simpa using (List.append_inj' hsplit rfl).2⟩
    have hcount := congrArg (List.count "src") hends.1
    have hlast : last = "src" := by
      by_contra hne
      simp [hne] at hcount
    rw [hlast] at hends
    exact absurd hends.2 (by decide)
  have hplain : t.isFile (x.workspace.root.below (names ++ [last ++ ".py"])) = .ok false := by
    refine h.isFile_eq_false (by grind) hroot (by simp [hplaces]) ?_ ?_
    · intro heq
      have hlength := congrArg List.length heq
      simp at hlength
    · have hfile := (FileTree.written_of_isFile h.file).2
      rw [sourceBelow, List.append_assoc] at hfile
      exact Nat.le_trans (Path.utf8ByteSize_below_le_append _ ["src"] (by simp)) hfile
  rw [moduleFileIn?_plain hplaces hpackage hplain]
  rfl

theorem firstModuleFile?_of_some {parts : List String} {root file : Path} {rest : List Path}
    (h : moduleFileIn? t parts root = .ok (some file)) :
    firstModuleFile? t parts (root :: rest) = .ok (some file) := by
  rw [firstModuleFile?, h]
  rfl

theorem Alone.firstModuleFile?_eq (h : Alone x t lead names last) (rest : List Path)
    (hsize : (x.workspace.root.below (lead ++ names ++ [last, packageFile])).toString.utf8ByteSize ≤
      FileTree.pathLimit) :
    firstModuleFile? t (names ++ [last])
        (x.workspace.root :: x.workspace.root.join "src" :: rest) =
      .ok (some (x.sourceBelow (lead ++ names) last)) := by
  have hfound := h.moduleFileIn?_lead hsize
  rcases h.leading with rfl | rfl
  · rw [Path.below_nil] at hfound
    exact firstModuleFile?_of_some hfound
  · rw [List.append_assoc] at hsize
    have hroot := Nat.le_trans (x.workspace.root.utf8ByteSize_below_le_append ["src"]
      (List.append_ne_nil_of_right_ne_nil names (List.cons_ne_nil last [packageFile]))) hsize
    rw [firstModuleFile?_of_none (h.moduleFileIn?_root hroot), join_source]
    exact firstModuleFile?_of_some hfound

theorem Alone.firstModuleFile?_fault (h : Alone x t lead names last) (rest : List Path)
    (hsize : FileTree.pathLimit <
      (x.workspace.root.below (lead ++ names ++ [last, packageFile])).toString.utf8ByteSize) :
    ∃ fault, firstModuleFile? t (names ++ [last])
        (x.workspace.root :: x.workspace.root.join "src" :: rest) = .error fault := by
  obtain ⟨fault, hfault⟩ := h.moduleFileIn?_lead_fault hsize
  rcases h.leading with rfl | rfl
  · rw [Path.below_nil] at hfault
    exact ⟨fault, firstModuleFile?_of_fault hfault⟩
  · by_cases hroot : (x.workspace.root.below (names ++ [last, packageFile])).toString.utf8ByteSize ≤
        FileTree.pathLimit
    · rw [firstModuleFile?_of_none (h.moduleFileIn?_root hroot), join_source]
      exact ⟨fault, firstModuleFile?_of_fault hfault⟩
    · have hplaces := places_of_names x.workspace.root h.undotted
      have hpackage := (h.free.isFile_fault_iff (h.fitting (by grind))).2 (Nat.lt_of_not_le hroot)
      obtain ⟨first, hfirst⟩ := moduleFileIn?_fault hplaces hpackage
      exact ⟨first, firstModuleFile?_of_fault hfirst⟩

/-- The lookup of a module comes to its only file, or ends with a fault. -/
theorem Alone.moduleFile?_eq (h : Alone x t lead names last) (hreached : Reached x t (lead ++ names) last) :
    x.moduleFile? t (names ++ [last]) = .ok (some (x.sourceBelow (lead ++ names) last)) := by
  obtain ⟨roots, hroots⟩ := roots_ok_iff.2 hreached.importPath
  rw [moduleFile?_of_roots hroots, roots_eq_ok hroots]
  exact h.firstModuleFile?_eq _ hreached.package

theorem Alone.moduleFile?_fault (h : Alone x t lead names last)
    (hreached : ¬ Reached x t (lead ++ names) last) :
    ∃ fault, x.moduleFile? t (names ++ [last]) = .error fault := by
  cases hroots : x.roots t with
  | error fault =>
      rw [moduleFile?, hroots]
      exact ⟨fault, rfl⟩
  | ok roots =>
      have himport := roots_ok_iff.1 ⟨roots, hroots⟩
      rw [moduleFile?_of_roots hroots, roots_eq_ok hroots]
      refine h.firstModuleFile?_fault _ (Nat.lt_of_not_le fun hsize => hreached ⟨himport, hsize⟩)

end Lookup

/-! ## Importing -/

/-- The directories that a relative import of a level starts from. -/
def above (directories : List String) (level : Nat) : List String :=
  directories.take (directories.length + 1 - level)

/-- A relative import in a source file below the root. The file that its dots and
names lead to exists, and no other file is there for the name that it is given. -/
structure RelativeImport (x : SourceIndex) (t : FileTree) (directories : List String)
    (stem : String) (inner : List String) (last : String) (level : Nat) : Prop where
  free : t.LinkFree
  plain : ∀ name ∈ directories, Undotted name ∧ '\\' ∉ name.toList
  plainStem : '/' ∉ stem.toList ∧ '\\' ∉ stem.toList ∧ '.' ∉ stem.toList
  module : ∀ name ∈ inner ++ [last], Undotted name
  dots : 1 ≤ level
  inside : level ≤ directories.length + 1
  file : t.isFile (x.sourceBelow directories stem) = .ok true
  target : t.isFile (x.sourceBelow (above directories level ++ inner) last) = .ok true
  only : ∀ parts, x.importedParts t (x.sourceBelow directories stem)
      (ModuleName.spell (inner ++ [last])) level = .ok parts →
    ∀ p ∈ (x.searched t).flatMap (places parts), t.isFile p = .ok true →
      t.realTrail p = t.realTrail (x.sourceBelow (above directories level ++ inner) last)

section Import

variable {x : SourceIndex} {t : FileTree} {directories inner : List String} {stem last : String}
  {level : Nat}

theorem importedParts_fault (file : Path) (relative : String) (level : Nat)
    (h : ∀ roots, x.roots t ≠ .ok roots) :
    ∃ fault, x.importedParts t file relative level = .error fault := by
  cases hroots : x.roots t with
  | ok roots => exact absurd hroots (h roots)
  | error fault =>
      rw [importedParts, moduleName, hroots]
      cases t.realPath file with
      | error other => exact ⟨other, rfl⟩
      | ok real => exact ⟨fault, rfl⟩

theorem RelativeImport.parts_eq (h : RelativeImport x t directories stem inner last level)
    (hroots : ∃ roots, x.roots t = .ok roots) :
    x.importedParts t (x.sourceBelow directories stem) (ModuleName.spell (inner ++ [last])) level =
      .ok (above (packagesOf directories) level ++ inner ++ [last]) := by
  have hpieces := ModuleName.pieces_spell (List.append_ne_nil_of_right_ne_nil inner
    (List.cons_ne_nil last [])) fun name hname => (h.module name hname).noDot
  have hrelative : ModuleName.spell (inner ++ [last]) ≠ "" := by
    intro hempty
    rw [hempty] at hpieces
    have hlast : [""] = inner ++ [last] := hpieces
    exact (h.module "" (hlast ▸ List.mem_cons_self)).nonempty rfl
  rw [importedParts_sourceBelow h.free hroots (FileTree.written_of_isFile h.file).1 h.plain
    h.plainStem hrelative h.dots, hpieces, above, List.append_assoc]

theorem RelativeImport.alone (h : RelativeImport x t directories stem inner last level)
    (hroots : ∃ roots, x.roots t = .ok roots) :
    ∃ lead, above directories level = lead ++ above (packagesOf directories) level ∧
      Alone x t lead (above (packagesOf directories) level ++ inner) last := by
  obtain ⟨lead, hlead, htake⟩ := ModuleName.exists_lead directories h.inside
  have hlead' : above directories level = lead ++ above (packagesOf directories) level := htake
  have hkept : ∀ name ∈ above (packagesOf directories) level, Undotted name := by
    intro name hname
    exact (h.plain name (ModuleName.mem_of_mem_packagesOf (List.mem_of_mem_take hname))).1
  have htarget := h.target
  have honly := h.only _ (h.parts_eq hroots)
  rw [hlead', List.append_assoc lead] at htarget honly
  refine ⟨lead, hlead', h.free, hlead, ?_, htarget, honly⟩
  rw [List.append_assoc, List.forall_mem_append]
  exact ⟨hkept, h.module⟩

theorem RelativeImport.importedFile?_eq (h : RelativeImport x t directories stem inner last level)
    (hreached : Reached x t (above directories level ++ inner) last) :
    x.importedFile? t (x.sourceBelow directories stem) (ModuleName.spell (inner ++ [last])) level =
      .ok (some (x.sourceBelow (above directories level ++ inner) last)) := by
  have hroots := roots_ok_iff.2 hreached.importPath
  obtain ⟨lead, hlead, halone⟩ := h.alone hroots
  rw [hlead, List.append_assoc] at hreached ⊢
  rw [importedFile?, h.parts_eq hroots]
  exact halone.moduleFile?_eq hreached

theorem RelativeImport.importedFile?_fault
    (h : RelativeImport x t directories stem inner last level)
    (hreached : ¬ Reached x t (above directories level ++ inner) last) :
    ∃ fault, x.importedFile? t (x.sourceBelow directories stem)
      (ModuleName.spell (inner ++ [last])) level = .error fault := by
  by_cases hroots : ∃ roots, x.roots t = .ok roots
  · obtain ⟨lead, hlead, halone⟩ := h.alone hroots
    rw [hlead, List.append_assoc] at hreached
    rw [importedFile?, h.parts_eq hroots]
    exact halone.moduleFile?_fault hreached
  · obtain ⟨fault, hfault⟩ := importedParts_fault (x.sourceBelow directories stem)
      (ModuleName.spell (inner ++ [last])) level fun roots hok => hroots ⟨roots, hok⟩
    exact ⟨fault, by rw [importedFile?, hfault]; rfl⟩

/-- A relative import reads from the file that its dots and names lead to, from
directory to directory, if and only if what has to be asked on the way has an
answer. Otherwise it ends with a fault, and it never reads from another file. -/
theorem importedFile?_iff_reached (h : RelativeImport x t directories stem inner last level) :
    (x.importedFile? t (x.sourceBelow directories stem) (ModuleName.spell (inner ++ [last])) level =
        .ok (some (x.sourceBelow (above directories level ++ inner) last)) ↔
      Reached x t (above directories level ++ inner) last) ∧
    ((∃ fault, x.importedFile? t (x.sourceBelow directories stem)
        (ModuleName.spell (inner ++ [last])) level = .error fault) ↔
      ¬ Reached x t (above directories level ++ inner) last) := by
  constructor
  · refine ⟨fun hfound => ?_, h.importedFile?_eq⟩
    by_contra hreached
    obtain ⟨fault, hfault⟩ := h.importedFile?_fault hreached
    rw [hfault] at hfound
    cases hfound
  · refine ⟨fun ⟨fault, hfault⟩ hreached => ?_, h.importedFile?_fault⟩
    rw [h.importedFile?_eq hreached] at hfault
    cases hfault

end Import

def beside : FileTree where
  entries :=
    [(["ws"], .directory), (["ws", "src"], .directory), (["ws", "src", "pkg"], .directory),
     (["ws", "src", "pkg", "__init__.py"], .file [] 1), (["ws", "src", "util.py"], .file [] 2)]
  here := []

theorem linkFree_beside : beside.LinkFree := by
  intro trail target hmem
  simp [beside] at hmem

/-- From a package, two dots lead to the module beside it, although the name that
it is looked up by has nothing left of the package. -/
theorem importedFile?_beside :
    RelativeImport rootIndex beside ["src", "pkg"] "__init__" [] "util" 2 ∧
      rootIndex.importedFile? beside ⟨.root, ["ws", "src", "pkg", "__init__.py"]⟩ "util" 2 =
        .ok (some ⟨.root, ["ws", "src", "util.py"]⟩) := by
  have himport : RelativeImport rootIndex beside ["src", "pkg"] "__init__" [] "util" 2 := by
    refine ⟨linkFree_beside, by decide, by decide, by decide, by decide, by decide,
      by decide +kernel, by decide +kernel, fun parts hparts => ?_⟩
    have hname : rootIndex.importedParts beside
        (rootIndex.sourceBelow ["src", "pkg"] "__init__") (ModuleName.spell ["util"]) 2 =
          .ok ["util"] := by
      decide +kernel
    rw [List.nil_append, hname] at hparts
    cases hparts
    decide +kernel
  have hreached : Reached rootIndex beside (above ["src", "pkg"] 2 ++ []) "util" :=
    ⟨List.forall_mem_nil _, by decide +kernel⟩
  exact ⟨himport, (importedFile?_iff_reached himport).1.2 hreached⟩

/-- The same root directory, with a directory of too long a name on the import path. -/
def farIndex : SourceIndex :=
  ⟨⟨⟨.root, ["ws"]⟩, [], false⟩, [], [⟨.root, [longName]⟩]⟩

/-- A directory that cannot be asked for is in the way of every relative import. -/
theorem importedFile?_far :
    RelativeImport farIndex beside ["src", "pkg"] "__init__" [] "util" 2 ∧
      farIndex.importedFile? beside ⟨.root, ["ws", "src", "pkg", "__init__.py"]⟩ "util" 2 =
        .error .pathTooLong := by
  have hdirectory : beside.isDirectory ⟨.root, [longName]⟩ = .error .pathTooLong :=
    FileTree.test_of_long_head beside _
      (List.forall_mem_cons.2 ⟨nul_not_mem_longName, List.forall_mem_nil _⟩) nameLimit_lt_longName
  have hroots : farIndex.roots beside = .error .pathTooLong := by
    simp [roots, farIndex, List.filterM, List.filterAuxM, hdirectory, bind, Except.bind]
  have hparts : ∀ relative level, farIndex.importedParts beside
      ⟨.root, ["ws", "src", "pkg", "__init__.py"]⟩ relative level = .error .pathTooLong := by
    intro relative level
    have hreal : beside.realPath ⟨.root, ["ws", "src", "pkg", "__init__.py"]⟩ =
        .ok ⟨.root, ["ws", "src", "pkg", "__init__.py"]⟩ := by
      decide +kernel
    rw [importedParts, moduleName, hreal, hroots]
    rfl
  refine ⟨⟨linkFree_beside, by decide, by decide, by decide, by decide, by decide,
    by decide +kernel, by decide +kernel, fun parts hfound => ?_⟩, ?_⟩
  · have hfault := hparts (ModuleName.spell ["util"]) 2
    rw [List.nil_append] at hfound
    exact absurd (hfound.symm.trans hfault) (by simp)
  · rw [importedFile?, hparts]
    rfl

end SourceIndex

end LozengeNav
