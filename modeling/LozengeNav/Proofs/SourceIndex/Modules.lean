import LozengeNav.Proofs.Fault
import LozengeNav.SourceIndex

/-! # Files of modules

The file of a module is the first file among the places it may lie at: below each
directory that is searched, the file of a package comes before that of a plain
module. A search that asks the file system ends with a fault where a question
about a place has no answer; a search that ends without one has found that file.
-/

namespace LozengeNav

namespace SourceIndex

open Fault (yes)

/-- The directories that modules are looked up in, in order. -/
def searched (x : SourceIndex) (t : FileTree) : List Path :=
  [x.workspace.root, x.workspace.root.join "src"] ++ x.searchPaths ++
    x.importPath.filter fun p => yes (t.isDirectory p)

/-- Where the file of a module may lie below a directory. -/
def places (parts : List String) (root : Path) : List Path :=
  let base := parts.foldl Path.join root
  base.child packageFile :: (base.withName? (base.name ++ ".py")).toList

/-- The file of a module: the first file among the places for it. -/
def module? (x : SourceIndex) (t : FileTree) (parts : List String) : Option Path :=
  ((x.searched t).flatMap (places parts)).find? fun p => yes (t.isFile p)

/-! ## Searching without a fault -/

theorem roots_eq_ok {x : SourceIndex} {t : FileTree} {roots : List Path}
    (h : x.roots t = .ok roots) : roots = x.searched t := by
  obtain ⟨installed, hinstalled, hroots⟩ := Fault.ok_of_bind_eq_ok h
  cases hroots
  rw [Fault.filterM_eq_ok hinstalled]
  rfl

theorem moduleFileIn?_eq_ok {t : FileTree} {parts : List String} {root : Path}
    {found : Option Path} (h : moduleFileIn? t parts root = .ok found) :
    found = (places parts root).find? fun p => yes (t.isFile p) := by
  obtain ⟨isPackage, hpackage, hplain⟩ := Fault.ok_of_bind_eq_ok h
  simp only [places, List.find?_cons, hpackage]
  cases isPackage with
  | true =>
      cases hplain
      rfl
  | false =>
      simp only [Bool.false_eq_true, if_false] at hplain
      split at hplain
      · cases hplain
      · next plain hname =>
          obtain ⟨isPlain, hfile, hfound⟩ := Fault.ok_of_bind_eq_ok hplain
          cases hfound
          rw [hname]
          cases isPlain <;> simp [yes, hfile]

theorem firstModuleFile?_eq_ok {t : FileTree} {parts : List String} {roots : List Path}
    {found : Option Path} (h : firstModuleFile? t parts roots = .ok found) :
    found = (roots.flatMap (places parts)).find? fun p => yes (t.isFile p) := by
  induction roots with
  | nil =>
      cases h
      rfl
  | cons root rest ih =>
      obtain ⟨first, hroot, hrest⟩ := Fault.ok_of_bind_eq_ok h
      rw [List.flatMap_cons, List.find?_append, ← moduleFileIn?_eq_ok hroot]
      cases first with
      | none => exact ih hrest
      | some file =>
          cases hrest
          rfl

theorem firstModuleFile?_of_none {t : FileTree} {parts : List String} {root : Path}
    {rest : List Path} (h : moduleFileIn? t parts root = .ok none) :
    firstModuleFile? t parts (root :: rest) = firstModuleFile? t parts rest := by
  rw [firstModuleFile?, h]
  rfl

theorem firstModuleFile?_of_fault {t : FileTree} {parts : List String} {root : Path}
    {rest : List Path} {fault : Fault} (h : moduleFileIn? t parts root = .error fault) :
    firstModuleFile? t parts (root :: rest) = .error fault := by
  rw [firstModuleFile?, h]
  rfl

theorem moduleFile?_of_roots {x : SourceIndex} {t : FileTree} {parts : List String}
    {roots : List Path} (h : x.roots t = .ok roots) :
    x.moduleFile? t parts = firstModuleFile? t parts roots := by
  rw [moduleFile?, h]
  rfl

theorem moduleFile?_eq_ok {x : SourceIndex} {t : FileTree} {parts : List String}
    {found : Option Path} (h : x.moduleFile? t parts = .ok found) :
    found = x.module? t parts := by
  obtain ⟨roots, hroots, hfound⟩ := Fault.ok_of_bind_eq_ok h
  rw [firstModuleFile?_eq_ok hfound, roots_eq_ok hroots]
  rfl

theorem yes_isFile_of_module? {x : SourceIndex} {t : FileTree} {parts : List String} {file : Path}
    (h : x.module? t parts = some file) : yes (t.isFile file) = true := by
  simpa using List.find?_some h

/-! ## Searches with an answer -/

/-- The directories to search are known if and only if every entry of the import
path can be asked for. -/
theorem roots_ok_iff {x : SourceIndex} {t : FileTree} :
    (∃ roots, x.roots t = .ok roots) ↔ ∀ p ∈ x.importPath, ∃ answer, t.isDirectory p = .ok answer := by
  rw [← Fault.filterM_ok_iff t.isDirectory x.importPath]
  constructor
  · rintro ⟨roots, hroots⟩
    obtain ⟨installed, hinstalled, -⟩ := Fault.ok_of_bind_eq_ok hroots
    exact ⟨installed, hinstalled⟩
  · rintro ⟨installed, hinstalled⟩
    rw [roots, hinstalled]
    exact ⟨_, rfl⟩

/-! ## Sources -/

theorem source?_of_isFile {t : FileTree} {path : Path} (h : yes (t.isFile path) = true) :
    source? t path = .ok (t.readText path).toOption := by
  have hread : ∃ bytes, t.read path = .ok bytes := by
    unfold FileTree.isFile FileTree.test at h
    unfold FileTree.read
    cases hlocate : t.locate true path with
    | error absence =>
        rw [hlocate] at h
        cases absence <;> cases h
    | ok found =>
        rw [hlocate] at h
        obtain ⟨trail, entry⟩ := found
        cases entry with
        | file content modified => exact ⟨content, rfl⟩
        | directory => cases h
        | link target => cases h
  obtain ⟨bytes, hbytes⟩ := hread
  cases hdecode : Text.Utf8.decode? bytes with
  | none =>
      have htext : t.readText path = .error .undecodable := by
        simp only [FileTree.readText, hbytes, Except.bind, bind, hdecode]
        rfl
      rw [source?, htext]
      rfl
  | some text =>
      have htext : t.readText path = .ok (Text.unifyBreaks text) := by
        simp only [FileTree.readText, hbytes, Except.bind, bind, hdecode]
        rfl
      rw [source?, htext]
      rfl

end SourceIndex

end LozengeNav
