import LozengeNav.Proofs.SourceIndex.Modules

/-! # Files of a workspace

Whatever a search of the workspace finds was looked at when it was admitted, so
it is a file.
-/

namespace LozengeNav

namespace Workspace

variable {w : Workspace} {t : FileTree}

theorem isFile_of_admits {matchers : List Ignore.Matcher} {p : Path}
    (h : w.admits t matchers p = .ok true) : t.isFile p = .ok true := by
  obtain ⟨isFile, hfile, hrest⟩ := Fault.ok_of_bind_eq_ok h
  cases isFile with
  | true => exact hfile
  | false => cases hrest

theorem exists_admits_of_mem_glob {pattern : String} {files : List Path}
    (h : w.glob t pattern = .ok files) {p : Path} (hp : p ∈ files) :
    ∃ matchers found, Glob.find t w.root pattern = .ok found ∧ p ∈ found ∧
      w.admits t matchers p = .ok true := by
  obtain ⟨matchers, -, h⟩ := Fault.ok_of_bind_eq_ok h
  obtain ⟨found, hfound, h⟩ := Fault.ok_of_bind_eq_ok h
  obtain ⟨kept, hkept, hsorted⟩ := Fault.ok_of_bind_eq_ok h
  cases hsorted
  rw [List.mem_mergeSort, Fault.mem_filterM_iff hkept] at hp
  exact ⟨matchers, found, hfound, hp⟩

theorem isFile_of_mem_glob {pattern : String} {files : List Path}
    (h : w.glob t pattern = .ok files) {p : Path} (hp : p ∈ files) : t.isFile p = .ok true := by
  obtain ⟨matchers, found, -, -, hadmitted⟩ := exists_admits_of_mem_glob h hp
  exact isFile_of_admits hadmitted

theorem mem_of_mem_limited {α : Type} {limit : Int} {items : List α} {a : α}
    (h : a ∈ limited limit items) : a ∈ items := by
  unfold limited at h
  split at h
  · exact List.mem_of_mem_take h
  · exact List.mem_of_mem_take h

theorem exists_of_mem_findFiles {pattern : String} {limit : Int} {uris : List String}
    (h : w.findFiles t pattern limit = .ok uris) {uri : String} (huri : uri ∈ uris) :
    ∃ files, w.glob t pattern = .ok files ∧ ∃ p ∈ files, p.toUri = .ok uri := by
  obtain ⟨files, hfiles, h⟩ := Fault.ok_of_bind_eq_ok h
  obtain ⟨p, hp, hpath⟩ := Fault.exists_of_mem_mapM h huri
  exact ⟨files, hfiles, p, mem_of_mem_limited hp, hpath⟩

end Workspace

end LozengeNav
