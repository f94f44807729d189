import LozengeNav.Proofs.Fault
import LozengeNav.Workspace

/-! # Finding sources

A star before plain characters stands for the names that end with them. So the
search for Python files takes, directory by directory, the names with the suffix of
such files.
-/

namespace LozengeNav

namespace Wildcard

theorem accepts_chars (suffix s : List Char) :
    accepts (suffix.map .char) s = true ↔ suffix = s := by
  induction suffix generalizing s with
  | nil => cases s <;> simp [accepts]
  | cons c suffix ih =>
      rw [List.map_cons]
      cases s with
      | nil => simp [accepts]
      | cons d rest =>
          rw [accepts, Bool.and_eq_true, ih, List.cons_eq_cons, Piece.admits, decide_eq_true_iff,
            eq_comm]
          intro hrun
          cases hrun

theorem accepts_run_chars (suffix s : List Char) :
    accepts (.run :: suffix.map .char) s = true ↔ suffix <:+ s := by
  induction s with
  | nil => rw [accepts, accepts_chars, List.suffix_nil]
  | cons c rest ih => rw [accepts, Bool.or_eq_true, accepts_chars, ih, List.suffix_cons_iff]

theorem fits_python (name : String) :
    fits "*.py" name = ['.', 'p', 'y'].isSuffixOf name.toList := by
  rw [Bool.eq_iff_iff, List.isSuffixOf_iff_suffix]
  exact accepts_run_chars ['.', 'p', 'y'] name.toList

end Wildcard

namespace Glob

/-- The last part of a pattern takes the entries with fitting names, whatever they are. -/
theorem select_wildcard_last (t : FileTree) (s : String) (p : Path) :
    select t false [.wildcard s] p = (do
      let entries ← entriesIn t p
      return (entries.filter fun e => Wildcard.fits s e.1).map fun e => p.child e.1) := by
  have hinner : (false || !([] : List Segment).isEmpty) = false := rfl
  rw [select, hinner]
  refine bind_congr fun entries => ?_
  have htaken : entries.filterM (takes t false s p) =
      .ok (entries.filter fun e => Wildcard.fits s e.1) :=
    Fault.filterM_filter fun _ _ => rfl
  have hstep : ∀ found : List (String × Entry),
      (found.mapM fun e => select t false [] (p.child e.1)) =
        .ok (found.map fun e => [p.child e.1]) :=
    fun found => List.mapM_pure
  rw [htaken]
  dsimp only [bind, Except.bind]
  rw [hstep]
  exact congrArg Except.ok ((List.flatMap_def ..).symm.trans List.map_eq_flatMap.symm)

/-- What the search for Python files takes from one directory. -/
def pythonIn (t : FileTree) (directory : Path) : Except Fault (List Path) := do
  let entries ← entriesIn t directory
  return (entries.filter fun e => ['.', 'p', 'y'].isSuffixOf e.1.toList).map
    fun e => directory.child e.1

theorem select_python (t : FileTree) (p : Path) :
    select t false [.wildcard "*.py"] p = pythonIn t p := by
  rw [select_wildcard_last, pythonIn]
  simp only [Wildcard.fits_python]

theorem find_flat_python (t : FileTree) (root : Path) :
    find t root "*.py" = (do if ← t.isDirectory root then pythonIn t root else return []) := by
  have hpattern : Pattern.ofString "*.py" = .ok ⟨[.wildcard "*.py"], false⟩ := by
    decide
  rw [find, hpattern, ← select_python]
  rfl

theorem find_python (t : FileTree) (root : Path) :
    find t root "**/*.py" = (do
      if ← t.isDirectory root then
        return (← (← below t root).mapM (pythonIn t)).flatten.eraseDups
      else return []) := by
  have hpattern : Pattern.ofString "**/*.py" = .ok ⟨[.directories, .wildcard "*.py"], false⟩ := by
    decide
  rw [find, hpattern, ← funext (select_python t)]
  rfl

end Glob

theorem Workspace.pythonFiles_of_sorted {w : Workspace} {t : FileTree}
    {matchers : List Ignore.Matcher} {found : List Path} (hmatchers : w.matchers t = .ok matchers)
    (hroot : t.isDirectory w.root = .ok true)
    (hfound : (do
      let files ← (← Glob.below t w.root).mapM (Glob.pythonIn t)
      files.flatten.eraseDups.filterM (w.admits t matchers)) = .ok found)
    (hsorted : found.Pairwise fun a b => w.key a ≤ w.key b) : w.pythonFiles t = .ok found := by
  obtain ⟨starts, hstarts, hfound⟩ := Fault.ok_of_bind_eq_ok hfound
  obtain ⟨files, hfiles, hfound⟩ := Fault.ok_of_bind_eq_ok hfound
  have hfind : Glob.find t w.root "**/*.py" = .ok files.flatten.eraseDups := by
    rw [Glob.find_python, hroot, hstarts]
    dsimp only [bind, Except.bind]
    rw [if_pos rfl, hfiles]
    rfl
  rw [pythonFiles, glob, hmatchers, hfind]
  dsimp only [bind, Except.bind]
  rw [hfound]
  exact congrArg Except.ok (List.mergeSort_of_pairwise (by simpa using hsorted))

end LozengeNav
