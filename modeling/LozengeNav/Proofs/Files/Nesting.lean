import LozengeNav.Proofs.Files.Found
import Mathlib

/-! # Nested ignore files

A search that composes all ignore files finds nothing that the ignore file of the
root alone would hide. What it finds comes in the same order in a search that
counts this file only, as long as both take it into account. A link at its place
counts in the latter only.
-/

namespace LozengeNav

namespace Workspace

open Fault (yes)

/-- The workspace with one of the two ways of counting ignore files. -/
def nesting (w : Workspace) (nested : Bool) : Workspace :=
  ⟨w.root, w.exclude, nested⟩

def top (w : Workspace) : Path :=
  w.root.join ignoreName

variable {w : Workspace} {t : FileTree} {p : Path}

/-! ## Order -/

theorem key_le_trans (a b c : Path) (hab : decide (w.key a ≤ w.key b) = true)
    (hbc : decide (w.key b ≤ w.key c) = true) : decide (w.key a ≤ w.key c) = true := by
  rw [decide_eq_true_eq] at hab hbc ⊢
  exact String.le_trans hab hbc

theorem key_le_total (a b : Path) :
    (decide (w.key a ≤ w.key b) || decide (w.key b ≤ w.key a)) = true := by
  simpa using String.le_total (w.key a) (w.key b)

theorem mergeSort_key_cons (w : Workspace) (p : Path) (paths : List Path) :
    ((p :: paths).mergeSort fun a b => w.key a ≤ w.key b) =
      (paths.mergeSort fun a b => w.key a ≤ w.key b).filter (fun q => !decide (w.key p ≤ w.key q)) ++
        p :: (paths.mergeSort fun a b => w.key a ≤ w.key b).filter fun q => w.key p ≤ w.key q := by
  obtain ⟨front, back, hsorted, hrest, hfront⟩ :=
    List.mergeSort_cons (key_le_trans (w := w)) key_le_total p paths
  have hpairwise := pairwise_mergeSort_key (w := w) (p :: paths)
  rw [hsorted, List.pairwise_append, List.pairwise_cons] at hpairwise
  obtain ⟨-, ⟨hback, -⟩, -⟩ := hpairwise
  have hbefore : ∀ q ∈ front, decide (w.key p ≤ w.key q) = false := fun q hq =>
    (Bool.not_eq_true' _).mp (hfront q hq)
  have hbehind : ∀ q ∈ back, decide (w.key p ≤ w.key q) = true := fun q hq =>
    decide_eq_true (hback q hq)
  rw [hsorted, hrest, List.filter_append, List.filter_append]
  rw [List.filter_eq_self.2 hfront,
    List.filter_eq_nil_iff.2 fun q hq => by rw [hbehind q hq]; decide,
    List.filter_eq_nil_iff.2 fun q hq => by rw [hbefore q hq]; decide,
    List.filter_eq_self.2 hbehind, List.append_nil, List.nil_append]

theorem sublist_mergeSort_key {some all : List Path} (h : some.Sublist all) :
    (some.mergeSort fun a b => w.key a ≤ w.key b).Sublist
      (all.mergeSort fun a b => w.key a ≤ w.key b) := by
  induction h with
  | slnil => exact List.Sublist.refl _
  | @cons some all p _ ih =>
      obtain ⟨front, back, hsorted, hrest, -⟩ :=
        List.mergeSort_cons (key_le_trans (w := w)) key_le_total p all
      rw [hrest] at ih
      rw [hsorted]
      exact ih.trans ((List.sublist_cons_self p back).append_left front)
  | cons_cons p _ ih =>
      rw [mergeSort_key_cons, mergeSort_key_cons]
      exact (ih.filter _).append ((ih.filter _).cons_cons p)

/-! ## Which files are asked about -/

/-- What ignore files and exclude patterns are asked about: the path below the root of a file that is
no link and really lies below the root. -/
def question? (w : Workspace) (t : FileTree) (p : Path) : Except Fault (Option Path) := do
  if !(← t.isFile p) || t.isLink p then return none
  else if !(← w.holds t p) then return none
  else return w.relative? p

theorem admits_eq (w : Workspace) (t : FileTree) (matchers : List Ignore.Matcher) (p : Path) :
    w.admits t matchers p = (w.question? t p >>= fun
      | none => pure false
      | some relative => (w.isIgnored t p matchers).map fun hidden =>
          !hidden && !w.exclude.any fun pattern => Wildcard.fits pattern relative.toString) := by
  rw [admits, question?]
  rcases t.isFile p with fault | _ | _
  · rfl
  · rfl
  · cases t.isLink p with
    | true => rfl
    | false =>
        rcases w.holds t p with fault | _ | _
        · rfl
        · rfl
        · cases w.relative? p with
          | none => rfl
          | some relative => rcases w.isIgnored t p matchers with fault | _ | _ <;> rfl

theorem question?_nesting (w : Workspace) (nested : Bool) (t : FileTree) (p : Path) :
    (w.nesting nested).question? t p = w.question? t p :=
  rfl

/-! ## Matchers of both ways -/

section Matchers

variable {m : Ignore.Matcher} {matchers : List Ignore.Matcher}

theorem isIgnored_root (w : Workspace) (t : FileTree) (p : Path) (m : Ignore.Matcher) :
    (w.nesting false).isIgnored t p [m] = m.hides t p := by
  rw [isIgnored]
  cases m.hides t p with
  | ok hidden => cases hidden <;> rfl
  | error fault => cases fault <;> rfl

theorem hides_ne_of_isIgnored {nested : Bool}
    (h : (w.nesting nested).isIgnored t p matchers = .ok false) (hm : m ∈ matchers) :
    m.hides t p ≠ .ok true := by
  induction matchers with
  | nil => cases hm
  | cons first rest ih =>
      rw [isIgnored] at h
      intro hhides
      rcases List.mem_cons.1 hm with rfl | hm
      · rw [hhides] at h
        cases h
      · split at h
        · cases h
        · exact ih h hm hhides
        · split at h
          · exact ih h hm hhides
          · cases h
        · cases h

/-- The ignore file of the root, if there is one, counts in both ways, unless it is a link. -/
theorem exists_root (htop : t.isLink w.top = true → t.isFile w.top ≠ .ok true)
    (h : (w.nesting true).matchers t = .ok matchers) :
    ∃ root : Option Ignore.Matcher, (∀ m ∈ root, m ∈ matchers) ∧
      (w.nesting false).matchers t = .ok root.toList := by
  obtain ⟨files, hfiles, hread⟩ := Fault.ok_of_bind_eq_ok h
  obtain ⟨found, -, hfiles⟩ := Fault.ok_of_bind_eq_ok hfiles
  obtain ⟨regular, hregular, hfiles⟩ := Fault.ok_of_bind_eq_ok hfiles
  cases hfiles
  have hmem : w.top ∈ (w.top :: found).eraseDups := List.mem_eraseDups.2 List.mem_cons_self
  obtain ⟨kept, hkept⟩ : ∃ kept, (do return (← t.isFile w.top) && !t.isLink w.top : Except Fault Bool) =
      .ok kept :=
    (Fault.filterM_ok_iff _ _).1 ⟨regular, hregular⟩ w.top hmem
  -- Without nesting the ignore file is looked for where it is, link or not.
  have hflat : (w.nesting false).matchers t = (do
      let files ← (do if ← t.isFile w.top then return [w.top] else return [] : Except Fault (List Path))
      files.mapM (Ignore.Matcher.ofFile t)) := rfl
  rcases hfile : t.isFile w.top with fault | _ | _
  · rw [hfile] at hkept
    cases hkept
  · refine ⟨none, nofun, ?_⟩
    rw [hflat, hfile]
    rfl
  · have hlink : t.isLink w.top = false := by
      rw [Bool.eq_false_iff]
      exact fun hlink => htop hlink hfile
    have hregular : w.top ∈ regular := by
      refine (Fault.mem_filterM_iff hregular).2 ⟨hmem, ?_⟩
      rw [hfile, hlink]
      rfl
    obtain ⟨m, hm, hofFile⟩ := Fault.exists_mem_of_mapM hread (List.mem_mergeSort.2 hregular)
    refine ⟨some m, fun _ hsome => Option.some_inj.1 hsome ▸ hm, ?_⟩
    rw [hflat, hfile]
    simp [bind, Except.bind, pure, Except.pure, hofFile]

end Matchers

/-! ## Searches in both ways -/

section Searches

variable {pattern : String} {kept : List Path}

/-- A search has an answer if and only if it has one about each of its candidates. -/
theorem glob_ok_iff {matchers : List Ignore.Matcher} {found : List Path}
    (hmatchers : w.matchers t = .ok matchers) (hfound : Glob.find t w.root pattern = .ok found) :
    (∃ all, w.glob t pattern = .ok all) ↔
      ∀ p ∈ found, ∃ answer, w.admits t matchers p = .ok answer := by
  rw [glob_eq_sorted hmatchers hfound, ← Fault.filterM_ok_iff]
  exact Fault.map_ok_iff _

/-- The ignore file of the root has no answer about a candidate that it is asked about. -/
def Unanswered (w : Workspace) (t : FileTree) (root : Option Ignore.Matcher) (p : Path) : Prop :=
  ∃ relative m fault, w.question? t p = .ok (some relative) ∧ m ∈ root ∧
    m.hides t p = .error fault

section Candidates

variable {matchers : List Ignore.Matcher} {root : Option Ignore.Matcher} {answer : Bool}
  (h : (w.nesting true).admits t matchers p = .ok answer)

include h

theorem exists_admits_root_iff :
    (∃ looked, (w.nesting false).admits t root.toList p = .ok looked) ↔
      ¬ w.Unanswered t root p := by
  rw [admits_eq, question?_nesting] at h ⊢
  cases hquestion : w.question? t p with
  | error fault =>
      rw [hquestion] at h
      cases h
  | ok asked =>
  cases asked with
  | none =>
      refine iff_of_true ⟨false, rfl⟩ ?_
      rintro ⟨relative, m, fault, hasked, -⟩
      cases hquestion.symm.trans hasked
  | some relative =>
  cases root with
  | none => exact iff_of_true ⟨_, rfl⟩ fun ⟨_, _, _, _, hm, _⟩ => nomatch hm
  | some m =>
      rw [Option.toList_some]
      simp only [bind, Except.bind, isIgnored_root]
      cases hhides : m.hides t p with
      | error fault =>
          exact iff_of_false nofun fun hnot => hnot ⟨relative, m, fault, hquestion, rfl, hhides⟩
      | ok hidden =>
          refine iff_of_true ⟨_, rfl⟩ ?_
          rintro ⟨_, other, fault, -, hother, hfault⟩
          cases hother
          cases hhides.symm.trans hfault

/-- What is looked at if all ignore files count is looked at if the one of the root does. -/
theorem admits_root_of_admits (hroot : ∀ m ∈ root, m ∈ matchers) (hanswer : answer = true)
    {looked : Bool} (hlooked : (w.nesting false).admits t root.toList p = .ok looked) :
    looked = true := by
  subst hanswer
  rw [admits_eq, question?_nesting] at h hlooked
  obtain ⟨asked, hquestion, h⟩ := Fault.ok_of_bind_eq_ok h
  rw [hquestion] at hlooked
  cases asked with
  | none => cases h
  | some relative =>
      simp only [bind, Except.bind] at h hlooked
      cases hnested : (w.nesting true).isIgnored t p matchers with
      | error fault =>
          rw [hnested] at h
          cases h
      | ok hidden =>
          rw [hnested, Except.map, Except.ok.injEq, Bool.and_eq_true, Bool.not_eq_true'] at h
          obtain ⟨rfl, hincluded⟩ := h
          cases root with
          | none =>
              cases hlooked
              exact hincluded
          | some m =>
              rw [Option.toList_some, isIgnored_root] at hlooked
              cases hhides : m.hides t p with
              | error fault =>
                  rw [hhides] at hlooked
                  cases hlooked
              | ok hides =>
                  have hpassed : hides = false := by
                    have hne := hides_ne_of_isIgnored hnested (hroot m rfl)
                    rw [hhides] at hne
                    simpa using hne
                  rw [hhides, hpassed] at hlooked
                  cases hlooked
                  exact hincluded

end Candidates

theorem limited_sublist {α : Type} (limit : Int) (items : List α) :
    (limited limit items).Sublist items := by
  unfold limited
  split
  · exact List.take_sublist _ items
  · exact List.take_sublist _ items

theorem limited_of_length_le {α : Type} {items : List α} {n : Nat} (h : items.length ≤ n) :
    limited n items = items := by
  rw [limited_natCast, List.take_of_length_le h]

/-- Let the ignore file of the root be no link to a file. Then whatever a search finds if all ignore
files count, it finds in the same order if the one of the root does, unless that file has no answer
about a candidate; the search has an answer in all other cases. The URIs of all that is found
hold those of the other search, up to any limit. -/
theorem glob_nested_sublist (htop : t.isLink w.top = true → t.isFile w.top ≠ .ok true)
    (hkept : (w.nesting true).glob t pattern = .ok kept) :
    ∃ found root, Glob.find t w.root pattern = .ok found ∧
      (w.nesting false).matchers t = .ok (Option.toList root) ∧
      ((∃ all, (w.nesting false).glob t pattern = .ok all) ↔
        ∀ p ∈ found, ¬ w.Unanswered t root p) ∧
      ∀ all, (w.nesting false).glob t pattern = .ok all → kept.Sublist all ∧
        ∀ n : Nat, all.length ≤ n →
          ((∃ others, (w.nesting false).findFiles t pattern n = .ok others) ↔
            ∀ p ∈ all, ∃ uri, p.toUri = .ok uri) ∧
          ∀ limit uris others, (w.nesting true).findFiles t pattern limit = .ok uris →
            (w.nesting false).findFiles t pattern n = .ok others → uris.Sublist others := by
  obtain ⟨matchers, hmatchers, hglob⟩ := Fault.ok_of_bind_eq_ok hkept
  obtain ⟨found, hfound, -⟩ := Fault.ok_of_bind_eq_ok hglob
  obtain ⟨root, hroot, hflat⟩ := exists_root htop hmatchers
  have hnested := (glob_ok_iff hmatchers hfound).1 ⟨kept, hkept⟩
  refine ⟨found, root, hfound, hflat, ?_, fun all hall => ?_⟩
  · rw [glob_ok_iff hflat hfound]
    refine forall₂_congr fun p hp => ?_
    obtain ⟨answer, hanswer⟩ := hnested p hp
    exact exists_admits_root_iff hanswer
  · have hanswers := (glob_ok_iff hflat hfound).1 ⟨all, hall⟩
    have hsub : kept.Sublist all := by
      have hboth := hall
      rw [glob_eq_sorted hflat hfound] at hboth
      rw [glob_eq_sorted hmatchers hfound] at hkept
      rw [eq_of_sorted hkept, eq_of_sorted hboth]
      refine sublist_mergeSort_key ?_
      have hrefine : found.filter (fun p => yes ((w.nesting true).admits t matchers p)) =
          (found.filter fun p => yes ((w.nesting false).admits t root.toList p)).filter
            fun p => yes ((w.nesting true).admits t matchers p) := by
        rw [List.filter_filter]
        refine List.filter_congr fun p hp => ?_
        obtain ⟨answer, hanswer⟩ := hnested p hp
        obtain ⟨looked, hlooked⟩ := hanswers p hp
        rw [hanswer, hlooked]
        cases answer with
        | false => rfl
        | true => rw [admits_root_of_admits hanswer hroot rfl hlooked, yes, Bool.and_self]
      rw [hrefine]
      exact List.filter_sublist
    refine ⟨hsub, fun n hn => ?_⟩
    have hfiles : (w.nesting false).findFiles t pattern n = all.mapM Path.toUri := by
      rw [findFiles, hall]
      exact congrArg (List.mapM Path.toUri) (limited_of_length_le hn)
    rw [hfiles, Fault.mapM_ok_iff]
    refine ⟨Iff.rfl, fun limit uris others huris hothers => ?_⟩
    rw [findFiles, hkept] at huris
    exact Fault.sublist_of_mapM ((limited_sublist limit kept).trans hsub) huris hothers

end Searches

/-! ## Where the two ways part -/

theorem ignoreFiles_of_pairwise {found files : List Path}
    (hfound : Glob.find t w.root ("**/" ++ ignoreName) = .ok found)
    (hfiles : (w.top :: found).eraseDups.filterM (fun p => do
      return (← t.isFile p) && !t.isLink p : Path → Except Fault Bool) = .ok files)
    (hordered : files.Pairwise fun a b => w.key a ≤ w.key b) :
    (w.nesting true).ignoreFiles t = .ok files := by
  have hsorted : (files.mergeSort fun a b => w.key a ≤ w.key b) = files :=
    List.mergeSort_of_pairwise (by simpa using hordered)
  have hunfold : (w.nesting true).ignoreFiles t = (do
      let found ← Glob.find t w.root ("**/" ++ ignoreName)
      let files ← (w.top :: found).eraseDups.filterM fun p => do
        return (← t.isFile p) && !t.isLink p
      return files.mergeSort fun a b => w.key a ≤ w.key b) := rfl
  rw [hunfold, hfound]
  simp only [bind, Except.bind] at hfiles ⊢
  rw [hfiles]
  exact congrArg Except.ok hsorted

def ruleOf (c : Char) : Ignore.Rule :=
  ⟨some [.one (.single c)], false, false, false⟩

/-- A directory with an ignore file and a link to it, and two directories in it, the first of which
hides its file. -/
def composed : FileTree where
  entries := [(["ws"], .directory), (["ws", ".gitignore"], .file [122, 10] 1),
    (["ws", "a"], .directory), (["ws", "a", ".gitignore"], .file [120, 10] 2),
    (["ws", "a", "x"], .file [] 3), (["ws", "b"], .directory), (["ws", "b", "x"], .file [] 4),
    (["other"], .link "/ws")]
  here := []

def composedWorkspace : Workspace :=
  ⟨⟨.root, ["ws"]⟩, [], false⟩

def topMatcher : Ignore.Matcher :=
  ⟨⟨.root, ["ws"]⟩, [ruleOf 'z']⟩

def innerMatcher : Ignore.Matcher :=
  ⟨⟨.root, ["ws", "a"]⟩, [ruleOf 'x']⟩

/-- What the ignore files say and where they are, and what is found and asked about, also on a path
that leads out of the root and back into it. -/
theorem looked_composed :
    ((composed.readText ⟨.root, ["ws", ".gitignore"]⟩ = .ok ['z', '\n'] ∧
        composed.readText ⟨.root, ["ws", "a", ".gitignore"]⟩ = .ok ['x', '\n']) ∧
      (composedWorkspace.nesting true).ignoreFiles composed =
        .ok [⟨.root, ["ws", ".gitignore"]⟩, ⟨.root, ["ws", "a", ".gitignore"]⟩] ∧
      (composedWorkspace.nesting false).ignoreFiles composed =
        .ok [⟨.root, ["ws", ".gitignore"]⟩]) ∧
    (Glob.find composed ⟨.root, ["ws"]⟩ "**/x" =
        .ok [⟨.root, ["ws", "a", "x"]⟩, ⟨.root, ["ws", "b", "x"]⟩] ∧
      composedWorkspace.question? composed ⟨.root, ["ws", "a", "x"]⟩ = .ok (some ⟨.here, ["a", "x"]⟩) ∧
      composedWorkspace.question? composed ⟨.root, ["ws", "b", "x"]⟩ =
        .ok (some ⟨.here, ["b", "x"]⟩)) ∧
    Glob.find composed ⟨.root, ["ws"]⟩ "../other/b/x" =
        .ok [⟨.root, ["ws", "..", "other", "b", "x"]⟩] ∧
      composedWorkspace.question? composed ⟨.root, ["ws", "..", "other", "b", "x"]⟩ =
        .ok (some ⟨.here, ["..", "other", "b", "x"]⟩) := by
  have hfound : Glob.find composed ⟨.root, ["ws"]⟩ ("**/" ++ ignoreName) =
      .ok [⟨.root, ["ws", ".gitignore"]⟩, ⟨.root, ["ws", "a", ".gitignore"]⟩] := by
    decide +kernel
  exact ⟨⟨by decide +kernel, ignoreFiles_of_pairwise hfound (by decide +kernel) (by decide),
    by decide +kernel⟩, by decide +kernel⟩

theorem matchers_composed :
    (composedWorkspace.nesting true).matchers composed = .ok [topMatcher, innerMatcher] ∧
      (composedWorkspace.nesting false).matchers composed = .ok [topMatcher] := by
  obtain ⟨⟨⟨htop, hinner⟩, hfiles, hflat⟩, -⟩ := looked_composed
  have hrules : Ignore.rulesOf ['z', '\n'] = .ok [ruleOf 'z'] ∧
      Ignore.rulesOf ['x', '\n'] = .ok [ruleOf 'x'] := by
    constructor <;> cbv
  have hofFile : Ignore.Matcher.ofFile composed ⟨.root, ["ws", ".gitignore"]⟩ = .ok topMatcher ∧
      Ignore.Matcher.ofFile composed ⟨.root, ["ws", "a", ".gitignore"]⟩ = .ok innerMatcher := by
    rw [Ignore.Matcher.ofFile, Ignore.Matcher.ofFile, htop, hinner]
    simp only [bind, Except.bind, hrules]
    exact ⟨rfl, rfl⟩
  rw [matchers, matchers, hfiles, hflat]
  simp [bind, Except.bind, pure, Except.pure, hofFile]

theorem hides_composed :
    topMatcher.hides composed ⟨.root, ["ws", "a", "x"]⟩ = .ok false ∧
      topMatcher.hides composed ⟨.root, ["ws", "b", "x"]⟩ = .ok false ∧
      innerMatcher.hides composed ⟨.root, ["ws", "a", "x"]⟩ = .ok true := by
  have hrules : Ignore.hides [ruleOf 'z'] "a/x".toList = .ok false ∧
      Ignore.hides [ruleOf 'z'] "b/x".toList = .ok false ∧
      Ignore.hides [ruleOf 'x'] "x".toList = .ok true := by
    refine ⟨?_, ?_, ?_⟩ <;> cbv
  exact hrules

/-- The first file is hidden by the ignore file beside it, which counts in one of the two ways. -/
theorem glob_composed :
    (composedWorkspace.nesting true).glob composed "**/x" = .ok [⟨.root, ["ws", "b", "x"]⟩] ∧
      (composedWorkspace.nesting false).glob composed "**/x" =
        .ok [⟨.root, ["ws", "a", "x"]⟩, ⟨.root, ["ws", "b", "x"]⟩] := by
  obtain ⟨hnested, hflat⟩ := matchers_composed
  obtain ⟨hfirst, hsecond, hinner⟩ := hides_composed
  obtain ⟨-, ⟨hfound, hasked, hasked'⟩, -⟩ := looked_composed
  have houtside : innerMatcher.hides composed ⟨.root, ["ws", "b", "x"]⟩ =
      .error (.outsideDirectory "/ws/b/x" "/ws/a") := rfl
  rw [glob_eq_sorted hnested hfound, glob_eq_sorted hflat hfound]
  refine ⟨sorted_of_pairwise ?_ (by decide), sorted_of_pairwise ?_ (by decide)⟩
  · simp only [List.filterM, List.filterAuxM, admits_eq, question?_nesting, hasked, hasked', isIgnored,
      hfirst, hsecond, hinner, houtside]
    rfl
  · simp only [List.filterM, List.filterAuxM, admits_eq, question?_nesting, hasked, hasked',
      isIgnored_root, hfirst, hsecond]
    rfl

/-- The search that counts the inner ignore file too leaves out what it hides. -/
theorem glob_nested_sublist_composed :
    composed.isLink composedWorkspace.top = false ∧
      (composedWorkspace.nesting true).glob composed "**/x" = .ok [⟨.root, ["ws", "b", "x"]⟩] ∧
      (composedWorkspace.nesting false).glob composed "**/x" =
        .ok [⟨.root, ["ws", "a", "x"]⟩, ⟨.root, ["ws", "b", "x"]⟩] ∧
      [(⟨.root, ["ws", "b", "x"]⟩ : Path)].Sublist
        [⟨.root, ["ws", "a", "x"]⟩, ⟨.root, ["ws", "b", "x"]⟩] := by
  obtain ⟨hnested, hflat⟩ := glob_composed
  have hlink : composed.isLink composedWorkspace.top = false := by decide
  obtain ⟨found, root, -, -, -, hall⟩ := glob_nested_sublist
    (fun h => by rw [hlink] at h; cases h) hnested
  exact ⟨hlink, hnested, hflat, (hall _ hflat).1⟩

/-- A directory with a file and a link to an ignore file that hides it. -/
def linked : FileTree where
  entries := [(["rules"], .file [97, 10] 1), (["ws"], .directory),
    (["ws", ".gitignore"], .link "/rules"), (["ws", "a"], .file [] 2)]
  here := []

theorem looked_linked :
    (linked.readText ⟨.root, ["ws", ".gitignore"]⟩ = .ok ['a', '\n'] ∧
        (composedWorkspace.nesting true).ignoreFiles linked = .ok [] ∧
        (composedWorkspace.nesting false).ignoreFiles linked =
          .ok [⟨.root, ["ws", ".gitignore"]⟩]) ∧
      Glob.find linked ⟨.root, ["ws"]⟩ "a" = .ok [⟨.root, ["ws", "a"]⟩] ∧
        composedWorkspace.question? linked ⟨.root, ["ws", "a"]⟩ = .ok (some ⟨.here, ["a"]⟩) := by
  have hfound : Glob.find linked ⟨.root, ["ws"]⟩ ("**/" ++ ignoreName) =
      .ok [⟨.root, ["ws", ".gitignore"]⟩] := by
    decide +kernel
  exact ⟨⟨by decide +kernel, ignoreFiles_of_pairwise hfound (by decide +kernel) .nil,
    by decide +kernel⟩, by decide +kernel⟩

theorem glob_linked :
    (composedWorkspace.nesting true).glob linked "a" = .ok [⟨.root, ["ws", "a"]⟩] ∧
      (composedWorkspace.nesting false).glob linked "a" = .ok [] := by
  obtain ⟨⟨htext, hnested, hflat⟩, hfound, hasked⟩ := looked_linked
  have hrules : Ignore.rulesOf ['a', '\n'] = .ok [ruleOf 'a'] ∧
      Ignore.hides [ruleOf 'a'] "a".toList = .ok true := by
    constructor <;> cbv
  have hread : Ignore.Matcher.ofFile linked ⟨.root, ["ws", ".gitignore"]⟩ =
      .ok ⟨⟨.root, ["ws"]⟩, [ruleOf 'a']⟩ := by
    rw [Ignore.Matcher.ofFile, htext]
    simp only [bind, Except.bind, hrules.1]
    rfl
  have hhides : Ignore.Matcher.hides linked ⟨⟨.root, ["ws"]⟩, [ruleOf 'a']⟩ ⟨.root, ["ws", "a"]⟩ =
      .ok true := hrules.2
  have hmatchers : (composedWorkspace.nesting true).matchers linked = .ok [] ∧
      (composedWorkspace.nesting false).matchers linked =
        .ok [⟨⟨.root, ["ws"]⟩, [ruleOf 'a']⟩] := by
    rw [matchers, matchers, hnested, hflat]
    simp [bind, Except.bind, pure, Except.pure, hread]
  rw [glob_eq_sorted hmatchers.1 hfound, glob_eq_sorted hmatchers.2 hfound]
  refine ⟨sorted_of_pairwise ?_ (List.pairwise_singleton _ _), sorted_of_pairwise ?_ .nil⟩
  · rw [List.filterM, List.filterAuxM, admits_eq, question?_nesting, hasked]
    rfl
  · rw [List.filterM, List.filterAuxM, admits_eq, question?_nesting, hasked, isIgnored_root, hhides]
    rfl

theorem glob_around :
    (composedWorkspace.nesting true).glob composed "../other/b/x" =
        .ok [⟨.root, ["ws", "..", "other", "b", "x"]⟩] ∧
      (composedWorkspace.nesting false).glob composed "../other/b/x" =
        .error (.outsideDirectory "/other/b/x" "/ws") := by
  obtain ⟨hnested, hflat⟩ := matchers_composed
  obtain ⟨-, -, hfound, hasked⟩ := looked_composed
  have htop : topMatcher.hides composed ⟨.root, ["ws", "..", "other", "b", "x"]⟩ =
      .error (.outsideDirectory "/other/b/x" "/ws") := rfl
  have hinner : innerMatcher.hides composed ⟨.root, ["ws", "..", "other", "b", "x"]⟩ =
      .error (.outsideDirectory "/other/b/x" "/ws/a") := rfl
  rw [glob_eq_sorted hnested hfound, glob_eq_sorted hflat hfound]
  constructor
  · refine sorted_of_pairwise ?_ (List.pairwise_singleton _ _)
    rw [List.filterM, List.filterAuxM, admits_eq, question?_nesting, hasked]
    simp only [isIgnored, htop, hinner]
    rfl
  · rw [sorted, List.filterM, List.filterAuxM, admits_eq, question?_nesting, hasked, isIgnored_root,
      htop]
    rfl

/-- A search that counts all ignore files finds more in three cases: with a link at the place of
the root's ignore file, with a limit that leaves out a file, and with a path about which this file
has no answer. -/
theorem nested_finds_more :
    ((composedWorkspace.nesting true).findFiles linked "a" 10 = .ok ["file:///ws/a"] ∧
        (composedWorkspace.nesting false).findFiles linked "a" 10 = .ok []) ∧
      ((composedWorkspace.nesting true).findFiles composed "**/x" 1 = .ok ["file:///ws/b/x"] ∧
        (composedWorkspace.nesting false).findFiles composed "**/x" 1 = .ok ["file:///ws/a/x"]) ∧
      (composedWorkspace.nesting true).findFiles composed "../other/b/x" 10 =
          .ok ["file:///ws/../other/b/x"] ∧
        (composedWorkspace.nesting false).findFiles composed "../other/b/x" 10 =
          .error (.outsideDirectory "/other/b/x" "/ws") := by
  simp only [findFiles, glob_linked, glob_composed, glob_around]
  refine ⟨⟨?_, ?_⟩, ⟨?_, ?_⟩, ?_, ?_⟩ <;> decide

end Workspace

end LozengeNav
