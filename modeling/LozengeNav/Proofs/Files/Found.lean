import LozengeNav.Proofs.Files.Asked
import LozengeNav.Proofs.Files.Distinct
import LozengeNav.Proofs.Files.RealPath
import LozengeNav.Proofs.Files.Sources

/-! # Found files

A search keeps those of its candidates that are files and no links, really lie below the
root and are hidden by nothing, in the order of their paths below the root. It does not
matter in which order the candidates come up.
-/

namespace LozengeNav

/-! ## Questions about paths -/

namespace FileTree

variable {t : FileTree} {p : Path}

/-- A file tree that has each entry once, under a name, and real paths where its links lead. -/
structure Sound (t : FileTree) : Prop extends Resolvable t where
  named : t.Named
  distinct : t.Distinct

theorem exists_of_isFile (h : t.isFile p = .ok true) :
    ∃ goal content modified, t.locate true p = .ok (goal, .file content modified) := by
  rw [isFile, test] at h
  split at h
  · next goal entry hlocate =>
      cases entry with
      | file content modified => exact ⟨goal, content, modified, hlocate⟩
      | directory => cases h
      | link target => cases h
  · cases h
  · cases h

theorem isFile_ne_of_isDirectory (h : t.isDirectory p = .ok true) : t.isFile p ≠ .ok true := by
  intro hfile
  obtain ⟨goal, content, modified, hlocate⟩ := exists_of_isFile hfile
  rw [isDirectory, test, hlocate] at h
  cases h

theorem eq_of_isFile_fault {fault : Fault} (h : t.isFile p = .error fault) :
    fault = .pathTooLong := by
  rw [isFile, test] at h
  split at h <;> cases h
  rfl

end FileTree

theorem Glob.ne_root_of_mem_find {t : FileTree} {root : Path} {pattern : String}
    {found : List Path} (h : Glob.find t root pattern = .ok found) {p : Path} (hp : p ∈ found)
    (hfile : t.isFile p = .ok true) : p ≠ root := by
  rintro rfl
  obtain ⟨read, -, h⟩ := Fault.ok_of_bind_eq_ok h
  obtain ⟨isDirectory, hdirectory, h⟩ := Fault.ok_of_bind_eq_ok h
  cases isDirectory with
  | true => exact FileTree.isFile_ne_of_isDirectory hdirectory hfile
  | false =>
      cases h
      cases hp

/-! ## Keys -/

namespace Path

theorem partsOf_toString_here {names : List String} (h : ∀ name ∈ names, IsName name) :
    partsOf (toString ⟨.here, names⟩).toList = names := by
  cases names with
  | nil => rfl
  | cons first rest =>
      have hwritten : toString ⟨.here, first :: rest⟩ = "/".intercalate (first :: rest) := by
        simp [toString, slashes]
      rw [hwritten, partsOf_intercalate h]

theorem wellFormed_below {p : Path} (h : p.WellFormed) {names : List String}
    (hnames : ∀ name ∈ names, IsName name) : (p.below names).WellFormed := by
  intro part hpart
  rcases List.mem_append.1 hpart with hpart | hpart
  · exact h part hpart
  · exact ⟨(hnames part hpart).1, (hnames part hpart).2.1⟩

theorem exists_toUri_of_share {first second : String} {rest : List String} :
    ∃ uri, toUri ⟨.share, first :: second :: rest⟩ = .ok uri := by
  have hwritten : (toString ⟨.share, first :: second :: rest⟩).toList =
      '/' :: '/' :: ("/".intercalate (first :: second :: rest)).toList := by
    simp [toString, slashes]
  have hslash : ("/".intercalate (first :: second :: rest)).toList.contains '/' = true := by
    rw [String.intercalate_cons_cons]
    simp
  rw [toUri, hwritten, Uri.ofPath, Uri.splitShare?, if_pos hslash]
  exact ⟨_, rfl⟩

end Path

namespace Workspace

open Fault (yes)

variable {w : Workspace} {t : FileTree} {matchers : List Ignore.Matcher} {ignored : String → Bool}

def Candidate (w : Workspace) (p : Path) : Prop :=
  ∃ names, p = w.root.below names ∧ ∀ name ∈ names, Path.IsName name

theorem relative?_below (w : Workspace) (names : List String) :
    w.relative? (w.root.below names) = some ⟨.here, names⟩ := by
  simp [relative?, Path.relativeTo?]

theorem key_below (w : Workspace) (names : List String) :
    w.key (w.root.below names) = Path.toString ⟨.here, names⟩ := by
  rw [key, relative?_below]
  rfl

/-- Different candidates have different keys. -/
theorem key_injective {p q : Path} (hp : w.Candidate p) (hq : w.Candidate q)
    (h : w.key p = w.key q) : p = q := by
  obtain ⟨names, rfl, hnames⟩ := hp
  obtain ⟨others, rfl, hothers⟩ := hq
  rw [key_below, key_below] at h
  rw [← Path.partsOf_toString_here hnames, h, Path.partsOf_toString_here hothers]

/-! ## Candidates that are kept -/

/-- A path that really lies below the root. -/
def Inside (w : Workspace) (t : FileTree) (p : Path) : Prop :=
  ∃ top real, t.realPath w.root = .ok top ∧ t.realPath p = .ok real ∧ top.parts <+: real.parts

/-- A path that a search shows. -/
structure Shown (w : Workspace) (t : FileTree) (ignored : String → Bool) (p : Path) : Prop where
  file : t.isFile p = .ok true
  noLink : t.isLink p = false
  inside : w.Inside t p
  kept : ignored p.toString = false
  included : ∀ pattern ∈ w.exclude, Wildcard.fits pattern (w.key p) = false

theorem exists_holds_of_isFile (ht : t.Resolvable) {p : Path} (hp : w.Candidate p)
    (hfile : t.isFile p = .ok true) :
    ∃ answer, w.holds t p = .ok answer ∧ (answer = true ↔ w.Inside t p) := by
  obtain ⟨names, rfl, -⟩ := hp
  obtain ⟨goal, content, modified, hlocate⟩ := FileTree.exists_of_isFile hfile
  obtain ⟨top, htop⟩ := FileTree.exists_realPath_of_below ht hlocate
  have hreal := FileTree.realPath_of_locate ht hlocate
  refine ⟨top.isPrefixOf goal, ?_, ?_⟩
  · rw [holds, htop, hreal]
    simp only [bind, Except.bind, pure, Except.pure, Path.relativeTo?, decide_true, Bool.true_and]
    cases top.isPrefixOf goal <;> rfl
  · rw [List.isPrefixOf_iff_prefix]
    constructor
    · intro hprefix
      exact ⟨_, _, htop, hreal, hprefix⟩
    · rintro ⟨top', real, htop', hreal', hprefix⟩
      rw [htop] at htop'
      rw [hreal] at hreal'
      cases htop'
      cases hreal'
      exact hprefix

theorem inside_of_admits {p : Path} (h : w.admits t matchers p = .ok true) : w.Inside t p := by
  obtain ⟨isFile, -, h⟩ := Fault.ok_of_bind_eq_ok h
  split at h
  · cases h
  · obtain ⟨holds, hholds, h⟩ := Fault.ok_of_bind_eq_ok h
    obtain ⟨top, htop, hholds⟩ := Fault.ok_of_bind_eq_ok hholds
    obtain ⟨real, hreal, hholds⟩ := Fault.ok_of_bind_eq_ok hholds
    cases hrelative : real.relativeTo? top with
    | none =>
        rw [hrelative] at hholds
        cases hholds
        cases h
    | some relative =>
        refine ⟨top, real, htop, hreal, ?_⟩
        rw [Path.relativeTo?] at hrelative
        split at hrelative
        · next hprefix =>
            rw [Bool.and_eq_true] at hprefix
            exact List.isPrefixOf_iff_prefix.1 hprefix.2
        · cases hrelative

/-- A candidate is asked about in vain only if it is too long for the file system. -/
theorem admits_of_fault {p : Path} {fault : Fault} (h : t.isFile p = .error fault) :
    w.admits t matchers p = .error .pathTooLong := by
  rw [admits, h, FileTree.eq_of_isFile_fault h]
  rfl

theorem admits_of_holds {names : List String} {hidden : Bool}
    (hfile : t.isFile (w.root.below names) = .ok true)
    (hlink : t.isLink (w.root.below names) = false)
    (hholds : w.holds t (w.root.below names) = .ok true)
    (hignored : w.isIgnored t (w.root.below names) matchers = .ok hidden) :
    w.admits t matchers (w.root.below names) = .ok (!hidden &&
      !w.exclude.any fun pattern => Wildcard.fits pattern (w.key (w.root.below names))) := by
  rw [admits, hfile, hlink, hholds, relative?_below, hignored, key_below]
  cases hidden <;> rfl

theorem exists_admits (ht : t.Resolvable) {p : Path} (hp : w.Candidate p)
    (hignored : w.isIgnored t p matchers = .ok (ignored p.toString)) {isFile : Bool}
    (hfile : t.isFile p = .ok isFile) :
    ∃ answer, w.admits t matchers p = .ok answer ∧ (answer = true ↔ w.Shown t ignored p) := by
  cases isFile with
  | false =>
      refine ⟨false, by rw [admits, hfile]; rfl, iff_of_false nofun fun h => ?_⟩
      cases hfile.symm.trans h.file
  | true =>
  cases hlink : t.isLink p with
  | true =>
      refine ⟨false, by rw [admits, hfile, hlink]; rfl, iff_of_false nofun fun h => ?_⟩
      cases hlink.symm.trans h.noLink
  | false =>
  obtain ⟨inside, hholds, hinside⟩ := exists_holds_of_isFile ht hp hfile
  cases inside with
  | false =>
      refine ⟨false, by rw [admits, hfile, hlink, hholds]; rfl, iff_of_false nofun fun h => ?_⟩
      cases hinside.2 h.inside
  | true =>
      obtain ⟨names, rfl, hnames⟩ := hp
      refine ⟨_, admits_of_holds hfile hlink hholds hignored, ?_⟩
      rw [Bool.and_eq_true, Bool.not_eq_true', Bool.not_eq_true', List.any_eq_false]
      constructor
      · rintro ⟨hkept, hexclude⟩
        exact ⟨hfile, hlink, hinside.1 rfl, hkept, fun pattern hpattern => by
          simpa using hexclude pattern hpattern⟩
      · intro h
        exact ⟨h.kept, fun pattern hpattern => by simp [h.included pattern hpattern]⟩

/-! ## Searches in any order -/

/-- Those of some candidates that are looked at, in the order of their keys. -/
def sorted (w : Workspace) (t : FileTree) (matchers : List Ignore.Matcher)
    (candidates : List Path) : Except Fault (List Path) := do
  let found ← candidates.filterM (w.admits t matchers)
  return found.mergeSort fun a b => w.key a ≤ w.key b

theorem sorted_of_pairwise {found kept : List Path}
    (hkept : found.filterM (w.admits t matchers) = .ok kept)
    (hordered : kept.Pairwise fun a b => w.key a ≤ w.key b) :
    w.sorted t matchers found = .ok kept := by
  rw [sorted, hkept]
  exact congrArg Except.ok (List.mergeSort_of_pairwise (by simpa using hordered))

theorem glob_eq_sorted {pattern : String} {found : List Path}
    (hmatchers : w.matchers t = .ok matchers)
    (hfound : Glob.find t w.root pattern = .ok found) :
    w.glob t pattern = w.sorted t matchers found := by
  rw [glob, hmatchers, hfound]
  rfl

/-- Some candidates, which the matchers of ignore files have an answer for. -/
structure Answered (w : Workspace) (t : FileTree) (matchers : List Ignore.Matcher)
    (ignored : String → Bool) (found : List Path) : Prop where
  candidate : ∀ p ∈ found, w.Candidate p
  answer : ∀ p ∈ found, w.isIgnored t p matchers = .ok (ignored p.toString)

theorem Answered.perm {found candidates : List Path} (h : w.Answered t matchers ignored found)
    (hperm : candidates.Perm found) : w.Answered t matchers ignored candidates where
  candidate p hp := h.candidate p (hperm.subset hp)
  answer p hp := h.answer p (hperm.subset hp)

section Sorted

variable {found candidates : List Path}

theorem Answered.admits_fault_iff (h : w.Answered t matchers ignored found)
    (ht : t.Resolvable) {p : Path} (hp : p ∈ found) {fault : Fault} :
    w.admits t matchers p = .error fault ↔ fault = .pathTooLong ∧ t.isFile p = .error fault := by
  constructor
  · intro hadmits
    cases hfile : t.isFile p with
    | error other =>
        rw [admits_of_fault hfile] at hadmits
        cases hadmits
        exact ⟨rfl, congrArg _ (FileTree.eq_of_isFile_fault hfile)⟩
    | ok isFile =>
        obtain ⟨answer, hanswer, -⟩ :=
          exists_admits ht (h.candidate p hp) (h.answer p hp) hfile
        cases hanswer.symm.trans hadmits
  · rintro ⟨rfl, hfile⟩
    exact admits_of_fault hfile

theorem Answered.admits_true_iff (h : w.Answered t matchers ignored found)
    (ht : t.Resolvable) {p : Path} (hp : p ∈ found) :
    yes (w.admits t matchers p) = true ↔ w.Shown t ignored p := by
  cases hfile : t.isFile p with
  | error fault =>
      rw [admits_of_fault hfile]
      exact iff_of_false nofun fun hshown => by cases hfile.symm.trans hshown.file
  | ok isFile =>
      obtain ⟨answer, hanswer, hshown⟩ :=
        exists_admits ht (h.candidate p hp) (h.answer p hp) hfile
      rw [hanswer, ← hshown]
      cases answer <;> rfl

theorem Answered.sorted_of_exists (h : w.Answered t matchers ignored found)
    (ht : t.Resolvable) (hlong : ∃ p ∈ found, t.isFile p = .error .pathTooLong) :
    w.sorted t matchers found = .error .pathTooLong := by
  obtain ⟨p, hp, hfile⟩ := hlong
  rw [sorted, Fault.filterM_of_exists
    (fun q hq fault hfault => ((h.admits_fault_iff ht hq).1 hfault).1)
    ⟨p, hp, (h.admits_fault_iff ht hp).2 ⟨rfl, hfile⟩⟩]
  rfl

theorem Answered.sorted_of_forall (h : w.Answered t matchers ignored found)
    (ht : t.Resolvable) (hshort : ∀ p ∈ found, t.isFile p ≠ .error .pathTooLong) :
    w.sorted t matchers found =
      .ok ((found.filter fun p => yes (w.admits t matchers p)).mergeSort
        fun a b => w.key a ≤ w.key b) := by
  have hall : ∀ p ∈ found, ∃ answer, w.admits t matchers p = .ok answer := by
    intro p hp
    cases hadmits : w.admits t matchers p with
    | ok answer => exact ⟨answer, rfl⟩
    | error fault =>
        obtain ⟨rfl, hfile⟩ := (h.admits_fault_iff ht hp).1 hadmits
        exact (hshort p hp hfile).elim
  rw [sorted, Fault.filterM_of_forall hall]
  rfl

theorem Answered.exists_fault_iff (h : w.Answered t matchers ignored found)
    (ht : t.Resolvable) : (∃ fault, w.sorted t matchers found = .error fault) ↔
      ∃ p ∈ found, t.isFile p = .error .pathTooLong := by
  constructor
  · rintro ⟨fault, hsorted⟩
    by_contra hshort
    rw [h.sorted_of_forall ht (by simpa using hshort)] at hsorted
    cases hsorted
  · intro hlong
    exact ⟨_, h.sorted_of_exists ht hlong⟩

theorem pairwise_mergeSort_key (paths : List Path) :
    (paths.mergeSort fun a b => w.key a ≤ w.key b).Pairwise fun a b => w.key a ≤ w.key b := by
  have hsorted : (paths.mergeSort fun a b => w.key a ≤ w.key b).Pairwise
      fun a b => decide (w.key a ≤ w.key b) = true := by
    refine List.pairwise_mergeSort (fun a b c hab hbc => ?_) (fun a b => ?_) paths
    · rw [decide_eq_true_eq] at hab hbc ⊢
      exact String.le_trans hab hbc
    · simpa using String.le_total (w.key a) (w.key b)
  exact hsorted.imp fun h => of_decide_eq_true h

/-- The order in which candidates come up does not matter: different candidates have
different keys. -/
theorem Answered.sorted_perm (h : w.Answered t matchers ignored found) (ht : t.Resolvable)
    (hperm : candidates.Perm found) :
    w.sorted t matchers candidates = w.sorted t matchers found := by
  by_cases hlong : ∃ p ∈ found, t.isFile p = .error .pathTooLong
  · have hlong' : ∃ p ∈ candidates, t.isFile p = .error .pathTooLong := by
      simpa [hperm.mem_iff] using hlong
    rw [h.sorted_of_exists ht hlong, (h.perm hperm).sorted_of_exists ht hlong']
  · have hshort : ∀ p ∈ found, t.isFile p ≠ .error .pathTooLong := by simpa using hlong
    have hshort' : ∀ p ∈ candidates, t.isFile p ≠ .error .pathTooLong := by
      simpa [hperm.mem_iff] using hshort
    rw [h.sorted_of_forall ht hshort, (h.perm hperm).sorted_of_forall ht hshort']
    refine congrArg Except.ok (List.Perm.eq_of_pairwise (fun a b ha hb hab hba => ?_)
      (pairwise_mergeSort_key _) (pairwise_mergeSort_key _) ?_)
    · rw [List.mem_mergeSort, List.mem_filter] at ha hb
      exact key_injective (h.candidate a (hperm.subset ha.1)) (h.candidate b hb.1)
        (String.le_antisymm hab hba)
    · exact (List.mergeSort_perm _ _).trans
        ((hperm.filter _).trans (List.mergeSort_perm _ _).symm)

theorem eq_of_sorted {kept : List Path} (hkept : w.sorted t matchers found = .ok kept) :
    kept = (found.filter fun p => yes (w.admits t matchers p)).mergeSort
      fun a b => w.key a ≤ w.key b := by
  obtain ⟨files, hfiles, h⟩ := Fault.ok_of_bind_eq_ok hkept
  cases h
  rw [Fault.filterM_eq_ok hfiles]

theorem Answered.mem_sorted_iff (h : w.Answered t matchers ignored found)
    (ht : t.Resolvable) {kept : List Path} (hkept : w.sorted t matchers found = .ok kept)
    {p : Path} : p ∈ kept ↔ p ∈ found ∧ w.Shown t ignored p := by
  rw [eq_of_sorted hkept, List.mem_mergeSort, List.mem_filter]
  exact and_congr_right fun hp => h.admits_true_iff ht hp

theorem Answered.pairwise_of_sorted (h : w.Answered t matchers ignored found)
    (ht : t.Resolvable) (hnodup : found.Nodup) {kept : List Path}
    (hkept : w.sorted t matchers found = .ok kept) :
    kept.Pairwise fun a b => w.key a < w.key b := by
  have hcandidate : ∀ p ∈ kept, w.Candidate p := fun p hp =>
    h.candidate p ((h.mem_sorted_iff ht hkept).1 hp).1
  have hordered : kept.Pairwise fun a b => w.key a ≤ w.key b := by
    rw [eq_of_sorted hkept]
    exact pairwise_mergeSort_key _
  have hdistinct : kept.Nodup := by
    rw [eq_of_sorted hkept, (List.mergeSort_perm _ _).nodup_iff]
    exact hnodup.filter _
  refine (hordered.and hdistinct).imp_of_mem fun ha hb hab => ?_
  obtain ⟨hle, hne⟩ := hab
  refine String.not_le.1 fun hge => hne ?_
  exact key_injective (hcandidate _ ha) (hcandidate _ hb) (String.le_antisymm hle hge)

end Sorted

/-! ## Searches without an answer -/

theorem exists_fault_glob_iff {pattern : String} (hmatchers : w.matchers t = .ok matchers)
    (hsorted : ∀ found, Glob.find t w.root pattern = .ok found →
      ((∃ fault, w.sorted t matchers found = .error fault) ↔
        ∃ p ∈ found, t.isFile p = .error .pathTooLong)) :
    (∃ fault, w.glob t pattern = .error fault) ↔
      (∃ fault, Glob.Pattern.ofString pattern = .error fault) ∨
        ∃ p, Glob.Looks t w.root pattern p ∧ t.isFile p = .error .pathTooLong := by
  cases hfound : Glob.find t w.root pattern with
  | ok found =>
      rw [glob_eq_sorted hmatchers hfound, hsorted found hfound]
      constructor
      · rintro ⟨p, hp, hlong⟩
        exact .inr ⟨p, Glob.looks_of_mem_find hfound hp, hlong⟩
      · rintro (⟨fault, hrefused⟩ | ⟨p, hlooks, hlong⟩)
        · obtain ⟨read, hread, -⟩ := Fault.ok_of_bind_eq_ok hfound
          cases hrefused.symm.trans hread
        · exact ⟨p, hlooks.mem (FileTree.isFile_fault_iff.1 hlong) hfound, hlong⟩
  | error fault =>
      refine iff_of_true ⟨fault, ?_⟩ ?_
      · rw [glob, hmatchers, hfound]
        rfl
      · rcases Glob.exists_looks_of_find_eq_error hfound with hrefused | ⟨p, hlooks, hlong⟩
        · exact .inl ⟨fault, hrefused⟩
        · exact .inr ⟨p, hlooks, FileTree.isFile_fault_iff.2 hlong⟩

/-! ## Limits -/

theorem limited_natCast {α : Type} (n : Nat) (items : List α) : limited n items = items.take n := by
  rw [limited, if_pos (Int.natCast_nonneg n), Int.toNat_natCast]

theorem findFiles_of_glob {pattern : String} {kept : List Path} (h : w.glob t pattern = .ok kept)
    (n : Nat) : w.findFiles t pattern n = (kept.take n).mapM Path.toUri := by
  rw [findFiles, h, ← limited_natCast]
  rfl

theorem exists_toUri (hroot : w.root.WellFormed) (hslashes : w.root ≠ ⟨.share, []⟩) {p : Path}
    (hp : w.Candidate p) (hne : p ≠ w.root) : ∃ uri, p.toUri = .ok uri := by
  obtain ⟨names, rfl, hnames⟩ := hp
  by_cases hshare : w.root.anchor = .share
  · obtain ⟨⟨anchor, parts⟩, exclude, nested⟩ := w
    dsimp only at hshare hslashes hne ⊢
    subst hshare
    match parts, names with
    | [], _ => exact (hslashes rfl).elim
    | first :: rest, [] => exact (hne (Path.below_nil _)).elim
    | [first], name :: more => exact Path.exists_toUri_of_share
    | first :: second :: rest, name :: more => exact Path.exists_toUri_of_share
  · exact ⟨_, Path.toUri_of_wellFormed (Path.wellFormed_below hroot hnames) hshare⟩

/-- A search of the workspace has no answer if and only if its pattern cannot be read or it asks
about a path that is too long for the file system. It shows, whatever the order in which the
candidates come up, those of them that are files and no links, really lie below the root and are
hidden by nothing, in strictly increasing order of their paths below the root, up to the limit. -/
theorem findFiles_ordered (ht : t.Sound) (hroot : w.root.WellFormed) {pattern : String}
    (hmatchers : w.matchers t = .ok matchers)
    (hignored : ∀ found, Glob.find t w.root pattern = .ok found →
      ∀ p ∈ found, w.isIgnored t p matchers = .ok (ignored p.toString)) :
    ((∃ fault, w.glob t pattern = .error fault) ↔
      (∃ fault, Glob.Pattern.ofString pattern = .error fault) ∨
        ∃ p, Glob.Looks t w.root pattern p ∧ t.isFile p = .error .pathTooLong) ∧
    ∀ found, Glob.find t w.root pattern = .ok found →
      (∀ candidates, candidates.Perm found →
        w.sorted t matchers candidates = w.glob t pattern) ∧
      ((∃ fault, w.glob t pattern = .error fault) ↔
        ∃ p ∈ found, t.isFile p = .error .pathTooLong) ∧
      ∀ kept, w.glob t pattern = .ok kept →
        kept.Pairwise (fun a b => w.key a < w.key b) ∧
        (∀ p, p ∈ kept ↔ p ∈ found ∧ w.Shown t ignored p) ∧
        (∀ n : Nat, w.findFiles t pattern n = (kept.take n).mapM Path.toUri) ∧
        (w.root ≠ ⟨.share, []⟩ → ∃ uris : List String,
          ∀ n : Nat, w.findFiles t pattern n = .ok (uris.take n)) ∧
        ∀ m n : Nat, m ≤ n → ∀ short long, w.findFiles t pattern m = .ok short →
          w.findFiles t pattern n = .ok long → short <+: long := by
  have hanswered : ∀ found, Glob.find t w.root pattern = .ok found →
      w.Answered t matchers ignored found := fun found hfound =>
    ⟨fun p hp => Glob.exists_names_of_mem_find ht.named hfound hp, hignored found hfound⟩
  have hfault := fun found hfound => (hanswered found hfound).exists_fault_iff ht.toResolvable
  refine ⟨exists_fault_glob_iff hmatchers hfault, fun found hfound => ?_⟩
  have hfaults := hfault found hfound
  have hanswered := hanswered found hfound
  have hnodup := Glob.nodup_find ht.named ht.distinct hfound
  rw [glob_eq_sorted hmatchers hfound]
  refine ⟨fun candidates hperm => hanswered.sorted_perm ht.toResolvable hperm,
    hfaults, fun kept hkept => ?_⟩
  have hmem := fun p => hanswered.mem_sorted_iff ht.toResolvable hkept (p := p)
  have hfind := fun n => findFiles_of_glob ((glob_eq_sorted hmatchers hfound).trans hkept) n
  refine ⟨hanswered.pairwise_of_sorted ht.toResolvable hnodup hkept, hmem, hfind, ?_, ?_⟩
  · intro hslashes
    have hall : ∀ p ∈ kept, ∃ uri, p.toUri = .ok uri := by
      intro p hp
      obtain ⟨hp, hshown⟩ := (hmem p).1 hp
      exact exists_toUri hroot hslashes (hanswered.candidate p hp)
        (Glob.ne_root_of_mem_find hfound hp hshown.file)
    obtain ⟨uris, huris⟩ := (Fault.mapM_ok_iff kept).2 hall
    exact ⟨uris, fun n => (hfind n).trans (Fault.mapM_take huris n)⟩
  · intro m n hmn short long hshort hlong
    rw [hfind] at hshort hlong
    have hcut := Fault.mapM_take hlong m
    rw [List.take_take, Nat.min_eq_left hmn] at hcut
    cases hshort.symm.trans hcut
    exact List.take_prefix m long

/-- A directory with two files and a link to one of them. -/
def shelf : FileTree where
  entries := [(["ws"], .directory), (["ws", "a.py"], .file [] 1), (["ws", "b.py"], .file [] 2),
    (["ws", "c.py"], .link "b.py")]
  here := []

def shelfWorkspace : Workspace :=
  ⟨⟨.root, ["ws"]⟩, [], false⟩

/-- A directory with a file and a link. -/
def linkShelf (target : String) : FileTree where
  entries := [(["ws"], .directory), (["ws", "a.py"], .file [] 1), (["ws", "b.py"], .link target)]
  here := []

def longTarget : String :=
  String.ofList (List.replicate 300 'x')

theorem nameLimit_lt_longTarget : FileTree.nameLimit < longTarget.utf8ByteSize := by
  decide +kernel

theorem ofString_longTarget : Path.ofString longTarget = ⟨.here, [longTarget]⟩ := by
  have hslash : ∀ n, '/' ∉ (String.ofList (List.replicate n 'x')).toList := by
    intro n h
    rw [String.toList_ofList] at h
    exact absurd (List.eq_of_mem_replicate h) (by decide)
  have hne : ∀ s : String, s.utf8ByteSize ≤ FileTree.nameLimit → longTarget ≠ s := by
    rintro _ hshort rfl
    exact absurd nameLimit_lt_longTarget (Nat.not_lt.2 hshort)
  exact Path.ofString_of_name (hslash 300) (hne "" (by decide)) (hne "." (by decide))

theorem sound_linkShelf (target : String) : (linkShelf target).Sound where
  named := by
    have hnames : ∀ trail ∈ [["ws"], ["ws", "a.py"], ["ws", "b.py"]], ∀ name ∈ trail,
        Path.IsName name := by decide
    intro e he
    exact hnames e.1 (List.mem_map_of_mem he)
  distinct := by
    have hdistinct : [["ws"], ["ws", "a.py"], ["ws", "b.py"]].Nodup := by decide
    exact hdistinct
  links := by
    have hfit : ∀ trail ∈ [["ws"], ["ws", "a.py"], ["ws", "b.py"]],
        (Path.toString ⟨.root, trail⟩).utf8ByteSize ≤ FileTree.pathLimit := by decide
    exact .of_forall fun e he => hfit e.1 (List.mem_map_of_mem he)
  here := FileTree.clear_nil _

theorem entriesIn_linkShelf (target : String) :
    Glob.entriesIn (linkShelf target) ⟨.root, ["ws"]⟩ =
      .ok [("a.py", .file [] 1), ("b.py", .link target)] :=
  rfl

theorem tooLong_linkShelf {target : String} (hparts : Path.ofString target = ⟨.here, [target]⟩)
    (hlong : FileTree.nameLimit < target.utf8ByteSize) :
    (linkShelf target).TooLong ⟨.root, ["ws", "b.py"]⟩ := by
  have hlocate : (linkShelf target).locate true ⟨.root, ["ws", "b.py"]⟩ =
      FileTree.requiring (FileTree.namesDirectory target)
        ((linkShelf target).follow true 39 (FileTree.startOf ["ws"] (Path.ofString target))
          ((Path.ofString target).parts ++ [])) := rfl
  rw [hparts, List.append_nil, FileTree.follow_of_long _ _ _ _ _ hlong] at hlocate
  exact hlocate

/-- Both files of the one directory are shown in order, and the link is not. In the other directory
the link is asked about although its name does not fit. -/
theorem findFiles_ordered_shelf :
    shelf.Sound ∧
      Glob.find shelf ⟨.root, ["ws"]⟩ "*.py" =
        .ok [⟨.root, ["ws", "a.py"]⟩, ⟨.root, ["ws", "b.py"]⟩, ⟨.root, ["ws", "c.py"]⟩] ∧
      shelfWorkspace.sorted shelf []
          [⟨.root, ["ws", "c.py"]⟩, ⟨.root, ["ws", "b.py"]⟩, ⟨.root, ["ws", "a.py"]⟩] =
        .ok [⟨.root, ["ws", "a.py"]⟩, ⟨.root, ["ws", "b.py"]⟩] ∧
      ∃ fault, shelfWorkspace.glob (linkShelf longTarget) "a*/x.py" = .error fault := by
  have hsound : shelf.Sound :=
    ⟨⟨FileTree.LinksFit.of_forall (by decide), FileTree.clear_nil _⟩, by decide, by decide⟩
  have hroot : shelfWorkspace.root.WellFormed := Path.wellFormed_ofString "/ws"
  have hignored : ∀ (t : FileTree) p,
      shelfWorkspace.isIgnored t p [] = .ok (Function.const String false p.toString) :=
    fun _ _ => rfl
  have hfound : Glob.find shelf shelfWorkspace.root "*.py" =
      .ok [⟨.root, ["ws", "a.py"]⟩, ⟨.root, ["ws", "b.py"]⟩, ⟨.root, ["ws", "c.py"]⟩] := by
    rw [Glob.find_flat_python]
    decide +kernel
  have hglob : shelfWorkspace.glob shelf "*.py" =
      .ok [⟨.root, ["ws", "a.py"]⟩, ⟨.root, ["ws", "b.py"]⟩] := by
    rw [glob_eq_sorted rfl hfound]
    exact sorted_of_pairwise (by decide +kernel) (by decide +kernel)
  refine ⟨hsound, hfound, ?_, ?_⟩
  · rw [← hglob]
    obtain ⟨-, hall⟩ := findFiles_ordered hsound hroot rfl fun _ _ p _ => hignored shelf p
    exact (hall _ hfound).1 _ (by decide)
  · have hread : Glob.Pattern.ofString "a*/x.py" = .ok ⟨[.wildcard "a*", .name "x.py"], false⟩ := by
      decide
    have hlooks : Glob.Looks (linkShelf longTarget) shelfWorkspace.root "a*/x.py"
        ⟨.root, ["ws", "b.py"]⟩ :=
      ⟨_, hread, .inr ⟨rfl, .link rfl (entriesIn_linkShelf longTarget)
        (List.mem_cons_of_mem _ List.mem_cons_self)⟩⟩
    have hlong := tooLong_linkShelf ofString_longTarget nameLimit_lt_longTarget
    exact (findFiles_ordered (sound_linkShelf longTarget) hroot rfl
      fun _ _ p _ => hignored _ p).1.2 (.inr ⟨_, hlooks, FileTree.isFile_fault_iff.2 hlong⟩)

theorem find_linkShelf (target : String) : Glob.find (linkShelf target) ⟨.root, ["ws"]⟩ "*.py" =
    .ok [⟨.root, ["ws", "a.py"]⟩, ⟨.root, ["ws", "b.py"]⟩] := by
  have hdirectory : (linkShelf target).isDirectory ⟨.root, ["ws"]⟩ = .ok true := rfl
  have hnames : ∀ name ∈ ["a.py", "b.py"], ['.', 'p', 'y'].isSuffixOf name.toList = true := by
    decide
  have hpython : Glob.pythonIn (linkShelf target) ⟨.root, ["ws"]⟩ =
      .ok [⟨.root, ["ws", "a.py"]⟩, ⟨.root, ["ws", "b.py"]⟩] := by
    rw [Glob.pythonIn, entriesIn_linkShelf]
    dsimp only [bind, Except.bind]
    rw [List.filter_eq_self.2 fun e he => hnames e.1 (List.mem_map_of_mem he)]
    rfl
  rw [Glob.find_flat_python, hdirectory, hpython]
  rfl

theorem shown_linkShelf (target : String) :
    shelfWorkspace.Shown (linkShelf target) (fun _ => false) ⟨.root, ["ws", "a.py"]⟩ where
  file := rfl
  noLink := rfl
  inside := by
    have ht := (sound_linkShelf target).toResolvable
    have htop : (linkShelf target).locate true ⟨.root, ["ws"]⟩ = .ok (["ws"], .directory) := rfl
    have hfile : (linkShelf target).locate true ⟨.root, ["ws", "a.py"]⟩ =
        .ok (["ws", "a.py"], .file [] 1) := rfl
    exact ⟨_, _, FileTree.realPath_of_locate ht htop,
      FileTree.realPath_of_locate ht hfile, by decide⟩
  kept := rfl
  included := nofun

/-- A file that a search would show is not, because a link beside it leads to a name that is too
long. -/
theorem findFiles_fails_on_long_link :
    Glob.find (linkShelf longTarget) ⟨.root, ["ws"]⟩ "*.py" =
        .ok [⟨.root, ["ws", "a.py"]⟩, ⟨.root, ["ws", "b.py"]⟩] ∧
      shelfWorkspace.Shown (linkShelf longTarget) (fun _ => false) ⟨.root, ["ws", "a.py"]⟩ ∧
      shelfWorkspace.findFiles (linkShelf longTarget) "*.py" 10 = .error .pathTooLong := by
  refine ⟨find_linkShelf longTarget, shown_linkShelf longTarget, ?_⟩
  have hmatchers : ∀ target, shelfWorkspace.matchers (linkShelf target) = .ok [] := fun _ => rfl
  have hanswered : ∀ target, shelfWorkspace.Answered (linkShelf target) [] (fun _ => false)
      [⟨.root, ["ws", "a.py"]⟩, ⟨.root, ["ws", "b.py"]⟩] := by
    intro target
    have hnames : ∀ names ∈ [["a.py"], ["b.py"]], ∀ name ∈ names, Path.IsName name := by decide
    refine ⟨fun p hp => ?_, fun _ _ => rfl⟩
    rcases List.mem_pair.1 hp with rfl | rfl
    · exact ⟨["a.py"], rfl, hnames _ (by decide)⟩
    · exact ⟨["b.py"], rfl, hnames _ (by decide)⟩
  have ht := (sound_linkShelf longTarget).toResolvable
  have hlong := tooLong_linkShelf ofString_longTarget nameLimit_lt_longTarget
  rw [findFiles, glob_eq_sorted (hmatchers longTarget) (find_linkShelf longTarget),
    (hanswered longTarget).sorted_of_exists ht
      ⟨_, by simp, FileTree.isFile_fault_iff.2 hlong⟩]
  rfl

end Workspace

end LozengeNav
