import LozengeNav.Files.Tree

/-! # Names one by one

What the next name of a way through a file tree can come to is said once. What holds
of all ways is then shown by induction on the names, with a case for each. A way to a
real path sees the links whose paths are within the limit.
-/

namespace LozengeNav

namespace FileTree

theorem requiring_eq_ok {directory : Bool} {x : Except Absence (Trail × Entry)}
    {found : Trail × Entry} (h : requiring directory x = .ok found) : x = .ok found := by
  unfold requiring at h
  split at h
  · split at h
    · cases h
    · exact h
  · exact h

/-- A way goes on with `name` and the names in `rest`, and comes to `r`. -/
inductive Onward (t : FileTree) (last : Bool)
    (jump : Option (Trail → List String → Except Absence (Trail × Entry))) (trail : Trail)
    (name : String) (rest : List String) (r : Except Absence (Trail × Entry)) : Prop where
  | up (hup : name = "..") (hrest : t.walk last jump trail.dropLast rest = r)
  | long (hup : name ≠ "..") (hlong : nameLimit < name.utf8ByteSize) (hr : r = .error .tooLong)
  | missing (hup : name ≠ "..") (hshort : name.utf8ByteSize ≤ nameLimit)
      (hentry : t.entry? (trail ++ [name]) = none) (hr : r = .error .missing)
  | directory (hup : name ≠ "..") (hshort : name.utf8ByteSize ≤ nameLimit)
      (hentry : t.entry? (trail ++ [name]) = some .directory)
      (hrest : t.walk last jump (trail ++ [name]) rest = r)
  | file {content modified} (hup : name ≠ "..") (hshort : name.utf8ByteSize ≤ nameLimit)
      (hentry : t.entry? (trail ++ [name]) = some (.file content modified)) (hend : rest = [])
      (hr : r = .ok (trail ++ [name], .file content modified))
  | notDirectory {content modified} (hup : name ≠ "..") (hshort : name.utf8ByteSize ≤ nameLimit)
      (hentry : t.entry? (trail ++ [name]) = some (.file content modified)) (hmore : rest ≠ [])
      (hr : r = .error .notDirectory)
  | link {target} (hup : name ≠ "..") (hshort : name.utf8ByteSize ≤ nameLimit)
      (hentry : t.entry? (trail ++ [name]) = some (.link target)) (hend : rest = [])
      (hlast : last = false) (hr : r = .ok (trail ++ [name], .link target))
  | lost {target} (hup : name ≠ "..") (hshort : name.utf8ByteSize ≤ nameLimit)
      (hentry : t.entry? (trail ++ [name]) = some (.link target))
      (hfollow : rest = [] → last = true) (hjump : jump = none) (hr : r = .error .tooManyLinks)
  | jump {target go} (hup : name ≠ "..") (hshort : name.utf8ByteSize ≤ nameLimit)
      (hentry : t.entry? (trail ++ [name]) = some (.link target))
      (hfollow : rest = [] → last = true) (hjump : jump = some go)
      (hrest : requiring (rest.isEmpty && namesDirectory target)
        (go (startOf trail (.ofString target)) ((Path.ofString target).parts ++ rest)) = r)

variable {t : FileTree} {last : Bool}
  {jump : Option (Trail → List String → Except Absence (Trail × Entry))} {trail : Trail}
  {name : String} {rest : List String} {r : Except Absence (Trail × Entry)}

theorem onward_of_walk (h : t.walk last jump trail (name :: rest) = r) :
    Onward t last jump trail name rest r := by
  rw [walk] at h
  by_cases hup : name = ".."
  · rw [if_pos hup] at h
    exact .up hup h
  rw [if_neg hup] at h
  by_cases hlong : nameLimit < name.utf8ByteSize
  · rw [if_pos hlong] at h
    exact .long hup hlong h.symm
  rw [if_neg hlong] at h
  have hshort := Nat.le_of_not_lt hlong
  cases hentry : t.entry? (trail ++ [name]) with
  | none =>
      simp only [hentry] at h
      exact .missing hup hshort hentry h.symm
  | some entry =>
      cases entry with
      | directory =>
          simp only [hentry] at h
          exact .directory hup hshort hentry h
      | file content modified =>
          simp only [hentry, List.isEmpty_iff] at h
          split at h
          · next hend => exact .file hup hshort hentry hend h.symm
          · next hmore => exact .notDirectory hup hshort hentry hmore h.symm
      | link target =>
          simp only [hentry, Bool.and_eq_true, List.isEmpty_iff, Bool.not_eq_true'] at h
          split at h
          · next hend => exact .link hup hshort hentry hend.1 hend.2 h.symm
          · next hmore =>
              have hfollow : rest = [] → last = true := fun hend => by simpa [hend] using hmore
              cases jump with
              | none => exact .lost hup hshort hentry hfollow rfl h.symm
              | some go => exact .jump hup hshort hentry hfollow rfl h

/-- Every link has a path within the limit. -/
def LinksFit (t : FileTree) : Prop :=
  ∀ trail target, (trail, Entry.link target) ∈ t.entries →
    (Path.toString ⟨.root, trail⟩).utf8ByteSize ≤ pathLimit

theorem LinksFit.of_forall
    (h : ∀ e ∈ t.entries, (Path.toString ⟨.root, e.1⟩).utf8ByteSize ≤ pathLimit) : t.LinksFit :=
  fun trail target hmem => h (trail, .link target) hmem

theorem linkAt?_of_ne (h : ∀ target, t.entry? trail ≠ some (.link target)) :
    t.linkAt? trail = none := by
  unfold linkAt?
  split
  · rfl
  · split
    · next target hlink => exact (h target hlink).elim
    · rfl

theorem realFrom_name {seen : List (Trail × Option Trail)} (hup : name ≠ "..")
    (hlink : ∀ target, t.entry? (trail ++ [name]) ≠ some (.link target)) (fuel : Nat)
    (rest : List Step) :
    t.realFrom seen (fuel + 1) trail (.name name :: rest) =
      t.realFrom seen fuel (trail ++ [name]) rest := by
  rw [realFrom, if_neg hup]
  dsimp only
  rw [linkAt?_of_ne hlink]

theorem mem_of_entry?_link {target : String} (h : t.entry? trail = some (.link target)) :
    (trail, .link target) ∈ t.entries := by
  unfold entry? at h
  split at h
  · cases h
  · obtain ⟨before, after, heq, -⟩ := List.lookup_eq_some_iff.1 h
    rw [heq]
    simp

theorem LinksFit.linkAt? (hfit : t.LinksFit) {target : String}
    (h : t.entry? trail = some (.link target)) : t.linkAt? trail = some target := by
  have hshort := hfit trail target (mem_of_entry?_link h)
  rw [FileTree.linkAt?, if_neg (Nat.not_lt.2 hshort), h]

end FileTree

end LozengeNav
