import LozengeNav.Proofs.Files.Walk
import LozengeNav.Proofs.Path

/-! # Names within the limit

A way through a file tree that leads somewhere has no name that is too long. So
there is no file at a path with such a name, although a question about the path
may end with a fault instead of a no.
-/

namespace LozengeNav

namespace FileTree

/-- A way of following names leads nowhere behind a name that is too long. -/
def Limited (go : Trail → List String → Except Absence (Trail × Entry)) : Prop :=
  ∀ trail names found, go trail names = .ok found →
    ∀ name ∈ names, name.utf8ByteSize ≤ nameLimit

theorem limited_walk (t : FileTree) (last : Bool)
    {jump : Option (Trail → List String → Except Absence (Trail × Entry))}
    (hjump : ∀ go ∈ jump, Limited go) : Limited (t.walk last jump) := by
  intro trail names found h
  -- The induction is on the names; a link hands all that are left to `jump`.
  induction names generalizing trail with
  | nil => simp
  | cons name rest ih =>
      rw [List.forall_mem_cons]
      cases onward_of_walk h with
      | up hup hrest => exact ⟨hup ▸ by decide, ih _ hrest⟩
      | long _ _ hr => cases hr
      | missing _ _ _ hr => cases hr
      | directory _ hshort _ hrest => exact ⟨hshort, ih _ hrest⟩
      | file _ hshort _ hend => exact ⟨hshort, by simp [hend]⟩
      | notDirectory _ _ _ _ hr => cases hr
      | link _ hshort _ hend => exact ⟨hshort, by simp [hend]⟩
      | lost _ _ _ _ _ hr => cases hr
      | jump _ hshort _ _ hgo hrest =>
          have hall := hjump _ hgo _ _ _ (requiring_eq_ok hrest)
          exact ⟨hshort, fun other hother => hall other (List.mem_append_right _ hother)⟩

theorem limited_follow (t : FileTree) (last : Bool) (links : Nat) :
    Limited (t.follow last links) := by
  induction links with
  | zero => exact limited_walk t last (by simp)
  | succ links ih => exact limited_walk t last (by simpa using ih)

theorem isFile_ne_true (t : FileTree) {p : Path} {name : String} (hname : name ∈ p.parts)
    (hlong : nameLimit < name.utf8ByteSize) : t.isFile p ≠ .ok true := by
  intro h
  rw [isFile, test, locate] at h
  by_cases hnul : p.toString.toList.contains '\x00' = true
  · rw [if_pos hnul] at h
    cases h
  · by_cases hpath : pathLimit < p.toString.utf8ByteSize
    · rw [if_neg hnul, if_pos hpath] at h
      cases h
    · rw [if_neg hnul, if_neg hpath] at h
      cases hfollow : t.follow true linkLimit (startOf t.here p) p.parts with
      | error absence =>
          rw [hfollow] at h
          cases absence <;> cases h
      | ok found =>
          have hle := limited_follow t true linkLimit _ _ _ hfollow name hname
          omega

theorem written_of_isFile {t : FileTree} {p : Path} (h : t.isFile p = .ok true) :
    '\x00' ∉ p.toString.toList ∧ p.toString.utf8ByteSize ≤ pathLimit := by
  rw [isFile, test, locate] at h
  by_cases hnul : p.toString.toList.contains '\x00' = true
  · rw [if_pos hnul] at h
    cases h
  · rw [if_neg hnul] at h
    by_cases hpath : pathLimit < p.toString.utf8ByteSize
    · rw [if_pos hpath] at h
      cases h
    · exact ⟨by rwa [List.contains_iff_mem] at hnul, Nat.le_of_not_lt hpath⟩

/-- A name that something in a directory can have. -/
structure Fitting (name : String) : Prop where
  noNul : '\x00' ∉ name.toList
  short : name.utf8ByteSize ≤ nameLimit

theorem fitting_of_isFile {t : FileTree} {p : Path} (h : t.isFile p = .ok true) :
    ∀ name ∈ p.parts, Fitting name := by
  intro name hname
  constructor
  · intro hnul
    exact (written_of_isFile h).1
      ((Path.mem_toString_iff (by decide) (by decide) p).2 ⟨name, hname, hnul⟩)
  · refine Nat.le_of_not_lt fun hlong => ?_
    exact isFile_ne_true t hname hlong h

theorem not_mem_nul_of_fitting {p : Path} (h : ∀ name ∈ p.parts, Fitting name) :
    '\x00' ∉ p.toString.toList := by
  intro hnul
  obtain ⟨name, hname, hc⟩ := (Path.mem_toString_iff (by decide) (by decide) p).1 hnul
  exact (h name hname).noNul hc

theorem follow_of_long (t : FileTree) (last : Bool) (links : Nat) (trail : Trail) {name : String}
    (rest : List String) (hlong : nameLimit < name.utf8ByteSize) :
    t.follow last links trail (name :: rest) = .error .tooLong := by
  have hup : name ≠ ".." := by
    rintro rfl
    exact absurd hlong (by decide)
  cases links <;> rw [follow, walk, if_neg hup, if_pos hlong]

/-- A question about a path that begins with a name that is too long has no answer. -/
theorem test_of_long_head (t : FileTree) (yes : Entry → Bool) {name : String} {rest : List String}
    (hnul : ∀ part ∈ name :: rest, '\x00' ∉ part.toList)
    (hlong : nameLimit < name.utf8ByteSize) :
    t.test ⟨.root, name :: rest⟩ yes = .error .pathTooLong := by
  have hwritten : ¬ (Path.toString ⟨.root, name :: rest⟩).toList.contains '\x00' = true := by
    intro h
    rw [List.contains_iff_mem] at h
    rcases Path.mem_of_mem_toString h with hslash | ⟨part, hpart, hc⟩
    · exact absurd hslash (by decide)
    · exact hnul part hpart hc
  have hfollow := t.follow_of_long true linkLimit [] rest hlong
  have hlocate : t.locate true ⟨.root, name :: rest⟩ = .error .tooLong := by
    rw [locate, if_neg hwritten]
    split
    · rfl
    · exact hfollow
  rw [test, hlocate]

/-! ## Directories on the way -/

end FileTree

end LozengeNav
