import LozengeNav.Proofs.Files.Limits

/-! # Trees without links

In a tree without links, the real path of a path is the path with its `..`
applied, and a question about a path has no answer only if the path or a name in
it is too long.
-/

namespace LozengeNav

namespace FileTree

/-- No entry is a link. -/
def LinkFree (t : FileTree) : Prop :=
  ∀ trail target, (trail, Entry.link target) ∉ t.entries

section LinkFree

variable {t : FileTree}

theorem LinkFree.entry?_ne (h : t.LinkFree) (trail : Trail) (target : String) :
    t.entry? trail ≠ some (.link target) := by
  unfold entry?
  split
  · simp
  · intro hlookup
    obtain ⟨before, after, heq, -⟩ := List.lookup_eq_some_iff.1 hlookup
    exact h trail target (by simp [heq])

/-! ## Following names -/

theorem LinkFree.absence_of_walk (h : t.LinkFree) {last : Bool}
    {jump : Option (Trail → List String → Except Absence (Trail × Entry))} {trail : Trail}
    {names : List String} {absence : Absence}
    (hwalk : t.walk last jump trail names = .error absence) :
    absence = .missing ∨ absence = .notDirectory ∨
      absence = .tooLong ∧ ∃ name ∈ names, nameLimit < name.utf8ByteSize := by
  induction names generalizing trail with
  | nil =>
      rw [walk] at hwalk
      split at hwalk <;> cases hwalk
      exact .inl rfl
  | cons name rest ih =>
      have hrest : ∀ trail, t.walk last jump trail rest = .error absence →
          absence = .missing ∨ absence = .notDirectory ∨
            absence = .tooLong ∧ ∃ other ∈ name :: rest, nameLimit < other.utf8ByteSize := by
        intro trail hwalk
        rcases ih hwalk with hmissing | hdirectory | ⟨hlong, other, hother, hsize⟩
        · exact .inl hmissing
        · exact .inr (.inl hdirectory)
        · exact .inr (.inr ⟨hlong, other, List.mem_cons_of_mem _ hother, hsize⟩)
      cases onward_of_walk hwalk with
      | up _ hwalk => exact hrest _ hwalk
      | long _ hlong hr =>
          cases hr
          exact .inr (.inr ⟨rfl, name, List.mem_cons_self, hlong⟩)
      | missing _ _ _ hr =>
          cases hr
          exact .inl rfl
      | directory _ _ _ hwalk => exact hrest _ hwalk
      | file _ _ _ _ hr => cases hr
      | notDirectory _ _ _ _ hr =>
          cases hr
          exact .inr (.inl rfl)
      | link _ _ hentry => exact (h.entry?_ne _ _ hentry).elim
      | lost _ _ hentry => exact (h.entry?_ne _ _ hentry).elim
      | jump _ _ hentry => exact (h.entry?_ne _ _ hentry).elim

/-- A question about a path of names that fit has no answer if and only if the
path as a whole is too long. -/
theorem LinkFree.isFile_fault_iff (h : t.LinkFree) {p : Path}
    (hnames : ∀ name ∈ p.parts, Fitting name) :
    (∃ fault, t.isFile p = .error fault) ↔ pathLimit < p.toString.utf8ByteSize := by
  have hwritten : ¬ p.toString.toList.contains '\x00' = true := by
    rw [List.contains_iff_mem]
    exact not_mem_nul_of_fitting hnames
  rw [isFile, test, locate, if_neg hwritten]
  by_cases hlong : pathLimit < p.toString.utf8ByteSize
  · simp [hlong]
  · rw [if_neg hlong]
    cases hfollow : t.follow true linkLimit (startOf t.here p) p.parts with
    | ok found => simp [hlong]
    | error absence =>
        rcases h.absence_of_walk hfollow with rfl | rfl | ⟨-, name, hname, hsize⟩
        · simp [hlong]
        · simp [hlong]
        · exact absurd hsize (Nat.not_lt.2 (hnames name hname).short)

theorem LinkFree.isFile_eq_false (h : t.LinkFree) {p : Path}
    (hnames : ∀ name ∈ p.parts, Fitting name) (hsize : p.toString.utf8ByteSize ≤ pathLimit)
    (hno : t.isFile p ≠ .ok true) : t.isFile p = .ok false := by
  cases hanswer : t.isFile p with
  | error fault =>
      have hlong := (h.isFile_fault_iff hnames).1 ⟨fault, hanswer⟩
      omega
  | ok answer =>
      cases answer with
      | true => exact absurd hanswer hno
      | false => rfl

/-! ## Real paths -/

theorem lexical_append (trail : Trail) (names others : List String) :
    lexical trail (names ++ others) = lexical (lexical trail names) others := by
  simp [lexical]

theorem lexical_of_names (trail : Trail) {names : List String} (hnames : ".." ∉ names) :
    lexical trail names = trail ++ names := by
  induction names generalizing trail with
  | nil => simp [lexical]
  | cons name rest ih =>
      rw [List.mem_cons, not_or] at hnames
      have hstep : lexical trail (name :: rest) = lexical (trail ++ [name]) rest := by
        simp [lexical, Ne.symm hnames.1]
      rw [hstep, ih _ hnames.2, List.append_assoc, List.singleton_append]

theorem LinkFree.realFrom_eq (h : t.LinkFree) {fuel : Nat} {names : List String}
    (hfuel : names.length < fuel) (trail : Trail) :
    t.realFrom [] fuel trail (names.map .name) = lexical trail names := by
  induction names generalizing fuel trail with
  | nil =>
      cases fuel with
      | zero => exact absurd hfuel (Nat.not_lt_zero _)
      | succ fuel => simp [realFrom, lexical]
  | cons name rest ih =>
      cases fuel with
      | zero => exact absurd hfuel (Nat.not_lt_zero _)
      | succ fuel =>
          have hrest : rest.length < fuel := by
            simpa using hfuel
          rw [List.map_cons]
          by_cases hup : name = ".."
          · rw [realFrom, if_pos hup, ih hrest]
            simp [lexical, hup]
          · rw [realFrom_name hup (h.entry?_ne _), ih hrest]
            simp [lexical, hup]

theorem LinkFree.realTrail_eq (h : t.LinkFree) (p : Path) :
    t.realTrail p = lexical (startOf t.here p) p.parts :=
  h.realFrom_eq (by omega) _

theorem LinkFree.realTrail_below (h : t.LinkFree) (p : Path) {names : List String}
    (hnames : ".." ∉ names) : t.realTrail (p.below names) = t.realTrail p ++ names := by
  have hstart : startOf t.here (p.below names) = startOf t.here p := rfl
  rw [h.realTrail_eq, h.realTrail_eq, hstart, Path.parts_below, lexical_append,
    lexical_of_names _ hnames]

theorem LinkFree.realPath_eq (h : t.LinkFree) {p : Path} (hnul : '\x00' ∉ p.toString.toList) :
    t.realPath p = .ok ⟨.root, t.realTrail p⟩ := by
  have hwritten : ¬ p.toString.toList.contains '\x00' = true := by
    rwa [List.contains_iff_mem]
  rw [realPath, if_neg hwritten]
  simp only
  split
  · next hlinks =>
      exfalso
      unfold locate at hlinks
      simp only at hlinks
      split at hlinks
      · cases hlinks
      · split at hlinks
        · cases hlinks
        · rcases h.absence_of_walk hlinks with habsence | habsence | ⟨habsence, -⟩ <;> cases habsence
  · rfl

end LinkFree

end FileTree

end LozengeNav
