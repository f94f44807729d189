import LozengeNav.Proofs.Files.LinkFree

/-! # Trees over time

Files are written and removed. What a path leads to depends on links only, so
over time a path of a tree without links leads to one trail, whose file may come
and go. A history in which no file has two contents with one modification time
can be read from the times alone.
-/

namespace LozengeNav

namespace FileTree

/-- The file at a path, with its content and the time it was modified. -/
def HasFile (t : FileTree) (p : Path) (content : List UInt8) (modified : Int) : Prop :=
  ∃ trail, t.locate true p = .ok (trail, .file content modified)

section HasFile

variable {t : FileTree} {p : Path} {content : List UInt8} {modified : Int}

theorem HasFile.modified?_eq (h : t.HasFile p content modified) :
    t.modified? p = some modified := by
  obtain ⟨trail, hlocate⟩ := h
  rw [modified?, hlocate]

theorem HasFile.read_eq (h : t.HasFile p content modified) : t.read p = .ok content := by
  obtain ⟨trail, hlocate⟩ := h
  rw [read, hlocate]

theorem HasFile.isFile_eq (h : t.HasFile p content modified) : t.isFile p = .ok true := by
  obtain ⟨trail, hlocate⟩ := h
  rw [isFile, test, hlocate]

theorem HasFile.parts_ne_nil (h : t.HasFile p content modified) (hroot : p.anchor = .root) :
    p.parts ≠ [] := by
  obtain ⟨anchor, parts⟩ := p
  obtain rfl : anchor = .root := hroot
  rintro rfl
  obtain ⟨trail, hlocate⟩ := h
  have hdirectory : t.locate true ⟨.root, []⟩ = .ok ([], .directory) := by
    rw [locate, if_neg (by decide), if_neg (by decide)]
    rfl
  rw [hdirectory] at hlocate
  cases hlocate

theorem exists_hasFile_of_isFile (h : t.isFile p = .ok true) :
    ∃ content modified, t.HasFile p content modified := by
  rw [isFile, test] at h
  cases hlocate : t.locate true p with
  | error absence =>
      rw [hlocate] at h
      cases absence <;> cases h
  | ok found =>
      rw [hlocate] at h
      obtain ⟨trail, entry⟩ := found
      cases entry with
      | file content modified => exact ⟨content, modified, trail, hlocate⟩
      | directory => cases h
      | link target => cases h

theorem exists_hasFile_of_read (h : t.read p = .ok content) :
    ∃ modified, t.HasFile p content modified := by
  rw [read] at h
  cases hlocate : t.locate true p with
  | error absence =>
      rw [hlocate] at h
      cases h
  | ok found =>
      rw [hlocate] at h
      obtain ⟨trail, entry⟩ := found
      cases entry with
      | file content' modified =>
          cases h
          exact ⟨modified, trail, hlocate⟩
      | directory => cases h
      | link target => cases h

theorem isFile_of_readText {text : List Char} (h : t.readText p = .ok text) :
    t.isFile p = .ok true := by
  cases hread : t.read p with
  | error fault =>
      rw [readText, hread] at h
      cases h
  | ok content =>
      obtain ⟨modified, hfile⟩ := exists_hasFile_of_read hread
      exact hfile.isFile_eq

end HasFile

/-! ## Where a path leads -/

/-- In a tree without links a way that ends somewhere is the one that its names
spell. -/
theorem LinkFree.walk_eq_ok {t : FileTree} (h : t.LinkFree) {last : Bool}
    {jump : Option (Trail → List String → Except Absence (Trail × Entry))} {trail found : Trail}
    {names : List String} {entry : Entry} (hwalk : t.walk last jump trail names = .ok (found, entry)) :
    found = lexical trail names ∧ t.entry? found = some entry := by
  induction names generalizing trail with
  | nil =>
      rw [walk] at hwalk
      split at hwalk
      · next hentry =>
          cases hwalk
          exact ⟨rfl, hentry⟩
      · cases hwalk
  | cons name rest ih =>
      cases onward_of_walk hwalk with
      | up hup hrest =>
          have hstep : lexical trail (name :: rest) = lexical trail.dropLast rest := by
            simp [lexical, hup]
          rw [hstep]
          exact ih hrest
      | long _ _ hr => cases hr
      | missing _ _ _ hr => cases hr
      | directory hup _ _ hrest =>
          have hstep : lexical trail (name :: rest) = lexical (trail ++ [name]) rest := by
            simp [lexical, hup]
          rw [hstep]
          exact ih hrest
      | file hup _ hentry hend hr =>
          cases hr
          exact ⟨by simp [lexical, hup, hend], hentry⟩
      | notDirectory _ _ _ _ hr => cases hr
      | link _ _ hentry => exact (h.entry?_ne _ _ hentry).elim
      | lost _ _ hentry => exact (h.entry?_ne _ _ hentry).elim
      | jump _ _ hentry => exact (h.entry?_ne _ _ hentry).elim

theorem LinkFree.locate_eq_ok {t : FileTree} (h : t.LinkFree) {last : Bool} {p : Path}
    {found : Trail} {entry : Entry} (hlocate : t.locate last p = .ok (found, entry)) :
    found = lexical (startOf t.here p) p.parts ∧ t.entry? found = some entry := by
  unfold locate at hlocate
  simp only at hlocate
  split at hlocate
  · cases hlocate
  · split at hlocate
    · cases hlocate
    · exact h.walk_eq_ok hlocate

/-! ## Histories -/

/-- No file has two contents with one modification time. -/
def Dated (past : List FileTree) : Prop :=
  ∀ t ∈ past, ∀ t' ∈ past, ∀ trail content content' modified,
    t.entry? trail = some (.file content modified) →
    t'.entry? trail = some (.file content' modified) → content = content'

/-- What was at a path can be told from the time it was modified. -/
def Recallable (past : List FileTree) : Prop :=
  ∀ t ∈ past, ∀ t' ∈ past, ∀ p content content' modified,
    t.HasFile p content modified → t'.HasFile p content' modified → content = content'

theorem mem_entries_of_entry? {t : FileTree} {trail : Trail} {entry : Entry}
    (h : t.entry? trail = some entry) : entry = .directory ∨ (trail, entry) ∈ t.entries := by
  unfold entry? at h
  split at h
  · exact .inl (Option.some.inj h).symm
  · obtain ⟨before, after, heq, -⟩ := List.lookup_eq_some_iff.1 h
    exact .inr (by simp [heq])

/-- Whether two entries are files of one modification time with two contents. -/
def clash : Entry → Entry → Bool
  | .file content modified, .file content' modified' => modified = modified' && content ≠ content'
  | _, _ => false

theorem dated_of_entries {past : List FileTree}
    (h : ∀ t ∈ past, ∀ t' ∈ past, ∀ e ∈ t.entries, ∀ e' ∈ t'.entries,
      e.1 = e'.1 → clash e.2 e'.2 = false) : Dated past := by
  intro t ht t' ht' trail content content' modified hfirst hsecond
  rcases mem_entries_of_entry? hfirst with hdirectory | hfirst
  · cases hdirectory
  rcases mem_entries_of_entry? hsecond with hdirectory | hsecond
  · cases hdirectory
  simpa [clash] using h t ht t' ht' _ hfirst _ hsecond rfl

theorem recallable_singleton (t : FileTree) : Recallable [t] := by
  intro t₁ h₁ t₂ h₂ p content content' modified hfile hfile'
  rw [List.mem_singleton] at h₁ h₂
  subst h₁ h₂
  exact Except.ok.inj (hfile.read_eq.symm.trans hfile'.read_eq)

/-- Without links a path stands for one trail all the time, as long as the current
directory stays. -/
theorem recallable_of_dated {past : List FileTree} {here : Trail}
    (hfree : ∀ t ∈ past, t.LinkFree ∧ t.here = here) (hdated : Dated past) : Recallable past := by
  rintro t ht t' ht' p content content' modified ⟨trail, hlocate⟩ ⟨trail', hlocate'⟩
  obtain ⟨hlinks, hhere⟩ := hfree t ht
  obtain ⟨hlinks', hhere'⟩ := hfree t' ht'
  obtain ⟨htrail, hentry⟩ := hlinks.locate_eq_ok hlocate
  obtain ⟨htrail', hentry'⟩ := hlinks'.locate_eq_ok hlocate'
  have hsame : trail' = trail := by rw [htrail, htrail', hhere, hhere']
  rw [hsame] at hentry'
  exact hdated t ht t' ht' trail content content' modified hentry hentry'

/-! ## Writing and removing -/

theorem LinkFree.put {t : FileTree} (h : t.LinkFree) (trail : Trail) {entry : Entry}
    (hentry : ∀ target, entry ≠ .link target) : (t.put trail entry).LinkFree := by
  intro other target hmem
  rcases List.mem_append.1 hmem with hold | hnew
  · exact h other target (List.mem_filter.1 hold).1
  · rw [List.mem_singleton, Prod.mk.injEq] at hnew
    exact hentry target hnew.2.symm

theorem LinkFree.ensureDirectory {t : FileTree} (h : t.LinkFree) (trail : Trail) :
    (t.ensureDirectory trail).LinkFree ∧ (t.ensureDirectory trail).here = t.here := by
  unfold FileTree.ensureDirectory
  generalize List.range trail.length = depths
  induction depths generalizing t with
  | nil => exact ⟨h, rfl⟩
  | cons n rest ih =>
      rw [List.foldl_cons]
      cases hentry : t.entry? (trail.take (n + 1)) with
      | none =>
          have hput : (t.put (trail.take (n + 1)) .directory).LinkFree := h.put _ (by simp)
          simp only [hentry]
          exact ih hput
      | some entry =>
          simp only [hentry]
          exact ih h

theorem LinkFree.write {t : FileTree} (h : t.LinkFree) (p : Path) (content : List UInt8)
    (modified : Int) : (t.write p content modified).LinkFree ∧
      (t.write p content modified).here = t.here := by
  obtain ⟨hfree, hhere⟩ := h.ensureDirectory (t.realTrail p).dropLast
  exact ⟨hfree.put (t.realTrail p) (by simp), hhere⟩

theorem LinkFree.remove {t t' : FileTree} (h : t.LinkFree) {p : Path}
    (hremove : t.remove p = .ok t') : t'.LinkFree ∧ t'.here = t.here := by
  unfold FileTree.remove at hremove
  split at hremove
  · cases hremove
  · cases hremove
    exact ⟨fun trail target hmem => h trail target (List.mem_filter.1 hmem).1, rfl⟩
  · cases hremove

end FileTree

end LozengeNav
