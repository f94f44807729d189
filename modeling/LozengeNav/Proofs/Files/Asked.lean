import LozengeNav.Proofs.Files.Plain

/-! # What a search asks about

A search looks at more paths than it finds: at the directories that it lists, at the
names that a pattern gives and, in a part with more behind it, at every link beside the
names that fit. It has an answer if and only if its pattern can be read and none of
these paths is too long for the file system.
-/

namespace LozengeNav

namespace FileTree

variable {t : FileTree} {p : Path} {yes : Entry → Bool} {fault : Fault}

/-- A path that the file system refuses to look at. -/
def TooLong (t : FileTree) (p : Path) : Prop :=
  t.locate true p = .error .tooLong

theorem test_eq_error_iff : t.test p yes = .error fault ↔ fault = .pathTooLong ∧ t.TooLong p := by
  unfold test TooLong
  constructor
  · intro h
    split at h
    · cases h
    · next hlocate =>
        cases h
        exact ⟨rfl, hlocate⟩
    · cases h
  · rintro ⟨rfl, hlocate⟩
    rw [hlocate]

theorem TooLong.test (h : t.TooLong p) (yes : Entry → Bool) :
    t.test p yes = .error .pathTooLong :=
  test_eq_error_iff.2 ⟨rfl, h⟩

theorem isFile_fault_iff : t.isFile p = .error .pathTooLong ↔ t.TooLong p :=
  test_eq_error_iff.trans (and_iff_right rfl)

end FileTree

namespace Glob

variable {t : FileTree} {directory inner : Bool} {s : String} {rest segments : List Segment}
  {p q : Path} {fault : Fault} {found : List Path}

/-! ## Questions of one part -/

/-- Whether a name that a pattern gives leads on. -/
def passes (t : FileTree) (inner : Bool) (p : Path) : Except Fault Bool :=
  if inner then t.isDirectory p else t.hasEntry p

theorem passes_eq_error_iff :
    passes t inner p = .error fault ↔ fault = .pathTooLong ∧ t.TooLong p := by
  cases inner <;> exact FileTree.test_eq_error_iff

theorem select_name (t : FileTree) (directory : Bool) (s : String) (rest : List Segment)
    (p : Path) : select t directory (.name s :: rest) p =
      (do if ← passes t (directory || !rest.isEmpty) (p.child s) then
            select t directory rest (p.child s)
          else return []) := by
  rw [select]
  cases directory || !rest.isEmpty <;> rfl

theorem entriesIn_eq_error_iff :
    entriesIn t p = .error fault ↔ fault = .pathTooLong ∧ t.TooLong p := by
  unfold entriesIn FileTree.TooLong
  constructor
  · intro h
    split at h
    · cases h
    · next hlocate =>
        cases h
        exact ⟨rfl, hlocate⟩
    · cases h
  · rintro ⟨rfl, hlocate⟩
    rw [hlocate]

/-- Only links are asked about, and only where directories are looked for. -/
theorem takes_eq_error_iff {e : String × Entry} : takes t inner s p e = .error fault ↔
    inner = true ∧ (∃ target, e.2 = .link target) ∧ fault = .pathTooLong ∧
      t.TooLong (p.child e.1) := by
  obtain ⟨name, entry⟩ := e
  cases inner with
  | false => exact iff_of_false nofun nofun
  | true =>
      cases entry with
      | directory => exact iff_of_false nofun fun ⟨_, ⟨_, h⟩, _⟩ => nomatch h
      | file content modified => exact iff_of_false nofun fun ⟨_, ⟨_, h⟩, _⟩ => nomatch h
      | link target =>
          have hasked : takes t true s p (name, .link target) =
              (do return (← t.isDirectory (p.child name)) && Wildcard.fits s name) := rfl
          rw [hasked]
          constructor
          · intro h
            rcases Fault.error_of_bind_eq_error h with hdirectory | ⟨answer, -, h⟩
            · exact ⟨rfl, ⟨target, rfl⟩, FileTree.test_eq_error_iff.1 hdirectory⟩
            · cases h
          · rintro ⟨-, -, rfl, hlong⟩
            rw [FileTree.isDirectory, hlong.test]
            rfl

/-! ## Questions of a search -/

/-- The paths that the parts of a pattern ask about from a directory on, those that are found among
them. -/
inductive Asked (t : FileTree) (directory : Bool) : List Segment → Path → Path → Prop
  | found {p : Path} : Asked t directory [] p p
  | name {s : String} {rest : List Segment} {p : Path} :
      Asked t directory (.name s :: rest) p (p.child s)
  | behindName {s : String} {rest : List Segment} {p q : Path}
      (hpasses : passes t (directory || !rest.isEmpty) (p.child s) = .ok true)
      (hrest : Asked t directory rest (p.child s) q) : Asked t directory (.name s :: rest) p q
  | listed {s : String} {rest : List Segment} {p : Path} :
      Asked t directory (.wildcard s :: rest) p p
  /-- A link is asked about whether its name fits or not. -/
  | link {s : String} {rest : List Segment} {p : Path} {entries : List (String × Entry)}
      {name target : String} (hinner : (directory || !rest.isEmpty) = true)
      (hentries : entriesIn t p = .ok entries) (hlink : (name, .link target) ∈ entries) :
      Asked t directory (.wildcard s :: rest) p (p.child name)
  | behindEntry {s : String} {rest : List Segment} {p q : Path} {entries : List (String × Entry)}
      {e : String × Entry} (hentries : entriesIn t p = .ok entries) (he : e ∈ entries)
      (htaken : takes t (directory || !rest.isEmpty) s p e = .ok true)
      (hrest : Asked t directory rest (p.child e.1) q) : Asked t directory (.wildcard s :: rest) p q
  | start {rest : List Segment} {p q : Path} (hbelow : q ∈ p :: innerDirectories t p) :
      Asked t directory (.directories :: rest) p q
  | behindStart {rest : List Segment} {p next q : Path} (hbelow : next ∈ p :: innerDirectories t p)
      (hdirectory : t.isDirectory next = .ok true) (hrest : Asked t directory rest next q) :
      Asked t directory (.directories :: rest) p q

/-- If a search has an answer, what it asks about in vain is among what it finds. -/
theorem Asked.mem (h : Asked t directory segments p q) (hlong : t.TooLong q)
    (hfound : select t directory segments p = .ok found) : q ∈ found := by
  -- By induction on the questions: a part that asks about `q` itself has no answer.
  induction h generalizing found with
  | found =>
      cases hfound
      exact List.mem_singleton_self _
  | name =>
      rw [select_name, passes_eq_error_iff.2 ⟨rfl, hlong⟩] at hfound
      cases hfound
  | behindName hpasses _ ih =>
      rw [select_name, hpasses] at hfound
      exact ih hlong hfound
  | listed =>
      obtain ⟨entries, -, -, hentries, -⟩ := select_wildcard_eq_ok hfound
      cases (entriesIn_eq_error_iff.2 ⟨rfl, hlong⟩).symm.trans hentries
  | @link s rest p entries name target hinner hentries hlink =>
      obtain ⟨_, taken, -, hentries', htaken, -⟩ := select_wildcard_eq_ok hfound
      cases hentries.symm.trans hentries'
      obtain ⟨answer, hanswer⟩ := (Fault.filterM_ok_iff _ _).1 ⟨taken, htaken⟩ _ hlink
      have hasked : takes t _ s p (name, .link target) = .error .pathTooLong :=
        takes_eq_error_iff.2 ⟨hinner, ⟨target, rfl⟩, rfl, hlong⟩
      cases hasked.symm.trans hanswer
  | behindEntry hentries he htaken _ ih =>
      obtain ⟨entries, taken, lists, hentries', htakens, hlists, rfl⟩ :=
        select_wildcard_eq_ok hfound
      cases hentries.symm.trans hentries'
      have hmem := (Fault.mem_filterM_iff htakens).2 ⟨he, htaken⟩
      obtain ⟨list, hlist, hselect⟩ := Fault.exists_mem_of_mapM hlists hmem
      exact List.mem_flatten.2 ⟨list, hlist, ih hlong hselect⟩
  | start hbelow =>
      rw [select] at hfound
      obtain ⟨starts, hstarts, -⟩ := Fault.ok_of_bind_eq_ok hfound
      obtain ⟨answer, hanswer⟩ := (Fault.filterM_ok_iff _ _).1 ⟨starts, hstarts⟩ _ hbelow
      cases (hlong.test _).symm.trans hanswer
  | behindStart hbelow hdirectory _ ih =>
      rw [select] at hfound
      obtain ⟨starts, hstarts, hfound⟩ := Fault.ok_of_bind_eq_ok hfound
      obtain ⟨lists, hlists, hfound⟩ := Fault.ok_of_bind_eq_ok hfound
      cases hfound
      have hmem := (Fault.mem_filterM_iff hstarts).2 ⟨hbelow, hdirectory⟩
      obtain ⟨list, hlist, hselect⟩ := Fault.exists_mem_of_mapM hlists hmem
      exact List.mem_eraseDups.2 (List.mem_flatten.2 ⟨list, hlist, ih hlong hselect⟩)

theorem asked_of_mem_select (h : select t directory segments p = .ok found) (hq : q ∈ found) :
    Asked t directory segments p q := by
  induction segments generalizing p found with
  | nil =>
      cases h
      obtain rfl := List.mem_singleton.1 hq
      exact .found
  | cons segment rest ih =>
      cases segment with
      | name s =>
          rw [select_name] at h
          obtain ⟨present, hpresent, h⟩ := Fault.ok_of_bind_eq_ok h
          cases present with
          | true => exact .behindName hpresent (ih h hq)
          | false =>
              cases h
              cases hq
      | wildcard s =>
          obtain ⟨entries, hentries, e, he, htaken, inner, hinner, hq⟩ := mem_select_wildcard h hq
          exact .behindEntry hentries he htaken (ih hinner hq)
      | directories =>
          obtain ⟨starts, hstarts, next, hnext, inner, hinner, hq⟩ := mem_select_directories h hq
          obtain ⟨hstart, hdirectory⟩ := (Fault.mem_filterM_iff hstarts).1 hnext
          exact .behindStart hstart hdirectory (ih hinner hq)

/-- A search without an answer asked about a path that is too long. -/
theorem exists_asked_of_select_eq_error (h : select t directory segments p = .error fault) :
    fault = .pathTooLong ∧ ∃ q, Asked t directory segments p q ∧ t.TooLong q := by
  -- The induction is on the segments; a fault is one of the segment or of what is behind it.
  induction segments generalizing p with
  | nil => cases h
  | cons segment rest ih =>
      cases segment with
      | name s =>
          rw [select_name] at h
          rcases Fault.error_of_bind_eq_error h with hpasses | ⟨present, hpresent, h⟩
          · obtain ⟨hfault, hlong⟩ := passes_eq_error_iff.1 hpasses
            exact ⟨hfault, _, .name, hlong⟩
          · cases present with
            | true =>
                obtain ⟨hfault, q, hasked, hlong⟩ := ih h
                exact ⟨hfault, q, .behindName hpresent hasked, hlong⟩
            | false => cases h
      | wildcard s =>
          rw [select] at h
          rcases Fault.error_of_bind_eq_error h with hlisted | ⟨entries, hentries, h⟩
          · obtain ⟨hfault, hlong⟩ := entriesIn_eq_error_iff.1 hlisted
            exact ⟨hfault, p, .listed, hlong⟩
          rcases Fault.error_of_bind_eq_error h with htaken | ⟨taken, htaken, h⟩
          · obtain ⟨⟨name, entry⟩, he, hfault⟩ := Fault.exists_of_filterM_eq_error htaken
            obtain ⟨hinner, ⟨target, rfl⟩, hfault, hlong⟩ := takes_eq_error_iff.1 hfault
            exact ⟨hfault, _, .link hinner hentries he, hlong⟩
          rcases Fault.error_of_bind_eq_error h with hlists | ⟨lists, -, h⟩
          · obtain ⟨e, he, hfault⟩ := Fault.exists_of_mapM_eq_error hlists
            obtain ⟨he, hfits⟩ := (Fault.mem_filterM_iff htaken).1 he
            obtain ⟨hfault, q, hasked, hlong⟩ := ih hfault
            exact ⟨hfault, q, .behindEntry hentries he hfits hasked, hlong⟩
          · cases h
      | directories =>
          rw [select] at h
          rcases Fault.error_of_bind_eq_error h with hbelow | ⟨starts, hstarts, h⟩
          · obtain ⟨next, hnext, hfault⟩ := Fault.exists_of_filterM_eq_error hbelow
            obtain ⟨hfault, hlong⟩ := FileTree.test_eq_error_iff.1 hfault
            exact ⟨hfault, next, .start hnext, hlong⟩
          rcases Fault.error_of_bind_eq_error h with hlists | ⟨lists, -, h⟩
          · obtain ⟨next, hnext, hfault⟩ := Fault.exists_of_mapM_eq_error hlists
            obtain ⟨hstart, hdirectory⟩ := (Fault.mem_filterM_iff hstarts).1 hnext
            obtain ⟨hfault, q, hasked, hlong⟩ := ih hfault
            exact ⟨hfault, q, .behindStart hstart hdirectory hasked, hlong⟩
          · cases h

/-! ## Questions of a pattern -/

/-- The paths that a search by a pattern asks about. -/
def Looks (t : FileTree) (root : Path) (pattern : String) (q : Path) : Prop :=
  ∃ read, Pattern.ofString pattern = .ok read ∧
    (q = root ∨ t.isDirectory root = .ok true ∧ Asked t read.directory read.segments root q)

variable {root : Path} {pattern : String}

theorem Looks.mem (h : Looks t root pattern q) (hlong : t.TooLong q)
    (hfound : find t root pattern = .ok found) : q ∈ found := by
  obtain ⟨read, hread, h⟩ := h
  obtain ⟨read', hread', hfound⟩ := Fault.ok_of_bind_eq_ok hfound
  cases hread.symm.trans hread'
  obtain ⟨isDirectory, hdirectory, hfound⟩ := Fault.ok_of_bind_eq_ok hfound
  rcases h with rfl | ⟨hroot, hasked⟩
  · cases (hlong.test _).symm.trans hdirectory
  · cases hroot.symm.trans hdirectory
    exact hasked.mem hlong hfound

theorem looks_of_mem_find (h : find t root pattern = .ok found) (hq : q ∈ found) :
    Looks t root pattern q := by
  obtain ⟨read, hread, h⟩ := Fault.ok_of_bind_eq_ok h
  obtain ⟨isDirectory, hdirectory, h⟩ := Fault.ok_of_bind_eq_ok h
  cases isDirectory with
  | true => exact ⟨read, hread, .inr ⟨hdirectory, asked_of_mem_select h hq⟩⟩
  | false =>
      cases h
      cases hq

/-- A search without an answer has a pattern that cannot be read, or asked about a path that is too
long. -/
theorem exists_looks_of_find_eq_error (h : find t root pattern = .error fault) :
    Pattern.ofString pattern = .error fault ∨ ∃ q, Looks t root pattern q ∧ t.TooLong q := by
  rcases Fault.error_of_bind_eq_error h with hrefused | ⟨read, hread, h⟩
  · exact .inl hrefused
  rcases Fault.error_of_bind_eq_error h with hroot | ⟨isDirectory, hdirectory, h⟩
  · obtain ⟨-, hlong⟩ := FileTree.test_eq_error_iff.1 hroot
    exact .inr ⟨root, ⟨read, hread, .inl rfl⟩, hlong⟩
  cases isDirectory with
  | true =>
      obtain ⟨-, q, hasked, hlong⟩ := exists_asked_of_select_eq_error h
      exact .inr ⟨q, ⟨read, hread, .inr ⟨hdirectory, hasked⟩⟩, hlong⟩
  | false => cases h

end Glob

end LozengeNav
