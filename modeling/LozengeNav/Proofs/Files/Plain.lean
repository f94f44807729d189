import LozengeNav.Proofs.Uri
import LozengeNav.Proofs.Workspace

/-! # Plain paths

A plain path is read back from its URI. Whether a path from the root is plain is
seen from its names, and of these only the first can look like a drive. So what
is found below a plain root, or beside a plain document, is plain again.
-/

namespace LozengeNav

def Path.IsName (s : String) : Prop :=
  s ≠ "" ∧ '/' ∉ s.toList ∧ s ≠ "."

instance (s : String) : Decidable (Path.IsName s) :=
  inferInstanceAs (Decidable (_ ∧ _ ∧ _))

namespace Path

/-! ## Drives -/

theorem hasDrive_cons (c d : Char) (rest : List Char) :
    Uri.hasDrive ('/' :: c :: d :: rest) = (decide (d = ':') && c.isAlpha) := by
  by_cases hcolon : d = ':'
  · subst hcolon
    simp [Uri.hasDrive]
  · unfold Uri.hasDrive
    split
    · next heq => simp_all
    · simp [hcolon]

theorem intercalate_cons (first : String) (rest : List String) :
    ∃ tail, ("/".intercalate (first :: rest)).toList = first.toList ++ tail ∧
      (tail = [] ∨ ∃ others, tail = '/' :: others) := by
  rw [String.toList_intercalate, List.map_cons]
  cases rest with
  | nil => exact ⟨[], by simp [List.intercalate], .inl rfl⟩
  | cons second others =>
      refine ⟨'/' :: List.intercalate ['/'] ((second :: others).map String.toList), ?_, .inr ⟨_, rfl⟩⟩
      have hslashes : "/".toList = ['/'] := rfl
      rw [hslashes]
      simp [List.intercalate]

theorem hasDrive_intercalate (first : String) (rest : List String) :
    Uri.hasDrive ('/' :: ("/".intercalate (first :: rest)).toList) =
      Uri.hasDrive ('/' :: first.toList) := by
  obtain ⟨tail, hlist, rfl | ⟨others, rfl⟩⟩ := intercalate_cons first rest
  · rw [hlist, List.append_nil]
  · rw [hlist]
    match first.toList with
    | [] =>
        cases others with
        | nil => rfl
        | cons c others =>
            rw [List.nil_append, hasDrive_cons]
            have hslash : '/'.isAlpha = false := rfl
            rw [hslash, Bool.and_false]
            rfl
    | [c] =>
        rw [List.singleton_append, hasDrive_cons]
        rfl
    | c :: d :: more => rw [List.cons_append, List.cons_append, hasDrive_cons, hasDrive_cons]

theorem toString_root (parts : List String) :
    (toString ⟨.root, parts⟩).toList = '/' :: ("/".intercalate parts).toList := by
  have hslashes : toString ⟨.root, parts⟩ = "/" ++ "/".intercalate parts := rfl
  rw [hslashes, String.toList_append]
  rfl

theorem plain_iff {parts : List String} :
    Plain ⟨.root, parts⟩ ↔ (∀ part ∈ parts, IsName part) ∧
      ∀ first ∈ parts.head?, Uri.hasDrive ('/' :: first.toList) = false := by
  have hdrive : Uri.hasDrive (toString ⟨.root, parts⟩).toList = false ↔
      ∀ first ∈ parts.head?, Uri.hasDrive ('/' :: first.toList) = false := by
    rw [toString_root]
    cases parts with
    | nil =>
        simp [Uri.hasDrive]
    | cons first rest =>
        rw [hasDrive_intercalate]
        simp
  constructor
  · rintro ⟨-, hnames, hdriveless⟩
    exact ⟨hnames, hdrive.1 hdriveless⟩
  · rintro ⟨hnames, hfirst⟩
    exact ⟨rfl, hnames, hdrive.2 hfirst⟩

theorem Plain.below {p : Path} (h : p.Plain) (hparts : p.parts ≠ []) {names : List String}
    (hnames : ∀ name ∈ names, IsName name) : (p.below names).Plain := by
  obtain ⟨anchor, parts⟩ := p
  obtain rfl : anchor = .root := h.root
  obtain ⟨hown, hfirst⟩ := plain_iff.1 h
  refine plain_iff.2 ⟨fun part hpart => ?_, ?_⟩
  · rcases List.mem_append.1 hpart with hpart | hpart
    · exact hown part hpart
    · exact hnames part hpart
  · cases parts with
    | nil => exact absurd rfl hparts
    | cons first rest => exact hfirst

theorem isName_of_mem_ofString {s part : String} (h : part ∈ (ofString s).parts) : IsName part := by
  obtain ⟨hempty, hslash⟩ := wellFormed_ofString s part h
  refine ⟨hempty, hslash, ?_⟩
  rintro rfl
  obtain ⟨piece, hpiece, heq⟩ := List.mem_map.1 h
  have hdot : piece = ['.'] := by
    rw [← String.toList_ofList (l := piece), heq]
    rfl
  rw [hdot] at hpiece
  exact absurd (List.mem_filter.1 hpiece).2 (by decide)

theorem plain_child_of_prefix {p : Path} (h : p.Plain) {before : List String}
    (hbefore : before <+: p.parts) {name : String} (hname : IsName name)
    (hdrive : Uri.hasDrive ('/' :: name.toList) = false) :
    Plain ⟨.root, before ++ [name]⟩ := by
  obtain ⟨anchor, parts⟩ := p
  obtain rfl : anchor = .root := h.root
  obtain ⟨hown, hfirst⟩ := plain_iff.1 h
  refine plain_iff.2 ⟨fun part hpart => ?_, ?_⟩
  · rcases List.mem_append.1 hpart with hpart | hpart
    · exact hown part (hbefore.subset hpart)
    · rwa [List.mem_singleton.1 hpart]
  · cases before with
    | nil =>
        rintro _ ⟨⟩
        exact hdrive
    | cons first rest =>
        obtain ⟨after, rfl⟩ := hbefore
        exact hfirst

end Path

/-! ## What patterns find -/

namespace FileTree

def Named (t : FileTree) : Prop :=
  ∀ e ∈ t.entries, ∀ name ∈ e.1, Path.IsName name

instance (t : FileTree) : Decidable t.Named :=
  inferInstanceAs (Decidable (∀ e ∈ t.entries, ∀ name ∈ e.1, Path.IsName name))

end FileTree

namespace Glob

variable {t : FileTree}

theorem isName_of_mem_entriesIn (hnamed : t.Named) {p : Path} {entries : List (String × Entry)}
    (h : entriesIn t p = .ok entries) {e : String × Entry} (he : e ∈ entries) :
    Path.IsName e.1 := by
  unfold entriesIn at h
  split at h
  · cases h
    obtain ⟨⟨key, value⟩, hmem, hkey⟩ := List.mem_filterMap.1 he
    dsimp only at hkey
    split at hkey
    · next last hlast =>
        split at hkey
        · cases hkey
          exact hnamed _ hmem _ (List.mem_of_getLast? hlast)
        · cases hkey
    · cases hkey
  · cases h
  · cases h
    cases he

theorem exists_names_of_mem_innerDirectories (hnamed : t.Named) {p q : Path}
    (h : q ∈ innerDirectories t p) :
    ∃ names, q = p.below names ∧ ∀ name ∈ names, Path.IsName name := by
  unfold innerDirectories at h
  split at h
  · next trail entry hlocate =>
      obtain ⟨⟨key, entry⟩, hmem, hkey⟩ := List.mem_filterMap.1 h
      dsimp only at hkey
      split at hkey
      · cases hkey
        exact ⟨key.drop trail.length, rfl, fun name hname =>
          hnamed _ hmem _ (List.drop_subset _ _ hname)⟩
      · cases hkey
  · cases h

theorem mem_of_below {p q : Path} {found : List Path} (h : below t p = .ok found)
    (hq : q ∈ found) : q ∈ p :: innerDirectories t p :=
  ((Fault.mem_filterM_iff h).1 hq).1

theorem exists_names_of_mem_below (hnamed : t.Named) {p q : Path} {found : List Path}
    (h : below t p = .ok found) (hq : q ∈ found) :
    ∃ names, q = p.below names ∧ ∀ name ∈ names, Path.IsName name := by
  rcases List.mem_cons.1 (mem_of_below h hq) with rfl | hq
  · exact ⟨[], by simp, List.forall_mem_nil _⟩
  · exact exists_names_of_mem_innerDirectories hnamed hq

def Segment.Named : Segment → Prop
  | name s => Path.IsName s
  | _ => True

section Select

variable {directory : Bool} {rest : List Segment} {p q : Path} {found : List Path}

theorem select_name_eq_ok {s : String}
    (h : select t directory (.name s :: rest) p = .ok found) :
    found = [] ∨ select t directory rest (p.child s) = .ok found := by
  rw [select] at h
  have hpresent : ∃ present : Bool,
      (if present then select t directory rest (p.child s) else pure []) = .ok found := by
    split at h
    · obtain ⟨present, -, h⟩ := Fault.ok_of_bind_eq_ok h
      exact ⟨present, h⟩
    · obtain ⟨present, -, h⟩ := Fault.ok_of_bind_eq_ok h
      exact ⟨present, h⟩
  obtain ⟨present, h⟩ := hpresent
  cases present with
  | true => exact .inr h
  | false =>
      cases h
      exact .inl rfl

theorem mem_select_name {s : String} (h : select t directory (.name s :: rest) p = .ok found)
    (hq : q ∈ found) : ∃ inner, select t directory rest (p.child s) = .ok inner ∧ q ∈ inner := by
  rcases select_name_eq_ok h with rfl | hselect
  · exact absurd hq List.not_mem_nil
  · exact ⟨found, hselect, hq⟩

theorem select_wildcard_eq_ok {s : String}
    (h : select t directory (.wildcard s :: rest) p = .ok found) :
    ∃ (entries taken : List (String × Entry)) (lists : List (List Path)),
      entriesIn t p = .ok entries ∧
      entries.filterM (takes t (directory || !rest.isEmpty) s p) = .ok taken ∧
      (taken.mapM fun e => select t directory rest (p.child e.1)) = .ok lists ∧
      found = lists.flatten := by
  rw [select] at h
  obtain ⟨entries, hentries, h⟩ := Fault.ok_of_bind_eq_ok h
  obtain ⟨taken, htaken, h⟩ := Fault.ok_of_bind_eq_ok h
  obtain ⟨lists, hlists, h⟩ := Fault.ok_of_bind_eq_ok h
  cases h
  exact ⟨entries, taken, lists, hentries, htaken, hlists, rfl⟩

theorem mem_select_wildcard {s : String}
    (h : select t directory (.wildcard s :: rest) p = .ok found) (hq : q ∈ found) :
    ∃ entries, entriesIn t p = .ok entries ∧ ∃ e ∈ entries,
      takes t (directory || !rest.isEmpty) s p e = .ok true ∧ ∃ inner,
      select t directory rest (p.child e.1) = .ok inner ∧ q ∈ inner := by
  obtain ⟨entries, taken, lists, hentries, htaken, hlists, rfl⟩ := select_wildcard_eq_ok h
  obtain ⟨list, hlist, hq⟩ := List.mem_flatten.1 hq
  obtain ⟨e, he, hselect⟩ := Fault.exists_of_mem_mapM hlists hlist
  obtain ⟨hmem, hfits⟩ := (Fault.mem_filterM_iff htaken).1 he
  exact ⟨entries, hentries, e, hmem, hfits, list, hselect, hq⟩

theorem mem_select_directories (h : select t directory (.directories :: rest) p = .ok found)
    (hq : q ∈ found) :
    ∃ starts, below t p = .ok starts ∧ ∃ next ∈ starts, ∃ inner,
      select t directory rest next = .ok inner ∧ q ∈ inner := by
  rw [select] at h
  obtain ⟨starts, hstarts, h⟩ := Fault.ok_of_bind_eq_ok h
  obtain ⟨lists, hlists, h⟩ := Fault.ok_of_bind_eq_ok h
  cases h
  rw [List.mem_eraseDups, List.mem_flatten] at hq
  obtain ⟨list, hlist, hq⟩ := hq
  obtain ⟨next, hnext, hselect⟩ := Fault.exists_of_mem_mapM hlists hlist
  exact ⟨starts, hstarts, next, hnext, list, hselect, hq⟩

end Select

theorem exists_names_of_mem_select (hnamed : t.Named) {directory : Bool}
    {segments : List Segment} (hsegments : ∀ segment ∈ segments, segment.Named) {p q : Path}
    {found : List Path} (h : select t directory segments p = .ok found) (hq : q ∈ found) :
    ∃ names, q = p.below names ∧ ∀ name ∈ names, Path.IsName name := by
  -- The induction is on the segments; each adds names of entries or its own.
  induction segments generalizing p found with
  | nil =>
      cases h
      rw [List.mem_singleton.1 hq]
      exact ⟨[], by simp, List.forall_mem_nil _⟩
  | cons segment rest ih =>
      obtain ⟨hsegment, hrest⟩ := List.forall_mem_cons.1 hsegments
      have hbehind : ∀ {names : List String} {inner : List Path},
          (∀ name ∈ names, Path.IsName name) →
          select t directory rest (p.below names) = .ok inner → q ∈ inner →
          ∃ names, q = p.below names ∧ ∀ name ∈ names, Path.IsName name := by
        intro names inner hnames hinner hq
        obtain ⟨more, rfl, hmore⟩ := ih hrest hinner hq
        exact ⟨names ++ more, Path.below_below p names more,
          List.forall_mem_append.2 ⟨hnames, hmore⟩⟩
      cases segment with
      | name s =>
          obtain ⟨inner, hinner, hq⟩ := mem_select_name h hq
          rw [Path.child_eq_below] at hinner
          exact hbehind (List.forall_mem_singleton.2 hsegment) hinner hq
      | wildcard s =>
          obtain ⟨entries, hentries, e, he, -, inner, hinner, hq⟩ := mem_select_wildcard h hq
          rw [Path.child_eq_below] at hinner
          have hname := isName_of_mem_entriesIn hnamed hentries he
          exact hbehind (List.forall_mem_singleton.2 hname) hinner hq
      | directories =>
          obtain ⟨starts, hstarts, next, hnext, inner, hinner, hq⟩ := mem_select_directories h hq
          obtain ⟨names, rfl, hnames⟩ := exists_names_of_mem_below hnamed hstarts hnext
          exact hbehind hnames hinner hq

theorem named_of_ofString {s : String} {pattern : Pattern} (h : Pattern.ofString s = .ok pattern) :
    ∀ segment ∈ pattern.segments, segment.Named := by
  unfold Pattern.ofString at h
  split at h
  · cases h
  · dsimp only at h
    split at h
    · cases h
    · obtain ⟨segments, hsegments, h⟩ := Fault.ok_of_bind_eq_ok h
      have heq : pattern.segments = segments := by
        split at h
        · cases h
        · cases h
          rfl
      rw [heq]
      intro segment hsegment
      obtain ⟨part, hpart, hread⟩ := Fault.exists_of_mem_mapM hsegments hsegment
      unfold Segment.ofString at hread
      split at hread
      · cases hread
        trivial
      · split at hread
        · cases hread
        · split at hread
          · cases hread
            trivial
          · cases hread
            exact Path.isName_of_mem_ofString hpart

theorem exists_names_of_mem_find (hnamed : t.Named) {root : Path} {pattern : String}
    {found : List Path} (h : find t root pattern = .ok found) {q : Path} (hq : q ∈ found) :
    ∃ names, q = root.below names ∧ ∀ name ∈ names, Path.IsName name := by
  obtain ⟨read, hread, h⟩ := Fault.ok_of_bind_eq_ok h
  obtain ⟨isDirectory, -, h⟩ := Fault.ok_of_bind_eq_ok h
  cases isDirectory with
  | false =>
      cases h
      exact absurd hq List.not_mem_nil
  | true => exact exists_names_of_mem_select hnamed (named_of_ofString hread) h hq

end Glob

theorem Workspace.plain_of_mem_glob {w : Workspace} {t : FileTree} (hnamed : t.Named)
    (hroot : w.root.Plain) (hparts : w.root.parts ≠ []) {pattern : String} {files : List Path}
    (h : w.glob t pattern = .ok files) {p : Path} (hp : p ∈ files) : p.Plain := by
  obtain ⟨-, found, hfound, hmem, -⟩ := exists_admits_of_mem_glob h hp
  obtain ⟨names, rfl, hnames⟩ := Glob.exists_names_of_mem_find hnamed hfound hmem
  exact hroot.below hparts hnames

end LozengeNav
