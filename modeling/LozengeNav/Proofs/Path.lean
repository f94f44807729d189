import LozengeNav.Uri

/-! # Paths that were read

The parts of a path that was read are neither empty nor do they hold a slash, and
going up or joining a name keeps it so. Written out again, such a path begins
with two slashes only if it names a share, so every other one has a URI.
-/

namespace LozengeNav

namespace Text

theorem not_mem_of_mem_splitOn {c : Char} {s piece : List Char} (h : piece ∈ s.splitOn c) :
    c ∉ piece := by
  induction s generalizing piece with
  | nil =>
      rw [List.splitOn_nil, List.mem_singleton] at h
      rw [h]
      exact List.not_mem_nil
  | cons d rest ih =>
      rw [List.splitOn_cons_eq_if_modifyHead] at h
      by_cases hd : d = c
      · rw [if_pos (by simpa using hd), List.mem_cons] at h
        rcases h with rfl | h
        · exact List.not_mem_nil
        · exact ih h
      · rw [if_neg (by simpa using hd)] at h
        cases hsplit : rest.splitOn c with
        | nil => exact absurd hsplit (List.splitOn_ne_nil c rest)
        | cons first others =>
            rw [hsplit] at h ih
            rw [List.modifyHead_cons, List.mem_cons] at h
            rcases h with rfl | h
            · rw [List.mem_cons, not_or]
              exact ⟨fun hc => hd hc.symm, ih List.mem_cons_self⟩
            · exact ih (List.mem_cons_of_mem _ h)

end Text

namespace Uri

theorem ofPath_of_not_share {p : List Char} (h : ¬ ['/', '/'] <+: p) :
    ofPath p = .ok (opening ++ writePath (rooted p)) := by
  rw [ofPath]
  intro rest hrest
  exact h ⟨rest, hrest.symm⟩

end Uri

namespace Path

/-- The parts are names: none is empty and none holds a slash. -/
def WellFormed (p : Path) : Prop :=
  ∀ part ∈ p.parts, part ≠ "" ∧ '/' ∉ part.toList

/-! ## Reading -/

theorem wellFormed_ofString (s : String) : (ofString s).WellFormed := by
  intro part hpart
  obtain ⟨piece, hpiece, rfl⟩ := List.mem_map.1 hpart
  obtain ⟨hsplit, hkept⟩ := List.mem_filter.1 hpiece
  have hslash := Text.not_mem_of_mem_splitOn hsplit
  have hempty : piece ≠ [] := by
    intro h
    rw [h] at hkept
    exact absurd hkept (by decide)
  rw [String.toList_ofList]
  refine ⟨fun h => hempty ?_, hslash⟩
  rw [← String.toList_ofList (l := piece), h]
  rfl

theorem wellFormed_parent {p : Path} (h : p.WellFormed) : p.parent.WellFormed :=
  fun part hpart => h part (List.dropLast_subset _ hpart)

theorem wellFormed_append {p q : Path} (hp : p.WellFormed) (hq : q.WellFormed) :
    (p.append q).WellFormed := by
  unfold append
  split
  · exact hq
  · intro part hpart
    rcases List.mem_append.1 hpart with h | h
    · exact hp part h
    · exact hq part h

theorem wellFormed_join {p : Path} (h : p.WellFormed) (s : String) : (p.join s).WellFormed :=
  wellFormed_append h (wellFormed_ofString s)

theorem anchorOf_of_head? {s : List Char} (h : s.head? ≠ some '/') : anchorOf s = .here := by
  unfold anchorOf
  split
  · exact absurd rfl h
  · exact absurd rfl h
  · exact absurd rfl h
  · rfl

theorem ofString_of_name {s : String} (hslash : '/' ∉ s.toList) (hempty : s ≠ "") (hdot : s ≠ ".") :
    ofString s = ⟨.here, [s]⟩ := by
  have hlist : s.toList ≠ [] := fun h => hempty (String.toList_eq_nil_iff.1 h)
  have hlistDot : s.toList ≠ ['.'] := fun h => hdot (String.toList_inj.1 h)
  have hparts : partsOf s.toList = [s] := by
    rw [partsOf, List.splitOn_eq_singleton hslash]
    simp [hlist, hlistDot]
  have hhead : s.toList.head? ≠ some '/' := fun h => hslash (List.mem_of_mem_head? h)
  rw [ofString, hparts, anchorOf_of_head? hhead]

theorem join_of_name (p : Path) {s : String} (hslash : '/' ∉ s.toList) (hempty : s ≠ "")
    (hdot : s ≠ ".") : p.join s = p.child s := by
  rw [join, ofString_of_name hslash hempty hdot]
  rfl

def below (p : Path) (names : List String) : Path :=
  ⟨p.anchor, p.parts ++ names⟩

@[simp] theorem parts_below (p : Path) (names : List String) :
    (p.below names).parts = p.parts ++ names :=
  rfl

@[simp] theorem anchor_below (p : Path) (names : List String) : (p.below names).anchor = p.anchor :=
  rfl

@[simp] theorem below_nil (p : Path) : p.below [] = p := by
  simp [below]

theorem below_below (p : Path) (names others : List String) :
    (p.below names).below others = p.below (names ++ others) := by
  simp [below]

theorem child_eq_below (p : Path) (name : String) : p.child name = p.below [name] :=
  rfl

theorem foldl_join (p : Path) {names : List String}
    (hnames : ∀ name ∈ names, '/' ∉ name.toList ∧ name ≠ "" ∧ name ≠ ".") :
    names.foldl join p = p.below names := by
  induction names generalizing p with
  | nil => simp [below]
  | cons name rest ih =>
      obtain ⟨hslash, hempty, hdot⟩ := hnames name List.mem_cons_self
      rw [List.foldl_cons, join_of_name p hslash hempty hdot,
        ih _ fun other hother => hnames other (List.mem_cons_of_mem _ hother), child_eq_below,
        below_below, List.singleton_append]

theorem anchor_parent (p : Path) : p.parent.anchor = p.anchor :=
  rfl

/-- A name that does not begin with a slash stays below the path it is joined to. -/
theorem anchor_join (p : Path) {s : String} (h : s.toList.head? ≠ some '/') :
    (p.join s).anchor = p.anchor := by
  have habs : (ofString s).isAbsolute = false := by
    simp [isAbsolute, ofString, anchorOf_of_head? h]
  rw [join, append, habs]
  rfl

/-! ## Writing -/

theorem head?_intercalate_ne {parts : List String}
    (h : ∀ part ∈ parts, part ≠ "" ∧ '/' ∉ part.toList) :
    ("/".intercalate parts).toList.head? ≠ some '/' := by
  cases parts with
  | nil => simp
  | cons first rest =>
      obtain ⟨hne, hslash⟩ := h first List.mem_cons_self
      cases hfirst : first.toList with
      | nil => exact absurd (String.toList_eq_nil_iff.1 hfirst) hne
      | cons c cs =>
          have hc : c ≠ '/' := fun hc => hslash (by rw [hfirst, hc]; exact List.mem_cons_self)
          rw [String.toList_intercalate]
          cases rest <;> simp [List.intercalate, hfirst, hc]

theorem partsOf_intercalate {parts : List String}
    (h : ∀ part ∈ parts, part ≠ "" ∧ '/' ∉ part.toList ∧ part ≠ ".") :
    partsOf ("/".intercalate parts).toList = parts := by
  have hkept : ∀ piece ∈ parts.map String.toList,
      (decide (piece ≠ []) && decide (piece ≠ ['.'])) = true := by
    intro piece hpiece
    obtain ⟨part, hpart, rfl⟩ := List.mem_map.1 hpiece
    obtain ⟨hempty, -, hdot⟩ := h part hpart
    have hlistDot : part.toList ≠ ['.'] := fun heq => hdot (String.toList_inj.1 heq)
    simp [hempty, hlistDot]
  cases hnil : parts with
  | nil => rfl
  | cons first rest =>
      rw [← hnil, String.toList_intercalate]
      have hback : (List.intercalate ['/'] (parts.map String.toList)).splitOn '/' =
          parts.map String.toList := by
        refine List.splitOn_intercalate '/' (fun piece hpiece => ?_) (by simp [hnil])
        obtain ⟨part, hpart, rfl⟩ := List.mem_map.1 hpiece
        exact (h part hpart).2.1
      have hslash : "/".toList = ['/'] := rfl
      rw [partsOf, hslash, hback, List.filter_eq_self.2 hkept, List.map_map]
      simp [Function.comp_def]

theorem partsOf_slash (s : List Char) : partsOf ('/' :: s) = partsOf s := by
  have hsplit : ('/' :: s).splitOn '/' = [] :: s.splitOn '/' := by
    simp [List.splitOn_cons_eq_if_modifyHead]
  rw [partsOf, hsplit, List.filter_cons_of_neg (by simp), ← partsOf]

theorem mem_of_mem_intercalate {c : Char} {parts : List String}
    (h : c ∈ ("/".intercalate parts).toList) : c = '/' ∨ ∃ part ∈ parts, c ∈ part.toList := by
  induction parts with
  | nil => simp at h
  | cons first rest ih =>
      cases rest with
      | nil =>
          rw [String.intercalate_singleton] at h
          exact .inr ⟨first, List.mem_cons_self, h⟩
      | cons second others =>
          rw [String.intercalate_cons_cons, String.toList_append, String.toList_append,
            List.mem_append, List.mem_append] at h
          rcases h with (hfirst | hslash) | hrest
          · exact .inr ⟨first, List.mem_cons_self, hfirst⟩
          · exact .inl (List.mem_singleton.1 hslash)
          · rcases ih hrest with hslash | ⟨part, hpart, hc⟩
            · exact .inl hslash
            · exact .inr ⟨part, List.mem_cons_of_mem _ hpart, hc⟩

/-- A path from the root is written with slashes and the characters of its parts. -/
theorem mem_of_mem_toString {c : Char} {parts : List String}
    (h : c ∈ (toString ⟨.root, parts⟩).toList) : c = '/' ∨ ∃ part ∈ parts, c ∈ part.toList := by
  have hwritten : toString ⟨.root, parts⟩ = "/" ++ "/".intercalate parts := rfl
  rw [hwritten, String.toList_append, List.mem_append] at h
  rcases h with hslash | hparts
  · exact .inl (List.mem_singleton.1 hslash)
  · exact mem_of_mem_intercalate hparts

theorem mem_intercalate_of_mem {c : Char} {parts : List String} {part : String}
    (hpart : part ∈ parts) (hc : c ∈ part.toList) : c ∈ ("/".intercalate parts).toList := by
  induction parts with
  | nil => exact absurd hpart List.not_mem_nil
  | cons first rest ih =>
      cases rest with
      | nil =>
          rw [List.mem_singleton] at hpart
          rwa [String.intercalate_singleton, ← hpart]
      | cons second others =>
          rw [String.intercalate_cons_cons, String.toList_append, List.mem_append]
          rcases List.mem_cons.1 hpart with rfl | hrest
          · exact .inl (by simp [hc])
          · exact .inr (ih hrest)

theorem mem_toString_iff {c : Char} (hslash : c ≠ '/') (hdot : c ≠ '.') (p : Path) :
    c ∈ p.toString.toList ↔ ∃ part ∈ p.parts, c ∈ part.toList := by
  have hparts : c ∈ ("/".intercalate p.parts).toList ↔ ∃ part ∈ p.parts, c ∈ part.toList := by
    constructor
    · intro hc
      exact (mem_of_mem_intercalate hc).resolve_left hslash
    · rintro ⟨part, hpart, hc⟩
      exact mem_intercalate_of_mem hpart hc
  obtain ⟨anchor, parts⟩ := p
  rw [← hparts]
  cases anchor <;> cases parts <;> simp [toString, slashes, hslash, hdot]

def slashedSize (names : List String) : Nat :=
  names.foldr (fun name size => name.utf8ByteSize + 1 + size) 0

theorem slashedSize_cons (name : String) (names : List String) :
    slashedSize (name :: names) = name.utf8ByteSize + 1 + slashedSize names :=
  rfl

theorem slashedSize_append (front names : List String) :
    slashedSize (front ++ names) = slashedSize front + slashedSize names := by
  induction front with
  | nil => exact (Nat.zero_add _).symm
  | cons name front ih =>
      rw [List.cons_append, slashedSize_cons, slashedSize_cons, ih]
      omega

theorem utf8ByteSize_intercalate {parts : List String} (hne : parts ≠ []) :
    ("/".intercalate parts).utf8ByteSize + 1 = slashedSize parts := by
  induction parts with
  | nil => exact absurd rfl hne
  | cons first rest ih =>
      cases rest with
      | nil => simp [slashedSize]
      | cons second others =>
          have hrest := ih (List.cons_ne_nil _ _)
          have hslash : "/".utf8ByteSize = 1 := by decide
          rw [String.intercalate_cons_cons, String.utf8ByteSize_append, String.utf8ByteSize_append,
            slashedSize_cons, ← hrest, hslash]
          omega

theorem utf8ByteSize_toString {p : Path} (hne : p.parts ≠ []) :
    p.toString.utf8ByteSize + 1 = (slashes p.anchor).utf8ByteSize + slashedSize p.parts := by
  obtain ⟨anchor, parts⟩ := p
  have hwritten : toString ⟨anchor, parts⟩ = slashes anchor ++ "/".intercalate parts := by
    cases parts with
    | nil => exact absurd rfl hne
    | cons first rest => cases anchor <;> rfl
  rw [hwritten, String.utf8ByteSize_append, Nat.add_assoc, utf8ByteSize_intercalate hne]

theorem utf8ByteSize_below_le_append (p : Path) (front : List String) {names : List String}
    (hne : names ≠ []) :
    (p.below names).toString.utf8ByteSize ≤ (p.below (front ++ names)).toString.utf8ByteSize := by
  have hshort : (p.below names).toString.utf8ByteSize + 1 = _ :=
    utf8ByteSize_toString (by simp [hne])
  have hlong : (p.below (front ++ names)).toString.utf8ByteSize + 1 = _ :=
    utf8ByteSize_toString (by simp [hne])
  rw [parts_below, anchor_below, slashedSize_append] at hshort
  rw [parts_below, anchor_below, slashedSize_append, slashedSize_append] at hlong
  omega

theorem not_share_of_not_prefix {p : Path} (h : ¬ ['/', '/'] <+: p.toString.toList) :
    p.anchor ≠ .share := by
  intro hshare
  obtain ⟨anchor, parts⟩ := p
  subst hshare
  exact h (by simp [toString, slashes])

/-- The URI of a path that names no share. -/
def localUri (p : Path) : String :=
  String.ofList (Uri.opening ++ Uri.writePath (Uri.rooted p.toString.toList))

theorem not_prefix_of_wellFormed {p : Path} (h : p.WellFormed) (hanchor : p.anchor ≠ .share) :
    ¬ ['/', '/'] <+: p.toString.toList := by
  obtain ⟨anchor, parts⟩ := p
  have hhead := head?_intercalate_ne h
  cases anchor with
  | share => exact absurd rfl hanchor
  | root =>
      have hwritten : (toString ⟨.root, parts⟩).toList = '/' :: ("/".intercalate parts).toList := by
        simp [toString, slashes]
      rw [hwritten, List.cons_prefix_cons]
      rintro ⟨-, rest, hrest⟩
      rw [← hrest] at hhead
      exact hhead rfl
  | here =>
      rintro ⟨rest, hrest⟩
      cases parts with
      | nil => exact absurd hrest (by simp [toString])
      | cons first others =>
          have hwritten : (toString ⟨.here, first :: others⟩) = "/".intercalate (first :: others) := by
            simp [toString, slashes]
          rw [← hwritten, ← hrest] at hhead
          exact hhead rfl

theorem toUri_of_wellFormed {p : Path} (h : p.WellFormed) (hanchor : p.anchor ≠ .share) :
    p.toUri = .ok p.localUri := by
  rw [toUri, Uri.ofPath_of_not_share (not_prefix_of_wellFormed h hanchor)]
  rfl

end Path

end LozengeNav
