import LozengeNav.Proofs.Files.Plain
import LozengeNav.Proofs.Uri.Marker
import Mathlib

/-! # The way of a path through its URI and back

The path of a URI that was written holds no character that ends it, and neither
does its authority, so the URI is split where it was put together. A path comes
back unless it begins with a drive. A drive loses its slash, and what is read
then is a path from the current directory.
-/

namespace LozengeNav

namespace Uri

/-! ## Characters of a URI -/

theorem isSafe_lt {c : Char} (h : isSafe c = true) : c.toNat < 0x80 := by
  simp only [isSafe, Char.isAlphanum, Char.isAlpha, Char.isUpper, Char.isLower, Char.isDigit,
    Bool.or_eq_true, Bool.and_eq_true, decide_eq_true_eq, beq_iff_eq] at h
  rcases h with ((((((h | h) | h) | rfl) | rfl) | rfl) | rfl) | rfl
  · have hle : c.toNat ≤ 0x5A := h.2
    omega
  · have hle : c.toNat ≤ 0x7A := h.2
    omega
  · have hle : c.toNat ≤ 0x39 := h.2
    omega
  all_goals decide

def isWritten (c : Char) : Bool :=
  isSafe c || c == '%' || c == ':'

theorem isWritten_of_mem_quote {c : Char} {s : List Char} (h : c ∈ quote s) :
    isWritten c = true := by
  rcases isSafe_of_mem_quote h with hsafe | rfl
  · simp [isWritten, hsafe]
  · rfl

theorem isWritten_of_mem_writePath {c : Char} {s : List Char} (h : c ∈ writePath s) :
    isWritten c = true := by
  simpa [isWritten, or_assoc] using mem_writePath h

theorem ne_of_isWritten {c d : Char} (hc : isWritten c = true) (hd : isWritten d = false) :
    c ≠ d := by
  rintro rfl
  rw [hc] at hd
  cases hd

theorem isWritten_lt {c : Char} (h : isWritten c = true) : c.toNat < 0x80 := by
  simp only [isWritten, Bool.or_eq_true, beq_iff_eq] at h
  rcases h with (h | rfl) | rfl
  · exact isSafe_lt h
  all_goals decide

theorem slash_mem_quote {s : List Char} : '/' ∈ quote s ↔ '/' ∈ s := by
  constructor
  · intro h
    obtain ⟨c, hc, hslash⟩ := List.mem_flatMap.1 h
    rw [quoteChar] at hslash
    split at hslash
    · rwa [List.mem_singleton.1 hslash]
    · obtain ⟨b, -, hb⟩ := List.mem_flatMap.1 hslash
      have hdigit : ∀ n : Fin 16, hexDigit n ≠ '/' := by decide
      have hbyte : b.toNat < 0x100 := b.toNat_lt
      simp only [escape, List.mem_cons, List.not_mem_nil, or_false] at hb
      rcases hb with hb | hb | hb
      · cases hb
      · exact absurd hb.symm (hdigit ⟨b.toNat / 16, by omega⟩)
      · exact absurd hb.symm (hdigit ⟨b.toNat % 16, by omega⟩)
  · intro h
    exact List.mem_flatMap.2 ⟨'/', h, List.mem_singleton.2 rfl⟩

/-! ## Splitting what was put together -/

theorem checkAuthority_of_isWritten {s : List Char} (h : ∀ c ∈ s, isWritten c = true) :
    checkAuthority s = .ok () := by
  have hopened : s.contains '[' = false := by
    simpa using fun hmem => ne_of_isWritten (h _ hmem) (d := '[') (by decide) rfl
  have hclosed : s.contains ']' = false := by
    simpa using fun hmem => ne_of_isWritten (h _ hmem) (d := ']') (by decide) rfl
  have hdisguised : (s.any fun c => disguised.contains c.toNat) = false := by
    have hbeyond : ∀ n ∈ disguised, 0x80 ≤ n := by decide
    simp only [List.any_eq_false, List.contains_iff_mem]
    intro c hc hmem
    have hlow := isWritten_lt (h c hc)
    have hhigh := hbeyond _ hmem
    omega
  rw [checkAuthority]
  simp only [hopened, hclosed, hdisguised]
  rfl

theorem filter_isDropped_of_isWritten {s : List Char} (h : ∀ c ∈ s, isWritten c = true) :
    s.filter (fun c => !isDropped c) = s := by
  refine List.filter_eq_self.2 fun c hc => ?_
  have htab := ne_of_isWritten (d := '\t') (h c hc) (by decide)
  have hreturn := ne_of_isWritten (d := '\r') (h c hc) (by decide)
  have hfeed := ne_of_isWritten (d := '\n') (h c hc) (by decide)
  simp [isDropped, htab, hreturn, hfeed]

theorem splitAuthority_of_isWritten {authority : List Char}
    (hauthority : ∀ c ∈ authority, isWritten c = true) (hslash : '/' ∉ authority)
    (rest : List Char) :
    splitAuthority ('/' :: '/' :: (authority ++ '/' :: rest)) = (authority, '/' :: rest) := by
  have hends : ∀ c ∈ authority, (!endsAuthority c) = true := by
    intro c hc
    have hquery := ne_of_isWritten (d := '?') (hauthority c hc) (by decide)
    have hfragment := ne_of_isWritten (d := '#') (hauthority c hc) (by decide)
    have hnot : c ≠ '/' := fun h => hslash (h ▸ hc)
    simp [endsAuthority, hquery, hfragment, hnot]
  rw [splitAuthority, List.takeWhile_append_of_pos hends, List.dropWhile_append_of_pos hends]
  simp [endsAuthority]

/-- A URI is split into the authority and the path that it was put together from. -/
theorem split_written {authority path : List Char} (hauthority : ∀ c ∈ authority, isWritten c = true)
    (hslash : '/' ∉ authority) (hpath : ∀ c ∈ path, isWritten c = true)
    (hhead : path.head? = some '/') :
    split (opening ++ (authority ++ path)) = .ok ⟨fileScheme, authority, path⟩ := by
  obtain ⟨rest, rfl⟩ : ∃ rest, path = '/' :: rest := by
    cases path with
    | nil => cases hhead
    | cons c rest => exact ⟨rest, by rw [List.head?_cons, Option.some_inj] at hhead; rw [hhead]⟩
  -- Nothing is stripped or dropped, and no query or fragment cut off.
  have hstart : (opening ++ (authority ++ '/' :: rest)).dropWhile (fun c => decide (c.toNat ≤ 0x20)) =
      opening ++ (authority ++ '/' :: rest) := rfl
  have hkept : (opening ++ (authority ++ '/' :: rest)).filter (fun c => !isDropped c) =
      opening ++ (authority ++ '/' :: rest) := by
    have hwritten := List.forall_mem_append.2 ⟨hauthority, hpath⟩
    rw [List.filter_append, filter_isDropped_of_isWritten hwritten]
    rfl
  have hscheme : splitScheme (opening ++ (authority ++ '/' :: rest)) =
      (fileScheme, '/' :: '/' :: (authority ++ '/' :: rest)) := rfl
  have hfragment : ('/' :: rest).takeWhile (· ≠ '#') = '/' :: rest := by
    refine List.takeWhile_eq_self_iff.2 fun c hc => ?_
    simpa using ne_of_isWritten (d := '#') (hpath c hc) (by decide)
  have hquery : ('/' :: rest).takeWhile (· ≠ '?') = '/' :: rest := by
    refine List.takeWhile_eq_self_iff.2 fun c hc => ?_
    simpa using ne_of_isWritten (d := '?') (hpath c hc) (by decide)
  rw [split, hstart, hkept, hscheme]
  simp only [splitAuthority_of_isWritten hauthority hslash rest,
    checkAuthority_of_isWritten hauthority, hfragment, hquery]
  rfl

theorem toPath_share {authority path : List Char} (hne : authority ≠ []) (hslash : '/' ∉ authority)
    (hhead : path.head? = some '/') (hdrive : hasDrive path = false) :
    toPath (opening ++ (quote authority ++ writePath path)) = .ok ('/' :: '/' :: (authority ++ path)) := by
  have hquoted : (writePath path).head? = some '/' := by
    rw [writePath_of_hasDrive hdrive]
    cases path with
    | nil => cases hhead
    | cons c rest =>
        obtain rfl : c = '/' := by simpa using hhead
        rfl
  have hpathne : path ≠ [] := by
    rintro rfl
    cases hhead
  rw [toPath, split_written (fun c hc => isWritten_of_mem_quote hc)
    (fun h => hslash (slash_mem_quote.1 h)) (fun c hc => isWritten_of_mem_writePath hc) hquoted]
  simp [bind, Except.bind, pure, Except.pure, writePath_of_hasDrive hdrive, unquote_quote, joinParts,
    hne, hpathne]

theorem toPath_drive {c : Char} (h : c.isAlpha = true) (rest : List Char) :
    toPath (opening ++ writePath ('/' :: c :: ':' :: rest)) = .ok (c.toLower :: ':' :: rest) := by
  obtain ⟨hletter, hlower⟩ := letter_toLower h
  have hunquoted : unquote ('/' :: c.toLower :: ':' :: quote rest) = '/' :: c.toLower :: ':' :: rest := by
    have hpercent : c.toLower ≠ '%' := ne_percent_of_isSafe (isSafe_toLower h)
    have hencode : unquoteBytes ('/' :: c.toLower :: ':' :: quote rest) =
        Text.Utf8.encode ('/' :: c.toLower :: ':' :: rest) := by
      rw [unquoteBytes_cons _ (by decide), unquoteBytes_cons _ hpercent,
        unquoteBytes_cons _ (by decide), unquoteBytes_quote]
      rfl
    rw [unquote, hencode, Text.Utf8.decodeLossy_encode]
  have hsplit : split (opening ++ ([] ++ writePath ('/' :: c :: ':' :: rest))) =
      .ok ⟨fileScheme, [], writePath ('/' :: c :: ':' :: rest)⟩ :=
    split_written (by simp) (by simp) (fun d hd => isWritten_of_mem_writePath hd)
      (by rw [writePath_drive h]; rfl)
  rw [List.nil_append] at hsplit
  have hempty : unquote [] = [] := rfl
  rw [toPath, hsplit]
  simp only [bind, Except.bind, if_true]
  rw [writePath_drive h, hunquoted, hempty]
  simp [joinParts, hletter, hlower, pure, Except.pure]

end Uri

namespace Path

/-! ## Paths -/

/-- A path from the root, of names. -/
structure Absolute (p : Path) : Prop where
  rooted : p.isAbsolute = true
  names : ∀ part ∈ p.parts, IsName part

theorem Absolute.wellFormed {p : Path} (h : p.Absolute) : p.WellFormed :=
  fun part hpart => ⟨(h.names part hpart).1, (h.names part hpart).2.1⟩

theorem Absolute.parent {p : Path} (h : p.Absolute) : p.parent.Absolute where
  rooted := h.rooted
  names part hpart := h.names part (List.dropLast_subset _ hpart)

theorem Absolute.below {p : Path} (h : p.Absolute) {names : List String}
    (hnames : ∀ name ∈ names, IsName name) : (p.below names).Absolute where
  rooted := h.rooted
  names part hpart := (List.mem_append.1 hpart).elim (h.names part) (hnames part)

theorem Absolute.child {p : Path} (h : p.Absolute) {name : String} (hname : IsName name) :
    (p.child name).Absolute :=
  h.below (List.forall_mem_singleton.2 hname)

/-- The names of a path that stand in the path of its URI: the first name of a share is the
authority. -/
def located (p : Path) : List String :=
  match p.anchor with
  | .share => p.parts.tail
  | _ => p.parts

/-- Nothing in the URI of a path looks like a drive. -/
def Driveless (p : Path) : Prop :=
  ∀ first ∈ p.located.head?, Uri.hasDrive ('/' :: first.toList) = false

theorem toString_share (parts : List String) :
    (toString ⟨.share, parts⟩).toList = '/' :: '/' :: ("/".intercalate parts).toList := by
  have hslashes : toString ⟨.share, parts⟩ = "//" ++ "/".intercalate parts := rfl
  rw [hslashes, String.toList_append]
  rfl

theorem toUri_share {first : String} {rest : List String} (hslash : '/' ∉ first.toList)
    (hrest : rest ≠ []) :
    toUri ⟨.share, first :: rest⟩ = .ok (String.ofList (Uri.opening ++
      (Uri.quote first.toList ++ Uri.writePath ('/' :: ("/".intercalate rest).toList)))) := by
  have hwritten : ("/".intercalate (first :: rest)).toList =
      first.toList ++ '/' :: ("/".intercalate rest).toList := by
    obtain ⟨second, others, rfl⟩ := List.exists_cons_of_ne_nil hrest
    rw [String.intercalate_cons_cons, String.toList_append, String.toList_append, List.append_assoc]
    rfl
  have hends : ∀ c ∈ first.toList, decide (c ≠ '/') = true := by
    intro c hc
    rw [decide_eq_true_eq]
    rintro rfl
    exact hslash hc
  rw [toUri, toString_share, hwritten, Uri.ofPath, Uri.splitShare?, if_pos (by simp),
    List.takeWhile_append_of_pos hends, List.dropWhile_append_of_pos hends]
  simp [Except.map]

theorem toUri_share_short {parts : List String} (h : ∀ part ∈ parts, '/' ∉ part.toList)
    (hlength : parts.length ≤ 1) : toUri ⟨.share, parts⟩ = .error .noShareEnd := by
  have hnone : ("/".intercalate parts).toList.contains '/' = false := by
    match parts, hlength with
    | [], _ => rfl
    | [first], _ =>
        rw [String.intercalate_singleton]
        simpa using h first List.mem_cons_self
  rw [toUri, toString_share, Uri.ofPath, Uri.splitShare?, hnone]
  rfl

theorem anchorOf_share {s : List Char} (h : s.head? ≠ some '/') :
    anchorOf ('/' :: '/' :: s) = .share := by
  rw [anchorOf]
  rintro rest rfl
  exact h rfl

theorem ofString_share {parts : List String} (h : ∀ part ∈ parts, IsName part) :
    ofString (toString ⟨.share, parts⟩) = ⟨.share, parts⟩ := by
  have hhead : ("/".intercalate parts).toList.head? ≠ some '/' :=
    head?_intercalate_ne fun part hpart => ⟨(h part hpart).1, (h part hpart).2.1⟩
  rw [ofString, toString_share, anchorOf_share hhead, partsOf_slash, partsOf_slash,
    partsOf_intercalate h]

/-- A written path is as short as it gets: it begins with a single slash, no name in it is empty or
a single dot, and no slash ends it. -/
def isNormal : List Char → Bool
  | '/' :: rest => rest.isEmpty || (rest.splitOn '/').all fun piece => piece ≠ [] && piece ≠ ['.']
  | _ => false

/-- A path that is as short as it gets is read from the root, and written as it was. -/
theorem exists_parts_of_isNormal {s : String} (h : isNormal s.toList = true) :
    ∃ parts, ofString s = ⟨.root, parts⟩ ∧ (∀ part ∈ parts, IsName part) ∧
      toString ⟨.root, parts⟩ = s := by
  unfold isNormal at h
  split at h
  · next rest hs =>
      rw [Bool.or_eq_true] at h
      rcases h with hempty | hpieces
      · have hnil : rest = [] := List.isEmpty_iff.1 hempty
        rw [hnil] at hs
        obtain rfl : s = "/" := String.toList_inj.1 hs
        exact ⟨[], rfl, by simp, rfl⟩
      · have hkept : (rest.splitOn '/').filter (fun p => p ≠ [] && p ≠ ['.']) = rest.splitOn '/' :=
          List.filter_eq_self.2 (List.all_eq_true.1 hpieces)
        have hhead : rest.head? ≠ some '/' := by
          intro hslash
          obtain ⟨more, rfl⟩ : ∃ more, rest = '/' :: more := by
            cases rest with
            | nil => cases hslash
            | cons c more => exact ⟨more, by rw [List.head?_cons, Option.some_inj] at hslash; rw [hslash]⟩
          rw [List.splitOn_cons_eq_if_modifyHead] at hpieces
          simp at hpieces
        have hread : ofString s = ⟨.root, (rest.splitOn '/').map String.ofList⟩ := by
          rw [ofString, hs, anchorOf_root hhead, partsOf_slash, partsOf, hkept]
        refine ⟨_, hread, fun part hpart => ?_, ?_⟩
        · have hmem : part ∈ (ofString s).parts := by rwa [hread]
          exact isName_of_mem_ofString hmem
        · apply String.toList_inj.1
          have hslash : "/".toList = ['/'] := rfl
          rw [toString_root, hs, String.toList_intercalate, List.map_map, hslash]
          have hback : String.toList ∘ String.ofList = id := by
            funext l
            exact String.toList_ofList
          rw [hback, List.map_id, List.intercalate_splitOn]
  · cases h

/-- A path is read back from its URI if it holds names only and nothing looks like a drive. -/
theorem ofUri_of_toUri {p : Path} (habsolute : p.Absolute) (hdrive : p.Driveless) {uri : String}
    (huri : p.toUri = .ok uri) : ofUri uri = .ok p := by
  obtain ⟨anchor, parts⟩ := p
  obtain ⟨habsolute, hnames⟩ := habsolute
  cases anchor with
  | here => cases habsolute
  | root => exact (plain_iff.2 ⟨hnames, hdrive⟩).ofUri_of_toUri huri
  | share =>
      have hslash : ∀ part ∈ parts, '/' ∉ part.toList := fun part hpart => (hnames part hpart).2.1
      match parts, hnames, hdrive with
      | [], _, _ =>
          rw [toUri_share_short hslash (Nat.zero_le 1)] at huri
          cases huri
      | [first], _, _ =>
          rw [toUri_share_short hslash (Nat.le_refl 1)] at huri
          cases huri
      | first :: second :: rest, hnames, hdrive =>
          have hfirst := hnames first List.mem_cons_self
          have hpath : Uri.hasDrive ('/' :: ("/".intercalate (second :: rest)).toList) = false := by
            rw [hasDrive_intercalate]
            exact hdrive second rfl
          have hwritten : '/' :: '/' :: (first.toList ++ '/' :: ("/".intercalate (second :: rest)).toList) =
              (toString ⟨.share, first :: second :: rest⟩).toList := by
            rw [toString_share, String.intercalate_cons_cons, String.toList_append,
              String.toList_append, List.append_assoc]
            rfl
          rw [toUri_share hfirst.2.1 (List.cons_ne_nil _ _), Except.ok.injEq] at huri
          rw [ofUri, ← huri, String.toList_ofList, Uri.toPath_share
            (by simpa using hfirst.1) hfirst.2.1 rfl hpath, hwritten]
          rw [Except.map, String.ofList_toList, ofString_share hnames]

/-- A path that begins with a drive is read as another one, from the current directory. -/
theorem ofUri_drive {p : Path} (hroot : p.anchor = .root) (hwell : p.WellFormed)
    (hdrive : Uri.hasDrive p.toString.toList = true) {uri : String} (huri : p.toUri = .ok uri) :
    ofUri uri ≠ .ok p := by
  obtain hnone | ⟨c, rest, hlist, halpha⟩ := Uri.hasDrive_cases p.toString.toList
  · rw [hdrive] at hnone
    cases hnone
  · have hrooted : Uri.rooted p.toString.toList = '/' :: c :: ':' :: rest := by
      rw [hlist]
      rfl
    have hletter : c.toLower ≠ '/' := by
      intro hslash
      have halphaLower := (Uri.letter_toLower halpha).1
      rw [hslash] at halphaLower
      cases halphaLower
    rw [toUri_of_wellFormed hwell (by rw [hroot]; exact fun h => by cases h), Except.ok.injEq] at huri
    rw [ofUri, ← huri, localUri, String.toList_ofList, hrooted, Uri.toPath_drive halpha]
    have hhere : (ofString (String.ofList (c.toLower :: ':' :: rest))).anchor = .here := by
      rw [ofString, String.toList_ofList, anchorOf_of_head? (by simpa using hletter)]
    intro heq
    rw [Except.map, Except.ok.injEq] at heq
    rw [← heq, hhere] at hroot
    cases hroot

theorem toString_ofString {s : String} (h : isNormal s.toList = true) :
    (ofString s).toString = s := by
  obtain ⟨parts, hread, -, hwritten⟩ := exists_parts_of_isNormal h
  rw [hread, hwritten]

theorem plain_ofString {s : String} (h : isNormal s.toList = true)
    (hdrive : Uri.hasDrive s.toList = false) : (ofString s).Plain := by
  have hwritten := toString_ofString h
  obtain ⟨parts, hread, hnames, -⟩ := exists_parts_of_isNormal h
  refine ⟨by rw [hread], by rwa [hread], ?_⟩
  rwa [hwritten]

/-- A path comes back from its URI if and only if it does not begin with a drive, so no two such
paths have one URI. -/
theorem ofUri_toUri_iff {s : String} (hnormal : isNormal s.toList = true) :
    ∃ uri, (ofString s).toUri = .ok uri ∧ (ofString s).toString = s ∧
      (ofUri uri = .ok (ofString s) ↔ Uri.hasDrive s.toList = false) ∧
      (Uri.hasDrive s.toList = false → ∀ other : String, isNormal other.toList = true →
        Uri.hasDrive other.toList = false → (ofString other).toUri = .ok uri → other = s) := by
  obtain ⟨parts, hread, -, -⟩ := exists_parts_of_isNormal hnormal
  have hwell : (ofString s).WellFormed := wellFormed_ofString s
  have hroot : (ofString s).anchor = .root := by rw [hread]
  have huri : (ofString s).toUri = .ok (ofString s).localUri :=
    toUri_of_wellFormed hwell (by rw [hroot]; exact fun h => by cases h)
  refine ⟨_, huri, toString_ofString hnormal, ⟨fun hsame => ?_, fun hdrive => ?_⟩, ?_⟩
  · cases hdrive : Uri.hasDrive s.toList with
    | false => rfl
    | true =>
        have hwritten : Uri.hasDrive (ofString s).toString.toList = true := by
          rw [toString_ofString hnormal, hdrive]
        exact absurd hsame (ofUri_drive hroot hwell hwritten huri)
  · exact (plain_ofString hnormal hdrive).ofUri_of_toUri huri
  · intro hdrive other hother hfree hsame
    have hown := (plain_ofString hnormal hdrive).ofUri_of_toUri huri
    have hback := (plain_ofString hother hfree).ofUri_of_toUri hsame
    rw [hown, Except.ok.injEq] at hback
    rw [← toString_ofString hother, ← hback, toString_ofString hnormal]

theorem ofUri_toUri_iff_reserved :
    isNormal "/a %23#?;𝒳/..".toList = true ∧ ∃ uri, (ofString "/a %23#?;𝒳/..").toUri = .ok uri ∧
      ofUri uri = .ok (ofString "/a %23#?;𝒳/..") := by
  have hnormal : isNormal "/a %23#?;𝒳/..".toList = true := by decide
  obtain ⟨uri, huri, -, hback, -⟩ := ofUri_toUri_iff hnormal
  exact ⟨hnormal, uri, huri, hback.2 (by decide)⟩

end Path

end LozengeNav
