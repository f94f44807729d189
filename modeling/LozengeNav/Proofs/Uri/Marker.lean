import LozengeNav.Proofs.Ancestry.Descent
import LozengeNav.Proofs.Uri
import Mathlib.Data.List.Infix

/-! # The path marker and the URI of a path

The path marker is looked for in a URI, where the scheme stands before the path,
the characters of the path that are not safe are escaped and the letter of a
drive is in lower case. So a marker that occurs in the path can be missed, and
one that does not occur there can be found.

Each character of the URI is marked here as a character of the path that stands
for itself or as one that was added when the URI was written. An occurrence of
the marker in the URI is then verbatim, and an occurrence in the path, or it is
stray: it holds a character that was added.
-/

namespace LozengeNav

namespace Uri

/-! ## Where the characters of a URI come from -/

/-- A character of the URI of a path. -/
inductive Glyph where
  /-- A character of the path that stands for itself. -/
  | own (c : Char)
  /-- A character of the scheme or of an escape, or a letter that is not in upper case any more. -/
  | added (c : Char)
  deriving DecidableEq, Repr

namespace Glyph

def char : Glyph → Char
  | own c => c
  | added c => c

def isAdded : Glyph → Bool
  | own _ => false
  | added _ => true

/-- What a character of a path is written as. -/
def ofChar (c : Char) : List Glyph :=
  if isSafe c then [own c] else (quoteChar c).map added

/-- What the letter of a drive is written as. -/
def ofLetter (c : Char) : Glyph :=
  if c.toLower = c then own c else added c.toLower

/-- What a path is written as. -/
def ofPath (p : List Char) : List Glyph :=
  match hasDrive p, p with
  | true, slash :: c :: colon :: rest =>
    own slash :: ofLetter c :: own colon :: rest.flatMap ofChar
  | _, _ => p.flatMap ofChar

@[simp] theorem char_own (c : Char) : (own c).char = c := rfl

@[simp] theorem char_added (c : Char) : (added c).char = c := rfl

@[simp] theorem map_char_own (s : List Char) : (s.map own).map char = s := by
  simp [Function.comp_def]

@[simp] theorem map_char_added (s : List Char) : (s.map added).map char = s := by
  simp [Function.comp_def]

@[simp] theorem map_char_ofChar (c : Char) : (ofChar c).map char = quoteChar c := by
  rw [ofChar]
  split
  · next hsafe =>
      rw [quoteChar, if_pos hsafe]
      rfl
  · exact map_char_added _

theorem map_char_flatMap (s : List Char) : (s.flatMap ofChar).map char = quote s := by
  simp [List.map_flatMap, quote]

@[simp] theorem char_ofLetter (c : Char) : (ofLetter c).char = c.toLower := by
  rw [ofLetter]
  split
  · next h => rw [char_own, h]
  · rfl

theorem ofPath_of_hasDrive {p : List Char} (h : hasDrive p = false) :
    ofPath p = p.flatMap ofChar := by
  unfold ofPath
  rw [h]

theorem ofPath_drive {c : Char} {rest : List Char} (h : c.isAlpha = true) :
    ofPath ('/' :: c :: ':' :: rest) =
      own '/' :: ofLetter c :: own ':' :: rest.flatMap ofChar := by
  have hdrive : hasDrive ('/' :: c :: ':' :: rest) = true := h
  unfold ofPath
  rw [hdrive]

theorem map_char_ofPath (p : List Char) : (ofPath p).map char = writePath p := by
  rcases hasDrive_cases p with hdrive | ⟨c, rest, rfl, halpha⟩
  · rw [ofPath_of_hasDrive hdrive, map_char_flatMap, writePath_of_hasDrive hdrive]
  · rw [ofPath_drive halpha, writePath_drive halpha]
    simp [map_char_flatMap]

theorem eq_map_own {g : List Glyph} (h : ∀ x ∈ g, x.isAdded = false) :
    g = (g.map char).map own := by
  induction g with
  | nil => rfl
  | cons x g ih =>
      rw [List.forall_mem_cons] at h
      cases x with
      | own c => exact congrArg (own c :: ·) (ih h.2)
      | added c => cases h.1

end Glyph

def glyphs (p : List Char) : List Glyph :=
  opening.map .added ++ Glyph.ofPath p

theorem map_char_glyphs (p : List Char) : (glyphs p).map Glyph.char = opening ++ writePath p := by
  rw [glyphs, List.map_append, Glyph.map_char_added, Glyph.map_char_ofPath]

/-- A text occurs in the URI of a path among the characters of the path that stand for
themselves. -/
def Verbatim (m p : List Char) : Prop :=
  m.map Glyph.own <:+: glyphs p

/-- A text occurs in the URI of a path, with a character that was added. -/
def Stray (m p : List Char) : Prop :=
  ∃ g, g <:+: glyphs p ∧ g.map Glyph.char = m ∧ ∃ x ∈ g, x.isAdded = true

/-- What occurs in the URI of a path is verbatim or stray. -/
theorem occurs_iff {m p : List Char} : m <:+: opening ++ writePath p ↔ Verbatim m p ∨ Stray m p := by
  rw [← map_char_glyphs, List.infix_map_iff]
  constructor
  · rintro ⟨g, hg, rfl⟩
    by_cases hadded : ∃ x ∈ g, x.isAdded = true
    · exact .inr ⟨g, hg, rfl, hadded⟩
    · left
      rw [Verbatim, ← Glyph.eq_map_own (by simpa using hadded)]
      exact hg
  · rintro (h | ⟨g, hg, rfl, -⟩)
    · exact ⟨_, h, (Glyph.map_char_own m).symm⟩
    · exact ⟨g, hg, rfl⟩

/-! ## Verbatim occurrences -/

/-- Every character of a text is written as itself or replaced. -/
inductive Written : List Char → List Glyph → Prop
  | nil : Written [] []
  | own {c : Char} {p : List Char} {g : List Glyph} :
      Written p g → Written (c :: p) (.own c :: g)
  | added {c : Char} {p s : List Char} {g : List Glyph} :
      s ≠ [] → Written p g → Written (c :: p) (s.map .added ++ g)

theorem quoteChar_ne_nil (c : Char) : quoteChar c ≠ [] := by
  rw [quoteChar]
  split
  · exact List.cons_ne_nil c []
  · obtain ⟨b, bytes, hbytes⟩ := List.exists_cons_of_ne_nil (Text.Utf8.encodeChar_ne_nil c)
    rw [hbytes]
    exact List.cons_ne_nil _ _

theorem written_flatMap (p : List Char) : Written p (p.flatMap Glyph.ofChar) := by
  induction p with
  | nil => exact .nil
  | cons c p ih =>
      rw [List.flatMap_cons, Glyph.ofChar]
      split
      · exact .own ih
      · exact .added (quoteChar_ne_nil c) ih

theorem written_ofPath (p : List Char) : Written p (Glyph.ofPath p) := by
  rcases hasDrive_cases p with hdrive | ⟨c, rest, rfl, halpha⟩
  · rw [Glyph.ofPath_of_hasDrive hdrive]
    exact written_flatMap p
  · have hrest : Written (':' :: rest) (.own ':' :: rest.flatMap Glyph.ofChar) :=
      .own (written_flatMap rest)
    rw [Glyph.ofPath_drive halpha, Glyph.ofLetter]
    refine .own ?_
    split
    · exact .own hrest
    · exact .added (s := [c.toLower]) (List.cons_ne_nil _ _) hrest

theorem own_infix_added_iff {m s : List Char} {g : List Glyph} :
    m.map Glyph.own <:+: s.map .added ++ g ↔ m.map Glyph.own <:+: g := by
  induction s with
  | nil => rfl
  | cons c s ih =>
      rw [List.map_cons, List.cons_append, List.infix_cons_iff, ih]
      -- only the empty text begins at an added character
      refine or_iff_right_of_imp fun h => ?_
      cases m with
      | nil => exact List.nil_infix
      | cons d m => cases (List.cons_prefix_cons.1 h).1

theorem Written.isPrefix {p : List Char} {g : List Glyph} (h : Written p g) {m : List Char}
    (hm : m.map Glyph.own <+: g) : m <+: p := by
  induction h generalizing m with
  | nil => simpa using hm
  | own _ ih =>
      cases m with
      | nil => exact List.nil_prefix
      | cons d m =>
          rw [List.map_cons, List.cons_prefix_cons, Glyph.own.injEq] at hm
          exact List.cons_prefix_cons.2 ⟨hm.1, ih hm.2⟩
  | @added c p s g hs =>
      obtain ⟨a, s, rfl⟩ := List.exists_cons_of_ne_nil hs
      cases m with
      | nil => exact List.nil_prefix
      | cons d m => cases (List.cons_prefix_cons.1 hm).1

theorem Written.isInfix {p : List Char} {g : List Glyph} (h : Written p g) {m : List Char}
    (hm : m.map Glyph.own <:+: g) : m <:+: p := by
  induction h with
  | nil => simpa using hm
  | @own c p g hp ih =>
      rcases List.infix_cons_iff.1 hm with hstart | hrest
      · exact (Written.isPrefix (.own hp) hstart).isInfix
      · exact List.infix_cons (ih hrest)
  | added _ _ ih => exact List.infix_cons (ih (own_infix_added_iff.1 hm))

theorem Verbatim.occurs {m p : List Char} (h : Verbatim m p) : m <:+: p :=
  (written_ofPath p).isInfix (own_infix_added_iff.1 h)

theorem flatMap_of_safe {m : List Char} (h : ∀ c ∈ m, isSafe c = true) :
    m.flatMap Glyph.ofChar = m.map .own := by
  induction m with
  | nil => rfl
  | cons c m ih =>
      rw [List.forall_mem_cons] at h
      rw [List.flatMap_cons, ih h.2, Glyph.ofChar, if_pos h.1]
      rfl

theorem isSafe_of_own {c : Char} {s : List Char} (h : .own c ∈ s.flatMap Glyph.ofChar) :
    isSafe c = true := by
  obtain ⟨d, -, hd⟩ := List.mem_flatMap.1 h
  rw [Glyph.ofChar] at hd
  split at hd
  · next hsafe =>
      rw [List.mem_singleton, Glyph.own.injEq] at hd
      rw [hd, hsafe]
  · simp at hd

/-- Without a drive the verbatim occurrences are those of safe characters. -/
theorem verbatim_iff {m p : List Char} (hdrive : hasDrive p = false) :
    Verbatim m p ↔ m <:+: p ∧ ∀ c ∈ m, isSafe c = true := by
  constructor
  · intro h
    refine ⟨h.occurs, fun c hc => ?_⟩
    rw [Verbatim, glyphs, own_infix_added_iff, Glyph.ofPath_of_hasDrive hdrive] at h
    exact isSafe_of_own (h.subset (List.mem_map_of_mem hc))
  · rintro ⟨⟨front, rear, rfl⟩, hsafe⟩
    rw [Verbatim, glyphs, own_infix_added_iff, Glyph.ofPath_of_hasDrive hdrive, List.flatMap_append,
      List.flatMap_append, flatMap_of_safe hsafe]
    exact List.infix_append _ _ _

/-! ## Stray occurrences -/

def isEscape (c : Char) : Bool :=
  c == '%' || (List.range 16).any fun n => c == hexDigit n

/-- A text that looks like nothing that is added: it has no character of an escape, and no end of
the scheme begins with it or begins it. -/
def Unmistakable (m : List Char) : Prop :=
  (∀ c ∈ m, isEscape c = false) ∧ ∀ t ∈ opening.tails, t ≠ [] → ¬ m <+: t ∧ ¬ t <+: m

instance (m : List Char) : Decidable (Unmistakable m) :=
  @instDecidableAnd _ _ (List.decidableBAll _ _) (List.decidableBAll _ _)

theorem isEscape_hexDigit {n : Nat} (h : n < 16) : isEscape (hexDigit n) = true := by
  rw [isEscape, Bool.or_eq_true, List.any_eq_true]
  exact .inr ⟨n, List.mem_range.2 h, beq_self_eq_true _⟩

theorem isEscape_of_added {c : Char} {s : List Char} (h : .added c ∈ s.flatMap Glyph.ofChar) :
    isEscape c = true := by
  obtain ⟨d, -, hd⟩ := List.mem_flatMap.1 h
  rw [Glyph.ofChar] at hd
  split at hd
  · simp at hd
  · next hsafe =>
      obtain ⟨e, hc, heq⟩ := List.mem_map.1 hd
      obtain rfl : e = c := Glyph.added.inj heq
      rw [quoteChar, if_neg hsafe] at hc
      obtain ⟨b, -, hb⟩ := List.mem_flatMap.1 hc
      have hbyte : b.toNat < 0x100 := b.toNat_lt
      simp only [escape, List.mem_cons, List.not_mem_nil, or_false] at hb
      rcases hb with rfl | rfl | rfl
      · rfl
      · exact isEscape_hexDigit (by omega)
      · exact isEscape_hexDigit (by omega)

/-- Without a drive an unmistakable text has no stray occurrence. -/
theorem Unmistakable.not_stray {m p : List Char} (h : Unmistakable m) (hdrive : hasDrive p = false) :
    ¬ Stray m p := by
  rintro ⟨g, hg, rfl, x, hx, hadded⟩
  have hpath : ¬ g <:+: p.flatMap Glyph.ofChar := by
    intro hinside
    cases x with
    | own c => cases hadded
    | added c =>
        have hescape := isEscape_of_added (hinside.subset hx)
        rw [h.1 c (List.mem_map_of_mem hx)] at hescape
        cases hescape
  rw [glyphs, Glyph.ofPath_of_hasDrive hdrive, List.infix_append_iff] at hg
  rcases hg with hscheme | hinside | ⟨t, rest, rfl, ht, hrest⟩
  · -- within the scheme
    obtain ⟨t, hstart, hend⟩ := List.infix_iff_prefix_suffix.1 hscheme
    have hne : t ≠ [] := by
      rintro rfl
      rw [List.prefix_nil] at hstart
      rw [hstart] at hx
      cases hx
    refine (h.2 (t.map Glyph.char) ?_ (by simpa using hne)).1 (hstart.map Glyph.char)
    rw [List.mem_tails, ← Glyph.map_char_added opening]
    exact hend.map Glyph.char
  · exact hpath hinside
  · -- from the scheme into the path
    by_cases hne : t = []
    · subst hne
      exact hpath hrest.isInfix
    · refine (h.2 (t.map Glyph.char) ?_ (by simpa using hne)).2 ?_
      · rw [List.mem_tails, ← Glyph.map_char_added opening]
        exact ht.map Glyph.char
      · rw [List.map_append]
        exact List.prefix_append _ _

example : Unmistakable "appeldryck".toList := by decide

/-! ## Texts that no URI holds -/

theorem letter_toLower {c : Char} (h : c.isAlpha = true) :
    c.toLower.isAlpha = true ∧ c.toLower.toLower = c.toLower := by
  have hall : ∀ n : Fin 128, (Char.ofNat n).isAlpha = true →
      (Char.ofNat n).toLower.isAlpha = true ∧
        (Char.ofNat n).toLower.toLower = (Char.ofNat n).toLower := by
    decide
  have hlt : c.toNat < 128 := by
    have hletter := Text.isAlpha_iff.1 h
    omega
  have hself := hall ⟨c.toNat, hlt⟩
  rw [Char.ofNat_toNat] at hself
  exact hself h

theorem isSafe_toLower {c : Char} (h : c.isAlpha = true) : isSafe c.toLower = true := by
  simp [isSafe, Char.isAlphanum, (letter_toLower h).1]

theorem mem_writePath {c : Char} {p : List Char} (h : c ∈ writePath p) :
    isSafe c = true ∨ c = '%' ∨ c = ':' := by
  have hquote : ∀ s : List Char, c ∈ quote s → isSafe c = true ∨ c = '%' ∨ c = ':' :=
    fun s hs => (isSafe_of_mem_quote hs).imp_right .inl
  rcases hasDrive_cases p with hdrive | ⟨letter, rest, rfl, halpha⟩
  · rw [writePath_of_hasDrive hdrive] at h
    exact hquote p h
  · simp only [writePath_drive halpha, List.mem_cons] at h
    rcases h with rfl | rfl | rfl | hrest
    · exact .inl rfl
    · exact .inl (isSafe_toLower halpha)
    · exact .inr (.inr rfl)
    · exact hquote rest hrest

/-- A text that occurs in the URI of a path has safe characters, percent signs and colons only. -/
theorem isSafe_of_occurs {m p : List Char} (h : m <:+: opening ++ writePath p) {c : Char}
    (hc : c ∈ m) : isSafe c = true ∨ c = '%' ∨ c = ':' := by
  rcases List.mem_append.1 (h.subset hc) with hscheme | hpath
  · simp only [opening, List.mem_cons, List.not_mem_nil, or_false] at hscheme
    rcases hscheme with rfl | rfl | rfl | rfl | rfl | rfl | rfl <;> simp [isSafe]
  · exact mem_writePath hpath

end Uri

namespace BaseClass

/-- The marker is found in the URI of a path where it occurs verbatim or astray. This agrees with
the path exactly if it occurs verbatim, or if it has a stray occurrence just when it occurs in the
path. Without a drive the verbatim occurrences are those of safe characters, so that for an
unmistakable marker it agrees exactly if the path does not hold the marker or all its characters are
safe. A marker with a character that no URI holds is never found. -/
theorem definedIn_ofPath (b : BaseClass) {p : String} (hroot : ['/'] <+: p.toList)
    (hshare : ¬ ['/', '/'] <+: p.toList) :
    ∃ uri, (Uri.ofPath p.toList).map String.ofList = .ok uri ∧
      (b.definedIn uri = true ↔
        Uri.Verbatim b.pathMarker.toList p.toList ∨ Uri.Stray b.pathMarker.toList p.toList) ∧
      ((b.definedIn uri = true ↔ b.pathMarker.toList <:+: p.toList) ↔
        Uri.Verbatim b.pathMarker.toList p.toList ∨
          (b.pathMarker.toList <:+: p.toList ↔ Uri.Stray b.pathMarker.toList p.toList)) ∧
      (Uri.hasDrive p.toList = false →
        (Uri.Verbatim b.pathMarker.toList p.toList ↔
          b.pathMarker.toList <:+: p.toList ∧ ∀ c ∈ b.pathMarker.toList, Uri.isSafe c = true) ∧
        (Uri.Unmistakable b.pathMarker.toList →
          ((b.definedIn uri = true ↔ b.pathMarker.toList <:+: p.toList) ↔
            (b.pathMarker.toList <:+: p.toList → ∀ c ∈ b.pathMarker.toList, Uri.isSafe c = true)))) ∧
      ((∃ c ∈ b.pathMarker.toList, Uri.isSafe c = false ∧ c ≠ '%' ∧ c ≠ ':') →
        b.definedIn uri = false) := by
  have hfound : b.definedIn (String.ofList (Uri.opening ++ Uri.writePath p.toList)) = true ↔
      Uri.Verbatim b.pathMarker.toList p.toList ∨ Uri.Stray b.pathMarker.toList p.toList := by
    rw [definedIn_iff, Marks, String.toList_ofList, Uri.occurs_iff]
  have huri : (Uri.ofPath p.toList).map String.ofList =
      .ok (String.ofList (Uri.opening ++ Uri.writePath p.toList)) := by
    obtain ⟨rest, hrest⟩ := hroot
    rw [Uri.ofPath_of_not_share hshare, ← hrest]
    rfl
  refine ⟨_, huri, hfound, ?_, fun hdrive => ?_, ?_⟩
  · rw [hfound]
    by_cases hverbatim : Uri.Verbatim b.pathMarker.toList p.toList
    · simp [hverbatim, hverbatim.occurs]
    · simp [hverbatim, iff_comm]
  · have hverbatim := Uri.verbatim_iff (m := b.pathMarker.toList) hdrive
    refine ⟨hverbatim, fun hplain => ?_⟩
    rw [hfound, or_iff_left (hplain.not_stray hdrive), hverbatim, and_iff_left_iff_imp]
  · rintro ⟨c, hc, hsafe, hpercent, hcolon⟩
    rw [← Bool.not_eq_true, hfound, ← Uri.occurs_iff]
    intro hin
    rcases Uri.isSafe_of_occurs hin hc with hyes | rfl | rfl
    · rw [hsafe] at hyes
      cases hyes
    · exact hpercent rfl
    · exact hcolon rfl

theorem definedIn_ofPath_spaced :
    ['/'] <+: "/w/my lib/ctx.py".toList ∧ ¬ ['/', '/'] <+: "/w/my lib/ctx.py".toList ∧
      (Uri.ofPath "/w/my lib/ctx.py".toList).map String.ofList = .ok "file:///w/my%20lib/ctx.py" ∧
      (⟨"Context", "ctx", "object"⟩ : BaseClass).definedIn "file:///w/my%20lib/ctx.py" = true ∧
      (⟨"Context", "my lib", "object"⟩ : BaseClass).definedIn "file:///w/my%20lib/ctx.py" = false := by
  have hroot : ['/'] <+: "/w/my lib/ctx.py".toList := by decide
  have hshare : ¬ ['/', '/'] <+: "/w/my lib/ctx.py".toList := by decide
  have huri : (Uri.ofPath "/w/my lib/ctx.py".toList).map String.ofList =
      .ok "file:///w/my%20lib/ctx.py" := by decide
  refine ⟨hroot, hshare, huri, ?_, ?_⟩
  · obtain ⟨uri, hofPath, -, -, hplain, -⟩ :=
      definedIn_ofPath ⟨"Context", "ctx", "object"⟩ hroot hshare
    rw [huri, Except.ok.injEq] at hofPath
    subst hofPath
    have hsafe : ∀ c ∈ "ctx".toList, Uri.isSafe c = true := List.all_eq_true.1 (by decide)
    exact (((hplain (by decide)).2 (by decide)).2 fun _ => hsafe).2 (by decide)
  · obtain ⟨uri, hofPath, -, -, -, hnever⟩ :=
      definedIn_ofPath ⟨"Context", "my lib", "object"⟩ hroot hshare
    rw [huri, Except.ok.injEq] at hofPath
    subst hofPath
    exact hnever ⟨' ', by decide, by decide, by decide, by decide⟩

/-- A marker with a space is missed behind its escape, and the digits of the escape are found as a
marker that the path does not hold. -/
theorem definedIn_misses_marker :
    (Uri.ofPath "/w/my lib/ctx.py".toList).map String.ofList = .ok "file:///w/my%20lib/ctx.py" ∧
      "my lib".toList <:+: "/w/my lib/ctx.py".toList ∧
      (⟨"Context", "my lib", "object"⟩ : BaseClass).definedIn "file:///w/my%20lib/ctx.py" = false ∧
      ¬ "20".toList <:+: "/w/my lib/ctx.py".toList ∧
      (⟨"Context", "20", "object"⟩ : BaseClass).definedIn "file:///w/my%20lib/ctx.py" = true := by
  decide

end BaseClass

end LozengeNav
