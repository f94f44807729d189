import LozengeNav.Proofs.Path
import LozengeNav.Proofs.Text.Identifier
import LozengeNav.Proofs.Text.Utf8

/-! # URIs and back

What is escaped is read back, and a local path whose URI is read is that path
again, unless it begins with a drive: then the slash before the drive is lost.
-/

namespace LozengeNav

namespace Uri

/-! ## Escapes -/

theorem hexValue?_hexDigit {n : Nat} (h : n < 16) : hexValue? (hexDigit n) = some n := by
  have hall : ∀ n : Fin 16, hexValue? (hexDigit n) = some n.val := by decide
  exact hall ⟨n, h⟩

theorem unquoteBytes_cons {c : Char} (rest : List Char) (hc : c ≠ '%') :
    unquoteBytes (c :: rest) = Text.Utf8.encodeChar c ++ unquoteBytes rest := by
  have hmark : (c == '%') = false := by simpa using hc
  match rest with
  | [] => rw [unquoteBytes, unquoteBytes, List.append_nil]
  | [d] => simp only [unquoteBytes]
  | a :: b :: rest => rw [unquoteBytes, hmark]

theorem unquoteBytes_escape (b : UInt8) (rest : List Char) :
    unquoteBytes (escape b ++ rest) = b :: unquoteBytes rest := by
  have hbyte : b.toNat < 0x100 := b.toNat_lt
  have hsum : 16 * (b.toNat / 16) + b.toNat % 16 = b.toNat := by omega
  rw [escape, List.cons_append, List.cons_append, List.singleton_append, unquoteBytes,
    hexValue?_hexDigit (by omega), hexValue?_hexDigit (by omega)]
  show UInt8.ofNat (16 * (b.toNat / 16) + b.toNat % 16) :: unquoteBytes rest = b :: unquoteBytes rest
  rw [hsum, UInt8.ofNat_toNat]

theorem unquoteBytes_escapes (bytes : List UInt8) (rest : List Char) :
    unquoteBytes (bytes.flatMap escape ++ rest) = bytes ++ unquoteBytes rest := by
  induction bytes with
  | nil => rfl
  | cons b bytes ih =>
      rw [List.flatMap_cons, List.append_assoc, unquoteBytes_escape, ih, List.cons_append]

theorem ne_percent_of_isSafe {c : Char} (h : isSafe c = true) : c ≠ '%' := by
  rintro rfl
  exact absurd h (by decide)

theorem unquoteBytes_quote (s : List Char) : unquoteBytes (quote s) = Text.Utf8.encode s := by
  induction s with
  | nil => rfl
  | cons c rest ih =>
      have hquote : quote (c :: rest) = quoteChar c ++ quote rest := List.flatMap_cons
      have hencode : Text.Utf8.encode (c :: rest) = Text.Utf8.encodeChar c ++ Text.Utf8.encode rest :=
        List.flatMap_cons
      rw [hquote, hencode, quoteChar]
      split
      · next hsafe =>
          rw [List.singleton_append, unquoteBytes_cons _ (ne_percent_of_isSafe hsafe), ih]
      · rw [unquoteBytes_escapes, ih]

theorem unquote_quote (s : List Char) : unquote (quote s) = s := by
  rw [unquote, unquoteBytes_quote, Text.Utf8.decodeLossy_encode]

/-! ## Characters of an escaped text -/

theorem hexDigit_isSafe {n : Nat} (h : n < 16) : isSafe (hexDigit n) = true := by
  have hall : ∀ n : Fin 16, isSafe (hexDigit n) = true := by decide
  exact hall ⟨n, h⟩

theorem isSafe_of_mem_quote {c : Char} {s : List Char} (h : c ∈ quote s) :
    isSafe c = true ∨ c = '%' := by
  obtain ⟨d, -, hc⟩ := List.mem_flatMap.1 h
  rw [quoteChar] at hc
  split at hc
  · next hsafe =>
      rw [List.mem_singleton] at hc
      exact .inl (hc ▸ hsafe)
  · obtain ⟨b, -, hb⟩ := List.mem_flatMap.1 hc
    have hbyte : b.toNat < 0x100 := b.toNat_lt
    simp only [escape, List.mem_cons, List.not_mem_nil, or_false] at hb
    rcases hb with rfl | rfl | rfl
    · exact .inr rfl
    · exact .inl (hexDigit_isSafe (by omega))
    · exact .inl (hexDigit_isSafe (by omega))

theorem takeWhile_quote {p : Char → Bool} (h : ∀ c, isSafe c = true ∨ c = '%' → p c = true)
    (s : List Char) : (quote s).takeWhile p = quote s := by
  have hall : ∀ c ∈ quote s, p c = true := fun c hc => h c (isSafe_of_mem_quote hc)
  have hself : (quote s ++ []).takeWhile p = quote s ++ [].takeWhile p :=
    List.takeWhile_append_of_pos hall
  simpa using hself

theorem ne_of_isSafe_or {c d : Char} (hd : isSafe d = false) (hpercent : d ≠ '%')
    (hc : isSafe c = true ∨ c = '%') : c ≠ d := by
  rintro rfl
  rcases hc with hsafe | rfl
  · rw [hd] at hsafe
    cases hsafe
  · exact hpercent rfl

/-! ## Reading a file URI -/

theorem filter_opening (s : List Char) :
    (opening ++ quote s).filter (fun c => !isDropped c) = opening ++ quote s := by
  have hquote : (quote s).filter (fun c => !isDropped c) = quote s := by
    refine List.filter_eq_self.2 fun c hc => ?_
    have hsafe := isSafe_of_mem_quote hc
    have htab := ne_of_isSafe_or (d := '\t') (by decide) (by decide) hsafe
    have hreturn := ne_of_isSafe_or (d := '\r') (by decide) (by decide) hsafe
    have hfeed := ne_of_isSafe_or (d := '\n') (by decide) (by decide) hsafe
    simp [isDropped, htab, hreturn, hfeed]
  rw [List.filter_append, hquote]
  rfl

theorem split_opening (s : List Char) :
    split (opening ++ quote ('/' :: s)) = .ok ⟨fileScheme, [], quote ('/' :: s)⟩ := by
  have hstart : (opening ++ quote ('/' :: s)).dropWhile (fun c => decide (c.toNat ≤ 0x20)) =
      opening ++ quote ('/' :: s) := rfl
  have hscheme : splitScheme (opening ++ quote ('/' :: s)) =
      (fileScheme, '/' :: '/' :: quote ('/' :: s)) := rfl
  have hauthority : splitAuthority ('/' :: '/' :: quote ('/' :: s)) = ([], quote ('/' :: s)) := rfl
  have hfragment : (quote ('/' :: s)).takeWhile (· ≠ '#') = quote ('/' :: s) :=
    takeWhile_quote (fun c hc => by simp [ne_of_isSafe_or (d := '#') (by decide) (by decide) hc]) _
  have hquery : (quote ('/' :: s)).takeWhile (· ≠ '?') = quote ('/' :: s) :=
    takeWhile_quote (fun c hc => by simp [ne_of_isSafe_or (d := '?') (by decide) (by decide) hc]) _
  rw [split, hstart, filter_opening, hscheme]
  simp only [hauthority, hfragment, hquery]
  rfl

theorem toPath_opening {s : List Char} (h : hasDrive ('/' :: s) = false) :
    toPath (opening ++ quote ('/' :: s)) = .ok ('/' :: s) := by
  have hjoin : joinParts (unquote []) (unquote (quote ('/' :: s))) = '/' :: s := by
    have hempty : unquote [] = [] := rfl
    rw [hempty, unquote_quote]
    unfold joinParts
    simp only [List.isEmpty_nil, Bool.not_true, Bool.false_and, Bool.false_eq_true, if_false]
    split
    · next c rest heq =>
        rw [heq, hasDrive] at h
        rw [if_neg (by simp [h])]
    · rfl
  rw [toPath, split_opening]
  simp only [bind, Except.bind, if_true]
  rw [hjoin]
  rfl

/-! ## Drives -/

theorem hasDrive_cases (p : List Char) :
    hasDrive p = false ∨ ∃ c rest, p = '/' :: c :: ':' :: rest ∧ c.isAlpha = true := by
  unfold hasDrive
  split
  · next c rest =>
      cases halpha : c.isAlpha with
      | false => exact .inl rfl
      | true => exact .inr ⟨c, rest, rfl, halpha⟩
  · exact .inl rfl

theorem writePath_drive {c : Char} {rest : List Char} (h : c.isAlpha = true) :
    writePath ('/' :: c :: ':' :: rest) = '/' :: c.toLower :: ':' :: quote rest := by
  rw [writePath, if_pos h]

theorem writePath_of_hasDrive {s : List Char} (h : hasDrive s = false) : writePath s = quote s := by
  unfold writePath
  split
  · next c rest =>
      rw [hasDrive] at h
      rw [if_neg (by simp [h])]
  · rfl

end Uri

namespace Path

/-- A path as it is read from text, from the root and without a drive. -/
structure Plain (p : Path) : Prop where
  root : p.anchor = .root
  parts : ∀ part ∈ p.parts, part ≠ "" ∧ '/' ∉ part.toList ∧ part ≠ "."
  driveless : Uri.hasDrive p.toString.toList = false

theorem Plain.toString_eq {p : Path} (h : p.Plain) : p.toString = "/" ++ "/".intercalate p.parts := by
  obtain ⟨anchor, parts⟩ := p
  obtain rfl : anchor = .root := h.root
  rfl

theorem anchorOf_root {s : List Char} (h : s.head? ≠ some '/') : anchorOf ('/' :: s) = .root := by
  unfold anchorOf
  split
  · rfl
  · next heq =>
      rw [List.cons.injEq] at heq
      rw [heq.2] at h
      exact absurd rfl h
  · rfl
  · next hnone => exact absurd rfl (hnone s)

theorem Plain.ofString_toString {p : Path} (h : p.Plain) : ofString p.toString = p := by
  have hlist : p.toString.toList = '/' :: ("/".intercalate p.parts).toList := by
    rw [h.toString_eq, String.toList_append]
    rfl
  have hhead : ("/".intercalate p.parts).toList.head? ≠ some '/' :=
    head?_intercalate_ne fun part hpart => ⟨(h.parts part hpart).1, (h.parts part hpart).2.1⟩
  have hparts : partsOf ('/' :: ("/".intercalate p.parts).toList) = p.parts := by
    rw [partsOf_slash, partsOf_intercalate h.parts]
  rw [ofString, hlist, anchorOf_root hhead, hparts, ← h.root]

theorem Plain.toPath_localUri {p : Path} (h : p.Plain) :
    Uri.toPath p.localUri.toList = .ok p.toString.toList := by
  have hlist : p.toString.toList = '/' :: ("/".intercalate p.parts).toList := by
    rw [h.toString_eq, String.toList_append]
    rfl
  have hdrive := h.driveless
  rw [hlist] at hdrive
  have hrooted : Uri.rooted p.toString.toList = '/' :: ("/".intercalate p.parts).toList := by
    rw [hlist]
    rfl
  rw [localUri, String.toList_ofList, hrooted, Uri.writePath_of_hasDrive hdrive,
    Uri.toPath_opening hdrive, ← hlist]

theorem Plain.ofUri_localUri {p : Path} (h : p.Plain) : ofUri p.localUri = .ok p := by
  rw [ofUri, h.toPath_localUri, Except.map, String.ofList_toList, h.ofString_toString]

theorem Plain.toUri_eq {p : Path} (h : p.Plain) : p.toUri = .ok p.localUri := by
  refine toUri_of_wellFormed (fun part hpart => ?_) (by simp [h.root])
  exact ⟨(h.parts part hpart).1, (h.parts part hpart).2.1⟩

theorem Plain.ofUri_of_toUri {p : Path} (h : p.Plain) {uri : String} (huri : p.toUri = .ok uri) :
    ofUri uri = .ok p := by
  rw [h.toUri_eq, Except.ok.injEq] at huri
  rw [← huri, h.ofUri_localUri]

end Path

end LozengeNav
