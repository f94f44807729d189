import LozengeNav.Text.Utf8

/-! # Encoding and decoding

A text survives being encoded and decoded. A reader that refuses gaps and one
that shows them agree about bytes without gaps.
-/

namespace LozengeNav

namespace Text

namespace Utf8

/-! ## One character -/

theorem toNat_ofNat {n : Nat} (h : n < 0x100) : (UInt8.ofNat n).toNat = n := by
  rw [UInt8.toNat_ofNat']
  exact Nat.mod_eq_of_lt h

theorem scanFrom_last {low high value n : Nat} (rest : List UInt8) (hbyte : n < 0x100)
    (hlow : low ≤ n) (hhigh : n ≤ high) :
    scanFrom (some ⟨1, low, high, value⟩) (UInt8.ofNat n :: rest) =
      some (Char.ofNat (value * 0x40 + (n - 0x80))) :: scanFrom none rest := by
  rw [scanFrom, toNat_ofNat hbyte, if_pos (by simp [hlow, hhigh])]
  rfl

theorem scanFrom_more {owed low high value n : Nat} (rest : List UInt8) (hbyte : n < 0x100)
    (hlow : low ≤ n) (hhigh : n ≤ high) :
    scanFrom (some ⟨owed + 2, low, high, value⟩) (UInt8.ofNat n :: rest) =
      scanFrom (some ⟨owed + 1, 0x80, 0xBF, value * 0x40 + (n - 0x80)⟩) rest := by
  have howed : ¬ owed + 2 ≤ 1 := by omega
  rw [scanFrom, toNat_ofNat hbyte, if_pos (by simp [hlow, hhigh])]
  simp only [howed, if_false]
  rfl

theorem scanFrom_none {p : Pending} {n : Nat} (rest : List UInt8) (hbyte : n < 0x100)
    (hstart : start n = .pending p) :
    scanFrom none (UInt8.ofNat n :: rest) = scanFrom (some p) rest := by
  rw [scanFrom, toNat_ofNat hbyte, hstart]

theorem start_two {n : Nat} (hlow : 0xC2 ≤ n) (hhigh : n ≤ 0xDF) :
    start n = .pending ⟨1, 0x80, 0xBF, n - 0xC0⟩ := by
  rw [start, if_neg (by omega), if_pos (by simp; omega)]

theorem start_three {n : Nat} (hlow : 0xE0 ≤ n) (hhigh : n ≤ 0xEF) :
    start n = .pending ⟨2, if n = 0xE0 then 0xA0 else 0x80, if n = 0xED then 0x9F else 0xBF,
      n - 0xE0⟩ := by
  rw [start, if_neg (by omega), if_neg (by simp; omega)]
  by_cases hfirst : n = 0xE0
  · subst hfirst
    rfl
  · by_cases hsurrogate : n = 0xED
    · subst hsurrogate
      rfl
    · rw [if_neg hfirst, if_neg hsurrogate, if_pos (by simp; omega), if_neg hfirst, if_neg hsurrogate]

theorem start_four {n : Nat} (hlow : 0xF0 ≤ n) (hhigh : n ≤ 0xF4) :
    start n = .pending ⟨3, if n = 0xF0 then 0x90 else 0x80, if n = 0xF4 then 0x8F else 0xBF,
      n - 0xF0⟩ := by
  have hcases : n = 0xF0 ∨ n = 0xF1 ∨ n = 0xF2 ∨ n = 0xF3 ∨ n = 0xF4 := by omega
  rcases hcases with rfl | rfl | rfl | rfl | rfl <;> rfl

theorem scanFrom_encodeChar (c : Char) (rest : List UInt8) :
    scanFrom none (encodeChar c ++ rest) = some c :: scanFrom none rest := by
  have hvalid : c.toNat < 0xD800 ∨ 0xDFFF < c.toNat ∧ c.toNat < 0x110000 := c.valid
  have hback : ∀ n, n = c.toNat → Char.ofNat n = c := by
    rintro n rfl
    exact Char.ofNat_toNat c
  generalize hn : c.toNat = n at hvalid hback
  rw [encodeChar]
  simp only [hn]
  -- By the number of bytes, each of which is in the range that its predecessors set.
  by_cases hone : n < 0x80
  · rw [if_pos hone, List.singleton_append, scanFrom, toNat_ofNat (by omega), start, if_pos hone]
    simp only [hback n rfl]
  · by_cases htwo : n < 0x800
    · rw [if_neg hone, if_pos htwo, List.cons_append, List.singleton_append,
        scanFrom_none _ (by omega) (start_two (by omega) (by omega)),
        scanFrom_last _ (by omega) (by omega) (by omega), hback _ (by omega)]
    · by_cases hthree : n < 0x10000
      · rw [if_neg hone, if_neg htwo, if_pos hthree, List.cons_append, List.cons_append,
          List.singleton_append, scanFrom_none _ (by omega) (start_three (by omega) (by omega)),
          scanFrom_more _ (by omega) (by split <;> omega) (by split <;> omega),
          scanFrom_last _ (by omega) (by omega) (by omega), hback _ (by omega)]
      · rw [if_neg hone, if_neg htwo, if_neg hthree, List.cons_append, List.cons_append,
          List.cons_append, List.singleton_append,
          scanFrom_none _ (by omega) (start_four (by omega) (by omega)),
          scanFrom_more _ (by omega) (by split <;> omega) (by split <;> omega),
          scanFrom_more _ (by omega) (by omega) (by omega),
          scanFrom_last _ (by omega) (by omega) (by omega), hback _ (by omega)]

/-! ## Texts -/

theorem scan_encode (s : List Char) : scan (encode s) = s.map some := by
  rw [scan]
  induction s with
  | nil => rfl
  | cons c rest ih =>
      have hencode : encode (c :: rest) = encodeChar c ++ encode rest := List.flatMap_cons
      rw [hencode, scanFrom_encodeChar, ih, List.map_cons]

theorem decodeLossy_encode (s : List Char) : decodeLossy (encode s) = s := by
  rw [decodeLossy, scan_encode, List.map_map]
  exact List.map_id s

theorem mapM_id_eq_some_iff {found : List (Option Char)} {s : List Char} :
    found.mapM id = some s ↔ found = s.map some := by
  induction found generalizing s with
  | nil => simp
  | cons c rest ih =>
      cases c with
      | none => cases s <;> simp
      | some c =>
          cases s with
          | nil => cases hrest : rest.mapM id <;> simp [hrest]
          | cons d tail =>
              rw [List.map_cons, List.cons.injEq, Option.some.injEq, ← ih]
              cases hrest : rest.mapM id <;> simp [hrest]

theorem decode?_eq_some_iff_scan {bytes : List UInt8} {s : List Char} :
    decode? bytes = some s ↔ scan bytes = s.map some :=
  mapM_id_eq_some_iff

theorem decodeLossy_of_decode? {bytes : List UInt8} {s : List Char} (h : decode? bytes = some s) :
    decodeLossy bytes = s := by
  rw [decodeLossy, decode?_eq_some_iff_scan.1 h, List.map_map]
  exact List.map_id s

/-! ## Bytes without gaps -/

theorem ofNat_eq {n : Nat} {b : UInt8} (h : n = b.toNat) : UInt8.ofNat n = b := by
  rw [h]
  exact UInt8.ofNat_toNat

theorem toNat_charOfNat {n : Nat} (h : n.isValidChar) : (Char.ofNat n).toNat = n := by
  rw [Char.ofNat, dif_pos h]
  rfl

/-- Where no gap is read behind a byte that owes others, the next byte is in bounds. -/
theorem exists_owed {p : Pending} {bytes : List UInt8} {s : List Char}
    (h : scanFrom (some p) bytes = s.map some) :
    ∃ b rest, bytes = b :: rest ∧ p.low ≤ b.toNat ∧ b.toNat ≤ p.high ∧
      (p.owed ≤ 1 → some (Char.ofNat (p.value * 0x40 + (b.toNat - 0x80))) :: scanFrom none rest =
        s.map some) ∧
      (¬ p.owed ≤ 1 → scanFrom
        (some ⟨p.owed - 1, 0x80, 0xBF, p.value * 0x40 + (b.toNat - 0x80)⟩) rest = s.map some) := by
  have hnone : ∀ more, s.map some ≠ none :: more := by
    intro more heq
    have hmem : none ∈ s.map some := heq ▸ List.mem_cons_self
    simp at hmem
  cases bytes with
  | nil => exact absurd h.symm (hnone [])
  | cons b rest =>
      rw [scanFrom] at h
      split at h
      · next hbounds =>
          simp only [Bool.and_eq_true, decide_eq_true_eq] at hbounds
          refine ⟨b, rest, rfl, hbounds.1, hbounds.2, fun howed => ?_, fun howed => ?_⟩
          · rwa [if_pos howed] at h
          · rwa [if_neg howed] at h
      · exact absurd h.symm (hnone _)

theorem start_gap {n : Nat} (hone : ¬ n < 0x80) (htwo : ¬ (0xC2 ≤ n ∧ n ≤ 0xDF))
    (hthree : ¬ (0xE0 ≤ n ∧ n ≤ 0xEF)) (hfour : ¬ (0xF0 ≤ n ∧ n ≤ 0xF4)) : start n = .gap := by
  rw [start, if_neg hone, if_neg (by simp; omega), if_neg (by omega), if_neg (by omega),
    if_neg (by simp; omega), if_neg (by omega), if_neg (by omega), if_neg (by simp; omega)]

theorem exists_head_of_map {c : Char} {more : List (Option Char)} {s : List Char}
    (h : some c :: more = s.map some) : ∃ s', s = c :: s' ∧ more = s'.map some := by
  cases s with
  | nil => cases h
  | cons d s' =>
      rw [List.map_cons, List.cons.injEq, Option.some.injEq] at h
      exact ⟨s', by rw [h.1], h.2⟩

/-! The bytes of a character that was put together from its bytes. -/

theorem encodeChar_one {b : UInt8} (h : b.toNat < 0x80) : encodeChar (Char.ofNat b.toNat) = [b] := by
  rw [encodeChar, toNat_charOfNat (by simp [Nat.isValidChar]; omega)]
  simp only [h, if_true, ofNat_eq rfl]

theorem encodeChar_two {b b₂ : UInt8} (h : 0xC2 ≤ b.toNat ∧ b.toNat ≤ 0xDF)
    (h₂ : 0x80 ≤ b₂.toNat ∧ b₂.toNat ≤ 0xBF) :
    encodeChar (Char.ofNat ((b.toNat - 0xC0) * 0x40 + (b₂.toNat - 0x80))) = [b, b₂] := by
  rw [encodeChar, toNat_charOfNat (by simp [Nat.isValidChar]; omega)]
  rw [if_neg (by omega), if_pos (by omega), ofNat_eq (b := b) (by omega),
    ofNat_eq (b := b₂) (by omega)]

theorem encodeChar_three {b b₂ b₃ : UInt8} (h : 0xE0 ≤ b.toNat ∧ b.toNat ≤ 0xEF)
    (h₂ : 0x80 ≤ b₂.toNat ∧ b₂.toNat ≤ 0xBF) (hlong : b.toNat = 0xE0 → 0xA0 ≤ b₂.toNat)
    (hsurrogate : b.toNat = 0xED → b₂.toNat ≤ 0x9F) (h₃ : 0x80 ≤ b₃.toNat ∧ b₃.toNat ≤ 0xBF) :
    encodeChar (Char.ofNat
      (((b.toNat - 0xE0) * 0x40 + (b₂.toNat - 0x80)) * 0x40 + (b₃.toNat - 0x80))) =
        [b, b₂, b₃] := by
  rw [encodeChar, toNat_charOfNat (by simp only [Nat.isValidChar]; omega)]
  rw [if_neg (by omega), if_neg (by omega), if_pos (by omega), ofNat_eq (b := b) (by omega),
    ofNat_eq (b := b₂) (by omega), ofNat_eq (b := b₃) (by omega)]

theorem encodeChar_four {b b₂ b₃ b₄ : UInt8} (h : 0xF0 ≤ b.toNat ∧ b.toNat ≤ 0xF4)
    (h₂ : 0x80 ≤ b₂.toNat ∧ b₂.toNat ≤ 0xBF) (hlong : b.toNat = 0xF0 → 0x90 ≤ b₂.toNat)
    (hlast : b.toNat = 0xF4 → b₂.toNat ≤ 0x8F) (h₃ : 0x80 ≤ b₃.toNat ∧ b₃.toNat ≤ 0xBF)
    (h₄ : 0x80 ≤ b₄.toNat ∧ b₄.toNat ≤ 0xBF) :
    encodeChar (Char.ofNat
      ((((b.toNat - 0xF0) * 0x40 + (b₂.toNat - 0x80)) * 0x40 + (b₃.toNat - 0x80)) * 0x40 +
        (b₄.toNat - 0x80))) = [b, b₂, b₃, b₄] := by
  rw [encodeChar, toNat_charOfNat (by simp only [Nat.isValidChar]; omega)]
  rw [if_neg (by omega), if_neg (by omega), if_neg (by omega), ofNat_eq (b := b) (by omega),
    ofNat_eq (b := b₂) (by omega), ofNat_eq (b := b₃) (by omega), ofNat_eq (b := b₄) (by omega)]

/-- Bytes that are read without gaps begin with those of the first character that is read. -/
theorem exists_encodeChar {b : UInt8} {rest : List UInt8} {s : List Char}
    (h : scanFrom none (b :: rest) = s.map some) :
    ∃ c tail s', b :: rest = encodeChar c ++ tail ∧ s = c :: s' ∧
      scanFrom none tail = s'.map some := by
  -- By the first byte, which says how many others belong to the character.
  by_cases hone : b.toNat < 0x80
  · rw [scanFrom, start, if_pos hone] at h
    obtain ⟨s', rfl, hrest⟩ := exists_head_of_map h
    exact ⟨_, rest, s', by rw [encodeChar_one hone]; rfl, rfl, hrest⟩
  rw [scanFrom] at h
  by_cases htwo : 0xC2 ≤ b.toNat ∧ b.toNat ≤ 0xDF
  · rw [start_two htwo.1 htwo.2] at h
    obtain ⟨b₂, rest, rfl, hlow, hhigh, hend, -⟩ := exists_owed h
    obtain ⟨s', rfl, hrest⟩ := exists_head_of_map (hend (Nat.le_refl 1))
    exact ⟨_, rest, s', by rw [encodeChar_two htwo ⟨hlow, hhigh⟩]; rfl, rfl, hrest⟩
  by_cases hthree : 0xE0 ≤ b.toNat ∧ b.toNat ≤ 0xEF
  · rw [start_three hthree.1 hthree.2] at h
    obtain ⟨b₂, rest, rfl, hlow, hhigh, -, hmore⟩ := exists_owed h
    obtain ⟨b₃, rest, rfl, hlow₃, hhigh₃, hend, -⟩ := exists_owed (hmore (by simp))
    obtain ⟨s', rfl, hrest⟩ := exists_head_of_map (hend (Nat.le_refl 1))
    have h₂ : 0x80 ≤ b₂.toNat ∧ (b.toNat = 0xE0 → 0xA0 ≤ b₂.toNat) ∧ b₂.toNat ≤ 0xBF ∧
        (b.toNat = 0xED → b₂.toNat ≤ 0x9F) := by
      simp only at hlow hhigh
      split at hlow <;> split at hhigh <;> omega
    refine ⟨_, rest, s', ?_, rfl, hrest⟩
    rw [encodeChar_three hthree ⟨h₂.1, h₂.2.2.1⟩ h₂.2.1 h₂.2.2.2 ⟨hlow₃, hhigh₃⟩]
    rfl
  by_cases hfour : 0xF0 ≤ b.toNat ∧ b.toNat ≤ 0xF4
  · rw [start_four hfour.1 hfour.2] at h
    obtain ⟨b₂, rest, rfl, hlow, hhigh, -, hmore⟩ := exists_owed h
    obtain ⟨b₃, rest, rfl, hlow₃, hhigh₃, -, hmore⟩ := exists_owed (hmore (by simp))
    obtain ⟨b₄, rest, rfl, hlow₄, hhigh₄, hend, -⟩ := exists_owed (hmore (by simp))
    obtain ⟨s', rfl, hrest⟩ := exists_head_of_map (hend (Nat.le_refl 1))
    have h₂ : 0x80 ≤ b₂.toNat ∧ (b.toNat = 0xF0 → 0x90 ≤ b₂.toNat) ∧ b₂.toNat ≤ 0xBF ∧
        (b.toNat = 0xF4 → b₂.toNat ≤ 0x8F) := by
      simp only at hlow hhigh
      split at hlow <;> split at hhigh <;> omega
    refine ⟨_, rest, s', ?_, rfl, hrest⟩
    rw [encodeChar_four hfour ⟨h₂.1, h₂.2.2.1⟩ h₂.2.1 h₂.2.2.2 ⟨hlow₃, hhigh₃⟩ ⟨hlow₄, hhigh₄⟩]
    rfl
  · rw [start_gap hone htwo hthree hfour] at h
    have hmem : none ∈ s.map some := h ▸ List.mem_cons_self
    simp at hmem

theorem encodeChar_ne_nil (c : Char) : encodeChar c ≠ [] := by
  simp only [encodeChar]
  split
  · simp
  · split
    · simp
    · split <;> simp

theorem eq_encode_of_scan {bytes : List UInt8} {s : List Char} (h : scan bytes = s.map some) :
    bytes = encode s := by
  induction hlength : bytes.length using Nat.strongRecOn generalizing bytes s with
  | ind n ih =>
      cases bytes with
      | nil =>
          cases s with
          | nil => rfl
          | cons c rest => cases h
      | cons b rest =>
          obtain ⟨c, tail, s', hbytes, rfl, htail⟩ := exists_encodeChar h
          have hshort : tail.length < n := by
            have hcut := congrArg List.length hbytes
            have hpos := List.length_pos_iff.2 (encodeChar_ne_nil c)
            rw [List.length_append] at hcut
            omega
          rw [hbytes, ih tail.length hshort htail rfl]
          rfl

/-- A text is read from its bytes and from no others. -/
theorem decode?_eq_some_iff {bytes : List UInt8} {s : List Char} :
    decode? bytes = some s ↔ bytes = encode s := by
  rw [decode?_eq_some_iff_scan]
  constructor
  · exact eq_encode_of_scan
  · rintro rfl
    exact scan_encode s

theorem decode?_encode (s : List Char) : decode? (encode s) = some s :=
  decode?_eq_some_iff.2 rfl

end Utf8

end Text

end LozengeNav
