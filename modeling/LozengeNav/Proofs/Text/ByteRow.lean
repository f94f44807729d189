import LozengeNav.Outline.Syntax
import LozengeNav.Proofs.Text.LineEnding
import LozengeNav.Proofs.Text.Utf8
import Mathlib.Data.List.DropRight

/-! # Rows of bytes

A reader of bytes gives a place as a row and a number of bytes on it. The code points
before the place on its row are those of the bytes before it, as no character other
than a line feed has the byte of a line feed.
-/

namespace LozengeNav

namespace Text

namespace Utf8

/-- The place behind some bytes. -/
def BytePlace.behind (bytes : List UInt8) : BytePlace :=
  ⟨bytes.count lineFeed, (bytes.rtakeWhile (· ≠ lineFeed)).length⟩

/-! ## Encoded rows -/

@[simp] theorem encode_append (s u : List Char) : encode (s ++ u) = encode s ++ encode u :=
  List.flatMap_append

theorem encode_newline : encodeChar '\n' = [lineFeed] :=
  rfl

theorem lineFeed_not_mem_encodeChar {c : Char} (hc : c ≠ '\n') : lineFeed ∉ encodeChar c := by
  have hcode : c.toNat ≠ 0x0A := fun h => hc (Char.toNat_inj.1 h)
  have hbyte : ∀ n, n < 0x100 → n ≠ 0x0A → lineFeed ≠ UInt8.ofNat n := by
    intro n hn hne heq
    have hnat := congrArg UInt8.toNat heq
    rw [toNat_ofNat hn] at hnat
    exact hne hnat.symm
  have hvalid : c.toNat < 0x110000 := by
    have hc : c.toNat < 0xD800 ∨ 0xDFFF < c.toNat ∧ c.toNat < 0x110000 := c.valid
    omega
  simp only [encodeChar]
  split
  · simpa using hbyte c.toNat (by omega) hcode
  · split
    · simp only [List.mem_cons, List.not_mem_nil, or_false, not_or]
      exact ⟨hbyte _ (by omega) (by omega), hbyte _ (by omega) (by omega)⟩
    · split <;> simp only [List.mem_cons, List.not_mem_nil, or_false, not_or]
      · exact ⟨hbyte _ (by omega) (by omega), hbyte _ (by omega) (by omega),
          hbyte _ (by omega) (by omega)⟩
      · exact ⟨hbyte _ (by omega) (by omega), hbyte _ (by omega) (by omega),
          hbyte _ (by omega) (by omega), hbyte _ (by omega) (by omega)⟩

theorem lineFeed_not_mem_encode {s : List Char} (h : '\n' ∉ s) : lineFeed ∉ encode s := by
  intro hmem
  obtain ⟨c, hc, hfeed⟩ := List.mem_flatMap.1 hmem
  refine lineFeed_not_mem_encodeChar ?_ hfeed
  rintro rfl
  exact h hc

theorem splitOn_append_of_not_mem {front : List UInt8} (h : lineFeed ∉ front)
    (back : List UInt8) : (front ++ back).splitOn lineFeed =
      (back.splitOn lineFeed).modifyHead (front ++ ·) := by
  induction front with
  | nil =>
      cases hrows : back.splitOn lineFeed <;> simp [hrows]
  | cons b front ih =>
      rw [List.mem_cons, not_or] at h
      rw [List.cons_append, List.splitOn_cons_eq_if_modifyHead, if_neg (by simpa using Ne.symm h.1),
        ih h.2, List.modifyHead_modifyHead]
      rfl

theorem splitOn_encode (s : List Char) : (encode s).splitOn lineFeed = (rows s).map encode := by
  induction s with
  | nil => rfl
  | cons c rest ih =>
      have hencode : encode (c :: rest) = encodeChar c ++ encode rest := List.flatMap_cons
      rw [hencode]
      by_cases hc : c = '\n'
      · subst hc
        rw [encode_newline, rows_newline, List.singleton_append,
          List.splitOn_cons_eq_if_modifyHead, if_pos (by simp), ih]
        rfl
      · rw [splitOn_append_of_not_mem (lineFeed_not_mem_encodeChar hc), rows_cons rest hc, ih]
        cases rows rest with
        | nil => rfl
        | cons row more => simp [encode]

theorem count_encode (s : List Char) : (encode s).count lineFeed = s.count '\n' := by
  induction s with
  | nil => rfl
  | cons c rest ih =>
      have hencode : encode (c :: rest) = encodeChar c ++ encode rest := List.flatMap_cons
      rw [hencode, List.count_append, ih, List.count_cons]
      by_cases hc : c = '\n'
      · subst hc
        simp [encode_newline, Nat.add_comm]
      · rw [List.count_eq_zero.2 (lineFeed_not_mem_encodeChar hc)]
        simp [hc]

theorem rtakeWhile_encode (s : List Char) :
    (encode s).rtakeWhile (· ≠ lineFeed) = encode (lastRow s) := by
  have hlast := lineFeed_not_mem_encode (newline_not_mem_lastRow s)
  have hkept : ∀ b ∈ (encode (lastRow s)).reverse, decide (b ≠ lineFeed) = true := by
    intro b hb
    rw [decide_eq_true_eq]
    rintro rfl
    exact hlast (List.mem_reverse.1 hb)
  obtain ⟨before, hcut, hbefore⟩ := exists_append_lastRow s
  have hstop : (encode before).reverse.takeWhile (fun b => decide (b ≠ lineFeed)) = [] := by
    rcases hbefore with rfl | ⟨front, rfl⟩
    · rfl
    · simp [encode, encode_newline]
  rw [List.rtakeWhile]
  conv_lhs => rw [hcut]
  rw [encode_append, List.reverse_append, List.takeWhile_append_of_pos hkept, hstop,
    List.append_nil, List.reverse_reverse]

/-- The place behind the bytes of a text, counted in code points, is the place behind the text. -/
theorem position_behind (front back : List Char) :
    (BytePlace.behind (encode front)).position (encode (front ++ back)) =
      Position.origin.advance front := by
  have hline : (Position.origin.advance front).line = front.count '\n' :=
    (Position.line_advance .origin front).trans (Nat.zero_add _)
  have hrow : ((encode (front ++ back)).splitOn lineFeed)[front.count '\n']? =
      some (encode (lastRow front) ++ encode (back.takeWhile (· ≠ '\n'))) := by
    rw [splitOn_encode, List.getElem?_map, getElem?_rows, Option.map_some, encode_append]
  simp only [BytePlace.position, BytePlace.behind, count_encode, rtakeWhile_encode, hrow,
    List.take_left, decodeLossy_encode]
  rw [← Position.column_advance_origin, ← hline]

end Utf8

end Text

end LozengeNav
