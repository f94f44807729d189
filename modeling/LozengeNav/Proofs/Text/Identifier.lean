import LozengeNav.Text.Blank
import LozengeNav.Text.Identifier
import LozengeNav.Text.Letter
import LozengeNav.Text.Line

/-! # Characters of ASCII identifiers

The characters of an identifier by their code points, and what no such character
is: a blank or a line break.
-/

namespace LozengeNav

namespace Text

variable {c : Char}

theorem isAlpha_iff : c.isAlpha = true ↔
    (0x41 ≤ c.toNat ∧ c.toNat ≤ 0x5A) ∨ (0x61 ≤ c.toNat ∧ c.toNat ≤ 0x7A) := by
  show (decide (0x41 ≤ c.val ∧ c.val ≤ 0x5A) || (decide (0x61 ≤ c.val) && decide (c.val ≤ 0x7A))) =
    true ↔ _
  simp [UInt32.le_iff_toNat_le]

theorem isDigit_iff : c.isDigit = true ↔ 0x30 ≤ c.toNat ∧ c.toNat ≤ 0x39 := by
  simp [Char.isDigit, UInt32.le_iff_toNat_le, ← Char.toNat_val]

theorem eq_iff_toNat {d : Char} : c = d ↔ c.toNat = d.toNat :=
  ⟨congrArg Char.toNat, fun h => Char.ext (UInt32.toNat_inj.1 h)⟩

theorem isHead_iff : isHead c = true ↔
    (0x41 ≤ c.toNat ∧ c.toNat ≤ 0x5A) ∨ (0x61 ≤ c.toNat ∧ c.toNat ≤ 0x7A) ∨ c.toNat = 0x5F := by
  have hunderscore : c = '_' ↔ c.toNat = 0x5F := eq_iff_toNat
  rw [isHead, Bool.or_eq_true, isAlpha_iff, beq_iff_eq, hunderscore]
  omega

theorem isWord_iff : isWord c = true ↔ isHead c = true ∨ 0x30 ≤ c.toNat ∧ c.toNat ≤ 0x39 := by
  rw [isWord, isHead, Char.isAlphanum, Bool.or_eq_true, Bool.or_eq_true, Bool.or_eq_true,
    isDigit_iff]
  exact or_right_comm

theorem isWord_of_isHead (h : isHead c = true) : isWord c = true :=
  isWord_iff.2 (.inl h)

theorem isHead_of_not_isWord (h : isWord c = false) : isHead c = false := by
  cases hhead : isHead c with
  | false => rfl
  | true =>
      rw [isWord_of_isHead hhead] at h
      cases h

theorem isBlank_of_isWord (h : isWord c = true) : isBlank c = false := by
  rw [isWord_iff, isHead_iff] at h
  simp only [isBlank, Bool.or_eq_false_iff, Bool.and_eq_false_iff, decide_eq_false_iff_not,
    beq_eq_false_iff_ne]
  omega

theorem isWord_of_isBlank (h : isBlank c = true) : isWord c = false := by
  cases hword : isWord c with
  | false => rfl
  | true => simp [isBlank_of_isWord hword] at h

theorem isBreak_of_isWord (h : isWord c = true) : isBreak c = false := by
  rw [isWord_iff, isHead_iff] at h
  simp only [isBreak, Bool.or_eq_false_iff, Bool.and_eq_false_iff, decide_eq_false_iff_not,
    beq_eq_false_iff_ne]
  omega

theorem isNameContinue_of_isWord (h : isWord c = true) : isNameContinue c = true := by
  have hascii : c.toNat < 0x80 := by
    rw [isWord_iff, isHead_iff] at h
    omega
  rw [isNameContinue, if_pos hascii]
  exact h

end Text

end LozengeNav
