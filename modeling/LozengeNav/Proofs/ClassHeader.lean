import LozengeNav.ClassHeader
import LozengeNav.Proofs.Expression.Word

/-! # Reading a class off its line

On a line that declares a class, with nothing but the keyword in front of its
name, the class is named whether the line is read as a header or by the word
under the cursor.
-/

namespace LozengeNav

/-! ## Class lines -/

def classKeyword : List Char :=
  ['c', 'l', 'a', 's', 's']

theorem identifier_classKeyword : Text.Identifier classKeyword := by
  decide

/-- A line with a class on it: no word but the keyword stands before the name. -/
structure ClassLine (indent gap name after : List Char) : Prop where
  wordless : ∀ c ∈ indent ++ gap, Text.isWord c = false
  parted : gap ≠ []
  identifier : Text.Identifier name
  ended : ∀ c ∈ after.head?, Text.isWord c = false

section ClassLine

variable {indent gap name after : List Char}

theorem ClassLine.scan_eq (h : ClassLine indent gap name after) :
    ∃ rest, Word.scan (indent ++ (classKeyword ++ (gap ++ (name ++ after)))) =
      ⟨classKeyword, indent.length⟩ :: ⟨name, indent.length + 5 + gap.length⟩ :: rest := by
  obtain ⟨hindent, hgap⟩ := List.forall_mem_append.1 h.wordless
  have hnohead : ∀ s : List Char, (∀ c ∈ s, Text.isWord c = false) → ∀ c ∈ s, Text.isHead c = false :=
    fun s hs c hc => Text.isHead_of_not_isWord (hs c hc)
  have hnext : ∀ c ∈ (gap ++ (name ++ after)).head?, Text.isWord c = false := by
    obtain ⟨d, rest, rfl⟩ := List.exists_cons_of_ne_nil h.parted
    intro c hc
    rw [List.cons_append, List.head?_cons, Option.mem_some_iff] at hc
    exact hgap c (hc ▸ List.mem_cons_self)
  have hlength : classKeyword.length = 5 := rfl
  rw [Word.scan, Word.scanFrom_append 0 (hnohead _ hindent),
    Word.scanFrom_identifier _ identifier_classKeyword hnext,
    Word.scanFrom_append _ (hnohead _ hgap), Word.scanFrom_identifier _ h.identifier h.ended,
    hlength, Nat.zero_add]
  exact ⟨_, rfl⟩

theorem ClassLine.at? (h : ClassLine indent gap name after) :
    Word.at? (indent ++ (classKeyword ++ (gap ++ (name ++ after))))
        ((indent.length + 5 + gap.length : Nat) : Int) =
      some ⟨name, indent.length + 5 + gap.length⟩ := by
  have hbehind : 0 < gap.length := List.length_pos_iff.2 h.parted
  have hpast : Word.holds ⟨classKeyword, indent.length⟩
      ((indent.length + 5 + gap.length : Nat) : Int) = false := by
    rw [Bool.eq_false_iff, Ne, Word.holds_iff]
    rintro ⟨-, hend⟩
    simp only [classKeyword, List.length_cons, List.length_nil] at hend
    omega
  have hheld : Word.holds ⟨name, indent.length + 5 + gap.length⟩
      ((indent.length + 5 + gap.length : Nat) : Int) = true := by
    rw [Word.holds_iff]
    exact ⟨Nat.le_refl _, Nat.le_add_right _ _⟩
  obtain ⟨rest, hscan⟩ := h.scan_eq
  rw [Word.at?, hscan, List.find?, hpast, List.find?, hheld]

theorem ClassLine.declared? (h : ClassLine indent gap name after) {found : List Char}
    (hfound : ClassHeader.declared? (indent ++ (classKeyword ++ (gap ++ (name ++ after)))) =
      some found) : found = name := by
  obtain ⟨hindent, hgap⟩ := List.forall_mem_append.1 h.wordless
  unfold ClassHeader.declared? ClassHeader.keyword? at hfound
  by_cases hblank : ∀ c ∈ indent, Text.isBlank c = true
  · have hkeyword : (classKeyword ++ (gap ++ (name ++ after))).dropWhile Text.isBlank =
        'c' :: 'l' :: 'a' :: 's' :: 's' :: (gap ++ (name ++ after)) := by
      rw [classKeyword, List.cons_append, List.dropWhile_cons_of_neg (by decide)]
      rfl
    rw [List.dropWhile_append_of_pos hblank, hkeyword] at hfound
    simp only [Option.bind_eq_bind, Option.bind_some] at hfound
    split at hfound
    · cases hfound
    · by_cases hspaces : ∀ c ∈ gap, Text.isBlank c = true
      · have hname : (name ++ after).dropWhile Text.isBlank = name ++ after := by
          obtain ⟨c, tail, rfl, hc⟩ := h.identifier.head
          have hword := Text.isBlank_of_isWord (Text.isWord_of_isHead hc)
          rw [List.cons_append, List.dropWhile_cons_of_neg (by simp [hword])]
        obtain ⟨rest, htake⟩ := Text.takeName?_identifier h.identifier h.ended
        rw [List.dropWhile_append_of_pos hspaces, hname, htake] at hfound
        exact (Option.some.inj hfound).symm
      · obtain ⟨c, hc, tail, hdrop⟩ := Text.dropWhile_of_not_forall hspaces (name ++ after)
        rw [hdrop, Text.takeName?, if_neg (by simp [Text.isHead_of_not_isWord (hgap c hc)])] at hfound
        cases hfound
  · -- The line begins with a character that is neither a blank nor of a word.
    obtain ⟨c, hc, tail, hdrop⟩ := Text.dropWhile_of_not_forall hblank
      (classKeyword ++ (gap ++ (name ++ after)))
    rw [hdrop] at hfound
    split at hfound
    · next heq =>
        rw [List.cons.injEq] at heq
        have hno := hindent c hc
        rw [heq.1] at hno
        exact absurd hno (by decide)
    · cases hfound

theorem ClassLine.classNameAt? (h : ClassLine indent gap name after) :
    classNameAt? (indent ++ (classKeyword ++ (gap ++ (name ++ after))))
        (some ((indent.length + 5 + gap.length : Nat) : Int)) =
      some (String.ofList name) := by
  unfold LozengeNav.classNameAt?
  cases hdeclared :
      ClassHeader.declared? (indent ++ (classKeyword ++ (gap ++ (name ++ after)))) with
  | none =>
      simp only [Option.bind_some, h.at?]
      rfl
  | some found => simp only [h.declared? hdeclared]

end ClassLine

end LozengeNav
