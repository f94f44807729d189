import LozengeNav.Expression
import LozengeNav.Proofs.Text.Identifier

/-! # Words on a line

The identifiers of a line are read from left to right. What is no identifier is
passed over, and an identifier is read to its end.
-/

namespace LozengeNav

section Word

variable {s name rest : List Char}

theorem Word.holds_iff {w : Word} {column : Nat} :
    w.holds column = true ↔ w.start ≤ column ∧ column ≤ w.start + w.text.length := by
  rw [holds, Bool.and_eq_true, decide_eq_true_eq, decide_eq_true_eq, stop]
  omega

theorem Word.scanFrom_append (column : Nat) (h : ∀ c ∈ s, Text.isHead c = false) :
    Word.scanFrom 0 column (s ++ rest) = Word.scanFrom 0 (column + s.length) rest := by
  induction s generalizing column with
  | nil => rfl
  | cons c s ih =>
      obtain ⟨hc, hs⟩ := List.forall_mem_cons.1 h
      rw [List.cons_append, Word.scanFrom, if_neg (by simp [hc]), ih _ hs, List.length_cons,
        Nat.add_assoc, Nat.add_comm 1]

theorem Word.scanFrom_skip (column : Nat) :
    Word.scanFrom s.length column (s ++ rest) = Word.scanFrom 0 (column + s.length) rest := by
  induction s generalizing column with
  | nil => rfl
  | cons c s ih =>
      rw [List.cons_append, List.length_cons, Word.scanFrom, ih, Nat.add_assoc, Nat.add_comm 1]

/-- An ASCII identifier: a letter or underscore and then letters, digits and underscores. -/
structure Text.Identifier (name : List Char) : Prop where
  head : ∃ c tail, name = c :: tail ∧ isHead c = true
  word : ∀ c ∈ name, isWord c = true

theorem Text.identifier_iff :
    Text.Identifier name ↔ name.head?.any isHead = true ∧ name.all isWord = true := by
  constructor
  · rintro ⟨⟨c, tail, rfl, hc⟩, hword⟩
    exact ⟨hc, List.all_eq_true.2 hword⟩
  · rintro ⟨hhead, hword⟩
    cases name with
    | nil => cases hhead
    | cons c tail => exact ⟨⟨c, tail, rfl, hhead⟩, List.all_eq_true.1 hword⟩

instance : DecidablePred Text.Identifier := fun _ =>
  decidable_of_iff _ Text.identifier_iff.symm

theorem Text.identifier_takeWhile {c : Char} (hc : isHead c = true) (tail : List Char) :
    Text.Identifier (c :: tail.takeWhile isWord) where
  head := ⟨c, _, rfl, hc⟩
  word := by
    intro d hd
    rcases List.mem_cons.1 hd with rfl | hd
    · exact isWord_of_isHead hc
    · exact List.all_eq_true.1 List.all_takeWhile d hd

theorem Text.identifier_of_takeName? (h : takeName? isWord s = some (name, rest)) :
    Text.Identifier name := by
  cases s with
  | nil => cases h
  | cons c tail =>
      by_cases hc : isHead c = true
      · simp only [takeName?, hc, if_true, Option.some.injEq, Prod.mk.injEq] at h
        exact h.1 ▸ identifier_takeWhile hc tail
      · simp [takeName?, hc] at h

theorem Word.identifier_of_mem_scanFrom {w : Word} {skip column : Nat}
    (h : w ∈ Word.scanFrom skip column s) : Text.Identifier w.text := by
  induction s generalizing skip column with
  | nil => cases h
  | cons c s ih =>
      cases skip with
      | succ skip => exact ih h
      | zero =>
          rw [Word.scanFrom] at h
          by_cases hc : Text.isHead c = true
          · rw [if_pos hc] at h
            rcases List.mem_cons.1 h with rfl | h
            · exact Text.identifier_takeWhile hc s
            · exact ih h
          · rw [if_neg hc] at h
            exact ih h

theorem Text.takeWhile_identifier (hname : ∀ c ∈ name, isWord c = true)
    (hrest : ∀ c ∈ rest.head?, isWord c = false) : (name ++ rest).takeWhile isWord = name := by
  rw [List.takeWhile_append_of_pos hname]
  cases rest with
  | nil => simp
  | cons c rest => simp [hrest c rfl]

theorem Text.takeName?_identifier (hname : Text.Identifier name)
    (hrest : ∀ c ∈ rest.head?, isWord c = false) :
    ∃ after, takeName? isWord (name ++ rest) = some (name, after) := by
  obtain ⟨c, tail, rfl, hc⟩ := hname.head
  obtain ⟨-, htail⟩ := List.forall_mem_cons.1 hname.word
  refine ⟨(tail ++ rest).dropWhile isWord, ?_⟩
  rw [List.cons_append, takeName?, if_pos hc, takeWhile_identifier htail hrest]

theorem Word.scanFrom_identifier (column : Nat) (hname : Text.Identifier name)
    (hrest : ∀ c ∈ rest.head?, Text.isWord c = false) :
    Word.scanFrom 0 column (name ++ rest) =
      ⟨name, column⟩ :: Word.scanFrom 0 (column + name.length) rest := by
  obtain ⟨c, tail, rfl, hc⟩ := hname.head
  obtain ⟨-, htail⟩ := List.forall_mem_cons.1 hname.word
  rw [List.cons_append, Word.scanFrom, if_pos hc, Text.takeWhile_identifier htail hrest]
  simp only
  rw [Word.scanFrom_skip, List.length_cons, Nat.add_assoc, Nat.add_comm 1]

end Word

theorem Text.dropWhile_of_not_forall {p : Char → Bool} {s : List Char}
    (h : ¬ ∀ c ∈ s, p c = true) (rest : List Char) :
    ∃ c ∈ s, ∃ tail, (s ++ rest).dropWhile p = c :: tail := by
  induction s with
  | nil => exact absurd (List.forall_mem_nil _) h
  | cons c s ih =>
      by_cases hc : p c = true
      · rw [List.forall_mem_cons, not_and] at h
        obtain ⟨d, hd, tail, hdrop⟩ := ih (h hc)
        exact ⟨d, List.mem_cons_of_mem _ hd, tail, by simpa [hc] using hdrop⟩
      · exact ⟨c, List.mem_cons_self, s ++ rest, by simp [hc]⟩

end LozengeNav
