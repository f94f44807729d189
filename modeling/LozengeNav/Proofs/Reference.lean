import LozengeNav.Reference
import LozengeNav.Proofs.Text.Identifier

/-! # Names of references

Every reference that is read off a line has a name that begins with a letter or
an underscore, whatever its form.
-/

namespace LozengeNav

namespace Reference

/-- The text begins with a character that may begin a name. -/
def Begins (s : List Char) : Prop :=
  ∃ c rest, s = c :: rest ∧ Text.isHead c = true

theorem begins_of_takeName? {tail : Char → Bool} {s name rest : List Char}
    (h : Text.takeName? tail s = some (name, rest)) : Begins name := by
  cases s with
  | nil => simp [Text.takeName?] at h
  | cons c cs =>
      by_cases hc : Text.isHead c = true
      · rw [Text.takeName?, if_pos hc, Option.some.injEq, Prod.mk.injEq] at h
        exact ⟨c, cs.takeWhile tail, h.1.symm, hc⟩
      · rw [Text.takeName?, if_neg hc] at h
        cases h

theorem Begins.append {s : List Char} (h : Begins s) (t : List Char) : Begins (s ++ t) := by
  obtain ⟨c, rest, rfl, hc⟩ := h
  exact ⟨c, rest ++ t, rfl, hc⟩

theorem begins_of_takeParenthesized? {s name rest : List Char}
    (h : takeParenthesized? s = some (name, rest)) : Begins name := by
  unfold takeParenthesized? at h
  obtain ⟨⟨first, after⟩, hfirst, hrest⟩ := Option.bind_eq_some_iff.1 h
  simp only at hrest
  split at hrest
  · cases hrest
    exact (begins_of_takeName? hfirst).append _
  · cases hrest

theorem begins_of_read? {form : Form} {s name : List Char} {width : Nat}
    (h : read? form s = some (name, width)) : Begins name := by
  cases form with
  | parenthesized =>
      unfold read? at h
      simp only at h
      split at h
      · obtain ⟨⟨found, after⟩, htake, heq⟩ := Option.map_eq_some_iff.1 h
        cases heq
        exact begins_of_takeParenthesized? htake
      · cases h
  | colon =>
      rw [read?] at h
      split at h
      · next found rest htake =>
          split at h
          · cases h
            exact begins_of_takeName? htake
          · cases h
      · cases h
  | bare =>
      rw [read?] at h
      obtain ⟨⟨found, after⟩, htake, heq⟩ := Option.map_eq_some_iff.1 h
      cases heq
      exact begins_of_takeName? htake

theorem exists_read_of_mem_scanFrom {form : Form} {line : List Char} {skip column : Nat}
    {r : Reference} (h : r ∈ scanFrom form skip column line) :
    ∃ rest width, read? form rest = some (r.name, width) := by
  -- The induction is on the rest of the line; a skipped character changes nothing.
  induction line generalizing skip column with
  | nil => simp [scanFrom] at h
  | cons c rest ih =>
      cases skip with
      | succ skip => exact ih (by simpa only [scanFrom] using h)
      | zero =>
          rw [scanFrom] at h
          split at h
          · split at h
            · next name width hread =>
                rcases List.mem_cons.1 h with rfl | h
                · exact ⟨rest, width, hread⟩
                · exact ih h
            · exact ih h
          · exact ih h

theorem exists_read_of_at? {line : List Char} {column : Int} {r : Reference}
    (h : at? line column = some r) : ∃ form rest width, read? form rest = some (r.name, width) := by
  obtain ⟨form, -, hscan⟩ := List.mem_flatMap.1 (List.mem_of_find?_eq_some h)
  exact ⟨form, exists_read_of_mem_scanFrom hscan⟩

theorem begins_of_at? {line : List Char} {column : Int} {r : Reference}
    (h : at? line column = some r) : Begins r.name := by
  obtain ⟨form, rest, width, hread⟩ := exists_read_of_at? h
  exact begins_of_read? hread

/-! ## Characters of names -/

/-- The text has no characters but those of names, and dots. -/
def Spelled (s : List Char) : Prop :=
  ∀ c ∈ s, isNameTail c = true ∨ c = '.'

theorem isNameTail_of_isWord (c : Char) (h : Text.isWord c = true) : isNameTail c = true := by
  rw [isNameTail, h, Bool.true_or]

theorem isNameTail_of_isHead {c : Char} (h : Text.isHead c = true) : isNameTail c = true :=
  isNameTail_of_isWord c (Text.isWord_of_isHead h)

theorem spelled_of_takeName? {tail : Char → Bool} (htail : ∀ c, tail c = true → isNameTail c = true)
    {s name rest : List Char} (h : Text.takeName? tail s = some (name, rest)) : Spelled name := by
  cases s with
  | nil => simp [Text.takeName?] at h
  | cons c cs =>
      by_cases hc : Text.isHead c = true
      · rw [Text.takeName?, if_pos hc, Option.some.injEq, Prod.mk.injEq] at h
        obtain ⟨rfl, -⟩ := h
        intro d hd
        rcases List.mem_cons.1 hd with rfl | hd
        · exact .inl (isNameTail_of_isHead hc)
        · exact .inl (htail d (List.all_eq_true.1 List.all_takeWhile d hd))
      · rw [Text.takeName?, if_neg hc] at h
        cases h

theorem Spelled.not_mem {s : List Char} (h : Spelled s) {c : Char} (htail : isNameTail c = false)
    (hdot : c ≠ '.') : c ∉ s := by
  intro hc
  rcases h c hc with hname | rfl
  · cases hname.symm.trans htail
  · exact hdot rfl

theorem Spelled.append {s t : List Char} (hs : Spelled s) (ht : Spelled t) : Spelled (s ++ t) := by
  intro c hc
  rcases List.mem_append.1 hc with hc | hc
  · exact hs c hc
  · exact ht c hc

theorem takeSegments_dot {rest segment after : List Char}
    (h : Text.takeName? Text.isWord rest = some (segment, after)) :
    takeSegments ('.' :: rest) =
      ('.' :: segment ++ (takeSegments after).1, (takeSegments after).2) := by
  rw [takeSegments]
  split
  · next found behind htake =>
      rw [h] at htake
      cases htake
      rfl
  · next hnone => simp [h] at hnone

theorem takeSegments_lone_dot {rest : List Char} (h : Text.takeName? Text.isWord rest = none) :
    takeSegments ('.' :: rest) = ([], '.' :: rest) := by
  rw [takeSegments]
  split
  · next htake => simp [h] at htake
  · rfl

theorem takeSegments_of_ne_dot {s : List Char} (h : ∀ rest, s = '.' :: rest → False) :
    takeSegments s = ([], s) := by
  rw [takeSegments.eq_def]
  split
  · next rest => exact absurd rfl (h rest)
  · rfl

theorem spelled_takeSegments (s : List Char) : Spelled (takeSegments s).1 := by
  -- The induction is on the segments; each is a dot and a name.
  induction s using takeSegments.induct with
  | case1 rest segment after htake hlength more final heq ih =>
      have hdot : Spelled ['.'] := List.forall_mem_singleton.2 (.inr rfl)
      have hsegment := spelled_of_takeName? isNameTail_of_isWord htake
      rw [takeSegments_dot htake, ← List.singleton_append]
      exact (hdot.append hsegment).append ih
  | case2 rest hnone =>
      rw [takeSegments_lone_dot hnone]
      exact List.forall_mem_nil _
  | case3 s hother =>
      rw [takeSegments_of_ne_dot hother]
      exact List.forall_mem_nil _

theorem spelled_of_read? {form : Form} {s name : List Char} {width : Nat}
    (h : read? form s = some (name, width)) : Spelled name := by
  cases form with
  | parenthesized =>
      unfold read? at h
      simp only at h
      split at h
      · obtain ⟨⟨found, after⟩, htake, heq⟩ := Option.map_eq_some_iff.1 h
        cases heq
        unfold takeParenthesized? at htake
        obtain ⟨⟨first, rest⟩, hfirst, hrest⟩ := Option.bind_eq_some_iff.1 htake
        have hmore := spelled_takeSegments rest
        simp only at hrest
        split at hrest
        · next more heq =>
            cases hrest
            rw [heq] at hmore
            exact (spelled_of_takeName? isNameTail_of_isWord hfirst).append hmore
        · cases hrest
      · cases h
  | colon =>
      rw [read?] at h
      split at h
      · next found rest htake =>
          split at h
          · cases h
            exact spelled_of_takeName? (fun _ hc => hc) htake
          · cases h
      · cases h
  | bare =>
      rw [read?] at h
      obtain ⟨⟨found, after⟩, htake, heq⟩ := Option.map_eq_some_iff.1 h
      cases heq
      exact spelled_of_takeName? (fun _ hc => hc) htake

theorem spelled_of_at? {line : List Char} {column : Int} {r : Reference}
    (h : at? line column = some r) : Spelled r.name := by
  obtain ⟨form, rest, width, hread⟩ := exists_read_of_at? h
  exact spelled_of_read? hread

end Reference

end LozengeNav
