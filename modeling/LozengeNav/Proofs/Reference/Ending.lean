import LozengeNav.Proofs.Reference
import LozengeNav.Text.Line

/-! # References and the end of a line

A line break behind a line is no part of a reference: the references of a line are
read alike with it and without it, and none reaches beyond the line.
-/

namespace LozengeNav

namespace Reference

/-- A character that is no part of a reference. -/
structure Inert (c : Char) : Prop where
  tail : isNameTail c = false
  sign : c ∉ [marker, '(', ')', '.', ':']

theorem inert_of_isBreak {c : Char} (h : Text.isBreak c = true) : Inert c := by
  constructor
  · have hword : Text.isWord c = false := by
      cases hword : Text.isWord c with
      | false => rfl
      | true =>
          rw [Text.isBreak_of_isWord hword] at h
          cases h
    have hdash : c ≠ '-' := by
      rintro rfl
      exact absurd h (by decide)
    rw [isNameTail, hword, Bool.false_or, beq_eq_false_iff_ne]
    exact hdash
  · rintro hsign
    simp only [List.mem_cons, List.not_mem_nil, or_false] at hsign
    rcases hsign with rfl | rfl | rfl | rfl | rfl <;> exact absurd h (by decide)

theorem takeWhile_concat {p : Char → Bool} {c : Char} (hc : p c = false) (s : List Char) :
    (s ++ [c]).takeWhile p = s.takeWhile p := by
  induction s with
  | nil => simp [hc]
  | cons d rest ih => rw [List.cons_append, List.takeWhile_cons, List.takeWhile_cons, ih]

theorem dropWhile_concat {p : Char → Bool} {c : Char} (hc : p c = false) (s : List Char) :
    (s ++ [c]).dropWhile p = s.dropWhile p ++ [c] := by
  induction s with
  | nil => simp [hc]
  | cons d rest ih =>
      rw [List.cons_append, List.dropWhile_cons, List.dropWhile_cons, ih]
      split <;> rfl

section Inert

variable {c : Char} (hc : Inert c)

include hc

theorem Inert.isWord : Text.isWord c = false := by
  cases hword : Text.isWord c with
  | false => rfl
  | true =>
      have htail := isNameTail_of_isWord c hword
      rw [hc.tail] at htail
      cases htail

theorem Inert.isHead : Text.isHead c = false :=
  Text.isHead_of_not_isWord hc.isWord

theorem takeName?_concat {tail : Char → Bool} (htail : tail c = false) (s : List Char) :
    Text.takeName? tail (s ++ [c]) =
      (Text.takeName? tail s).map fun (name, rest) => (name, rest ++ [c]) := by
  cases s with
  | nil => simp [Text.takeName?, hc.isHead]
  | cons d rest =>
      rw [List.cons_append, Text.takeName?, Text.takeName?, takeWhile_concat htail,
        dropWhile_concat htail]
      split <;> rfl

theorem takeSegments_concat (s : List Char) :
    takeSegments (s ++ [c]) = ((takeSegments s).1, (takeSegments s).2 ++ [c]) := by
  induction s using takeSegments.induct with
  | case1 rest segment after htake hlength more final heq ih =>
      have htake' := takeName?_concat hc hc.isWord rest
      rw [htake] at htake'
      rw [List.cons_append, takeSegments_dot htake', takeSegments_dot htake, ih]
  | case2 rest hnone =>
      have hnone' := takeName?_concat hc hc.isWord rest
      rw [hnone] at hnone'
      rw [List.cons_append, takeSegments_lone_dot hnone', takeSegments_lone_dot hnone]
      rfl
  | case3 s hother =>
      rw [takeSegments_of_ne_dot hother, takeSegments_of_ne_dot]
      intro rest heq
      cases s with
      | nil =>
          cases heq
          exact hc.sign (by decide)
      | cons d more =>
          cases heq
          exact hother more rfl

theorem takeParenthesized?_concat (s : List Char) :
    takeParenthesized? (s ++ [c]) =
      (takeParenthesized? s).map fun (name, rest) => (name, rest ++ [c]) := by
  rw [takeParenthesized?, takeParenthesized?, takeName?_concat hc hc.isWord]
  cases Text.takeName? Text.isWord s with
  | none => rfl
  | some found =>
      obtain ⟨head, rest⟩ := found
      simp only [Option.map_some, Option.bind_eq_bind, Option.bind_some, takeSegments_concat hc]
      obtain ⟨more, final⟩ := takeSegments rest
      cases final with
      | nil =>
          have hclosed : c ≠ ')' := by
            rintro rfl
            exact hc.sign (by decide)
          simp [hclosed]
      | cons d after =>
          by_cases hd : d = ')'
          · subst hd
            rfl
          · simp [hd]

theorem colonFollows_concat (s : List Char) : colonFollows (s ++ [c]) = colonFollows s := by
  have hcolon : c ≠ ':' := by
    rintro rfl
    exact hc.sign (by decide)
  rw [colonFollows, colonFollows, Text.trimLeft, Text.trimLeft]
  induction s with
  | nil =>
      cases hblank : Text.isBlank c <;> simp [hblank, hcolon]
  | cons d rest ih =>
      rw [List.cons_append, List.dropWhile_cons, List.dropWhile_cons]
      split
      · exact ih
      · rfl

theorem read?_concat (form : Form) (s : List Char) : read? form (s ++ [c]) = read? form s := by
  cases form with
  | parenthesized =>
      cases s with
      | nil =>
          have hopened : c ≠ '(' := by
            rintro rfl
            exact hc.sign (by decide)
          simp [read?, hopened]
      | cons d rest =>
          by_cases hd : d = '('
          · subst hd
            rw [List.cons_append, read?, read?, takeParenthesized?_concat hc]
            cases takeParenthesized? rest <;> rfl
          · simp [read?, hd]
  | colon =>
      rw [read?, read?, takeName?_concat hc hc.tail]
      cases Text.takeName? isNameTail s with
      | none => rfl
      | some found => simp only [Option.map_some, colonFollows_concat hc]
  | bare =>
      rw [read?, read?, takeName?_concat hc hc.tail]
      cases Text.takeName? isNameTail s <;> rfl

theorem scanFrom_concat (form : Form) (skip column : Nat) (line : List Char) :
    scanFrom form skip column (line ++ [c]) = scanFrom form skip column line := by
  have hmarker : c ≠ marker := by
    rintro rfl
    exact hc.sign List.mem_cons_self
  induction line generalizing skip column with
  | nil => cases skip <;> simp [scanFrom, hmarker]
  | cons d rest ih =>
      cases skip with
      | succ skip => simpa only [List.cons_append, scanFrom] using ih skip (column + 1)
      | zero => simp only [List.cons_append, scanFrom, read?_concat hc, ih]

theorem at?_concat (line : List Char) (column : Int) :
    at? (line ++ [c]) column = at? line column := by
  simp only [at?, scan, scanFrom_concat hc]

end Inert

/-! ## How far a reference reaches -/

theorem takeSegments_append (s : List Char) : (takeSegments s).1 ++ (takeSegments s).2 = s := by
  induction s using takeSegments.induct with
  | case1 rest segment after htake hlength more final heq ih =>
      rw [takeSegments_dot htake, List.cons_append, List.cons_append, List.append_assoc, ih,
        Text.takeName?_append htake]
  | case2 rest hnone =>
      rw [takeSegments_lone_dot hnone]
      rfl
  | case3 s hother =>
      rw [takeSegments_of_ne_dot hother]
      rfl

section Read

variable {s name : List Char} {width : Nat}

theorem takeParenthesized?_append {rest : List Char}
    (h : takeParenthesized? s = some (name, rest)) : name ++ ')' :: rest = s := by
  unfold takeParenthesized? at h
  obtain ⟨⟨first, after⟩, hfirst, hrest⟩ := Option.bind_eq_some_iff.1 h
  have hmore := takeSegments_append after
  simp only at hrest
  split at hrest
  · next more closed heq =>
      cases hrest
      rw [heq] at hmore
      rw [List.append_assoc, hmore, Text.takeName?_append hfirst]
  · cases hrest

theorem append_of_read?_parenthesized (h : read? .parenthesized s = some (name, width)) :
    width = name.length + 2 ∧ ∃ rest, s = '(' :: (name ++ ')' :: rest) := by
  unfold read? at h
  simp only at h
  split at h
  · next inner =>
      obtain ⟨⟨found, rest⟩, htake, heq⟩ := Option.map_eq_some_iff.1 h
      cases heq
      exact ⟨rfl, rest, by rw [takeParenthesized?_append htake]⟩
  · cases h

theorem read?_bare_iff : read? .bare s = some (name, width) ↔
    ∃ rest, Text.takeName? isNameTail s = some (name, rest) ∧ width = name.length := by
  rw [read?]
  constructor
  · intro h
    obtain ⟨⟨found, rest⟩, htake, heq⟩ := Option.map_eq_some_iff.1 h
    cases heq
    exact ⟨rest, htake, rfl⟩
  · intro h
    obtain ⟨rest, htake, hwidth⟩ := h
    simp [htake, hwidth]

theorem read?_colon_iff : read? .colon s = some (name, width) ↔
    ∃ rest, Text.takeName? isNameTail s = some (name, rest) ∧ colonFollows rest = true ∧
      width = name.length := by
  rw [read?]
  constructor
  · intro h
    split at h
    · next found rest htake =>
        split at h
        · next hcolon =>
            cases h
            exact ⟨rest, htake, hcolon, rfl⟩
        · cases h
    · cases h
  · intro h
    obtain ⟨rest, htake, hcolon, hwidth⟩ := h
    simp [htake, hcolon, hwidth]

theorem width_le_of_read? {form : Form} (h : read? form s = some (name, width)) :
    width ≤ s.length := by
  cases form with
  | parenthesized =>
      obtain ⟨rfl, rest, rfl⟩ := append_of_read?_parenthesized h
      simp only [List.length_cons, List.length_append]
      omega
  | colon =>
      obtain ⟨rest, htake, -, rfl⟩ := read?_colon_iff.1 h
      rw [← Text.takeName?_append htake, List.length_append]
      exact Nat.le_add_right _ _
  | bare =>
      obtain ⟨rest, htake, rfl⟩ := read?_bare_iff.1 h
      rw [← Text.takeName?_append htake, List.length_append]
      exact Nat.le_add_right _ _

end Read

theorem stop_le_of_mem_scanFrom {form : Form} {line : List Char} {skip column : Nat}
    {r : Reference} (h : r ∈ scanFrom form skip column line) : r.stop ≤ column + line.length := by
  induction line generalizing skip column with
  | nil => simp [scanFrom] at h
  | cons c rest ih =>
      rw [List.length_cons]
      have hbehind : ∀ {skip : Nat}, r ∈ scanFrom form skip (column + 1) rest →
          r.stop ≤ column + (rest.length + 1) := by
        intro skip h
        have hstop := ih h
        omega
      cases skip with
      | succ skip => exact hbehind (by simpa only [scanFrom] using h)
      | zero =>
          rw [scanFrom] at h
          split at h
          · split at h
            · next name width hread =>
                rcases List.mem_cons.1 h with rfl | h
                · have hwidth := width_le_of_read? hread
                  show column + 1 + width ≤ column + (rest.length + 1)
                  omega
                · exact hbehind h
            · exact hbehind h
          · exact hbehind h

theorem at?_eq_none {line : List Char} {column : Int} (h : (line.length : Int) < column) :
    at? line column = none := by
  refine List.find?_eq_none.2 fun r hr hholds => ?_
  obtain ⟨form, -, hscan⟩ := List.mem_flatMap.1 hr
  have hstop := stop_le_of_mem_scanFrom hscan
  rw [holds, Bool.and_eq_true, decide_eq_true_eq, decide_eq_true_eq] at hholds
  omega

end Reference

end LozengeNav
