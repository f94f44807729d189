/-!
# ASCII identifiers

Identifiers as references, class headers and dotted expressions spell them: a letter or underscore,
then letters, digits and underscores.  A dotted chain joins identifiers by dots, and in Python
sources blanks may stand around each dot.
-/

namespace LozengeNav

namespace Text

/-- A letter or underscore of ASCII. -/
def isHead (c : Char) : Bool :=
  c.isAlpha || c == '_'

/-- A letter, digit or underscore of ASCII. -/
def isWord (c : Char) : Bool :=
  c.isAlphanum || c == '_'

/-- Cut the longest identifier, with `tail` allowed after its first character, off the front. -/
def takeName? (tail : Char → Bool) : List Char → Option (List Char × List Char)
  | [] => none
  | c :: rest => if isHead c then some (c :: rest.takeWhile tail, rest.dropWhile tail) else none

theorem takeName?_append {tail : Char → Bool} {s name rest : List Char}
    (h : takeName? tail s = some (name, rest)) : name ++ rest = s := by
  cases s with
  | nil => simp [takeName?] at h
  | cons c cs =>
    by_cases hc : isHead c
    · simp only [takeName?, hc, if_true, Option.some.injEq, Prod.mk.injEq] at h
      obtain ⟨rfl, rfl⟩ := h
      simp
    · simp [takeName?, hc] at h

theorem takeName?_ne_nil {tail : Char → Bool} {s name rest : List Char}
    (h : takeName? tail s = some (name, rest)) : name ≠ [] := by
  cases s with
  | nil => simp [takeName?] at h
  | cons c cs =>
    by_cases hc : isHead c
    · simp only [takeName?, hc, if_true, Option.some.injEq, Prod.mk.injEq] at h
      obtain ⟨rfl, rfl⟩ := h
      simp
    · simp [takeName?, hc] at h

theorem takeName?_length {tail : Char → Bool} {s name rest : List Char}
    (h : takeName? tail s = some (name, rest)) : rest.length < s.length := by
  have happ := takeName?_append h
  have hne := List.length_pos_iff.2 (takeName?_ne_nil h)
  rw [← happ, List.length_append]
  omega

end Text

end LozengeNav
