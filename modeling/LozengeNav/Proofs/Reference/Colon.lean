import LozengeNav.Proofs.Reference.Occurrence

/-! # References with a colon

A reference with a colon is a bare one with a colon behind it, and the two forms name
the same. That is not so by their patterns: a matcher that gives characters back until
a colon follows could end a name early. `Tries` are the matches of a pattern in the
order in which such a matcher tries them. No try but the longest is followed by a
colon, since the characters of a name are no blanks and no colons, and so the scans of
both forms are what the matcher finds.
-/

namespace LozengeNav

/-! ## Matching with a way back -/

/-- The matches of a pattern at the front of a text, in the order in which they are
tried; of each one the text behind it is given. -/
abbrev Tries : Type :=
  List Char → List (List Char)

namespace Tries

def one (p : Char → Bool) : Tries
  | [] => []
  | c :: rest => if p c then [rest] else []

/-- As many characters as there are, then one less, and so on. -/
def many (p : Char → Bool) : Tries
  | [] => [[]]
  | c :: rest => if p c then many p rest ++ [c :: rest] else [c :: rest]

def andThen (x y : Tries) : Tries :=
  fun s => (x s).flatMap y

/-- No characters, in front of a match. -/
def ahead (x : Tries) : Tries :=
  fun s => if (x s).isEmpty then [] else [s]

/-- The matches on the rest of a line that begins at column `column`, each with its
column: the first try counts, and the next match is looked for behind it. The first
`skip` characters belong to a match already found. -/
def findFrom (x : Tries) (skip column : Nat) : List Char → List (Nat × List Char)
  | [] => []
  | c :: rest =>
      match skip with
      | skip + 1 => findFrom x skip (column + 1) rest
      | 0 =>
          match (x (c :: rest)).head? with
          | some after =>
              let taken := (c :: rest).take ((c :: rest).length - after.length)
              (column, taken) :: findFrom x (taken.length - 1) (column + 1) rest
          | none => findFrom x 0 (column + 1) rest

def find (x : Tries) (line : List Char) : List (Nat × List Char) :=
  findFrom x 0 0 line

section Laws

variable {p q : Char → Bool} {s rest : List Char}

theorem mem_many : rest ∈ many p s ↔ ∃ taken, s = taken ++ rest ∧ ∀ c ∈ taken, p c = true := by
  induction s with
  | nil =>
      rw [many, List.mem_singleton]
      constructor
      · rintro rfl
        exact ⟨[], rfl, List.forall_mem_nil _⟩
      · rintro ⟨taken, hs, -⟩
        exact (List.append_eq_nil_iff.1 hs.symm).2
  | cons c tail ih =>
      have hwhole : ∃ taken, c :: tail = taken ++ c :: tail ∧ ∀ d ∈ taken, p d = true :=
        ⟨[], rfl, List.forall_mem_nil _⟩
      rw [many]
      constructor
      · intro h
        split at h
        · next hc =>
            rcases List.mem_append.1 h with h | h
            · obtain ⟨taken, htail, htaken⟩ := ih.1 h
              exact ⟨c :: taken, by rw [htail]; rfl, List.forall_mem_cons.2 ⟨hc, htaken⟩⟩
            · exact List.mem_singleton.1 h ▸ hwhole
        · exact List.mem_singleton.1 h ▸ hwhole
      · rintro ⟨taken, hs, htaken⟩
        cases taken with
        | nil =>
            obtain rfl : c :: tail = rest := hs
            split <;> simp
        | cons d taken =>
            obtain ⟨rfl, rfl⟩ := List.cons.inj hs
            obtain ⟨hd, htaken⟩ := List.forall_mem_cons.1 htaken
            rw [if_pos hd]
            exact List.mem_append_left _ (ih.2 ⟨taken, rfl, htaken⟩)

theorem many_eq_cons (p : Char → Bool) (s : List Char) :
    ∃ shorter, many p s = s.dropWhile p :: shorter := by
  induction s with
  | nil => exact ⟨[], rfl⟩
  | cons c tail ih =>
      obtain ⟨shorter, htail⟩ := ih
      by_cases hc : p c = true
      · exact ⟨shorter ++ [c :: tail], by simp [many, hc, htail]⟩
      · exact ⟨[], by simp [many, hc]⟩

theorem head?_many (p : Char → Bool) (s : List Char) :
    (many p s).head? = some (s.dropWhile p) := by
  obtain ⟨shorter, hmany⟩ := many_eq_cons p s
  rw [hmany, List.head?_cons]

/-- Of a run in front of what no character of the run begins, only the longest try
stands. -/
theorem flatMap_many {f : List Char → Bool}
    (hf : ∀ c s, p c = true → f (c :: s) = false) (s : List Char) :
    ((many p s).flatMap fun rest => if f rest then [rest] else []) =
      if f (s.dropWhile p) then [s.dropWhile p] else [] := by
  induction s with
  | nil => rw [many, List.flatMap_singleton, List.dropWhile_nil]
  | cons c tail ih =>
      by_cases hc : p c = true
      · rw [many, if_pos hc, List.flatMap_append, ih, List.dropWhile_cons_of_pos hc]
        simp [hf c tail hc]
      · rw [many, if_neg hc, List.dropWhile_cons_of_neg hc]
        simp

end Laws

end Tries

namespace Reference

/-! ## The patterns of two forms -/

/-- A marker and a name. -/
def bareTries : Tries :=
  (Tries.one (· == marker)).andThen ((Tries.one Text.isHead).andThen (Tries.many isNameTail))

def colonTries : Tries :=
  (Tries.many Text.isBlank).andThen (Tries.one (· == ':'))

/-- A marker and a name, in front of blanks and a colon. -/
def namedTries : Tries :=
  bareTries.andThen colonTries.ahead

/-- The reference that a match is: its name is all but the marker. -/
def ofMatch (form : Form) (found : Nat × List Char) : Reference :=
  ⟨found.2.tail, found.1, found.1 + found.2.length, form⟩

theorem bareTries_cons (c : Char) (rest : List Char) :
    bareTries (c :: rest) =
      if c = marker then (Tries.one Text.isHead rest).flatMap (Tries.many isNameTail) else [] := by
  by_cases hc : c = marker <;> simp [bareTries, Tries.andThen, Tries.one, hc]

theorem colonFollows_of_isNameTail {c : Char} (hc : isNameTail c = true) (s : List Char) :
    colonFollows (c :: s) = false := by
  have hcolon : c ≠ ':' := by
    rintro rfl
    exact absurd hc (by decide)
  have hblank : Text.isBlank c = false := by
    rw [isNameTail, Bool.or_eq_true] at hc
    rcases hc with hword | hdash
    · exact Text.isBlank_of_isWord hword
    · rw [beq_iff_eq.1 hdash]
      decide
  rw [colonFollows, Text.trimLeft, List.dropWhile_cons_of_neg (by simp [hblank])]
  simpa using hcolon

theorem ahead_colonTries (s : List Char) :
    colonTries.ahead s = if colonFollows s then [s] else [] := by
  have hempty : (colonTries s).isEmpty = false ↔ colonFollows s = true := by
    rw [List.isEmpty_eq_false_iff_exists_mem, colonFollows_iff]
    simp only [colonTries, Tries.andThen, List.mem_flatMap, Tries.mem_many]
    constructor
    · rintro ⟨more, after, ⟨blanks, hs, hblanks⟩, hmore⟩
      cases after with
      | nil => simp [Tries.one] at hmore
      | cons c after =>
          by_cases hc : c = ':'
          · exact ⟨blanks, after, by rw [hs, hc], hblanks⟩
          · simp [Tries.one, hc] at hmore
    · rintro ⟨blanks, more, hs, hblanks⟩
      exact ⟨more, ':' :: more, ⟨blanks, hs, hblanks⟩, by simp [Tries.one]⟩
  rw [Tries.ahead]
  by_cases h : colonFollows s = true
  · rw [if_pos h, if_neg (by simp [hempty.2 h])]
  · have hnone : (colonTries s).isEmpty = true := by
      rw [← Bool.not_eq_false, hempty]
      exact h
    rw [if_neg h, if_pos hnone]

theorem namedTries_eq (s : List Char) :
    namedTries s = ((bareTries s).head?.filter colonFollows).toList := by
  have hahead : colonTries.ahead = fun rest => if colonFollows rest then [rest] else [] :=
    funext ahead_colonTries
  have hempty : bareTries s = [] →
      namedTries s = ((bareTries s).head?.filter colonFollows).toList := by
    intro h
    rw [namedTries, Tries.andThen, h]
    rfl
  cases s with
  | nil => exact hempty rfl
  | cons c rest =>
      by_cases hc : c = marker
      · cases rest with
        | nil => exact hempty (by rw [bareTries_cons, if_pos hc]; rfl)
        | cons d tail =>
            by_cases hd : Text.isHead d = true
            · have hbare : bareTries (c :: d :: tail) = Tries.many isNameTail tail := by
                rw [bareTries_cons, if_pos hc]
                simp [Tries.one, hd]
              rw [namedTries, Tries.andThen, hbare, hahead,
                Tries.flatMap_many fun e t he => colonFollows_of_isNameTail he t,
                Tries.head?_many, Option.filter_some]
              split <;> rfl
            · refine hempty ?_
              rw [bareTries_cons, if_pos hc]
              simp [Tries.one, hd]
      · exact hempty (by rw [bareTries_cons, if_neg hc])

/-! ## Scans as matches -/

/-- A form is read by a pattern: behind a marker the first try takes what is read, and
nothing else is matched. -/
structure ReadBy (form : Form) (x : Tries) : Prop where
  head : ∀ c rest, (x (c :: rest)).head? =
    if c = marker then (read? form rest).map fun found => rest.drop found.2 else none
  taken : ∀ s name width, read? form s = some (name, width) → s.take width = name

theorem take_of_read?_bare {s name : List Char} {width : Nat}
    (h : read? .bare s = some (name, width)) : s.take width = name := by
  obtain ⟨rest, htake, rfl⟩ := read?_bare_iff.1 h
  rw [← Text.takeName?_append htake, List.take_left]

theorem read?_colon_eq_filter (s : List Char) :
    read? .colon s = (read? .bare s).filter fun found => colonFollows (s.drop found.2) := by
  rw [read?, read?]
  cases htake : Text.takeName? isNameTail s with
  | none => rfl
  | some found =>
      obtain ⟨name, rest⟩ := found
      have hdrop : s.drop name.length = rest := by
        rw [← Text.takeName?_append htake, List.drop_left]
      simp [Option.filter_some, hdrop]

theorem head?_bareTries (s : List Char) :
    (bareTries (marker :: s)).head? = (Text.takeName? isNameTail s).map Prod.snd := by
  rw [bareTries_cons, if_pos rfl]
  cases s with
  | nil => rfl
  | cons d tail =>
      by_cases hd : Text.isHead d = true
      · simp [Tries.one, hd, Text.takeName?, Tries.head?_many]
      · simp [Tries.one, hd, Text.takeName?]

theorem readBy_bareTries : ReadBy .bare bareTries where
  head c rest := by
    by_cases hc : c = marker
    · rw [if_pos hc, hc, head?_bareTries, read?]
      cases htake : Text.takeName? isNameTail rest with
      | none => rfl
      | some found =>
          have hdrop : rest.drop found.1.length = found.2 := by
            rw [← Text.takeName?_append htake, List.drop_left]
          simp only [Option.map_some, hdrop]
    · rw [if_neg hc, bareTries_cons, if_neg hc]
      rfl
  taken _ _ _ h := take_of_read?_bare h

theorem readBy_namedTries : ReadBy .colon namedTries where
  head c rest := by
    have hbare := readBy_bareTries.head c rest
    rw [namedTries_eq, hbare]
    by_cases hc : c = marker
    · rw [if_pos hc, if_pos hc, read?_colon_eq_filter]
      cases read? .bare rest with
      | none => rfl
      | some found =>
          simp only [Option.map_some, Option.filter_some]
          split <;> rfl
    · rw [if_neg hc, if_neg hc]
      rfl
  taken s name width h := by
    rw [read?_colon_eq_filter] at h
    exact take_of_read?_bare (Option.eq_some_of_filter_eq_some h)

theorem ReadBy.scanFrom_eq {form : Form} {x : Tries} (h : ReadBy form x) (skip column : Nat)
    (line : List Char) :
    scanFrom form skip column line = (x.findFrom skip column line).map (ofMatch form) := by
  induction line generalizing skip column with
  | nil => cases skip <;> rfl
  | cons c rest ih =>
      cases skip with
      | succ skip =>
          rw [scanFrom, Tries.findFrom]
          exact ih skip (column + 1)
      | zero =>
          rw [scanFrom, Tries.findFrom, h.head]
          by_cases hc : c = marker
          · rw [if_pos hc, if_pos hc]
            cases hread : read? form rest with
            | none => exact ih 0 (column + 1)
            | some found =>
                obtain ⟨name, width⟩ := found
                have hwidth : width ≤ rest.length := width_le_of_read? hread
                have htaken : (c :: rest).take ((c :: rest).length - (rest.drop width).length) =
                    c :: name := by
                  have hlength : (c :: rest).length - (rest.drop width).length = width + 1 := by
                    rw [List.length_drop, List.length_cons]
                    omega
                  rw [hlength, List.take_succ_cons, h.taken rest name width hread]
                have hname : name.length = width := by
                  rw [← h.taken rest name width hread, List.length_take_of_le hwidth]
                have hskip : (c :: name).length - 1 = width := by
                  rw [List.length_cons, Nat.add_sub_cancel, hname]
                have hstop : column + (c :: name).length = column + 1 + width := by
                  rw [List.length_cons, hname]
                  omega
                simp only [Option.map_some, htaken, hskip, ofMatch, hstop, List.map_cons,
                  List.tail_cons, ih]
          · rw [if_neg hc, if_neg hc]
            exact ih 0 (column + 1)

/-! ## Bare references in front of a colon -/

def withColon (r : Reference) : Reference :=
  { r with form := .colon }

theorem scanFrom_colon_eq (before rest : List Char) :
    scanFrom .colon 0 before.length rest =
      ((scanFrom .bare 0 before.length rest).filter fun r =>
        colonFollows ((before ++ rest).drop r.stop)).map withColon := by
  -- The induction is on the rest of the line, which begins behind `before`.
  induction rest generalizing before with
  | nil => rfl
  | cons c rest ih =>
      have hnext := ih (before ++ [c])
      rw [List.append_assoc, List.singleton_append, List.length_append, List.length_singleton]
        at hnext
      rw [scanFrom_cons, scanFrom_cons .bare, List.filter_append, List.map_append, ← hnext]
      congr 1
      by_cases hc : c = marker
      · rw [if_pos hc, if_pos hc, read?_colon_eq_filter]
        cases hread : read? .bare rest with
        | none => rfl
        | some found =>
            have hdrop : (before ++ c :: rest).drop (before.length + 1 + found.2) =
                rest.drop found.2 := by
              rw [Nat.add_assoc, List.drop_append, List.drop_eq_nil_of_le (by omega)]
              simp [Nat.add_comm 1]
            rw [Option.map_some, Option.filter_some, Option.toList_some, List.filter_cons]
            simp only [hdrop]
            split <;> rfl
      · rw [if_neg hc, if_neg hc]
        rfl

/-- The references with a colon on a line are its bare references in front of blanks and
a colon, in order and up to the form. Both are what a matcher with a way back finds by
the patterns of the forms; there is at most one try in front of a colon at a place, the
longest one, so that going back ends no name early. -/
theorem scan_colon_eq (line : List Char) :
    scan .colon line =
        ((scan .bare line).filter fun r => colonFollows (line.drop r.stop)).map withColon ∧
      scan .bare line = (bareTries.find line).map (ofMatch .bare) ∧
      scan .colon line = (namedTries.find line).map (ofMatch .colon) ∧
      ∀ s, namedTries s = ((bareTries s).head?.filter colonFollows).toList :=
  ⟨scanFrom_colon_eq [] line, readBy_bareTries.scanFrom_eq 0 0 line,
    readBy_namedTries.scanFrom_eq 0 0 line, namedTries_eq⟩

end Reference

end LozengeNav
