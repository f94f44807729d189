import LozengeNav.Location
import LozengeNav.Text.Line
import Mathlib.Order.Basic

/-! # Lines and rows

A place counts rows, which end at line feeds only. A text that is read has its
carriage returns turned into line feeds first, and then its lines end at every
line break. Both agree about a place as long as no stray break stands before it:
one that is neither a line feed nor a carriage return in front of a line feed.
-/

namespace LozengeNav

namespace Text

/-! ## Behind the last break -/

/-- What stands behind the last character of a text that ends a line. -/
def behindLast (ends : Char → Bool) (s : List Char) : List Char :=
  (s.reverse.takeWhile fun c => !ends c).reverse

section BehindLast

variable {ends : Char → Bool}

theorem behindLast_append_of_forall (before : List Char) {s : List Char}
    (h : ∀ c ∈ s, ends c = false) :
    behindLast ends (before ++ s) = behindLast ends before ++ s := by
  have hkept : ∀ c ∈ s.reverse, (!ends c) = true := by
    intro c hc
    rw [h c (List.mem_reverse.1 hc)]
    rfl
  rw [behindLast, List.reverse_append, List.takeWhile_append_of_pos hkept, List.reverse_append,
    List.reverse_reverse]
  rfl

theorem behindLast_of_forall {s : List Char} (h : ∀ c ∈ s, ends c = false) :
    behindLast ends s = s :=
  behindLast_append_of_forall [] h

theorem behindLast_append_cons (before : List Char) {c : Char} (s : List Char)
    (hc : ends c = true) : behindLast ends (before ++ c :: s) = behindLast ends s := by
  have hstop : (c :: before.reverse).takeWhile (fun c => !ends c) = [] := by
    simp [hc]
  rw [behindLast, behindLast, List.reverse_append, List.reverse_cons, List.append_assoc,
    List.singleton_append, List.takeWhile_append, hstop, List.append_nil]
  split
  · next hlength =>
      rw [List.takeWhile_prefix _ |>.eq_of_length hlength]
  · rfl

theorem behindLast_cons {c : Char} (s : List Char) (hc : ends c = true) :
    behindLast ends (c :: s) = behindLast ends s :=
  behindLast_append_cons [] s hc

theorem behindLast_cons_of_mem (c : Char) {d : Char} {s : List Char} (hd : d ∈ s)
    (hends : ends d = true) : behindLast ends (c :: s) = behindLast ends s := by
  obtain ⟨before, after, rfl⟩ := List.append_of_mem hd
  rw [behindLast_append_cons _ _ hends, ← List.cons_append, behindLast_append_cons _ _ hends]

theorem mem_of_mem_behindLast {s : List Char} {c : Char} (hc : c ∈ behindLast ends s) : c ∈ s := by
  rw [behindLast, List.mem_reverse] at hc
  exact List.mem_reverse.1 ((List.takeWhile_prefix _).subset hc)

theorem not_ends_of_mem_behindLast {s : List Char} {c : Char} (hc : c ∈ behindLast ends s) :
    ends c = false := by
  rw [behindLast, List.mem_reverse] at hc
  have hkept := List.all_eq_true.1 List.all_takeWhile c hc
  simpa using hkept

theorem exists_append_behindLast (ends : Char → Bool) (s : List Char) :
    ∃ before, s = before ++ behindLast ends s ∧
      (before = [] ∨ ∃ front c, before = front ++ [c] ∧ ends c = true) := by
  refine ⟨(s.reverse.dropWhile fun c => !ends c).reverse, ?_, ?_⟩
  · rw [behindLast, ← List.reverse_append, List.takeWhile_append_dropWhile, List.reverse_reverse]
  · have hstop := List.head?_dropWhile_not (fun c => !ends c) s.reverse
    cases hdrop : s.reverse.dropWhile fun c => !ends c with
    | nil => exact .inl rfl
    | cons c front =>
        rw [hdrop] at hstop
        exact .inr ⟨front.reverse, c, List.reverse_cons, by simpa using hstop⟩

end BehindLast

/-- What stands behind the last line break. -/
def lastLine (s : List Char) : List Char :=
  behindLast isBreak s

/-- What stands behind the last line feed. -/
def lastRow (s : List Char) : List Char :=
  behindLast (fun c => c = '\n') s

theorem newline_not_mem_lastRow (s : List Char) : '\n' ∉ lastRow s := by
  intro hmem
  have hplain := not_ends_of_mem_behindLast hmem
  simp at hplain

theorem lastRow_append_of_not_mem (before : List Char) {s : List Char} (h : '\n' ∉ s) :
    lastRow (before ++ s) = lastRow before ++ s := by
  refine behindLast_append_of_forall before fun c hc => ?_
  rw [decide_eq_false_iff_not]
  rintro rfl
  exact h hc

theorem lastRow_append_newline (before s : List Char) :
    lastRow (before ++ '\n' :: s) = lastRow s :=
  behindLast_append_cons before s (by simp)

theorem lastRow_append_of_mem (before : List Char) {s : List Char} (h : '\n' ∈ s) :
    lastRow (before ++ s) = lastRow s := by
  obtain ⟨front, back, rfl⟩ := List.append_of_mem h
  rw [lastRow_append_newline, ← List.append_assoc, lastRow_append_newline]

theorem lastRow_of_not_mem {s : List Char} (h : '\n' ∉ s) : lastRow s = s :=
  lastRow_append_of_not_mem [] h

theorem exists_append_lastRow (s : List Char) :
    ∃ before, s = before ++ lastRow s ∧ (before = [] ∨ ∃ front, before = front ++ ['\n']) := by
  obtain ⟨before, hcut, hbefore⟩ := exists_append_behindLast (fun c => decide (c = '\n')) s
  refine ⟨before, hcut, hbefore.imp_right ?_⟩
  rintro ⟨front, c, rfl, hc⟩
  exact ⟨front, by rw [of_decide_eq_true hc]⟩

/-! ## Stray breaks -/

/-- Whether a character ends a line but no row, even though a row may end right
behind it. -/
def isStray (c : Char) (rest : List Char) : Bool :=
  isBreak c && c ≠ '\n' && !(c = '\r' && rest.head? = some '\n')

/-- The number of line breaks that are no part of the end of a row. -/
def strays : List Char → Nat
  | [] => 0
  | c :: rest => (if isStray c rest then 1 else 0) + strays rest

theorem strays_append_newline (s u : List Char) :
    strays (s ++ '\n' :: u) = strays (s ++ ['\n']) + strays u := by
  induction s with
  | nil => simp [strays, isStray]
  | cons c rest ih =>
      have hsame : isStray c (rest ++ '\n' :: u) = isStray c (rest ++ ['\n']) := by
        cases rest <;> rfl
      rw [List.cons_append, List.cons_append, strays, strays, ih, hsame, Nat.add_assoc]

theorem strays_eq_zero_iff {s : List Char} (h : '\n' ∉ s) :
    strays s = 0 ↔ ∀ c ∈ s, isBreak c = false := by
  induction s with
  | nil => simp [strays]
  | cons c rest ih =>
      rw [List.mem_cons, not_or] at h
      have hhead : rest.head? ≠ some '\n' := fun hhead => h.2 (List.mem_of_mem_head? hhead)
      have hstray : isStray c rest = isBreak c := by
        simp [isStray, Ne.symm h.1, hhead]
      rw [strays, hstray, List.forall_mem_cons, ← ih h.2]
      cases isBreak c <;> simp

theorem strays_lastRow_le (s : List Char) : strays (lastRow s) ≤ strays s := by
  obtain ⟨before, hcut, rfl | ⟨front, rfl⟩⟩ := exists_append_lastRow s
  · rw [List.nil_append] at hcut
    exact Nat.le_of_eq (congrArg strays hcut.symm)
  · have hstrays := strays_append_newline front (lastRow s)
    rw [List.append_assoc, List.singleton_append] at hcut
    rw [← hcut] at hstrays
    omega

theorem lastLine_eq_lastRow {s : List Char} (h : strays s = 0) : lastLine s = lastRow s := by
  obtain ⟨before, hcut, hbefore⟩ := exists_append_lastRow s
  have hrow : ∀ c ∈ lastRow s, isBreak c = false := by
    rw [← strays_eq_zero_iff (newline_not_mem_lastRow s)]
    have hle := strays_lastRow_le s
    omega
  have hlast : lastLine s = lastLine before ++ lastRow s := by
    rw [lastLine, lastLine, ← behindLast_append_of_forall before hrow]
    exact congrArg (behindLast isBreak) hcut
  rcases hbefore with rfl | ⟨front, rfl⟩
  · exact hlast
  · have hend : lastLine (front ++ ['\n']) = [] := behindLast_append_cons front [] (by decide)
    rw [hlast, hend, List.nil_append]

/-! ## Reading lines -/

theorem ne_return_of_plain {c : Char} (hc : isBreak c = false) : c ≠ '\r' := by
  rintro rfl
  exact absurd hc (by decide)

theorem unifyBreaks_cons {c : Char} (s : List Char) (hc : c ≠ '\r') :
    unifyBreaks (c :: s) = c :: unifyBreaks s := by
  rw [unifyBreaks, if_neg hc]
  rintro rest rfl
  exact absurd rfl hc

theorem unifyBreaks_return {s : List Char} (h : s.head? ≠ some '\n') :
    unifyBreaks ('\r' :: s) = '\n' :: unifyBreaks s := by
  rw [unifyBreaks, if_pos rfl]
  rintro rest - rfl
  exact absurd rfl h

theorem unifyBreaks_pair {s : List Char} (h : s.head? = some '\n') :
    unifyBreaks ('\r' :: s) = unifyBreaks s := by
  obtain ⟨rest, rfl⟩ := List.head?_eq_some_iff.1 h
  rw [unifyBreaks, unifyBreaks_cons rest (by decide)]

theorem lines_break {c : Char} (s : List Char) (hc : isBreak c = true) (hreturn : c ≠ '\r') :
    lines (c :: s) = [] :: lines s := by
  rw [lines, Line.split, if_pos hc]
  · rfl
  · rintro rest rfl
    exact absurd rfl hreturn

theorem lines_unifyBreaks_break {c : Char} {s : List Char} (hc : isBreak c = true)
    (hpair : ¬ (c = '\r' ∧ s.head? = some '\n')) :
    lines (unifyBreaks (c :: s)) = [] :: lines (unifyBreaks s) := by
  by_cases hreturn : c = '\r'
  · subst hreturn
    rw [unifyBreaks_return fun hhead => hpair ⟨rfl, hhead⟩, lines_break _ (by decide) (by decide)]
  · rw [unifyBreaks_cons s hreturn, lines_break _ hc hreturn]

theorem lines_unifyBreaks_cons {c : Char} (s : List Char) (hc : isBreak c = false) :
    lines (unifyBreaks (c :: s)) =
      (c :: (lines (unifyBreaks s)).headD []) :: (lines (unifyBreaks s)).tail := by
  rw [unifyBreaks_cons s (ne_return_of_plain hc), lines, Line.split, if_neg (by simp [hc])]
  · rw [lines]
    cases Line.split (unifyBreaks s) <;> rfl
  · rintro rest rfl
    exact absurd hc (by decide)

theorem headD_lines_unifyBreaks (s : List Char) :
    (lines (unifyBreaks s)).headD [] = s.takeWhile fun c => !isBreak c := by
  induction s with
  | nil => rfl
  | cons c rest ih =>
      cases hc : isBreak c with
      | false =>
          rw [lines_unifyBreaks_cons rest hc, List.headD_cons, ih]
          simp [hc]
      | true =>
          have hnone : (c :: rest).takeWhile (fun c => !isBreak c) = [] := by
            simp [hc]
          rw [hnone]
          by_cases hpair : c = '\r' ∧ rest.head? = some '\n'
          · obtain ⟨rfl, hhead⟩ := hpair
            obtain ⟨more, rfl⟩ := List.head?_eq_some_iff.1 hhead
            rw [unifyBreaks_pair hhead,
              lines_unifyBreaks_break (by decide) fun h => absurd h.1 (by decide)]
            rfl
          · rw [lines_unifyBreaks_break hc hpair]
            rfl

/-- The number of the line that begins behind the last break of a text, once a
text that begins with it is read. -/
def lineCount (s : List Char) : Nat :=
  s.count '\n' + strays s

theorem lineCount_cons (c : Char) (s : List Char) :
    lineCount (c :: s) =
      lineCount s + if isBreak c && !(c = '\r' && s.head? = some '\n') then 1 else 0 := by
  have hfeed : isBreak '\n' = true := by decide
  by_cases hc : c = '\n'
  · subst hc
    simp [lineCount, strays, isStray, hfeed]
    omega
  · simp [lineCount, strays, isStray, hc]
    omega

theorem lineCount_eq_zero {s : List Char} (h : lineCount s = 0) : ∀ c ∈ s, isBreak c = false := by
  rw [lineCount, Nat.add_eq_zero_iff] at h
  exact (strays_eq_zero_iff (List.count_eq_zero.1 h.1)).1 h.2

theorem exists_break_of_lineCount {s : List Char} (h : lineCount s ≠ 0) :
    ∃ c ∈ s, isBreak c = true := by
  induction s with
  | nil => exact absurd rfl h
  | cons c rest ih =>
      by_cases hc : isBreak c = true
      · exact ⟨c, List.mem_cons_self, hc⟩
      · have hrest : lineCount rest ≠ 0 := by
          rw [lineCount_cons] at h
          simpa [hc] using h
        obtain ⟨d, hd, hbreak⟩ := ih hrest
        exact ⟨d, List.mem_cons_of_mem _ hd, hbreak⟩

theorem lastLine_cons {c : Char} (s : List Char) (hc : isBreak c = false) :
    lastLine (c :: s) = if lineCount s = 0 then c :: lastLine s else lastLine s := by
  by_cases hcount : lineCount s = 0
  · have hall := lineCount_eq_zero hcount
    rw [if_pos hcount, lastLine, lastLine, behindLast_of_forall hall,
      behindLast_of_forall (List.forall_mem_cons.2 ⟨hc, hall⟩)]
  · obtain ⟨d, hd, hends⟩ := exists_break_of_lineCount hcount
    rw [if_neg hcount]
    exact behindLast_cons_of_mem c hd hends

/-- The line on which a character stands: what stands before it since the last
break, and what follows up to the next. -/
theorem getElem?_lines_unifyBreaks (before : List Char) {c : Char} (rest : List Char)
    (hc : isBreak c = false) :
    (lines (unifyBreaks (before ++ c :: rest)))[lineCount before]? =
      some (lastLine before ++ c :: rest.takeWhile fun c => !isBreak c) := by
  induction before with
  | nil =>
      rw [List.nil_append, lines_unifyBreaks_cons rest hc, headD_lines_unifyBreaks]
      rfl
  | cons d before ih =>
      have hhead : (before ++ c :: rest).head? = some '\n' ↔ before.head? = some '\n' := by
        have hfeed : c ≠ '\n' := by
          rintro rfl
          exact absurd hc (by decide)
        cases before <;> simp [hfeed]
      -- A break in front opens a line or is not read, and the last line stays; what
      -- is no break joins the first line, which is the last if there is no other.
      rw [lineCount_cons, List.cons_append]
      cases hd : isBreak d with
      | true =>
          rw [lastLine, behindLast_cons before hd, ← lastLine]
          by_cases hpair : d = '\r' ∧ before.head? = some '\n'
          · obtain ⟨rfl, hfeed⟩ := hpair
            rw [unifyBreaks_pair (hhead.2 hfeed)]
            simpa [hfeed] using ih
          · have hcounted : (d = '\r' && before.head? = some '\n') = false := by
              simpa using hpair
            rw [lines_unifyBreaks_break hd (fun h => hpair ⟨h.1, hhead.1 h.2⟩), hcounted]
            simpa using ih
      | false =>
          rw [lines_unifyBreaks_cons _ hd, lastLine_cons before hd]
          simp only [Bool.false_and, Bool.false_eq_true, if_false, Nat.add_zero]
          cases hlines : lines (unifyBreaks (before ++ c :: rest)) with
          | nil =>
              rw [hlines] at ih
              simp at ih
          | cons first more =>
              rw [hlines] at ih
              cases hcount : lineCount before with
              | zero =>
                  rw [hcount] at ih
                  simpa using ih
              | succ count =>
                  rw [hcount] at ih
                  simpa using ih

end Text

/-! ## Places -/

namespace Position

theorem advance_cons (p : Position) (c : Char) (s : List Char) :
    p.advance (c :: s) = (if c = '\n' then ⟨p.line + 1, 0⟩ else ⟨p.line, p.column + 1⟩ : Position).advance s :=
  rfl

theorem advance_append (p : Position) (s u : List Char) :
    p.advance (s ++ u) = (p.advance s).advance u :=
  List.foldl_append

theorem line_advance (p : Position) (s : List Char) : (p.advance s).line = p.line + s.count '\n' := by
  induction s generalizing p with
  | nil => rfl
  | cons c rest ih =>
      rw [advance_cons, ih, List.count_cons]
      by_cases hc : c = '\n'
      · simp [hc]
        omega
      · simp [hc]

theorem column_advance_of_not_mem (p : Position) {s : List Char} (h : '\n' ∉ s) :
    (p.advance s).column = p.column + s.length := by
  induction s generalizing p with
  | nil => rfl
  | cons c rest ih =>
      rw [List.mem_cons, not_or] at h
      rw [advance_cons, if_neg (Ne.symm h.1), ih _ h.2, List.length_cons]
      show p.column + 1 + rest.length = p.column + (rest.length + 1)
      omega

theorem column_advance_origin (s : List Char) :
    (origin.advance s).column = (Text.lastRow s).length := by
  obtain ⟨before, hcut, hbefore⟩ := Text.exists_append_lastRow s
  have hstart : (origin.advance before).column = 0 := by
    rcases hbefore with rfl | ⟨front, rfl⟩
    · rfl
    · rw [advance_append]
      rfl
  rw [hcut, advance_append, column_advance_of_not_mem _ (Text.newline_not_mem_lastRow s), hstart,
    Nat.zero_add, ← hcut]

theorem advance_of_not_mem (p : Position) {s : List Char} (h : '\n' ∉ s) :
    p.advance s = ⟨p.line, p.column + s.length⟩ := by
  have hline := line_advance p s
  rw [List.count_eq_zero.2 h, Nat.add_zero] at hline
  rw [← column_advance_of_not_mem p h, ← hline]

theorem advance_ne_self (p : Position) {s : List Char} (h : s ≠ []) : p.advance s ≠ p := by
  intro heq
  have hline := line_advance p s
  rw [heq] at hline
  have hfeed : '\n' ∉ s := by
    rw [← List.count_eq_zero]
    omega
  have hcolumn := column_advance_of_not_mem p hfeed
  rw [heq] at hcolumn
  have hlength := List.length_pos_iff.2 h
  omega

/-- Places follow each other line by line, and on a line by their columns. -/
instance : Preorder Position where
  le p q := p.line < q.line ∨ p.line = q.line ∧ p.column ≤ q.column
  le_refl p := .inr ⟨rfl, Nat.le_refl _⟩
  le_trans p q r hpq hqr := by omega

theorem le_iff {p q : Position} :
    p ≤ q ↔ p.line < q.line ∨ p.line = q.line ∧ p.column ≤ q.column :=
  Iff.rfl

instance (p q : Position) : Decidable (p ≤ q) :=
  decidable_of_iff _ le_iff.symm

theorem line_le {p q : Position} (h : p ≤ q) : p.line ≤ q.line := by
  rw [le_iff] at h
  omega

theorem le_of_line_lt {p q : Position} (h : p.line < q.line) : p ≤ q :=
  .inl h

theorem le_antisymm {p q : Position} (hpq : p ≤ q) (hqp : q ≤ p) : p = q := by
  obtain ⟨line, column⟩ := p
  obtain ⟨line', column'⟩ := q
  rw [le_iff] at hpq hqp
  dsimp only at hpq hqp
  rw [mk.injEq]
  omega

theorem le_advance (p : Position) (s : List Char) : p ≤ p.advance s := by
  have hline := line_advance p s
  by_cases hfeed : '\n' ∈ s
  · have hcount := List.count_pos_iff.2 hfeed
    exact le_of_line_lt (by omega)
  · rw [advance_of_not_mem p hfeed]
    exact .inr ⟨rfl, Nat.le_add_right _ _⟩

end Position

namespace Text

/-- A text up to a place, if it begins at another. -/
def upToFrom (start p : Position) : List Char → List Char
  | [] => []
  | c :: rest => if start = p then [] else c :: upToFrom (start.advance [c]) p rest

def upTo (p : Position) (s : List Char) : List Char :=
  upToFrom .origin p s

theorem upToFrom_advance (start : Position) (before after : List Char) :
    upToFrom start (start.advance before) (before ++ after) = before := by
  induction before generalizing start with
  | nil => cases after <;> simp [upToFrom, Position.advance]
  | cons c before ih =>
      have hstep : start.advance (c :: before) = (start.advance [c]).advance before :=
        Position.advance_append start [c] before
      have hmoved := Position.advance_ne_self start (List.cons_ne_nil c before)
      rw [List.cons_append, upToFrom, if_neg (Ne.symm hmoved), hstep, ih]

theorem upTo_advance (before after : List Char) :
    upTo (Position.origin.advance before) (before ++ after) = before :=
  upToFrom_advance .origin before after

def StandsAt (lines : List (List Char)) (p : Position) (word : List Char) : Prop :=
  ∃ before after, lines[p.line]? = some (before ++ word ++ after) ∧ before.length = p.column

/-- The place behind a text among the lines of a text that begins with it, once
that is read. -/
def readPlace (s : List Char) : Position :=
  ⟨lineCount s, (lastLine s).length⟩

/-- The place that rows give is the place among the lines if and only if there is
no stray break before it. -/
theorem readPlace_eq_iff (s : List Char) : readPlace s = Position.origin.advance s ↔ strays s = 0 := by
  have hline : (Position.origin.advance s).line = s.count '\n' := by
    rw [Position.line_advance]
    exact Nat.zero_add _
  constructor
  · intro h
    have hcount := congrArg Position.line h
    rw [hline] at hcount
    simp only [readPlace, lineCount] at hcount
    omega
  · intro h
    have hcount : (readPlace s).line = (Position.origin.advance s).line := by
      simp [readPlace, lineCount, h, hline]
    have hcolumn : (readPlace s).column = (Position.origin.advance s).column := by
      rw [Position.column_advance_origin, ← lastLine_eq_lastRow h]
      rfl
    cases hplace : Position.origin.advance s
    rw [hplace] at hcount hcolumn
    cases hread : readPlace s
    rw [hread] at hcount hcolumn
    rw [Position.mk.injEq]
    exact ⟨hcount, hcolumn⟩

theorem getElem?_readPlace (before : List Char) {word : List Char} (after : List Char)
    (hne : word ≠ []) (hword : ∀ c ∈ word, isBreak c = false) :
    (lines (unifyBreaks (before ++ (word ++ after))))[(readPlace before).line]? =
      some (lastLine before ++ (word ++ after.takeWhile fun c => !isBreak c)) := by
  obtain ⟨c, tail, rfl⟩ := List.exists_cons_of_ne_nil hne
  obtain ⟨hc, htail⟩ := List.forall_mem_cons.1 hword
  have hkept : ∀ d ∈ tail, (!isBreak d) = true := by
    intro d hd
    rw [htail d hd]
    rfl
  have hline := getElem?_lines_unifyBreaks before (tail ++ after) hc
  rwa [List.takeWhile_append_of_pos hkept] at hline

end Text

end LozengeNav
