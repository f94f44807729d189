import LozengeNav.ClassHeader
import LozengeNav.Proofs.Expression.Dotted

/-! # The identifier under a cursor

A cursor is read by the words of a line or by its chains. The words of the line are
those of its chains, in order, and stand apart, so that both readings find one
identifier or none. The expression read by the chains goes from the start of the longest
dotted text around that identifier up to its end.
-/

namespace LozengeNav

namespace Chain

/-! ## The words of a line -/

section Words

variable {column : Nat} {s run rest line : List Char} {words : List Word} {chains : List Chain}
  {c : Chain} {w : Word}

theorem Linked.scanFrom_words (h : Linked column run rest words) :
    Word.scanFrom 0 column (run ++ rest) =
      words ++ Word.scanFrom 0 (column + run.length) rest := by
  induction h with
  | stop => rfl
  | @link column gap space name run rest words blank identifier next ih =>
      have hlead : ∀ c ∈ gap ++ '.' :: space, Text.isHead c = false := by
        intro c hc
        have hblank : ∀ c, Text.isBlank c = true → Text.isHead c = false := fun c hc =>
          Text.isHead_of_not_isWord (Text.isWord_of_isBlank hc)
        rcases List.mem_append.1 hc with hc | hc
        · exact hblank c (blank c (List.mem_append_left _ hc))
        · rcases List.mem_cons.1 hc with rfl | hc
          · decide
          · exact hblank c (blank c (List.mem_append_right _ hc))
      have hcut : gap ++ '.' :: (space ++ (name ++ run)) ++ rest =
          (gap ++ '.' :: space) ++ (name ++ (run ++ rest)) := by simp
      have hstart : column + (gap ++ '.' :: space).length =
          column + gap.length + 1 + space.length := by
        simp only [List.length_append, List.length_cons]
        omega
      have hstop : column + gap.length + 1 + space.length + name.length + run.length =
          column + (gap ++ '.' :: (space ++ (name ++ run))).length := by
        simp only [List.length_append, List.length_cons]
        omega
      rw [hcut, Word.scanFrom_append column hlead, hstart,
        Word.scanFrom_identifier _ identifier next.ended, ih, hstop, List.cons_append]

theorem Reads.scanFrom_words (h : Reads column s chains) :
    Word.scanFrom 0 column s = chains.flatMap Chain.words := by
  induction h with
  | nil => rfl
  | @skip column d rest chains other next ih =>
      rw [Word.scanFrom, if_neg (by simp [other]), ih]
  | @chain column name run rest words chains identifier linked next ih =>
      rw [Word.scanFrom_identifier _ identifier linked.ended, linked.scanFrom_words, ih]
      rfl

theorem scan_words (line : List Char) : Word.scan line = (scan line).flatMap Chain.words :=
  (reads_iff.2 rfl : Reads 0 line (scan line)).scanFrom_words

theorem Reads.word_within (h : Reads column s chains) (hc : c ∈ chains) (hw : w ∈ c.words) :
    c.head.start ≤ w.start ∧ w.stop ≤ c.last.stop := by
  obtain ⟨before, part, after, -, hfrom⟩ := h.exists_from hc
  obtain ⟨front, later, hwords⟩ := List.append_of_mem hw
  obtain ⟨lead, back, rfl, hstart, -⟩ := hfrom.upTo front w later hwords
  have hstop := hfrom.stop
  simp only [List.length_append] at hstop
  rw [hfrom.start, Word.stop]
  omega

theorem pairwise_words (line : List Char) :
    (Word.scan line).Pairwise fun v w => v.stop < w.start := by
  have hreads : Reads 0 line (scan line) := reads_iff.2 rfl
  rw [scan_words, List.pairwise_flatMap]
  refine ⟨fun c hc => (hreads.at hc).ordered, hreads.pairwise.imp_of_mem ?_⟩
  intro c d hc hd hlt v hv w hw
  have hfirst := hreads.word_within hc hv
  have hsecond := hreads.word_within hd hw
  omega

end Words

end Chain

theorem Word.holds_iff_between {w : Word} {column : Int} :
    w.holds column = true ↔ (w.start : Int) ≤ column ∧ column ≤ w.stop := by
  rw [holds, Bool.and_eq_true, decide_eq_true_eq, decide_eq_true_eq]

theorem Word.at?_eq_some_iff {line : List Char} {column : Int} {w : Word} :
    Word.at? line column = some w ↔ w ∈ Word.scan line ∧ w.holds column = true := by
  have hsound : ∀ {v : Word}, Word.at? line column = some v →
      v ∈ Word.scan line ∧ v.holds column = true := by
    intro v h
    have hfind : (Word.scan line).find? (fun w => w.holds column) = some v := h
    have hholds := List.find?_some hfind
    exact ⟨List.mem_of_find?_eq_some hfind, hholds⟩
  constructor
  · exact hsound
  · rintro ⟨hw, hholds⟩
    cases hfound : Word.at? line column with
    | none => exact absurd hholds (List.find?_eq_none.1 hfound w hw)
    | some v =>
        obtain ⟨hv, hvholds⟩ := hsound hfound
        have hapart : (Word.scan line).Pairwise fun v w => v.stop < w.start ∨ w.stop < v.start :=
          (Chain.pairwise_words line).imp Or.inl
        have hsymm : Std.Symm fun v w : Word => v.stop < w.start ∨ w.stop < v.start :=
          ⟨fun _ _ => Or.symm⟩
        rw [Word.holds_iff_between] at hholds hvholds
        by_contra hne
        have hboth := hapart.forall hv hw fun heq => hne (congrArg some heq)
        omega

/-! ## Two readings of a cursor -/

namespace Chain

section Cursor

variable {line : List Char} {column : Int} {words taken : List Word}

theorem upTo?_eq_none_iff : upTo? column words = none ↔ ∀ w ∈ words, w.holds column = false := by
  induction words with
  | nil => simp [upTo?]
  | cons w words ih =>
      rw [upTo?, List.forall_mem_cons]
      cases hw : w.holds column with
      | true => simp
      | false => simpa using ih

theorem exists_of_upTo? (h : upTo? column words = some taken) :
    ∃ front w later, words = front ++ w :: later ∧ taken = front ++ [w] ∧
      w.holds column = true := by
  induction words generalizing taken with
  | nil => cases h
  | cons v words ih =>
      rw [upTo?] at h
      split at h
      · next hv =>
          obtain rfl := Option.some.inj h
          exact ⟨[], v, words, rfl, rfl, hv⟩
      · obtain ⟨rest, hrest, rfl⟩ := Option.map_eq_some_iff.1 h
        obtain ⟨front, w, later, rfl, rfl, hw⟩ := ih hrest
        exact ⟨v :: front, w, later, rfl, rfl, hw⟩

theorem exists_of_at? (h : at? line column = some taken) :
    ∃ c ∈ scan line, ∃ front w later, c.words = front ++ w :: later ∧ taken = front ++ [w] ∧
      w.holds column = true ∧ Word.at? line column = some w := by
  obtain ⟨c, hc, hcut⟩ := List.exists_of_findSome?_eq_some h
  split at hcut
  · obtain ⟨front, w, later, hwords, htaken, hholds⟩ := exists_of_upTo? hcut
    have hw : w ∈ Word.scan line := by
      rw [scan_words, List.mem_flatMap]
      exact ⟨c, hc, by simp [hwords]⟩
    exact ⟨c, hc, front, w, later, hwords, htaken, hholds, Word.at?_eq_some_iff.2 ⟨hw, hholds⟩⟩
  · cases hcut

theorem at?_eq_none_iff : at? line column = none ↔ Word.at? line column = none := by
  constructor
  · intro h
    refine List.find?_eq_none.2 fun w hw hholds => ?_
    rw [scan_words, List.mem_flatMap] at hw
    obtain ⟨c, hc, hw⟩ := hw
    have hreads : Reads 0 line (scan line) := reads_iff.2 rfl
    have hwithin := hreads.word_within hc hw
    have hcholds : c.holds column = true := by
      rw [Word.holds_iff_between] at hholds
      simp only [holds, Bool.and_eq_true, decide_eq_true_eq]
      omega
    have hcut := List.findSome?_eq_none_iff.1 h c hc
    rw [if_pos hcholds, upTo?_eq_none_iff] at hcut
    rw [hcut w hw] at hholds
    cases hholds
  · intro h
    cases hat : at? line column with
    | none => rfl
    | some taken =>
        obtain ⟨_, -, _, w, _, -, -, -, hw⟩ := exists_of_at? hat
        rw [h] at hw
        cases hw

end Cursor

end Chain

theorem classNameAt?_of_not_declared {line : List Char} (h : ClassHeader.declared? line = none)
    (column : Int) : classNameAt? line (some column) =
      (Word.at? line column).map fun w => String.ofList w.text := by
  rw [classNameAt?, h]
  rfl

/-- On a line that declares no class, a cursor reads as a class name where it reads as
an expression, and then the name is the last segment of the expression. The expression
is made of identifiers with single dots between them, without blanks, and goes from the
start of the longest dotted text around the identifier under the cursor up to the end of
that identifier. -/
theorem classNameAt?_eq_segment {line : List Char} (hline : ClassHeader.declared? line = none)
    (column : Int) :
    (classNameAt? line (some column) = none ↔ expressionAt? line column = none) ∧
    ∀ expression, expressionAt? line column = some expression →
      classNameAt? line (some column) = (ModuleName.pieces expression).getLast? ∧
      (∀ piece ∈ ModuleName.pieces expression, Text.Identifier piece.toList) ∧
      (∀ c ∈ expression.toList, Text.isBlank c = false) ∧
      ∃ before lead word back after,
        classNameAt? line (some column) = some (String.ofList word) ∧
        ((before ++ lead).length : Int) ≤ column ∧
        column ≤ ((before ++ (lead ++ word)).length : Int) ∧
        Text.Widest line (before ++ lead).length (before ++ (lead ++ word)).length before
          (lead ++ (word ++ back)) after ∧
        expression = String.ofList (Text.squeeze (lead ++ word)) := by
  rw [classNameAt?_of_not_declared hline, expressionAt?, Option.map_eq_none_iff,
    Option.map_eq_none_iff, Chain.at?_eq_none_iff]
  refine ⟨Iff.rfl, fun expression hexpression => ?_⟩
  obtain ⟨taken, htaken, rfl⟩ := Option.map_eq_some_iff.1 hexpression
  obtain ⟨c, hc, front, w, later, hwords, rfl, hholds, hat⟩ := Chain.exists_of_at? htaken
  obtain ⟨before, lead, back, after, hwidest, hstart, hspell⟩ := Chain.exists_widest hc hwords
  have hreads : Chain.Reads 0 line (Chain.scan line) := Chain.reads_iff.2 rfl
  have hidentifiers : ∀ v ∈ front ++ [w], Text.Identifier v.text := by
    intro v hv
    refine ((hreads.at hc).words v ?_).1
    rw [hwords]
    rcases List.mem_append.1 hv with hv | hv
    · exact List.mem_append_left _ hv
    · obtain rfl := List.mem_singleton.1 hv
      simp
  have hpieces := Chain.pieces_spell (by simp) hidentifiers
  rw [hat, hpieces]
  refine ⟨?_, ?_, ?_, before, lead, w.text, back, after, rfl, ?_⟩
  · simp
  · intro piece hpiece
    obtain ⟨v, hv, rfl⟩ := List.mem_map.1 hpiece
    rw [String.toList_ofList]
    exact hidentifiers v hv
  · intro c hc
    rw [String.toList_ofList, ← hspell] at hc
    simpa using (List.mem_filter.1 hc).2
  · have hleft : (before ++ lead).length = w.start := by rw [List.length_append, hstart]
    have hright : (before ++ (lead ++ w.text)).length = w.stop := by
      rw [← List.append_assoc, List.length_append, hleft]
      rfl
    rw [hleft, hright, hspell]
    rw [Word.holds_iff_between] at hholds
    exact ⟨hholds.1, hholds.2, hwidest, rfl⟩

/-- A line with blanks around a dot, a digit in front of a chain and a cursor within it. -/
def dottedLine : List Char :=
  "x = 1pkg . mod.Base2(é.f)".toList

theorem classNameAt?_eq_segment_inside :
    ClassHeader.declared? dottedLine = none ∧
      expressionAt? dottedLine 12 = some "pkg.mod" ∧
      classNameAt? dottedLine (some 12) = some "mod" := by
  have hline : ClassHeader.declared? dottedLine = none := by decide +kernel
  have hexpression : expressionAt? dottedLine 12 = some "pkg.mod" := by decide +kernel
  obtain ⟨-, hsegment⟩ := classNameAt?_eq_segment hline 12
  refine ⟨hline, hexpression, ?_⟩
  rw [(hsegment _ hexpression).1]
  decide +kernel

end LozengeNav
