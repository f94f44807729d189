import LozengeNav.Proofs.Expression.Word

/-! # Chains on a line

The chains of a line are read from left to right. `Chain.Reads` says which
chains a text reads as, and what is read of a text is unique. A wall, a
character that no chain runs over, parts a line into texts that are read apart.
The cursor at the last word of a chain of the line finds that chain, whole.
-/

namespace LozengeNav

namespace Text

/-- A character that no chain runs over: of no word, no blank and no dot. -/
def Wall (c : Char) : Prop :=
  isWord c = false ∧ isBlank c = false ∧ c ≠ '.'

instance (c : Char) : Decidable (Wall c) :=
  inferInstanceAs (Decidable (_ ∧ _))

/-- A chain goes on in a text: with a dot, blanks around it, and a word. -/
def Continues (s : List Char) : Prop :=
  ∃ gap space c rest, s = gap ++ '.' :: (space ++ c :: rest) ∧
    (∀ b ∈ gap ++ space, isBlank b = true) ∧ isHead c = true

section Continues

variable {s rest name : List Char} {w : Char}

theorem Wall.not_head (h : Wall w) : isHead w = false :=
  isHead_of_not_isWord h.1

theorem exists_append_of_wall {run after : List Char} (h : run ++ after = s ++ w :: rest)
    (hfree : w ∉ run) : ∃ more, s = run ++ more := by
  rcases List.append_eq_append_iff.1 h with ⟨more, hs, -⟩ | ⟨more, hrun, hw⟩
  · exact ⟨more, hs⟩
  · cases more with
    | nil => exact ⟨[], by simpa using hrun.symm⟩
    | cons c more =>
        obtain ⟨rfl, -⟩ := List.cons.inj hw
        exact absurd (by simp [hrun]) hfree

theorem continues_of_wall (hw : Wall w) (h : Continues (s ++ w :: rest)) : Continues s := by
  obtain ⟨gap, space, c, tail, hs, hblank, hc⟩ := h
  have hclear : w ∉ gap ++ space := fun hmem => by simpa [hw.2.1] using hblank w hmem
  rw [List.mem_append, not_or] at hclear
  have hhead : w ≠ c := by
    intro heq
    simp [← heq, hw.not_head] at hc
  have hfree : w ∉ gap ++ '.' :: (space ++ [c]) := by
    simp [hclear.1, hclear.2, hw.2.2, hhead]
  have hshape : gap ++ '.' :: (space ++ [c]) ++ tail = s ++ w :: rest := by simpa using hs.symm
  obtain ⟨more, hmore⟩ := exists_append_of_wall hshape hfree
  exact ⟨gap, space, c, more, by simpa using hmore, hblank, hc⟩

theorem dropWhile_blank_name (hname : Identifier name) {blanks : List Char}
    (hblanks : ∀ b ∈ blanks, isBlank b = true) (rest : List Char) :
    (blanks ++ (name ++ rest)).dropWhile isBlank = name ++ rest ∧
      (blanks ++ (name ++ rest)).takeWhile isBlank = blanks := by
  obtain ⟨c, tail, rfl, hc⟩ := hname.head
  have hno : isBlank c = false := isBlank_of_isWord (isWord_of_isHead hc)
  simp [List.dropWhile_append_of_pos hblanks, List.takeWhile_append_of_pos hblanks, hno]

theorem takeName?_word (hname : Identifier name) (hrest : ∀ c ∈ rest.head?, isWord c = false) :
    takeName? isWord (name ++ rest) = some (name, rest) := by
  obtain ⟨after, htake⟩ := takeName?_identifier hname hrest
  have happend := takeName?_append htake
  rw [List.append_cancel_left_eq] at happend
  rw [htake, happend]

theorem ended_of_takeName? (h : takeName? isWord s = some (name, rest)) :
    ∀ c ∈ rest.head?, isWord c = false := by
  cases s with
  | nil => cases h
  | cons c tail =>
      by_cases hc : isHead c = true
      · rw [takeName?, if_pos hc, Option.some.injEq, Prod.mk.injEq] at h
        obtain ⟨-, rfl⟩ := h
        intro d hd
        have hnot := List.head?_dropWhile_not isWord tail
        rw [hd] at hnot
        simpa using hnot
      · rw [takeName?, if_neg hc] at h
        cases h

/-- What is taken off a text is the identifier it begins with, up to where that ends. -/
theorem takeName?_eq_some_iff : takeName? isWord s = some (name, rest) ↔
    s = name ++ rest ∧ Identifier name ∧ ∀ c ∈ rest.head?, isWord c = false :=
  ⟨fun h => ⟨(takeName?_append h).symm, identifier_of_takeName? h, ended_of_takeName? h⟩,
    fun ⟨hs, hname, hrest⟩ => hs ▸ takeName?_word hname hrest⟩

theorem isWord_head_link {gap : List Char} (hgap : ∀ c ∈ gap, isBlank c = true) (x : List Char) :
    ∀ c ∈ (gap ++ '.' :: x).head?, isWord c = false := by
  intro c hc
  cases gap with
  | nil =>
      obtain rfl : '.' = c := by simpa using hc
      decide
  | cons d gap =>
      obtain rfl : d = c := by simpa using hc
      exact isWord_of_isBlank (hgap d List.mem_cons_self)

theorem exists_word {c : Char} (hc : isHead c = true) (tail : List Char) :
    ∃ name rest, c :: tail = name ++ rest ∧ Identifier name ∧
      ∀ d ∈ rest.head?, isWord d = false :=
  ⟨_, _, takeName?_eq_some_iff.1 (if_pos hc)⟩

end Continues

end Text

namespace Word

def shift (k : Nat) (w : Word) : Word :=
  ⟨w.text, w.start + k⟩

def At (column : Nat) (s : List Char) (w : Word) : Prop :=
  Text.Identifier w.text ∧
    ∃ before after, s = before ++ (w.text ++ after) ∧ w.start = column + before.length

variable {column : Nat} {s : List Char} {w : Word}

theorem At.append_left {t : List Char} (h : At (column + t.length) s w) : At column (t ++ s) w := by
  obtain ⟨hword, before, after, rfl, hstart⟩ := h
  refine ⟨hword, t ++ before, after, by simp, ?_⟩
  rw [hstart, List.length_append]
  omega

theorem At.append_right (h : At column s w) (t : List Char) : At column (s ++ t) w := by
  obtain ⟨hword, before, after, rfl, hstart⟩ := h
  exact ⟨hword, before, after ++ t, by simp, hstart⟩

theorem At.lt_stop (h : At column s w) : w.start < w.stop := by
  obtain ⟨⟨c, tail, htext, -⟩, -⟩ := h.1
  rw [stop, htext, List.length_cons]
  omega

theorem At.bounds (h : At column s w) : column ≤ w.start ∧ w.stop ≤ column + s.length := by
  obtain ⟨-, before, after, rfl, hstart⟩ := h
  rw [stop, hstart]
  simp only [List.length_append]
  omega

theorem At.begins (h : At 0 s w) : w.text <+: s.drop w.start := by
  obtain ⟨-, before, after, rfl, hstart⟩ := h
  rw [hstart, Nat.zero_add, List.drop_left]
  exact List.prefix_append _ _

end Word

namespace Chain

/-! ## Links -/

section Links

variable {column : Nat} {s rest run gap space name : List Char} {words : List Word}

theorem links_of_not_continues (h : ¬ Text.Continues s) : links column s = [] := by
  rw [links]
  split
  · next tail htail =>
      split
      · next name after htake =>
          exfalso
          apply h
          cases hdrop : tail.dropWhile Text.isBlank with
          | nil => simp [hdrop, Text.takeName?] at htake
          | cons c more =>
              have hc : Text.isHead c = true := by
                rw [hdrop, Text.takeName?] at htake
                split at htake
                · assumption
                · cases htake
              refine ⟨s.takeWhile Text.isBlank, tail.takeWhile Text.isBlank, c, more, ?_, ?_, hc⟩
              · rw [← hdrop, List.takeWhile_append_dropWhile, ← htail,
                  List.takeWhile_append_dropWhile]
              · intro b hb
                rcases List.mem_append.1 hb with hb | hb
                · exact List.all_eq_true.1 List.all_takeWhile b hb
                · exact List.all_eq_true.1 List.all_takeWhile b hb
      · rfl
  · rfl

theorem links_link (hblank : ∀ b ∈ gap ++ space, Text.isBlank b = true)
    (hname : Text.Identifier name) (hrest : ∀ c ∈ rest.head?, Text.isWord c = false) :
    links column (gap ++ '.' :: (space ++ (name ++ rest))) =
      ⟨name, column + gap.length + 1 + space.length⟩ ::
        links (column + gap.length + 1 + space.length + name.length) rest := by
  obtain ⟨hgap, hspace⟩ := List.forall_mem_append.1 hblank
  have hdot : Text.isBlank '.' = false := by decide
  have hdrop : (gap ++ '.' :: (space ++ (name ++ rest))).dropWhile Text.isBlank =
      '.' :: (space ++ (name ++ rest)) := by
    rw [List.dropWhile_append_of_pos hgap, List.dropWhile_cons_of_neg (by simp [hdot])]
  have htake : (gap ++ '.' :: (space ++ (name ++ rest))).takeWhile Text.isBlank = gap := by
    rw [List.takeWhile_append_of_pos hgap, List.takeWhile_cons_of_neg (by simp [hdot]),
      List.append_nil]
  obtain ⟨hname', hspace'⟩ := Text.dropWhile_blank_name hname hspace rest
  have htaken := Text.takeName?_word hname hrest
  rw [links]
  split
  · next tail htail =>
      obtain rfl : space ++ (name ++ rest) = tail := by
        rw [hdrop] at htail
        exact (List.cons.inj htail).2
      split
      · next found after hfound =>
          rw [hname', htaken, Option.some.injEq, Prod.mk.injEq] at hfound
          obtain ⟨rfl, rfl⟩ := hfound
          simp only [htake, hspace']
      · next hnone =>
          rw [hname', htaken] at hnone
          cases hnone
  · next hno => exact absurd hdrop (hno _)

/-- The words that a chain takes of a text behind one of its words: `run` is
taken and `rest` is not. -/
inductive Linked : Nat → List Char → List Char → List Word → Prop where
  | stop {column : Nat} {rest : List Char} (done : ¬ Text.Continues rest)
      (ended : ∀ c ∈ rest.head?, Text.isWord c = false) : Linked column [] rest []
  | link {column : Nat} {gap space name run rest : List Char} {words : List Word}
      (blank : ∀ b ∈ gap ++ space, Text.isBlank b = true) (identifier : Text.Identifier name)
      (next : Linked (column + gap.length + 1 + space.length + name.length) run rest words) :
      Linked column (gap ++ '.' :: (space ++ (name ++ run))) rest
        (⟨name, column + gap.length + 1 + space.length⟩ :: words)

theorem Linked.ended (h : Linked column run rest words) :
    ∀ c ∈ (run ++ rest).head?, Text.isWord c = false := by
  cases h with
  | stop _ ended => exact ended
  | @link _ gap space name run _ words blank _ _ =>
      have hgap : ∀ b ∈ gap, Text.isBlank b = true := fun b hb => blank b (List.mem_append_left _ hb)
      rw [List.append_assoc]
      exact Text.isWord_head_link hgap _

theorem Linked.rest_ended (h : Linked column run rest words) :
    ∀ c ∈ rest.head?, Text.isWord c = false := by
  induction h with
  | stop _ ended => exact ended
  | link _ _ _ ih => exact ih

theorem Linked.links_eq (h : Linked column run rest words) :
    links column (run ++ rest) = words := by
  induction h with
  | stop done _ => exact links_of_not_continues done
  | @link column gap space name run rest words blank identifier next ih =>
      have hshape : gap ++ '.' :: (space ++ (name ++ run)) ++ rest =
          gap ++ '.' :: (space ++ (name ++ (run ++ rest))) := by simp
      rw [hshape, links_link blank identifier next.ended, ih]

theorem exists_linked (column : Nat) (s : List Char) (h : ∀ c ∈ s.head?, Text.isWord c = false) :
    ∃ run rest words, s = run ++ rest ∧ Linked column run rest words := by
  by_cases hgoes : Text.Continues s
  · obtain ⟨gap, space, c, tail, hs, hblank, hc⟩ := hgoes
    obtain ⟨name, after, htail, hname, hafter⟩ := Text.exists_word hc tail
    have hshort : after.length < s.length := by
      rw [hs, htail]
      simp only [List.length_append, List.length_cons]
      omega
    obtain ⟨run, rest, words, hrun, hnext⟩ :=
      exists_linked (column + gap.length + 1 + space.length + name.length) after hafter
    refine ⟨_, rest, _, ?_, .link hblank hname hnext⟩
    rw [hs, htail, hrun]
    simp
  · exact ⟨[], s, [], rfl, .stop hgoes h⟩
termination_by s.length

theorem Linked.wall {w : Char} (hw : Text.Wall w) (h : Linked column run rest words)
    (tail : List Char) : Linked column run (rest ++ w :: tail) words := by
  induction h with
  | @stop column rest done ended =>
      refine .stop (fun hgoes => done (Text.continues_of_wall hw hgoes)) ?_
      cases rest with
      | nil => simpa using hw.1
      | cons c rest => simpa using ended
  | link blank identifier _ ih => exact .link blank identifier ih

theorem Linked.shift (h : Linked column run rest words) (k : Nat) :
    Linked (column + k) run rest (words.map (Word.shift k)) := by
  induction h with
  | stop done ended => exact .stop done ended
  | @link column gap space name run rest words blank identifier _ ih =>
      have hstart : column + gap.length + 1 + space.length + k =
          column + k + gap.length + 1 + space.length := by omega
      have hstop : column + gap.length + 1 + space.length + name.length + k =
          column + k + gap.length + 1 + space.length + name.length := by omega
      rw [hstop] at ih
      rw [List.map_cons, Word.shift, hstart]
      exact .link blank identifier ih

theorem Linked.words_at (h : Linked column run rest words) :
    (∀ w ∈ words, column < w.start ∧ Word.At column run w) ∧
      words.Pairwise fun v w => v.stop < w.start := by
  induction h with
  | stop => simp
  | @link column gap space name run rest words blank identifier next ih =>
      obtain ⟨hat, hpairs⟩ := ih
      have hname : Word.At column (gap ++ '.' :: (space ++ (name ++ run)))
          ⟨name, column + gap.length + 1 + space.length⟩ := by
        refine ⟨identifier, gap ++ '.' :: space, run, by simp, ?_⟩
        simp only [List.length_append, List.length_cons]
        omega
      refine ⟨?_, List.pairwise_cons.2 ⟨fun w hw => (hat w hw).1, hpairs⟩⟩
      intro w hw
      rcases List.mem_cons.1 hw with rfl | hw
      · exact ⟨by simp only; omega, hname⟩
      · obtain ⟨hlt, hword⟩ := hat w hw
        refine ⟨by omega, ?_⟩
        have hshape : gap ++ '.' :: (space ++ (name ++ run)) =
            (gap ++ '.' :: (space ++ name)) ++ run := by simp
        rw [hshape]
        apply Word.At.append_left
        have hlength : column + (gap ++ '.' :: (space ++ name)).length =
            column + gap.length + 1 + space.length + name.length := by
          simp only [List.length_append, List.length_cons]
          omega
        rwa [hlength]

theorem Linked.last_stop (h : Linked column run rest words) {first : Word}
    (hfirst : first.stop = column) : (words.getLastD first).stop = column + run.length := by
  induction h generalizing first with
  | stop => simpa using hfirst
  | @link column gap space name run rest words _ _ _ ih =>
      rw [List.getLastD_cons, ih rfl]
      simp only [List.length_append, List.length_cons]
      omega

end Links

/-! ## Chains of a text -/

def shift (k : Nat) (c : Chain) : Chain :=
  ⟨c.head.shift k, c.more.map (Word.shift k)⟩

/-- The chains that a text, which begins at a column, reads as. -/
inductive Reads : Nat → List Char → List Chain → Prop where
  | nil {column : Nat} : Reads column [] []
  | skip {column : Nat} {c : Char} {rest : List Char} {chains : List Chain}
      (other : Text.isHead c = false) (next : Reads (column + 1) rest chains) :
      Reads column (c :: rest) chains
  | chain {column : Nat} {name run rest : List Char} {words : List Word} {chains : List Chain}
      (identifier : Text.Identifier name) (linked : Linked (column + name.length) run rest words)
      (next : Reads (column + name.length + run.length) rest chains) :
      Reads column (name ++ (run ++ rest)) (⟨⟨name, column⟩, words⟩ :: chains)

section Reads

variable {column : Nat} {s rest : List Char} {chains more : List Chain} {c : Chain}

theorem scanFrom_skip (skip column : Nat) (s : List Char) :
    scanFrom skip column s = scanFrom 0 (column + skip) (s.drop skip) := by
  induction s generalizing skip column with
  | nil => simp [scanFrom]
  | cons c s ih =>
      cases skip with
      | zero => rfl
      | succ skip =>
          rw [scanFrom, ih, List.drop_succ_cons]
          congr 1
          omega

theorem Reads.scanFrom_eq (h : Reads column s chains) : scanFrom 0 column s = chains := by
  induction h with
  | nil => rfl
  | skip other _ ih => simpa [scanFrom, other] using ih
  | @chain column name run rest words chains identifier linked _ ih =>
      obtain ⟨c, tail, rfl, hc⟩ := identifier.head
      obtain ⟨-, htail⟩ := List.forall_mem_cons.1 identifier.word
      have htake : (tail ++ (run ++ rest)).takeWhile Text.isWord = tail :=
        Text.takeWhile_identifier htail linked.ended
      have hdrop : (tail ++ (run ++ rest)).dropWhile Text.isWord = run ++ rest := by
        have hall : (tail ++ (run ++ rest)).takeWhile Text.isWord ++
            (tail ++ (run ++ rest)).dropWhile Text.isWord = tail ++ (run ++ rest) :=
          List.takeWhile_append_dropWhile
        rwa [htake, List.append_cancel_left_eq] at hall
      have hstop : (words.getLastD ⟨c :: tail, column⟩).stop =
          column + (c :: tail).length + run.length := linked.last_stop rfl
      have hlinks : links (Word.stop ⟨c :: tail, column⟩) (run ++ rest) = words := linked.links_eq
      have hskip : (words.getLastD ⟨c :: tail, column⟩).stop - (column + 1) =
          (tail ++ run).length := by
        rw [hstop]
        simp only [List.length_append, List.length_cons]
        omega
      have hstart : column + 1 + (tail ++ run).length = column + (c :: tail).length + run.length := by
        simp only [List.length_append, List.length_cons]
        omega
      rw [List.cons_append, scanFrom]
      simp only [hc, if_true, htake, hdrop, hlinks, last, hskip]
      rw [scanFrom_skip, hstart, ← List.append_assoc, List.drop_left, ih]

theorem exists_reads (column : Nat) (s : List Char) : ∃ chains, Reads column s chains := by
  cases s with
  | nil => exact ⟨[], .nil⟩
  | cons c tail =>
      cases hc : Text.isHead c with
      | false =>
          obtain ⟨chains, hnext⟩ := exists_reads (column + 1) tail
          exact ⟨chains, .skip hc hnext⟩
      | true =>
          obtain ⟨name, after, hshape, hname, hafter⟩ := Text.exists_word hc tail
          obtain ⟨run, rest, words, rfl, hlinked⟩ := exists_linked (column + name.length) after hafter
          have hshort : rest.length < (c :: tail).length := by
            have hne : 0 < name.length := by
              obtain ⟨d, more, rfl, -⟩ := hname.head
              simp
            rw [hshape]
            simp only [List.length_append]
            omega
          obtain ⟨chains, hnext⟩ := exists_reads (column + name.length + run.length) rest
          rw [hshape]
          exact ⟨_, .chain hname hlinked hnext⟩
termination_by s.length
decreasing_by
  · exact Nat.lt_add_one _
  · exact hshort

/-- What is read of a text is what a scan of it finds. -/
theorem reads_iff : Reads column s chains ↔ scanFrom 0 column s = chains := by
  refine ⟨Reads.scanFrom_eq, fun h => ?_⟩
  obtain ⟨found, hfound⟩ := exists_reads column s
  rw [← h, hfound.scanFrom_eq]
  exact hfound

theorem Reads.wall {w : Char} (hw : Text.Wall w) (h : Reads column s chains)
    (hmore : Reads (column + s.length + 1) rest more) :
    Reads column (s ++ w :: rest) (chains ++ more) := by
  induction h with
  | nil => exact .skip hw.not_head hmore
  | @skip column c tail chains other _ ih =>
      refine .skip other (ih ?_)
      have hcolumn : column + 1 + tail.length + 1 = column + (c :: tail).length + 1 := by
        rw [List.length_cons]
        omega
      rwa [hcolumn]
  | @chain column name run tail words chains identifier linked _ ih =>
      have hshape : name ++ (run ++ tail) ++ w :: rest = name ++ (run ++ (tail ++ w :: rest)) := by
        simp
      rw [hshape]
      refine .chain identifier (linked.wall hw rest) (ih ?_)
      have hcolumn : column + name.length + run.length + tail.length + 1 =
          column + (name ++ (run ++ tail)).length + 1 := by
        simp only [List.length_append]
        omega
      rwa [hcolumn]

theorem Reads.shift (h : Reads column s chains) (k : Nat) :
    Reads (column + k) s (chains.map (Chain.shift k)) := by
  induction h with
  | nil => exact .nil
  | @skip column _ _ _ other _ ih =>
      rw [Nat.add_right_comm] at ih
      exact .skip other ih
  | @chain column name run _ _ _ identifier linked _ ih =>
      have hlinked := linked.shift k
      rw [Nat.add_right_comm] at hlinked
      have hcolumn : column + name.length + run.length + k = column + k + name.length + run.length := by
        omega
      rw [hcolumn] at ih
      exact .chain identifier hlinked ih

/-- What a wall parts is scanned apart. -/
theorem scanFrom_wall {w : Char} (hw : Text.Wall w) (column : Nat) (s rest : List Char) :
    scanFrom 0 column (s ++ w :: rest) =
      scanFrom 0 column s ++ scanFrom 0 (column + s.length + 1) rest :=
  ((reads_iff.2 rfl).wall hw (reads_iff.2 rfl)).scanFrom_eq

theorem scanFrom_shift (column k : Nat) (s : List Char) :
    scanFrom 0 (column + k) s = (scanFrom 0 column s).map (Chain.shift k) :=
  ((reads_iff.2 rfl).shift k).scanFrom_eq

theorem last_shift (k : Nat) (c : Chain) : (c.shift k).last = c.last.shift k := by
  unfold last shift
  rcases List.eq_nil_or_concat c.more with hmore | ⟨before, w, hmore⟩ <;> simp [hmore]

theorem spell_shift (k : Nat) (c : Chain) : spell (c.shift k).words = spell c.words := by
  simp [spell, shift, words, Word.shift, Function.comp_def]

/-! ## Where chains stand -/

/-- The words of a chain stand in a text, one behind the other. -/
structure At (column : Nat) (s : List Char) (c : Chain) : Prop where
  words : ∀ w ∈ c.words, Word.At column s w
  ordered : c.words.Pairwise fun v w => v.stop < w.start

theorem last_mem (c : Chain) : c.last ∈ c.words :=
  List.getLastD_mem_cons

theorem At.head_le_last (h : At column s c) : c.head.start ≤ c.last.start := by
  rcases List.mem_cons.1 c.last_mem with heq | hmem
  · exact Nat.le_of_eq (by rw [heq])
  · have hlt := (List.pairwise_cons.1 h.ordered).1 c.last hmem
    have hhead := (h.words c.head List.mem_cons_self).lt_stop
    omega

theorem Reads.at (h : Reads column s chains) (hc : c ∈ chains) : At column s c := by
  induction h with
  | nil => cases hc
  | @skip column d rest _ _ _ ih =>
      obtain ⟨hwords, hordered⟩ := ih hc
      refine ⟨fun w hw => ?_, hordered⟩
      have hword : Word.At column ([d] ++ rest) w := (hwords w hw).append_left
      exact hword
  | @chain column name run rest words chains identifier linked _ ih =>
      rcases List.mem_cons.1 hc with rfl | hc
      · obtain ⟨hwords, hordered⟩ := linked.words_at
        refine ⟨?_, List.pairwise_cons.2 ⟨fun w hw => (hwords w hw).1, hordered⟩⟩
        intro w hw
        rcases List.mem_cons.1 hw with rfl | hw
        · exact ⟨identifier, [], run ++ rest, rfl, rfl⟩
        · exact ((hwords w hw).2.append_right rest).append_left
      · obtain ⟨hwords, hordered⟩ := ih hc
        refine ⟨fun w hw => ?_, hordered⟩
        rw [← List.append_assoc]
        apply Word.At.append_left
        rw [List.length_append, ← Nat.add_assoc]
        exact hwords w hw

theorem last_bounds (hc : c ∈ scanFrom 0 column s) :
    column ≤ c.last.start ∧ c.last.start < column + s.length := by
  have hreads : Reads column s (scanFrom 0 column s) := reads_iff.2 rfl
  have hword := (hreads.at hc).words c.last c.last_mem
  have hbounds := hword.bounds
  have hlt := hword.lt_stop
  omega

theorem Reads.lt_start (h : Reads column s chains) (hs : ∀ d ∈ s.head?, Text.isWord d = false)
    (hc : c ∈ chains) : column < c.head.start := by
  cases h with
  | nil => cases hc
  | skip _ next =>
      have hbounds := ((next.at hc).words c.head List.mem_cons_self).bounds
      omega
  | chain identifier _ _ =>
      obtain ⟨d, tail, rfl, hd⟩ := identifier.head
      have hno := hs d rfl
      rw [Text.isWord_of_isHead hd] at hno
      cases hno

theorem Reads.pairwise (h : Reads column s chains) :
    chains.Pairwise fun c d => c.last.stop < d.head.start := by
  induction h with
  | nil => exact .nil
  | skip _ _ ih => exact ih
  | @chain column name run rest words chains identifier linked next ih =>
      refine List.pairwise_cons.2 ⟨fun d hd => ?_, ih⟩
      have hlast : (Chain.mk ⟨name, column⟩ words).last.stop = column + name.length + run.length :=
        linked.last_stop rfl
      rw [hlast]
      exact next.lt_start linked.rest_ended hd

end Reads

/-! ## The chain under a cursor -/

section Cursor

variable {line : List Char} {c : Chain}

theorem upTo?_last {before : List Word} {w : Word} (hbefore : ∀ v ∈ before, v.stop < w.start) :
    upTo? w.start (before ++ [w]) = some (before ++ [w]) := by
  induction before with
  | nil =>
      have hheld : w.holds w.start = true := Word.holds_iff.2 ⟨Nat.le_refl _, Nat.le_add_right _ _⟩
      simp [upTo?, hheld]
  | cons v before ih =>
      obtain ⟨hv, hothers⟩ := List.forall_mem_cons.1 hbefore
      have hpast : v.holds w.start = false := by
        rw [Bool.eq_false_iff, Ne, Word.holds_iff]
        unfold Word.stop at hv
        omega
      simp [upTo?, hpast, ih hothers]

theorem words_eq_concat (c : Chain) : ∃ before, c.words = before ++ [c.last] := by
  unfold words last
  rcases List.eq_nil_or_concat c.more with hmore | ⟨before, w, hmore⟩
  · exact ⟨[], by simp [hmore]⟩
  · exact ⟨c.head :: before, by simp [hmore]⟩

theorem at?_of_mem_scan (hc : c ∈ scan line) : at? line c.last.start = some c.words := by
  have hreads : Reads 0 line (scan line) := reads_iff.2 rfl
  have hat := hreads.at hc
  obtain ⟨earlier, later, hsplit⟩ := List.append_of_mem hc
  have hpairs := hreads.pairwise
  rw [hsplit, List.pairwise_append] at hpairs
  have hle := hat.head_le_last
  have hmiss : ∀ d ∈ earlier, d.holds c.last.start = false := by
    intro d hd
    have hlt := hpairs.2.2 d hd c List.mem_cons_self
    simp only [holds, Bool.and_eq_false_iff, decide_eq_false_iff_not]
    omega
  have hheld : c.holds c.last.start = true := by
    have hstop := (hat.words c.last c.last_mem).lt_stop
    simp only [holds, Bool.and_eq_true, decide_eq_true_eq]
    omega
  obtain ⟨before, hwords⟩ := c.words_eq_concat
  have hordered := hat.ordered
  rw [hwords, List.pairwise_append] at hordered
  have hwhole : upTo? c.last.start c.words = some c.words := by
    rw [hwords]
    exact upTo?_last fun v hv => hordered.2.2 v hv _ (List.mem_singleton_self _)
  rw [at?, hsplit, List.findSome?_append]
  have hnone : earlier.findSome? (fun d => if d.holds c.last.start then upTo? c.last.start d.words
      else none) = none := by
    rw [List.findSome?_eq_none_iff]
    intro d hd
    simp [hmiss d hd]
  rw [hnone, Option.none_or, List.findSome?_cons, if_pos hheld, hwhole]

theorem mem_scan_of_walls {v w : Char} (hv : Text.Wall v) (hw : Text.Wall w)
    (before part after : List Char) (hc : c ∈ scan part) :
    c.shift (before.length + 1) ∈ scan (before ++ v :: (part ++ w :: after)) := by
  have hpart : c.shift (before.length + 1) ∈ scanFrom 0 (0 + (before.length + 1)) part := by
    rw [scanFrom_shift]
    exact List.mem_map_of_mem hc
  rw [scan, scanFrom_wall hv, Nat.add_assoc, scanFrom_wall hw]
  exact List.mem_append_right _ (List.mem_append_left _ hpart)

/-- A chain of a line that ends between two walls is a chain of what stands there. -/
theorem mem_scan_between {v w : Char} (hv : Text.Wall v) (hw : Text.Wall w)
    {before part after : List Char} (hc : c ∈ scan (before ++ v :: (part ++ w :: after)))
    (hstart : before.length + 1 ≤ c.last.start)
    (hstop : c.last.start < before.length + 1 + part.length) :
    ∃ d ∈ scan part, c = d.shift (before.length + 1) := by
  rw [scan, scanFrom_wall hv, scanFrom_wall hw, List.mem_append, List.mem_append] at hc
  rcases hc with hc | hc | hc
  · have hbounds := last_bounds hc
    omega
  · rw [Nat.add_assoc, scanFrom_shift, List.mem_map] at hc
    obtain ⟨d, hd, rfl⟩ := hc
    exact ⟨d, hd, rfl⟩
  · have hbounds := last_bounds hc
    omega

end Cursor

end Chain

end LozengeNav
