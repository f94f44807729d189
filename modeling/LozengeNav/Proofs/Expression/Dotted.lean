import LozengeNav.ModuleName
import LozengeNav.Proofs.Expression.Chain
import Mathlib.Data.List.Pairwise

/-! # Dotted texts

A dotted text is identifiers joined by dots, with blanks around the dots at will. The
chains of a line are dotted texts, and each dotted text on the line stands within one
of them, wherever it begins. So a chain is the longest dotted text around each of its
words.
-/

namespace LozengeNav

namespace Text

/-- Identifiers joined by dots; blanks may stand around each dot. -/
inductive Dotted : List Char → Prop where
  | word {name : List Char} (identifier : Identifier name) : Dotted name
  | dot {name gap space more : List Char} (identifier : Identifier name)
      (blank : ∀ b ∈ gap ++ space, isBlank b = true) (next : Dotted more) :
      Dotted (name ++ (gap ++ '.' :: (space ++ more)))

/-- A dotted text on a line around the columns from `start` to `stop` that no other one
around them goes beyond. -/
structure Widest (line : List Char) (start stop : Nat) (before part after : List Char) :
    Prop where
  shape : line = before ++ (part ++ after)
  dotted : Dotted part
  around : before.length ≤ start ∧ stop ≤ before.length + part.length
  widest : ∀ before' part' after', line = before' ++ (part' ++ after') → Dotted part' →
    before'.length ≤ start → stop ≤ before'.length + part'.length →
    before.length ≤ before'.length ∧
      before'.length + part'.length ≤ before.length + part.length

section Cut

variable {p : Char → Bool} {s t a b gap gap' space space' x y : List Char}

theorem Dotted.head (h : Dotted s) : ∃ c tail, s = c :: tail ∧ isHead c = true := by
  cases h with
  | word identifier => exact identifier.head
  | dot identifier =>
      obtain ⟨c, tail, rfl, hc⟩ := identifier.head
      exact ⟨c, _, rfl, hc⟩

theorem Dotted.isBlank_head (h : Dotted s) (t : List Char) :
    ∀ c ∈ (s ++ t).head?, isBlank c = false := by
  obtain ⟨d, tail, rfl, hd⟩ := h.head
  intro c hc
  obtain rfl : d = c := by simpa using hc
  exact isBlank_of_isWord (isWord_of_isHead hd)

theorem isHead_of_mem_link (hblank : ∀ c ∈ gap ++ space, isBlank c = true) {c : Char}
    (hc : c ∈ gap ++ '.' :: space) : isHead c = false := by
  obtain ⟨hgap, hspace⟩ := List.forall_mem_append.1 hblank
  rcases List.mem_append.1 hc with hc | hc
  · exact isHead_of_not_isWord (isWord_of_isBlank (hgap c hc))
  · rcases List.mem_cons.1 hc with rfl | hc
    · decide
    · exact isHead_of_not_isWord (isWord_of_isBlank (hspace c hc))

theorem Dotted.exists_behind (hs : Dotted s) (ht : ∀ c ∈ t, isHead c = false)
    (h : t ++ x = a ++ (s ++ b)) : ∃ more, a = t ++ more ∧ x = more ++ (s ++ b) := by
  rcases List.append_eq_append_iff.1 h with hmore | ⟨lead, hlead, hrest⟩
  · exact hmore
  · cases lead with
    | nil => exact ⟨[], by simpa using hlead.symm, by simpa using hrest.symm⟩
    | cons d lead =>
        obtain ⟨c, tail, rfl, hc⟩ := hs.head
        obtain ⟨rfl, -⟩ := List.cons.inj hrest
        rw [ht c (by simp [hlead])] at hc
        cases hc

theorem exists_append_of_run (ht : ∀ c ∈ t, p c = true) (ha : ∀ c ∈ a.head?, p c = false)
    (h : s ++ a = t ++ b) : ∃ more, s = t ++ more := by
  rcases List.append_eq_append_iff.1 h with ⟨more, hmore, hrest⟩ | ⟨more, hmore, -⟩
  · cases more with
    | nil => exact ⟨[], by rw [hmore, List.append_nil, List.append_nil]⟩
    | cons c more =>
        have hc := ht c (by simp [hmore])
        rw [ha c (by simp [hrest])] at hc
        cases hc
  · exact ⟨more, hmore⟩

theorem run_unique (hs : ∀ c ∈ s, p c = true) (ht : ∀ c ∈ t, p c = true)
    (ha : ∀ c ∈ a.head?, p c = false) (hb : ∀ c ∈ b.head?, p c = false) (h : s ++ a = t ++ b) :
    s = t ∧ a = b := by
  obtain ⟨more, hmore⟩ := exists_append_of_run ht ha h
  obtain ⟨less, hless⟩ := exists_append_of_run hs hb h.symm
  have hlength : s.length = t.length := by
    have hfirst := congrArg List.length hmore
    have hsecond := congrArg List.length hless
    rw [List.length_append] at hfirst hsecond
    omega
  exact List.append_inj h hlength

theorem link_unique (hblank : ∀ c ∈ gap ++ space, isBlank c = true)
    (hblank' : ∀ c ∈ gap' ++ space', isBlank c = true) (hx : ∀ c ∈ x.head?, isBlank c = false)
    (hy : ∀ c ∈ y.head?, isBlank c = false)
    (h : gap ++ '.' :: (space ++ x) = gap' ++ '.' :: (space' ++ y)) :
    gap = gap' ∧ space = space' ∧ x = y := by
  obtain ⟨hgap, hspace⟩ := List.forall_mem_append.1 hblank
  obtain ⟨hgap', hspace'⟩ := List.forall_mem_append.1 hblank'
  have hdot : ∀ z : List Char, ∀ c ∈ ('.' :: z).head?, isBlank c = false := by
    intro z c hc
    obtain rfl : '.' = c := by simpa using hc
    decide
  obtain ⟨rfl, hrest⟩ := run_unique hgap hgap' (hdot _) (hdot _) h
  obtain ⟨rfl, rfl⟩ := run_unique hspace hspace' hx hy (List.cons.inj hrest).2
  exact ⟨rfl, rfl, rfl⟩

end Cut

/-! ## Without blanks -/

section Squeeze

variable {s : List Char}

theorem squeeze_append (s t : List Char) : squeeze (s ++ t) = squeeze s ++ squeeze t :=
  List.filter_append s t

theorem squeeze_of_blank (h : ∀ c ∈ s, isBlank c = true) : squeeze s = [] := by
  rw [squeeze, List.filter_eq_nil_iff]
  intro c hc
  simp [h c hc]

theorem squeeze_of_word (h : ∀ c ∈ s, isWord c = true) : squeeze s = s := by
  rw [squeeze, List.filter_eq_self]
  intro c hc
  simp [isBlank_of_isWord (h c hc)]

theorem squeeze_link {gap space : List Char} (h : ∀ c ∈ gap ++ space, isBlank c = true)
    (s : List Char) : squeeze (gap ++ '.' :: (space ++ s)) = '.' :: squeeze s := by
  obtain ⟨hgap, hspace⟩ := List.forall_mem_append.1 h
  have hdot : squeeze ('.' :: (space ++ s)) = '.' :: squeeze (space ++ s) := rfl
  rw [squeeze_append, squeeze_of_blank hgap, hdot, squeeze_append, squeeze_of_blank hspace]
  rfl

end Squeeze

end Text

namespace Chain

theorem spell_singleton (w : Word) : spell [w] = w.text := by
  simp [spell]

theorem spell_cons (w : Word) {words : List Word} (h : words ≠ []) :
    spell (w :: words) = w.text ++ '.' :: spell words := by
  obtain ⟨v, words, rfl⟩ := List.exists_cons_of_ne_nil h
  simp [spell, List.intercalate]

theorem pieces_spell {words : List Word} (hne : words ≠ [])
    (h : ∀ w ∈ words, Text.Identifier w.text) :
    ModuleName.pieces (String.ofList (spell words)) = words.map fun w => String.ofList w.text := by
  have hdots : ∀ text ∈ words.map Word.text, '.' ∉ text := by
    intro text htext hmem
    obtain ⟨w, hw, rfl⟩ := List.mem_map.1 htext
    exact absurd ((h w hw).word '.' hmem) (by decide)
  rw [ModuleName.pieces, String.toList_ofList, spell,
    List.splitOn_intercalate '.' hdots (by simpa using hne), List.map_map]
  rfl

/-! ## Dotted texts within a chain -/

section Within

variable {column : Nat} {run rest word before part after : List Char} {words : List Word}

/-- A dotted text that begins within a word of a chain does not go on behind the chain. -/
theorem Linked.exists_append_of_dotted (h : Linked column run rest words)
    (hword : ∀ c ∈ word, Text.isWord c = true) (hpart : Text.Dotted part)
    (hshape : word ++ (run ++ rest) = part ++ after) : ∃ more, word ++ run = part ++ more := by
  -- The induction is on the links of the chain; each link of the dotted text is one of these.
  induction h generalizing word part with
  | @stop column rest done ended =>
      cases hpart with
      | word identifier =>
          obtain ⟨more, hmore⟩ := Text.exists_append_of_run identifier.word ended hshape
          exact ⟨more, by rw [List.append_nil, hmore]⟩
      | @dot name gap space tail identifier blank next =>
          rw [List.nil_append, List.append_assoc] at hshape
          have hgap := (List.forall_mem_append.1 blank).1
          have hcut : gap ++ '.' :: (space ++ tail) ++ after =
              gap ++ '.' :: (space ++ (tail ++ after)) := by simp
          rw [hcut] at hshape
          obtain ⟨-, hrest⟩ := Text.run_unique hword identifier.word ended
            (Text.isWord_head_link hgap _) hshape
          obtain ⟨c, more, rfl, hc⟩ := next.head
          exact absurd ⟨gap, space, c, more ++ after, hrest, blank, hc⟩ done
  | @link column gap space name run rest words blank identifier next ih =>
      have hcut : gap ++ '.' :: (space ++ (name ++ run)) ++ rest =
          gap ++ '.' :: (space ++ (name ++ (run ++ rest))) := by simp
      rw [hcut] at hshape
      have hgap := (List.forall_mem_append.1 blank).1
      have hended := Text.isWord_head_link hgap (space ++ (name ++ (run ++ rest)))
      cases hpart with
      | word identifier' =>
          obtain ⟨more, rfl⟩ := Text.exists_append_of_run identifier'.word hended hshape
          exact ⟨_, List.append_assoc _ _ _⟩
      | @dot name' gap' space' tail identifier' blank' next' =>
          have hcut' : name' ++ (gap' ++ '.' :: (space' ++ tail)) ++ after =
              name' ++ (gap' ++ '.' :: (space' ++ (tail ++ after))) := by simp
          rw [hcut'] at hshape
          have hgap' := (List.forall_mem_append.1 blank').1
          obtain ⟨rfl, hrest⟩ := Text.run_unique hword identifier'.word hended
            (Text.isWord_head_link hgap' _) hshape
          obtain ⟨rfl, rfl, hnext⟩ := Text.link_unique blank blank'
            ((Text.Dotted.word identifier).isBlank_head _) (next'.isBlank_head _) hrest
          obtain ⟨more, hmore⟩ := ih identifier.word next' hnext
          exact ⟨more, by simp [hmore]⟩

theorem Linked.exists_append_of_dotted_within (h : Linked column run rest words)
    (hword : ∀ c ∈ word, Text.isWord c = true) (hpart : Text.Dotted part)
    (hshape : word ++ (run ++ rest) = before ++ (part ++ after))
    (hstart : before.length < (word ++ run).length) :
    ∃ more, word ++ run = before ++ (part ++ more) := by
  induction h generalizing word before with
  | @stop column rest done ended =>
      rw [List.append_nil] at hstart
      obtain ⟨tail, rfl, htail⟩ : ∃ tail, word = before ++ tail ∧ part ++ after = tail ++ rest := by
        rcases List.append_eq_append_iff.1 hshape with ⟨tail, rfl, -⟩ | htail
        · rw [List.length_append] at hstart
          omega
        · exact htail
      have hstop : Linked column [] rest [] := .stop done ended
      obtain ⟨more, hmore⟩ := hstop.exists_append_of_dotted
        (fun c hc => hword c (List.mem_append_right _ hc)) hpart htail.symm
      exact ⟨more, by rw [List.append_assoc, hmore]⟩
  | @link column gap space name run rest words blank identifier next ih =>
      rcases List.append_eq_append_iff.1 hshape with ⟨front, rfl, hfront⟩ | ⟨tail, rfl, htail⟩
      · -- It begins behind the word; no link begins with the head of an identifier.
        have hcut : gap ++ '.' :: (space ++ (name ++ run)) ++ rest =
            (gap ++ '.' :: space) ++ (name ++ (run ++ rest)) := by simp
        rw [hcut] at hfront
        obtain ⟨inner, rfl, hinner⟩ :=
          hpart.exists_behind (fun c hc => Text.isHead_of_mem_link blank hc) hfront
        have hshort : inner.length < (name ++ run).length := by
          simp only [List.length_append, List.length_cons] at hstart ⊢
          omega
        obtain ⟨more, hmore⟩ := ih identifier.word hinner hshort
        exact ⟨more, by simp [hmore]⟩
      · obtain ⟨more, hmore⟩ := (Linked.link blank identifier next).exists_append_of_dotted
          (fun c hc => hword c (List.mem_append_right _ hc)) hpart htail.symm
        exact ⟨more, by rw [List.append_assoc, hmore]⟩

theorem Reads.exists_around {s : List Char} {chains : List Chain} (h : Reads column s chains)
    (hpart : Text.Dotted part) (hshape : s = before ++ (part ++ after)) :
    ∃ c ∈ chains, c.head.start ≤ column + before.length ∧
      column + before.length + part.length ≤ c.last.stop := by
  induction h generalizing before with
  | nil =>
      obtain ⟨c, tail, rfl, -⟩ := hpart.head
      simp at hshape
  | @skip column d rest chains other next ih =>
      have hskipped : [d] ++ rest = before ++ (part ++ after) := hshape
      obtain ⟨inner, rfl, hinner⟩ :=
        hpart.exists_behind (List.forall_mem_singleton.2 other) hskipped
      obtain ⟨c, hmem, hstart, hstop⟩ := ih hinner
      simp only [List.length_append, List.length_singleton]
      exact ⟨c, hmem, by omega, by omega⟩
  | @chain column name run rest words chains identifier linked next ih =>
      -- The dotted text begins within this chain, or behind it among what is read later.
      by_cases hstart : before.length < (name ++ run).length
      · obtain ⟨more, hmore⟩ :=
          linked.exists_append_of_dotted_within identifier.word hpart hshape hstart
        have hlast : (Chain.mk ⟨name, column⟩ words).last.stop = column + name.length + run.length :=
          linked.last_stop rfl
        have hlength := congrArg List.length hmore
        simp only [List.length_append] at hlength
        refine ⟨_, List.mem_cons_self, Nat.le_add_right _ _, ?_⟩
        rw [hlast]
        omega
      · rw [← List.append_assoc] at hshape
        obtain ⟨inner, rfl, hinner⟩ : ∃ inner, before = name ++ run ++ inner ∧
            rest = inner ++ (part ++ after) := by
          rcases List.append_eq_append_iff.1 hshape with hinner | ⟨lead, hlead, hrest⟩
          · exact hinner
          · have hlength := congrArg List.length hlead
            simp only [List.length_append] at hlength hstart
            have hnil : lead = [] := List.length_eq_zero_iff.1 (by omega)
            subst hnil
            exact ⟨[], by simpa using hlead.symm, by simpa using hrest.symm⟩
        obtain ⟨c, hmem, hfirst, hlast⟩ := ih hinner
        simp only [List.length_append]
        exact ⟨c, List.mem_cons_of_mem _ hmem, by omega, by omega⟩

end Within

/-! ## The text of a chain -/

/-- The text that a chain is read from, which begins at a column. Up to each word of the
chain it spells the words without its blanks. -/
structure From (column : Nat) (part : List Char) (c : Chain) : Prop where
  dotted : Text.Dotted part
  start : c.head.start = column
  stop : c.last.stop = column + part.length
  upTo : ∀ front w later, c.words = front ++ w :: later →
    ∃ lead back, part = lead ++ (w.text ++ back) ∧ w.start = column + lead.length ∧
      Text.squeeze (lead ++ w.text) = spell (front ++ [w])

section From

variable {column : Nat} {s run rest name : List Char} {words : List Word} {chains : List Chain}
  {c : Chain}

theorem Linked.dotted (h : Linked column run rest words) (hname : Text.Identifier name) :
    Text.Dotted (name ++ run) := by
  induction h generalizing name with
  | stop =>
      rw [List.append_nil]
      exact .word hname
  | link blank identifier _ ih => exact .dot hname blank (ih identifier)

theorem Linked.exists_upTo (h : Linked column run rest words) {front later : List Word} {w : Word}
    (hwords : words = front ++ w :: later) :
    ∃ lead back, run = lead ++ (w.text ++ back) ∧ w.start = column + lead.length ∧
      Text.squeeze (lead ++ w.text) = '.' :: spell (front ++ [w]) := by
  induction h generalizing front with
  | stop => simp at hwords
  | @link column gap space name run rest words blank identifier next ih =>
      cases front with
      | nil =>
          obtain ⟨rfl, -⟩ := List.cons.inj hwords
          refine ⟨gap ++ '.' :: space, run, by simp, ?_, ?_⟩
          · simp only [List.length_append, List.length_cons]
            omega
          · rw [List.append_assoc, List.cons_append, Text.squeeze_link blank,
              Text.squeeze_of_word identifier.word, List.nil_append, spell_singleton]
      | cons v front =>
          obtain ⟨rfl, hrest⟩ := List.cons.inj hwords
          obtain ⟨lead, back, rfl, hstart, hspell⟩ := ih hrest
          refine ⟨gap ++ '.' :: (space ++ (name ++ lead)), back, by simp, ?_, ?_⟩
          · rw [hstart]
            simp only [List.length_append, List.length_cons]
            omega
          · have hcut : gap ++ '.' :: (space ++ (name ++ lead)) ++ w.text =
                gap ++ '.' :: (space ++ (name ++ (lead ++ w.text))) := by simp
            rw [hcut, Text.squeeze_link blank, Text.squeeze_append,
              Text.squeeze_of_word identifier.word, hspell, List.cons_append,
              spell_cons _ (by simp)]

theorem Linked.from (h : Linked (column + name.length) run rest words)
    (hname : Text.Identifier name) : From column (name ++ run) ⟨⟨name, column⟩, words⟩ where
  dotted := h.dotted hname
  start := rfl
  stop := by
    have hlast : (Chain.mk ⟨name, column⟩ words).last.stop = column + name.length + run.length :=
      h.last_stop rfl
    rw [hlast, List.length_append, Nat.add_assoc]
  upTo := by
    intro front w later hwords
    cases front with
    | nil =>
        obtain ⟨rfl, -⟩ := List.cons.inj hwords
        exact ⟨[], run, rfl, rfl, by rw [List.nil_append, List.nil_append, spell_singleton,
          Text.squeeze_of_word hname.word]⟩
    | cons v front =>
        obtain ⟨rfl, hrest⟩ := List.cons.inj hwords
        obtain ⟨lead, back, rfl, hstart, hspell⟩ := h.exists_upTo hrest
        refine ⟨name ++ lead, back, by simp, ?_, ?_⟩
        · rw [hstart, List.length_append, Nat.add_assoc]
        · rw [List.append_assoc, Text.squeeze_append, Text.squeeze_of_word hname.word, hspell,
            List.cons_append, spell_cons _ (by simp)]

theorem Reads.exists_from (h : Reads column s chains) (hc : c ∈ chains) :
    ∃ before part after, s = before ++ (part ++ after) ∧ From (column + before.length) part c := by
  induction h with
  | nil => cases hc
  | @skip column d rest chains other next ih =>
      obtain ⟨before, part, after, rfl, hfrom⟩ := ih hc
      refine ⟨d :: before, part, after, rfl, ?_⟩
      rw [List.length_cons, Nat.add_comm before.length 1, ← Nat.add_assoc]
      exact hfrom
  | @chain column name run rest words chains identifier linked next ih =>
      rcases List.mem_cons.1 hc with rfl | hc
      · exact ⟨[], name ++ run, rest, by simp, linked.from identifier⟩
      · obtain ⟨before, part, after, rfl, hfrom⟩ := ih hc
        refine ⟨name ++ (run ++ before), part, after, by simp, ?_⟩
        have hcolumn : column + (name ++ (run ++ before)).length =
            column + name.length + run.length + before.length := by
          simp only [List.length_append]
          omega
        rw [hcolumn]
        exact hfrom

theorem Reads.eq_of_around (h : Reads column s chains) {d : Chain} (hc : c ∈ chains)
    (hd : d ∈ chains) {k : Nat} (hcolumn : c.head.start ≤ k ∧ k ≤ c.last.stop)
    (hcolumn' : d.head.start ≤ k ∧ k ≤ d.last.stop) : c = d := by
  have hapart : chains.Pairwise fun c d =>
      c.last.stop < d.head.start ∨ d.last.stop < c.head.start := h.pairwise.imp Or.inl
  have hsymm : Std.Symm fun c d : Chain =>
      c.last.stop < d.head.start ∨ d.last.stop < c.head.start := ⟨fun _ _ => Or.symm⟩
  by_contra hne
  have hboth := hapart.forall hc hd hne
  omega

theorem exists_widest {line : List Char} (hc : c ∈ scan line) {front later : List Word} {w : Word}
    (hwords : c.words = front ++ w :: later) :
    ∃ before lead back after,
      Text.Widest line w.start w.stop before (lead ++ (w.text ++ back)) after ∧
        w.start = before.length + lead.length ∧
        Text.squeeze (lead ++ w.text) = spell (front ++ [w]) := by
  have hreads : Reads 0 line (scan line) := reads_iff.2 rfl
  obtain ⟨before, part, after, hline, hfrom⟩ := hreads.exists_from hc
  obtain ⟨lead, back, rfl, hstart, hspell⟩ := hfrom.upTo front w later hwords
  have hfirst := hfrom.start
  have hlast := hfrom.stop
  rw [Nat.zero_add] at hstart hfirst hlast
  have hstop : w.stop = w.start + w.text.length := rfl
  refine ⟨before, lead, back, after, ⟨hline, hfrom.dotted, ?_, ?_⟩, hstart, hspell⟩
  · simp only [List.length_append]
    omega
  · intro before' part' after' hline' hdotted hleft hright
    obtain ⟨d, hd, hdstart, hdstop⟩ := hreads.exists_around hdotted hline'
    rw [Nat.zero_add] at hdstart hdstop
    -- Both chains are around the word, so they are the same.
    obtain rfl : c = d := by
      simp only [List.length_append] at hlast
      exact hreads.eq_of_around hc hd (k := w.start) ⟨by omega, by omega⟩ ⟨by omega, by omega⟩
    rw [hfirst] at hdstart
    rw [hlast] at hdstop
    exact ⟨hdstart, hdstop⟩

end From

end Chain

end LozengeNav
