import LozengeNav.Proofs.Enclosing.Nesting
import LozengeNav.Proofs.Outline.Selection

/-! # Sources line by line

A line break ends each row of a source, so rows follow each other line by line. A block
ends with its last row and a row is put behind all that was closed before, so the
nodes of a source follow each other line by line too.
-/

namespace LozengeNav

namespace Outline

/-! ## Lexemes -/

/-- Lexemes follow each other, behind a line break a new line begins, and a word stays on its
line. -/
structure Stepped (placed : List Placed) : Prop where
  ordered : placed.Pairwise fun p q => p.stop ≤ q.start
  forward : ∀ p ∈ placed, p.start ≤ p.stop
  breaks : ∀ p ∈ placed, p.lexeme.kind = .lineBreak → p.start.line < p.stop.line
  words : ∀ p ∈ placed, p.lexeme.kind = .word →
    p.stop = ⟨p.start.line, p.start.column + p.lexeme.text.length⟩

namespace Placed

theorem mem_ofLexemes {start : Position} {lexemes : List Lexeme} {p : Placed}
    (h : p ∈ ofLexemes start lexemes) :
    p.lexeme ∈ lexemes ∧ start ≤ p.start ∧ p.stop = p.start.advance p.lexeme.text := by
  induction lexemes generalizing start with
  | nil => cases h
  | cons l rest ih =>
      rcases List.mem_cons.mp h with rfl | h
      · exact ⟨List.mem_cons_self, le_refl _, rfl⟩
      · obtain ⟨hmem, hstart, hstop⟩ := ih h
        exact ⟨List.mem_cons_of_mem _ hmem, (Position.le_advance start l.text).trans hstart, hstop⟩

theorem ofLexemes_ordered (start : Position) (lexemes : List Lexeme) :
    (ofLexemes start lexemes).Pairwise fun p q => p.stop ≤ q.start := by
  induction lexemes generalizing start with
  | nil => exact .nil
  | cons l rest ih => exact .cons (fun q hq => (mem_ofLexemes hq).2.1) (ih _)

theorem text_of_mem_scan {s : List Char} {l : Lexeme} (h : l ∈ Lexeme.scan s)
    (hkind : l.kind = .lineBreak) : l.text = ['\n'] := by
  obtain ⟨before, after, hcut⟩ := List.append_of_mem h
  exact text_of_lineBreak (scan_joined hcut) hkind

theorem newline_not_mem_word {s : List Char} {l : Lexeme} (h : l ∈ Lexeme.scan s)
    (hkind : l.kind = .word) : '\n' ∉ l.text := by
  obtain ⟨before, after, hcut⟩ := List.append_of_mem h
  intro hfeed
  have hbreak := Text.isBreak_of_isNameContinue ((word_spec (scan_joined hcut) hkind).1 _ hfeed)
  revert hbreak
  decide

theorem stepped_scan (s : List Char) : Stepped (scan s) where
  ordered := ofLexemes_ordered .origin (Lexeme.scan s)
  forward p hp := by
    rw [(mem_ofLexemes hp).2.2]
    exact Position.le_advance p.start p.lexeme.text
  breaks p hp hkind := by
    obtain ⟨hmem, -, hstop⟩ := mem_ofLexemes hp
    rw [hstop, text_of_mem_scan hmem hkind]
    exact Nat.lt_succ_self _
  words p hp hkind := by
    obtain ⟨hmem, -, hstop⟩ := mem_ofLexemes hp
    rw [hstop, Position.advance_of_not_mem _ (newline_not_mem_word hmem hkind)]

end Placed

namespace Stepped

variable {placed : List Placed}

theorem sublist (h : Stepped placed) {part : List Placed} (hpart : part.Sublist placed) :
    Stepped part :=
  ⟨h.ordered.sublist hpart, fun p hp => h.forward p (hpart.subset hp),
    fun p hp => h.breaks p (hpart.subset hp), fun p hp => h.words p (hpart.subset hp)⟩

theorem tail {head : Placed} {more : List Placed} (h : Stepped (head :: more)) : Stepped more :=
  h.sublist (List.sublist_cons_self head more)

theorem start_le {head : Placed} {more : List Placed} (h : Stepped (head :: more)) {p : Placed}
    (hp : p ∈ head :: more) : head.start ≤ p.start := by
  have hforward := h.forward head List.mem_cons_self
  rcases List.mem_cons.mp hp with rfl | hp
  · exact le_refl _
  · exact hforward.trans (List.rel_of_pairwise_cons h.ordered hp)

theorem stop_le {head : Placed} {more : List Placed} (h : Stepped (head :: more)) {p : Placed}
    (hp : p ∈ head :: more) : p.stop ≤ (more.getLastD head).stop := by
  induction more generalizing head p with
  | nil =>
      rw [List.mem_singleton.mp hp]
      exact le_refl _
  | cons q more ih =>
      rw [List.getLastD_cons]
      rcases List.mem_cons.mp hp with rfl | hp
      · have hlast := ih h.tail List.mem_cons_self
        have hnext := List.rel_of_pairwise_cons h.ordered List.mem_cons_self
        have hforward := h.forward q (List.mem_cons_of_mem _ List.mem_cons_self)
        exact (hnext.trans hforward).trans hlast
      · exact ih h.tail hp

theorem groups (h : Stepped placed) (depth : Nat) :
    (groups depth placed).Pairwise fun g g' => ∀ p ∈ g, ∀ q ∈ g', p.stop.line < q.start.line := by
  induction placed generalizing depth with
  | nil => exact List.pairwise_singleton _ _
  | cons p rest ih =>
      rw [Outline.groups]
      split
      · exact .cons (fun _ _ => List.forall_mem_nil _) (ih h.tail 0)
      · obtain ⟨first, more, hgroups, -, hmore⟩ :=
          groups_spec (depthAfter depth p.lexeme.kind) rest
        have hrest := ih h.tail (depthAfter depth p.lexeme.kind)
        rw [hgroups] at hrest ⊢
        obtain ⟨hfirst, hrest⟩ := List.pairwise_cons.mp hrest
        refine .cons (fun g hg => List.forall_mem_cons.mpr ⟨fun q hq => ?_, hfirst g hg⟩) hrest
        -- the line break in front of the group stands behind the lexeme
        obtain ⟨before, b, after, rfl, hkind⟩ := hmore g hg
        have hb : b ∈ before ++ b :: (g ++ after) :=
          List.mem_append_right _ List.mem_cons_self
        have hbreak := h.breaks b (List.mem_cons_of_mem _ hb) hkind
        have hbefore := Position.line_le (List.rel_of_pairwise_cons h.ordered hb)
        have hbehind := Position.line_le (List.rel_of_pairwise_cons
          (List.pairwise_append.mp h.tail.ordered).2.1 (List.mem_append_left after hq))
        omega

end Stepped

/-! ## Rows -/

namespace Row

/-- The line that a row begins on; of a comment, the line that it ends on. -/
def first : Row → Nat
  | comment _ stop => stop.line
  | code _ span _ _ => span.start.line

def last : Row → Nat
  | comment _ stop => stop.line
  | code _ span _ _ => span.stop.line

def Framed : Row → Prop
  | comment .. => True
  | code _ span declaration _ => (Node.mk declaration span []).Framed

end Row

theorem kind_of_declaration? {words : List Placed} {d : Declaration}
    (h : declaration? words = some d) : d.kind ≠ .method := by
  revert h
  fun_cases declaration? words <;> rintro ⟨⟩ <;> simp [declared]

/-- A row begins and ends on the lines of its group, and its name stands within. -/
theorem Row.ofGroup?_lines {group : List Placed} (h : Stepped group) {row : Row}
    (hrow : Row.ofGroup? group = some row) :
    row.Framed ∧ row.first ≤ row.last ∧ (∃ p ∈ group, p.start.line ≤ row.first) ∧
      ∃ p ∈ group, row.last ≤ p.stop.line := by
  have hsub : (solid group).Sublist group := List.filter_sublist
  unfold Row.ofGroup? at hrow
  simp only at hrow
  split at hrow
  · cases hrow
  · next first rest hsolid =>
      rw [hsolid] at hsub
      have hsteps := h.sublist hsub
      have hlast : rest.getLastD first ∈ first :: rest := List.getLastD_mem_cons
      have hstop := h.forward _ (hsub.subset hlast)
      split at hrow
      · cases hrow
        exact ⟨trivial, Nat.le_refl _, ⟨_, hsub.subset hlast, Position.line_le hstop⟩, _,
          hsub.subset hlast, Nat.le_refl _⟩
      · next head more hcode =>
          cases hrow
          have hcodeSub : (head :: more).Sublist (first :: rest) := hcode ▸ List.filter_sublist
          have hhead := hcodeSub.subset List.mem_cons_self
          have hforward := h.forward head (hsub.subset hhead)
          have hspan : head.start ≤ (rest.getLastD first).stop :=
            hforward.trans (hsteps.stop_le hhead)
          refine ⟨⟨hspan, fun d hd => ?_, List.forall_mem_nil _⟩, Position.line_le hspan,
            ⟨head, hsub.subset hhead, Nat.le_refl _⟩, _, hsub.subset hlast, Nat.le_refl _⟩
          obtain ⟨name, hname, hdeclared⟩ := exists_name_of_declaration? hd
          obtain ⟨hmem, hword⟩ := mem_of_mem_leadingWords hname
          have hafter := (hsteps.sublist hcodeSub).start_le hmem
          have hbefore := hsteps.stop_le (hcodeSub.subset hmem)
          have hstop : d.stop = name.stop := by
            rw [h.words name (hsub.subset (hcodeSub.subset hmem)) hword, hdeclared,
              Declaration.stop, declared, String.length_ofList]
          refine ⟨kind_of_declaration? hd, ?_, ?_⟩
          · rw [hdeclared]
            exact hafter
          · rw [hstop]
            exact hbefore

theorem rows_lines (s : List Char) :
    (rows s).Pairwise (fun r r' => r.last < r'.first) ∧
      ∀ r ∈ rows s, r.Framed ∧ r.first ≤ r.last := by
  have hscan := Placed.stepped_scan s
  have hgroup : ∀ g ∈ groups 0 (Placed.scan s), Stepped g := by
    intro g hg
    obtain ⟨before, after, hcut, -⟩ := exists_before_group hg
    rw [hcut] at hscan
    exact hscan.sublist ((List.sublist_append_left g after).trans (List.sublist_append_right _ _))
  constructor
  · refine List.pairwise_filterMap.mpr ((hscan.groups 0).imp_of_mem ?_)
    intro g g' hg hg' hapart r hr r' hr'
    obtain ⟨-, -, -, p, hp, hlast⟩ := Row.ofGroup?_lines (hgroup g hg) hr
    obtain ⟨-, -, ⟨q, hq, hfirst⟩, -⟩ := Row.ofGroup?_lines (hgroup g' hg') hr'
    have hlt := hapart p hp q hq
    omega
  · intro r hr
    obtain ⟨g, hg, hr⟩ := List.mem_filterMap.mp hr
    obtain ⟨hframed, hle, -⟩ := Row.ofGroup?_lines (hgroup g hg) hr
    exact ⟨hframed, hle⟩

/-! ## Blocks -/

namespace Node

theorem linewiseAll_iff {nodes : List Node} :
    linewiseAll nodes = true ↔
      (∀ n ∈ nodes, n.linewise = true) ∧
        nodes.Pairwise fun m n => m.span.stop.line < n.span.start.line := by
  induction nodes with
  | nil => simp [linewiseAll]
  | cons n rest ih =>
      rw [linewiseAll_cons, ih, List.forall_mem_cons, List.pairwise_cons]
      tauto

theorem linewiseAll_reverse_cons {n : Node} {nodes : List Node} :
    linewiseAll (n :: nodes).reverse = true ↔
      n.linewise = true ∧ (∀ m ∈ nodes, m.span.stop.line < n.span.start.line) ∧
        linewiseAll nodes.reverse = true := by
  simp only [linewiseAll_iff, List.mem_reverse, List.pairwise_reverse, List.forall_mem_cons,
    List.pairwise_cons]
  tauto

end Node

namespace Block

variable {b : Block}

theorem linewise_extend (h : b.close.linewise = true) {stop : Position}
    (hstop : b.span.stop ≤ stop) : (b.extend stop).close.linewise = true := by
  rw [Node.linewise_iff] at h ⊢
  obtain ⟨⟨hspan, hnamed, hwithin⟩, hinside⟩ := h
  exact ⟨⟨hspan.trans hstop,
    fun d hd => ⟨(hnamed d hd).1, (hnamed d hd).2.1, (hnamed d hd).2.2.trans hstop⟩,
    fun m hm => ⟨(hwithin m hm).1, (hwithin m hm).2.1, (hwithin m hm).2.2.trans hstop⟩⟩, hinside⟩

theorem linewise_add (h : b.close.linewise = true) {n : Node} (hn : n.linewise = true)
    (hbehind : b.span.stop.line < n.span.start.line) : (b.add n).close.linewise = true := by
  have hforward := (Node.linewise_iff.mp hn).1.1
  have hstop := (Position.le_of_line_lt hbehind).trans hforward
  have hextend := linewise_extend h hstop
  rw [Node.linewise_iff] at h hextend ⊢
  obtain ⟨⟨hspan, hnamed, hwithin⟩, hinside⟩ := h
  obtain ⟨⟨hspan', hnamed', hwithin'⟩, -⟩ := hextend
  refine ⟨⟨hspan', hnamed', fun m hm => ?_⟩, Node.linewiseAll_reverse_cons.mpr ⟨hn, ?_, hinside⟩⟩
  · rcases List.mem_cons.mp (List.mem_reverse.mp hm) with rfl | hm
    · refine ⟨Nat.lt_of_le_of_lt (Position.line_le hspan) hbehind, fun d hd => ?_, le_refl _⟩
      have hplace := Position.line_le (hnamed d hd).2.2
      rw [Declaration.stop_line] at hplace
      exact Nat.lt_of_le_of_lt hplace hbehind
    · exact hwithin' m (List.mem_reverse.mpr hm)
  · intro m hm
    exact Nat.lt_of_le_of_lt (Position.line_le (hwithin m (List.mem_reverse.mpr hm)).2.2) hbehind

end Block

/-- What is open and what is done stands on lines before a given one. Blocks inside others stand
behind what these have taken in so far. -/
structure Layout.Linewise (line : Nat) (l : Layout) : Prop where
  blocks : ∀ b ∈ l.blocks, b.close.linewise = true ∧ b.span.stop.line < line
  stacked : l.blocks.Pairwise fun b c => c.span.stop.line < b.span.start.line
  done : Node.linewiseAll l.done.reverse = true ∧ ∀ n ∈ l.done, n.span.stop.line < line
  behind : ∀ b ∈ l.blocks, ∀ n ∈ l.done, n.span.stop.line < b.span.start.line

namespace Layout

variable {line : Nat} {l : Layout}

theorem Linewise.mono (h : l.Linewise line) {later : Nat} (hle : line ≤ later) :
    l.Linewise later :=
  ⟨fun b hb => ⟨(h.blocks b hb).1, Nat.lt_of_lt_of_le (h.blocks b hb).2 hle⟩, h.stacked,
    ⟨h.done.1, fun n hn => Nat.lt_of_lt_of_le (h.done.2 n hn) hle⟩, h.behind⟩

theorem Linewise.replace {b b' : Block} {outer : List Block} {done : List Node}
    (h : (⟨b :: outer, done⟩ : Layout).Linewise line) (hb : b'.close.linewise = true)
    (hstart : b'.span.start = b.span.start) {later : Nat} (hle : line ≤ later)
    (hend : b'.span.stop.line < later) : (⟨b' :: outer, done⟩ : Layout).Linewise later := by
  have hlater := h.mono hle
  refine ⟨List.forall_mem_cons.mpr ⟨⟨hb, hend⟩, (List.forall_mem_cons.mp hlater.blocks).2⟩,
    List.pairwise_cons.mpr ⟨fun c hc => ?_, h.stacked.tail⟩, hlater.done,
    List.forall_mem_cons.mpr ⟨fun n hn => ?_, (List.forall_mem_cons.mp h.behind).2⟩⟩
  · rw [hstart]
    exact List.rel_of_pairwise_cons h.stacked hc
  · rw [hstart]
    exact h.behind b List.mem_cons_self n hn

theorem Linewise.extend (h : l.Linewise line) {stop : Position} (hstop : line ≤ stop.line) :
    (l.extend stop).Linewise (stop.line + 1) := by
  have hle : line ≤ stop.line + 1 := Nat.le_succ_of_le hstop
  obtain ⟨blocks, done⟩ := l
  cases blocks with
  | nil => exact h.mono hle
  | cons b outer =>
      obtain ⟨hb, hend⟩ := h.blocks b List.mem_cons_self
      have hextend := Block.linewise_extend hb
        (Position.le_of_line_lt (Nat.lt_of_lt_of_le hend hstop))
      exact h.replace hextend rfl hle (Nat.lt_succ_self _)

/-- A node that stands behind all others is put into the innermost block. -/
theorem Linewise.add (h : l.Linewise line) {n : Node} (hn : n.linewise = true)
    (hstart : line ≤ n.span.start.line) : (l.add n).Linewise (n.span.stop.line + 1) := by
  have hforward := Position.line_le (Node.linewise_iff.mp hn).1.1
  have hle : line ≤ n.span.stop.line + 1 := by omega
  obtain ⟨blocks, done⟩ := l
  cases blocks with
  | nil =>
      have hbefore : ∀ m ∈ done, m.span.stop.line < n.span.start.line :=
        fun m hm => Nat.lt_of_lt_of_le (h.done.2 m hm) hstart
      exact ⟨List.forall_mem_nil _, .nil,
        ⟨Node.linewiseAll_reverse_cons.mpr ⟨hn, hbefore, h.done.1⟩,
          List.forall_mem_cons.mpr ⟨Nat.lt_succ_self _, (h.mono hle).done.2⟩⟩,
        List.forall_mem_nil _⟩
  | cons b outer =>
      obtain ⟨hb, hend⟩ := h.blocks b List.mem_cons_self
      have hadd := Block.linewise_add hb hn (Nat.lt_of_lt_of_le hend hstart)
      exact h.replace hadd rfl hle (Nat.lt_succ_self _)

/-- Closing the innermost block is adding it to what is around it, which ends before it. -/
theorem Linewise.close {b : Block} {outer : List Block} {done : List Node}
    (h : (⟨b :: outer, done⟩ : Layout).Linewise line) :
    ((⟨outer, done⟩ : Layout).add b.close).Linewise line := by
  obtain ⟨⟨hb, hend⟩, houter⟩ := List.forall_mem_cons.mp h.blocks
  obtain ⟨hbehind, hothers⟩ := List.forall_mem_cons.mp h.behind
  have haround : (⟨outer, done⟩ : Layout).Linewise b.span.start.line :=
    ⟨fun c hc => ⟨(houter c hc).1, List.rel_of_pairwise_cons h.stacked hc⟩, h.stacked.tail,
      ⟨h.done.1, hbehind⟩, hothers⟩
  exact (haround.add hb (Nat.le_refl _)).mono hend

theorem Linewise.closeWhile (p : Nat → Bool) {blocks : List Block} {done : List Node}
    (h : (⟨blocks, done⟩ : Layout).Linewise line) : (closeWhile p blocks done).Linewise line := by
  fun_induction Layout.closeWhile p blocks done with
  | case1 => exact h
  | case2 => exact h.close
  | case3 => exact h
  | case4 b c outer hp ih => exact ih h.close
  | case5 => exact h

/-- Behind a row that begins on a line or later, everything stands up to the end of the row. -/
theorem Linewise.addRow (h : l.Linewise line) {row : Row} (hrow : row.Framed ∧ row.first ≤ row.last)
    (hline : line ≤ row.first) (next : Nat) : (l.addRow row next).Linewise (row.last + 1) := by
  cases row with
  | comment indent stop => exact (h.closeWhile _).extend hline
  | code indent span declaration opens =>
      have hclosed := h.closeWhile fun top => indent < top
      have hnode : (Node.mk declaration span []).linewise = true :=
        Node.linewise_iff.mpr ⟨hrow.1, rfl⟩
      have hlater := hclosed.mono (Nat.le_succ_of_le (Nat.le_trans hline hrow.2))
      rw [Layout.addRow]
      split
      · refine ⟨List.forall_mem_cons.mpr ⟨⟨hnode, Nat.lt_succ_self _⟩, hlater.blocks⟩,
          List.pairwise_cons.mpr ⟨fun c hc => ?_, hclosed.stacked⟩, hlater.done,
          List.forall_mem_cons.mpr ⟨fun n hn => ?_, hclosed.behind⟩⟩
        · exact Nat.lt_of_lt_of_le (hclosed.blocks c hc).2 hline
        · exact Nat.lt_of_lt_of_le (hclosed.done.2 n hn) hline
      · exact hclosed.add hnode hline

theorem Linewise.addRows (h : l.Linewise line) {more : List Row}
    (hmore : ∀ r ∈ more, r.Framed ∧ r.first ≤ r.last) (hlines : ∀ r ∈ more, line ≤ r.first)
    (hapart : more.Pairwise fun r r' => r.last < r'.first) :
    ∃ later, (l.addRows more).Linewise later := by
  induction more generalizing l line with
  | nil => exact ⟨line, h⟩
  | cons row rest ih =>
      obtain ⟨hrow, hrest⟩ := List.forall_mem_cons.mp hmore
      obtain ⟨hnext, hapart⟩ := List.pairwise_cons.mp hapart
      exact ih (h.addRow hrow (hlines row List.mem_cons_self) _) hrest hnext hapart

end Layout

/-! ## Sources -/

theorem Node.linewiseAll_ofSource (source : List Char) :
    Node.linewiseAll (Node.ofSource source) = true := by
  obtain ⟨hapart, hrows⟩ := rows_lines source
  have hempty : Layout.empty.Linewise 0 :=
    ⟨List.forall_mem_nil _, .nil, ⟨rfl, List.forall_mem_nil _⟩, List.forall_mem_nil _⟩
  obtain ⟨line, h⟩ := hempty.addRows hrows (fun _ _ => Nat.zero_le _) hapart
  exact (h.closeWhile fun _ => true).done.1

theorem Node.nests_ofSource (source : List Char) : Node.Nests (Node.ofSource source) :=
  Node.nests_of_linewiseAll _ (Node.linewiseAll_ofSource source)

end Outline

end LozengeNav
