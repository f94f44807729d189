import LozengeNav.Grammar.Token

/-! # Lines of tokens

A source is read line by line, so its tokens begin on lines that never go back.
-/

namespace LozengeNav

namespace Grammar

namespace Reader

/-- Tokens that begin on a line or later, and none before its predecessor. -/
def Ordered (line : Nat) (ts : List Token) : Prop :=
  (∀ t ∈ ts, line ≤ t.line) ∧ ts.Pairwise fun t u => t.line ≤ u.line

theorem ordered_of_forall {line : Nat} {ts : List Token} (h : ∀ t ∈ ts, t.line = line) :
    Ordered line ts := by
  refine ⟨fun t ht => Nat.le_of_eq (h t ht).symm, List.pairwise_of_forall_mem_list ?_⟩
  intro t ht u hu
  exact Nat.le_of_eq ((h t ht).trans (h u hu).symm)

theorem Ordered.append {line later : Nat} {front back : List Token}
    (hfront : ∀ t ∈ front, t.line = line) (hback : Ordered later back) (hle : line ≤ later) :
    Ordered line (front ++ back) := by
  obtain ⟨hfirst, hpairs⟩ := ordered_of_forall hfront
  have hbehind : ∀ t ∈ back, line ≤ t.line := fun t ht => Nat.le_trans hle (hback.1 t ht)
  refine ⟨List.forall_mem_append.2 ⟨hfirst, hbehind⟩,
    List.pairwise_append.2 ⟨hpairs, hback.2, fun t ht u hu => ?_⟩⟩
  rw [hfront t ht]
  exact hbehind u hu

variable {r r' : Reader} {ts : List Token} {count : Nat}

theorem balance_line {mark : List Char} (h : r.balance mark = some r') : r'.line = r.line := by
  revert h
  fun_cases balance r mark <;> rintro ⟨⟩ <;> rfl

theorem begin_lines {s : List Char} (h : r.begin s = some (r', ts, count)) :
    r'.line = r.line ∧ ∀ t ∈ ts, t.line = r.line := by
  simp only [begin, Option.bind_eq_bind, Option.bind_eq_some_iff] at h
  obtain ⟨⟨m, n⟩, -, h⟩ := h
  split at h
  · cases h
    exact ⟨rfl, List.forall_mem_nil _⟩
  · split at h
    · rw [Option.bind_eq_some_iff] at h
      obtain ⟨⟨margins, kinds⟩, -, h⟩ := h
      cases h
      exact ⟨rfl, by simp [token]⟩
    · cases h
      exact ⟨rfl, List.forall_mem_nil _⟩

theorem next_lines {c : Char} {rest : List Char} (h : r.next c rest = some (r', ts, count)) :
    r'.line = r.line ∧ ∀ t ∈ ts, t.line = r.line := by
  unfold next at h
  split at h
  · cases h
    exact ⟨rfl, List.forall_mem_nil _⟩
  · split at h
    · cases h
      exact ⟨rfl, List.forall_mem_nil _⟩
    · split at h
      · cases h
        exact ⟨rfl, by split <;> simp [token]⟩
      · split at h
        · split at h
          · cases h
            exact ⟨rfl, List.forall_mem_nil _⟩
          · cases h
        · simp only [Option.bind_eq_bind, Option.bind_eq_some_iff] at h
          obtain ⟨⟨kind, text⟩, -, h⟩ := h
          split at h
          · rw [Option.bind_eq_some_iff] at h
            obtain ⟨balanced, hbalance, h⟩ := h
            cases h
            exact ⟨balance_line hbalance, by simp [token, balance_line hbalance]⟩
          · cases h
            exact ⟨rfl, by simp [token]⟩

theorem read_ordered {skip : Nat} {s : List Char} (h : r.read skip s = some ts) :
    Ordered r.line ts := by
  induction s generalizing r skip ts with
  | nil =>
      rw [read] at h
      split at h
      · cases h
        exact ordered_of_forall (by simp [token])
      · cases h
  | cons c rest ih =>
      -- The rest is read from the same line or, behind a line feed, from the next one.
      have hstep : ∀ (r' : Reader), r'.line = r.line → ∀ {front back : List Token} {skip : Nat},
          (∀ t ∈ front, t.line = r.line) →
          (if c = '\n' then { r' with line := r'.line + 1 } else r').read skip rest = some back →
          Ordered r.line (front ++ back) := by
        intro r' hline front back skip hfront hread
        refine Ordered.append hfront (ih hread) ?_
        split
        · exact Nat.le_succ_of_le (Nat.le_of_eq hline.symm)
        · exact Nat.le_of_eq hline.symm
      have hpiece : ∀ {r₁ r₂ : Reader} {opening tokens more : List Token} {count : Nat},
          r₁.line = r.line → (∀ t ∈ opening, t.line = r.line) →
          r₁.next c rest = some (r₂, tokens, count) →
          (if c = '\n' then { r₂ with line := r₂.line + 1 } else r₂).read count rest = some more →
          Ordered r.line (opening ++ tokens ++ more) := by
        intro r₁ r₂ opening tokens more count hline hopening hnext hread
        obtain ⟨hline', htokens⟩ := next_lines hnext
        rw [hline] at hline' htokens
        exact hstep r₂ hline' (List.forall_mem_append.2 ⟨hopening, htokens⟩) hread
      unfold read at h
      cases skip with
      | succ skip => exact hstep r rfl (List.forall_mem_nil _) h
      | zero =>
          simp only [Option.bind_eq_bind] at h
          split at h
          · obtain ⟨⟨r₁, opening, count⟩, hbegin, h⟩ := Option.bind_eq_some_iff.1 h
            obtain ⟨hline, hopening⟩ := begin_lines hbegin
            cases count with
            | succ count =>
                obtain ⟨more, hread, h⟩ := Option.bind_eq_some_iff.1 h
                cases h
                exact hstep r₁ hline hopening hread
            | zero =>
                obtain ⟨⟨r₂, tokens, count⟩, hnext, h⟩ := Option.bind_eq_some_iff.1 h
                obtain ⟨more, hread, h⟩ := Option.bind_eq_some_iff.1 h
                cases h
                exact hpiece hline hopening hnext hread
          · rw [Option.bind_some] at h
            obtain ⟨⟨r₂, tokens, count⟩, hnext, h⟩ := Option.bind_eq_some_iff.1 h
            obtain ⟨more, hread, h⟩ := Option.bind_eq_some_iff.1 h
            cases h
            exact hpiece rfl (List.forall_mem_nil _) hnext hread

end Reader

/-- The tokens of a source stand in the order of their lines. -/
theorem tokens?_lines {source : List Char} {ts : List Token} (h : tokens? source = some ts) :
    ts.Pairwise fun t u => t.line ≤ u.line := by
  unfold tokens? at h
  split at h
  · cases h
  · exact (Reader.read_ordered h).2

end Grammar

end LozengeNav
