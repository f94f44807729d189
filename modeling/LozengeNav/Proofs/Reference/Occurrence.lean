import LozengeNav.Proofs.Reference.Ending

/-! # Where references stand on a line

A reference of a form stands at every marker behind which that form can be read, and
nowhere else. What is read behind a marker holds no marker, so that no reference hides
another one or reaches into it.
-/

namespace LozengeNav

namespace Reference

/-! ## What is read behind a marker -/

section Read

variable {s name : List Char} {width : Nat}

theorem marker_not_mem_name {form : Form} (h : read? form s = some (name, width)) :
    marker ∉ name := by
  intro hmem
  have htail : isNameTail marker = true ∨ marker = '.' := spelled_of_read? h marker hmem
  exact absurd htail (by decide)

theorem marker_not_mem_take {form : Form} (h : read? form s = some (name, width)) :
    marker ∉ s.take width := by
  have hname := marker_not_mem_name h
  cases form with
  | parenthesized =>
      obtain ⟨rfl, rest, rfl⟩ := append_of_read?_parenthesized h
      rw [List.take_succ_cons, List.take_length_add_append, List.mem_cons, List.mem_append]
      simp only [hname, false_or, not_or]
      exact ⟨by decide, by simp [marker]⟩
  | colon =>
      obtain ⟨rest, htake, -, rfl⟩ := read?_colon_iff.1 h
      rw [← Text.takeName?_append htake, List.take_left]
      exact hname
  | bare =>
      obtain ⟨rest, htake, rfl⟩ := read?_bare_iff.1 h
      rw [← Text.takeName?_append htake, List.take_left]
      exact hname

/-- A colon stands behind a name, with blanks before it at most. -/
def ColonBehind (name s : List Char) : Prop :=
  ∃ blanks rest, s = name ++ (blanks ++ ':' :: rest) ∧ ∀ c ∈ blanks, Text.isBlank c = true

theorem colonFollows_iff {rest : List Char} : colonFollows rest = true ↔
    ∃ blanks more, rest = blanks ++ ':' :: more ∧ ∀ c ∈ blanks, Text.isBlank c = true := by
  rw [colonFollows, beq_iff_eq, Text.trimLeft]
  constructor
  · intro h
    obtain ⟨more, hmore⟩ := List.head?_eq_some_iff.1 h
    refine ⟨rest.takeWhile Text.isBlank, more, ?_, ?_⟩
    · rw [← hmore, List.takeWhile_append_dropWhile]
    · exact fun c hc => List.all_eq_true.1 List.all_takeWhile c hc
  · intro h
    obtain ⟨blanks, more, hrest, hblanks⟩ := h
    rw [hrest, List.dropWhile_append_of_pos hblanks]
    rfl

theorem colonFollows_iff_colonBehind {rest : List Char}
    (h : Text.takeName? isNameTail s = some (name, rest)) :
    colonFollows rest = true ↔ ColonBehind name s := by
  rw [colonFollows_iff, ColonBehind, ← Text.takeName?_append h]
  simp only [List.append_cancel_left_eq]

end Read

/-! ## References of a line -/

/-- A reference that can be read behind the marker at its start. -/
structure Stands (chars : List Char) (r : Reference) : Prop where
  marked : chars[r.start]? = some marker
  read : read? r.form (chars.drop (r.start + 1)) = some (r.name, r.stop - (r.start + 1))
  lt : r.start < r.stop

section Scan

variable {form : Form} {chars : List Char} {skip column : Nat} {r t : Reference}

theorem scanFrom_skip (h : marker ∉ chars.take skip) :
    scanFrom form skip column chars = scanFrom form 0 column chars := by
  induction chars generalizing skip column with
  | nil => cases skip <;> rfl
  | cons c rest ih =>
      cases skip with
      | zero => rfl
      | succ skip =>
          rw [List.take_succ_cons, List.mem_cons, not_or] at h
          have hc : c ≠ marker := fun hc => h.1 hc.symm
          rw [scanFrom, ih h.2, scanFrom, if_neg hc]

theorem scanFrom_cons (form : Form) (column : Nat) (c : Char) (rest : List Char) :
    scanFrom form 0 column (c :: rest) =
      (if c = marker then (read? form rest).map fun found =>
          (⟨found.1, column, column + 1 + found.2, form⟩ : Reference)
        else none).toList ++ scanFrom form 0 (column + 1) rest := by
  rw [scanFrom]
  by_cases hc : c = marker
  · rw [if_pos hc, if_pos hc]
    cases hread : read? form rest with
    | none => rfl
    | some found => simp [scanFrom_skip (marker_not_mem_take hread)]
  · simp [hc]

theorem mem_scanFrom_iff : r ∈ scanFrom form 0 column chars ↔
    ∃ before rest width, chars = before ++ marker :: rest ∧
      read? form rest = some (r.name, width) ∧
      r = ⟨r.name, column + before.length, column + before.length + 1 + width, form⟩ := by
  -- The induction is on the line; each marker on it gives at most one reference.
  induction chars generalizing column with
  | nil => simp [scanFrom]
  | cons c rest ih =>
      rw [scanFrom_cons, List.mem_append, ih, Option.mem_toList]
      constructor
      · intro h
        rcases h with h | ⟨before, more, width, hrest, hread, hr⟩
        · split at h
          · next hc =>
              obtain ⟨⟨name, width⟩, hread, rfl⟩ := Option.map_eq_some_iff.1 h
              exact ⟨[], rest, width, by rw [hc]; rfl, hread, rfl⟩
          · cases h
        · refine ⟨c :: before, more, width, by rw [hrest]; rfl, hread, ?_⟩
          rw [hr, List.length_cons]
          simp only [Reference.mk.injEq, true_and, and_true]
          omega
      · intro h
        obtain ⟨before, more, width, hrest, hread, hr⟩ := h
        cases before with
        | nil =>
            obtain ⟨rfl, rfl⟩ := List.cons.inj hrest
            refine .inl ?_
            rw [if_pos rfl, hread, hr]
            rfl
        | cons d others =>
            obtain ⟨rfl, rfl⟩ := List.cons.inj hrest
            refine .inr ⟨others, more, width, rfl, hread, ?_⟩
            rw [hr, List.length_cons]
            simp only [Reference.mk.injEq, true_and, and_true]
            omega

theorem mem_scan_iff : r ∈ scan form chars ↔ r.form = form ∧ Stands chars r := by
  rw [scan, mem_scanFrom_iff]
  constructor
  · intro h
    obtain ⟨before, rest, width, hline, hread, hr⟩ := h
    have hstart : r.start = before.length := by rw [hr]; exact Nat.zero_add _
    have hstop : r.stop = before.length + 1 + width := by rw [hr]; simp
    have hform : r.form = form := by rw [hr]
    refine ⟨hform, ⟨?_, ?_, by omega⟩⟩
    · rw [hline, hstart]
      simp
    · have hdrop : chars.drop (before.length + 1) = rest := by simp [hline]
      rw [hform, hstart, hstop, hdrop, hread, Nat.add_sub_cancel_left]
  · intro h
    obtain ⟨hform, hmarked, hread, hlt⟩ := h
    obtain ⟨hlength, hget⟩ := List.getElem?_eq_some_iff.1 hmarked
    refine ⟨chars.take r.start, chars.drop (r.start + 1), r.stop - (r.start + 1), ?_, ?_, ?_⟩
    · rw [← hget, ← List.drop_eq_getElem_cons hlength, List.take_append_drop]
    · rw [← hform, hread]
    · have htake : (chars.take r.start).length = r.start := by
        rw [List.length_take]
        omega
      rw [htake, ← hform]
      have hstop : 0 + r.start + 1 + (r.stop - (r.start + 1)) = r.stop := by omega
      rw [hstop, Nat.zero_add]

theorem Stands.marker_not_mem (h : Stands chars r) :
    marker ∉ (chars.drop (r.start + 1)).take (r.stop - (r.start + 1)) :=
  marker_not_mem_take h.read

/-- Two references that begin at different places do not overlap, whatever their forms. -/
theorem Stands.stop_le_start (hr : Stands chars r) (ht : Stands chars t) (h : r.start < t.start) :
    r.stop ≤ t.start := by
  apply Nat.le_of_not_lt
  intro hinside
  apply hr.marker_not_mem
  have hget : ((chars.drop (r.start + 1)).take (r.stop - (r.start + 1)))[t.start - (r.start + 1)]? =
      some marker := by
    rw [List.getElem?_take_of_lt (by omega), List.getElem?_drop,
      show r.start + 1 + (t.start - (r.start + 1)) = t.start by omega]
    exact ht.marked
  exact List.mem_of_getElem? hget

theorem pairwise_scanFrom (form : Form) (column : Nat) (chars : List Char) :
    (scanFrom form 0 column chars).Pairwise fun r t => r.start < t.start := by
  induction chars generalizing column with
  | nil => exact List.Pairwise.nil
  | cons c rest ih =>
      rw [scanFrom_cons, List.pairwise_append]
      refine ⟨?_, ih (column + 1), ?_⟩
      · generalize (if c = marker then _ else _ : Option Reference) = first
        cases first <;> simp
      · intro r hr t ht
        obtain ⟨before, -, width, -, -, ht⟩ := mem_scanFrom_iff.1 ht
        rw [Option.mem_toList] at hr
        split at hr
        · obtain ⟨found, -, rfl⟩ := Option.map_eq_some_iff.1 hr
          rw [ht]
          simp only
          omega
        · cases hr

end Scan

end Reference

end LozengeNav
