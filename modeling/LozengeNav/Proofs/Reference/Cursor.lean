import LozengeNav.Proofs.Reference.Occurrence

/-! # The reference under a cursor

Of all references that hold a cursor the one under it has the first form in order of
priority, and of several with that form it is the leftmost. Which forms a reference has is
seen from the text behind its marker, and a cursor between two references that touch is
held by both.
-/

namespace LozengeNav

namespace Form

/-- The place of a form in the order of priority. -/
def rank : Form → Nat
  | parenthesized => 0
  | colon => 1
  | bare => 2

end Form

namespace Reference

def all (chars : List Char) : List Reference :=
  Form.all.flatMap fun form => scan form chars

/-- The order in which references are preferred. -/
def Precedes (r t : Reference) : Prop :=
  r.form.rank < t.form.rank ∨ r.form = t.form ∧ r.start < t.start

section Cursor

variable {chars : List Char} {column : Int} {r t u v : Reference}

theorem mem_all_iff : r ∈ all chars ↔ Stands chars r := by
  simp only [all, List.mem_flatMap, mem_scan_iff]
  constructor
  · exact fun ⟨_, _, _, h⟩ => h
  · intro h
    refine ⟨r.form, ?_, rfl, h⟩
    cases r.form <;> simp [Form.all]

theorem holds_iff : r.holds column = true ↔ (r.start : Int) ≤ column ∧ column ≤ r.stop := by
  rw [holds, Bool.and_eq_true, decide_eq_true_eq, decide_eq_true_eq]

theorem pairwise_all (chars : List Char) : (all chars).Pairwise Precedes := by
  have hscan : ∀ form, (scan form chars).Pairwise Precedes := by
    intro form
    refine (pairwise_scanFrom form 0 chars).imp_of_mem fun hr ht hlt => .inr ⟨?_, hlt⟩
    rw [(mem_scan_iff.1 hr).1, (mem_scan_iff.1 ht).1]
  have hacross : ∀ f g : Form, f.rank < g.rank → ∀ r ∈ scan f chars, ∀ t ∈ scan g chars,
      Precedes r t := by
    intro f g hrank r hr t ht
    rw [← (mem_scan_iff.1 hr).1, ← (mem_scan_iff.1 ht).1] at hrank
    exact .inl hrank
  rw [all, List.pairwise_flatMap]
  refine ⟨fun form _ => hscan form, ?_⟩
  simp only [Form.all, List.pairwise_cons, List.mem_cons, List.not_mem_nil, or_false]
  refine ⟨?_, ?_, nofun, List.Pairwise.nil⟩
  · rintro g (rfl | rfl) <;> exact hacross _ _ (by decide)
  · rintro g rfl
    exact hacross _ _ (by decide)

theorem at?_eq_none_iff :
    at? chars column = none ↔ ∀ r, Stands chars r → ¬ r.holds column = true := by
  change (all chars).find? _ = none ↔ _
  rw [List.find?_eq_none]
  simp only [mem_all_iff]

theorem eq_or_precedes_of_at? (h : at? chars column = some u) :
    (Stands chars u ∧ u.holds column = true) ∧
      ∀ r, Stands chars r → r.holds column = true → r = u ∨ Precedes u r := by
  change (all chars).find? _ = some u at h
  obtain ⟨hholds, before, after, hall, hbefore⟩ := List.find?_eq_some_iff_append.1 h
  refine ⟨⟨mem_all_iff.1 (List.mem_of_find?_eq_some h), hholds⟩, fun r hr hrholds => ?_⟩
  have hpairs := pairwise_all chars
  rw [hall, List.pairwise_append, List.pairwise_cons] at hpairs
  have hmem : r ∈ before ++ u :: after := hall ▸ mem_all_iff.2 hr
  rcases List.mem_append.1 hmem with hmem | hmem
  · have hnot := hbefore r hmem
    simp [hrholds] at hnot
  · rcases List.mem_cons.1 hmem with rfl | hmem
    · exact .inl rfl
    · exact .inr (hpairs.2.1.1 r hmem)

theorem exists_at? (hr : Stands chars r) (hholds : r.holds column = true) :
    ∃ u, at? chars column = some u := by
  cases h : at? chars column with
  | none => exact absurd hholds (at?_eq_none_iff.1 h r hr)
  | some u => exact ⟨u, rfl⟩

theorem start_of_holds_both (hr : Stands chars r) (ht : Stands chars t) (hv : Stands chars v)
    (hrholds : r.start ≤ column ∧ column ≤ r.stop) (htholds : t.start ≤ column ∧ column ≤ t.stop)
    (hvholds : v.start ≤ column ∧ column ≤ v.stop) (h : r.start < t.start) :
    v.start = r.start ∨ v.start = t.start := by
  have hcut := hr.stop_le_start ht h
  have hlt := hr.lt
  rcases Nat.lt_trichotomy v.start r.start with hleft | heq | hright
  · have hbefore := hv.stop_le_start hr hleft
    omega
  · exact .inl heq
  · have hbehind := hr.stop_le_start hv hright
    omega

/-! ## Forms -/

theorem Stands.form_eq_parenthesized_iff (h : Stands chars r) :
    r.form = .parenthesized ↔ chars[r.start + 1]? = some '(' := by
  rw [← List.head?_drop]
  have hread := h.read
  constructor
  · intro hform
    rw [hform] at hread
    obtain ⟨-, rest, hrest⟩ := append_of_read?_parenthesized hread
    rw [hrest]
    rfl
  · intro hhead
    obtain ⟨rest, hrest⟩ := List.head?_eq_some_iff.1 hhead
    rw [hrest] at hread
    have hnone : Text.takeName? isNameTail ('(' :: rest) = none := rfl
    cases hform : r.form with
    | parenthesized => rfl
    | colon =>
        rw [hform, read?_colon_iff, hnone] at hread
        obtain ⟨_, hread, -⟩ := hread
        cases hread
    | bare =>
        rw [hform, read?_bare_iff, hnone] at hread
        obtain ⟨_, hread, -⟩ := hread
        cases hread

theorem Stands.colonBehind (h : Stands chars r) (hform : r.form = .colon) :
    ColonBehind r.name (chars.drop (r.start + 1)) := by
  have hread := h.read
  rw [hform, read?_colon_iff] at hread
  obtain ⟨rest, htake, hcolon, -⟩ := hread
  exact (colonFollows_iff_colonBehind htake).1 hcolon

theorem Stands.withColon (h : Stands chars r) (hform : r.form = .bare)
    (hcolon : ColonBehind r.name (chars.drop (r.start + 1))) :
    Stands chars { r with form := .colon } := by
  have hread := h.read
  rw [hform, read?_bare_iff] at hread
  obtain ⟨rest, htake, hwidth⟩ := hread
  exact ⟨h.marked, read?_colon_iff.2
    ⟨rest, htake, (colonFollows_iff_colonBehind htake).2 hcolon, hwidth⟩, h.lt⟩

/-- The form of the reference under a cursor is seen from the text behind its marker. -/
theorem form_of_at? (h : at? chars column = some u) :
    (chars[u.start + 1]? = some '(' → u.form = .parenthesized) ∧
      (chars[u.start + 1]? ≠ some '(' →
        (ColonBehind u.name (chars.drop (u.start + 1)) → u.form = .colon) ∧
          (¬ ColonBehind u.name (chars.drop (u.start + 1)) → u.form = .bare)) := by
  obtain ⟨⟨hstands, hholds⟩, hfirst⟩ := eq_or_precedes_of_at? h
  refine ⟨hstands.form_eq_parenthesized_iff.2, fun hopen => ?_⟩
  have hne : u.form ≠ .parenthesized := fun hform =>
    hopen (hstands.form_eq_parenthesized_iff.1 hform)
  constructor
  · intro hcolon
    cases hform : u.form with
    | parenthesized => exact (hne hform).elim
    | colon => rfl
    | bare =>
        -- The reference with the colon would come first.
        rcases hfirst _ (hstands.withColon hform hcolon) hholds with heq | hrank | ⟨hsame, -⟩
        · rw [← heq] at hform
          cases hform
        · rw [hform] at hrank
          exact absurd hrank (show ¬ Form.bare.rank < Form.colon.rank by decide)
        · rw [hform] at hsame
          cases hsame
  · intro hcolon
    cases hform : u.form with
    | parenthesized => exact (hne hform).elim
    | colon => exact (hcolon (hstands.colonBehind hform)).elim
    | bare => rfl

end Cursor

/-- What a cursor selects on a line. References that begin at different places do not
overlap. A cursor that no reference holds selects nothing, and otherwise one of those that
hold it. If these all begin at one place, the form of the selected one is seen from the
text behind the marker. If they begin at two, the cursor stands where the left ones end
and the right ones begin, and the form that comes first decides, the left one if both
have it. -/
theorem at?_selects (chars : List Char) (column : Int) :
    (∀ f g, ∀ r ∈ scan f chars, ∀ t ∈ scan g chars, r.start < t.start → r.stop ≤ t.start) ∧
    (at? chars column = none ↔
      ∀ form, ∀ r ∈ scan form chars, ¬ ((r.start : Int) ≤ column ∧ column ≤ r.stop)) ∧
    (∀ a, (∃ form, ∃ r ∈ scan form chars, r.holds column = true) →
      (∀ form, ∀ r ∈ scan form chars, r.holds column = true → r.start = a) →
      ∃ u, at? chars column = some u ∧ u ∈ scan u.form chars ∧ u.start = a ∧
        (chars[a + 1]? = some '(' → u.form = .parenthesized) ∧
        (chars[a + 1]? ≠ some '(' →
          (ColonBehind u.name (chars.drop (a + 1)) → u.form = .colon) ∧
          (¬ ColonBehind u.name (chars.drop (a + 1)) → u.form = .bare))) ∧
    (∀ f g, ∀ r ∈ scan f chars, ∀ t ∈ scan g chars, r.holds column = true →
      t.holds column = true → r.start < t.start →
      column = r.stop ∧ column = t.start ∧
      ∃ u, at? chars column = some u ∧ u ∈ scan u.form chars ∧ u.holds column = true ∧
        ∀ form, ∀ v ∈ scan form chars, v.holds column = true →
          (v.start = r.start ∨ v.start = t.start) ∧
          (u.form.rank < v.form.rank ∨ u.form = v.form ∧ u.start ≤ v.start)) := by
  refine ⟨?_, ?_, ?_, ?_⟩
  · intro f g r hr t ht
    exact (mem_scan_iff.1 hr).2.stop_le_start (mem_scan_iff.1 ht).2
  · simp only [at?_eq_none_iff, mem_scan_iff, holds_iff]
    exact ⟨fun h _ r ⟨_, hr⟩ => h r hr, fun h r hr => h r.form r ⟨rfl, hr⟩⟩
  · intro a ⟨form, r, hr, hholds⟩ hstart
    obtain ⟨u, hat⟩ := exists_at? (mem_scan_iff.1 hr).2 hholds
    obtain ⟨⟨hstands, huholds⟩, -⟩ := eq_or_precedes_of_at? hat
    have hmem : u ∈ scan u.form chars := mem_scan_iff.2 ⟨rfl, hstands⟩
    obtain rfl := hstart u.form u hmem huholds
    exact ⟨u, hat, hmem, rfl, form_of_at? hat⟩
  · intro f g r hr t ht hrholds htholds hlt
    have hr := (mem_scan_iff.1 hr).2
    have ht := (mem_scan_iff.1 ht).2
    have hleft := hr.stop_le_start ht hlt
    obtain ⟨u, hat⟩ := exists_at? hr hrholds
    obtain ⟨⟨hstands, huholds⟩, hfirst⟩ := eq_or_precedes_of_at? hat
    rw [holds_iff] at hrholds htholds
    refine ⟨by omega, by omega, u, hat, mem_scan_iff.2 ⟨rfl, hstands⟩, huholds, ?_⟩
    intro form v hv hvholds
    have hv := (mem_scan_iff.1 hv).2
    refine ⟨start_of_holds_both hr ht hv hrholds htholds (holds_iff.1 hvholds) hlt, ?_⟩
    rcases hfirst v hv hvholds with rfl | hrank | ⟨hform, hbefore⟩
    · exact .inr ⟨rfl, Nat.le_refl _⟩
    · exact .inl hrank
    · exact .inr ⟨hform, Nat.le_of_lt hbefore⟩

/-- Three references without a character between them. -/
def touching : List Char :=
  ['◊', 'a', '◊', '(', 'b', ')', '◊', 'c', ' ', ':']

theorem at?_selects_touching :
    ⟨['a'], 0, 2, .bare⟩ ∈ scan .bare touching ∧
      ⟨['b'], 2, 6, .parenthesized⟩ ∈ scan .parenthesized touching ∧
      (∃ u, at? touching 2 = some u ∧ u.form = .parenthesized) ∧
      ∃ u, at? touching 7 = some u ∧ u.start = 6 ∧ u.form = .colon := by
  have hleft : ⟨['a'], 0, 2, .bare⟩ ∈ scan .bare touching := by decide
  have hright : ⟨['b'], 2, 6, .parenthesized⟩ ∈ scan .parenthesized touching := by decide +kernel
  refine ⟨hleft, hright, ?_, ?_⟩
  · obtain ⟨-, -, u, hat, -, -, hfirst⟩ :=
      (at?_selects touching 2).2.2.2 _ _ _ hleft _ hright rfl rfl (by decide)
    obtain ⟨-, hrank | ⟨hform, -⟩⟩ := hfirst _ _ hright rfl
    · exact absurd hrank (Nat.not_lt_zero _)
    · exact ⟨u, hat, hform⟩
  · have hheld : ∀ form, ∀ r ∈ scan form touching, r.holds 7 = true →
        r.start = 6 ∧ r.name = ['c'] := by
      intro form
      cases form <;> decide +kernel
    obtain ⟨u, hat, hmem, hstart, -, hform⟩ := (at?_selects touching 7).2.2.1 6
      ⟨.bare, ⟨['c'], 6, 8, .bare⟩, by decide +kernel, rfl⟩
      (fun form r hr hholds => (hheld form r hr hholds).1)
    have hname : u.name = ['c'] := (hheld u.form u hmem (eq_or_precedes_of_at? hat).1.2).2
    have hcolon : ColonBehind u.name (touching.drop 7) := by
      rw [hname]
      exact ⟨[' '], [], rfl, List.forall_mem_singleton.2 rfl⟩
    exact ⟨u, hat, hstart, (hform (by decide)).1 hcolon⟩

end Reference

end LozengeNav
