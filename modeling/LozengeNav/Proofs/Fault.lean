import LozengeNav.Fault
import Mathlib.Data.List.Forall2

/-! # Results that may be faults

What an answer without a fault says about the answers that it was put together
from.
-/

namespace LozengeNav

namespace Fault

variable {α β : Type}

/-- Whatever the faults are, what was put together has an answer of its first part. -/
theorem ok_of_bind_eq_ok {ε : Type} {x : Except ε α} {f : α → Except ε β} {b : β}
    (h : x >>= f = .ok b) : ∃ a, x = .ok a ∧ f a = .ok b := by
  cases x with
  | error fault => cases h
  | ok a => exact ⟨a, rfl, h⟩

/-- A fault of what was put together is one of its first part, or the first part has an
answer and the fault is one of what follows. -/
theorem error_of_bind_eq_error {ε : Type} {x : Except ε α} {f : α → Except ε β} {fault : ε}
    (h : x >>= f = .error fault) : x = .error fault ∨ ∃ a, x = .ok a ∧ f a = .error fault := by
  cases x with
  | error _ => cases h; exact .inl rfl
  | ok a => exact .inr ⟨a, rfl, h⟩

theorem map_ok_iff {x : Except Fault α} (g : α → β) :
    (∃ b, (x >>= fun a => pure (g a)) = .ok b) ↔ ∃ a, x = .ok a := by
  constructor
  · rintro ⟨b, h⟩
    obtain ⟨a, ha, -⟩ := ok_of_bind_eq_ok h
    exact ⟨a, ha⟩
  · rintro ⟨a, rfl⟩
    exact ⟨g a, rfl⟩

theorem mapM_eq_ok_iff {f : α → Except Fault β} {items : List α} {results : List β} :
    items.mapM f = .ok results ↔ List.Forall₂ (fun a b => f a = .ok b) items results := by
  induction items generalizing results with
  | nil =>
      rw [List.forall₂_nil_left_iff]
      exact ⟨fun h => by cases h; rfl, fun h => by rw [h]; rfl⟩
  | cons a rest ih =>
      rw [List.mapM_cons, List.forall₂_cons_left_iff]
      constructor
      · intro h
        obtain ⟨b, hb, h⟩ := ok_of_bind_eq_ok h
        obtain ⟨others, hothers, h⟩ := ok_of_bind_eq_ok h
        cases h
        exact ⟨b, others, hb, ih.1 hothers, rfl⟩
      · rintro ⟨b, others, hb, hothers, rfl⟩
        rw [hb, ih.2 hothers]
        rfl

theorem mapM_take {f : α → Except Fault β} {items : List α} {results : List β}
    (h : items.mapM f = .ok results) (n : Nat) : (items.take n).mapM f = .ok (results.take n) :=
  mapM_eq_ok_iff.2 (List.forall₂_take n (mapM_eq_ok_iff.1 h))

theorem exists_of_mem_mapM {f : α → Except Fault β} {items : List α} {results : List β}
    (h : items.mapM f = .ok results) {b : β} (hb : b ∈ results) : ∃ a ∈ items, f a = .ok b := by
  obtain ⟨i, hi, rfl⟩ := List.getElem_of_mem hb
  have hall := mapM_eq_ok_iff.1 h
  have hi' : i < items.length := by rwa [hall.length_eq]
  exact ⟨items[i], List.getElem_mem hi', (List.forall₂_iff_get.1 hall).2 i hi' hi⟩

theorem exists_mem_of_mapM {f : α → Except Fault β} {items : List α} {results : List β}
    (h : items.mapM f = .ok results) {a : α} (ha : a ∈ items) : ∃ b ∈ results, f a = .ok b := by
  have hall := mapM_eq_ok_iff.1 h
  clear h
  induction hall with
  | nil => cases ha
  | cons hb _ ih =>
      rcases List.mem_cons.1 ha with rfl | ha
      · exact ⟨_, List.mem_cons_self, hb⟩
      · obtain ⟨b, hmem, hb⟩ := ih ha
        exact ⟨b, List.mem_cons_of_mem _ hmem, hb⟩

theorem sublist_of_mapM {f : α → Except Fault β} {some all : List α} (hsome : some.Sublist all)
    {answers others : List β} (hanswers : some.mapM f = .ok answers)
    (hothers : all.mapM f = .ok others) : answers.Sublist others := by
  rw [mapM_eq_ok_iff] at hanswers hothers
  induction hsome generalizing answers others with
  | slnil =>
      cases hanswers
      exact List.nil_sublist _
  | cons a _ ih =>
      obtain ⟨b, rest, -, hrest, rfl⟩ := List.forall₂_cons_left_iff.1 hothers
      exact (ih hanswers hrest).cons b
  | cons_cons a _ ih =>
      obtain ⟨b, rest, hb, hrest, rfl⟩ := List.forall₂_cons_left_iff.1 hothers
      obtain ⟨c, front, hc, hfront, rfl⟩ := List.forall₂_cons_left_iff.1 hanswers
      cases hb.symm.trans hc
      exact (ih hfront hrest).cons_cons b

theorem exists_mapM_of_forall {f : α → Except Fault β} {R : α → β → Prop} {items : List α}
    (h : ∀ a ∈ items, ∃ b, f a = .ok b ∧ R a b) :
    ∃ results, items.mapM f = .ok results ∧ List.Forall₂ R items results := by
  induction items with
  | nil => exact ⟨[], rfl, .nil⟩
  | cons a rest ih =>
      obtain ⟨⟨b, hb, hrelated⟩, hrest⟩ := List.forall_mem_cons.1 h
      obtain ⟨others, hothers, hall⟩ := ih hrest
      refine ⟨b :: others, ?_, .cons hrelated hall⟩
      rw [List.mapM_cons, hb, hothers]
      rfl

theorem exists_of_mapM_eq_error {f : α → Except Fault β} {items : List α} {fault : Fault}
    (h : items.mapM f = .error fault) : ∃ a ∈ items, f a = .error fault := by
  induction items with
  | nil => cases h
  | cons a rest ih =>
      rw [List.mapM_cons] at h
      rcases error_of_bind_eq_error h with ha | ⟨b, -, h⟩
      · exact ⟨a, List.mem_cons_self, ha⟩
      · rcases error_of_bind_eq_error h with hrest | ⟨others, -, h⟩
        · obtain ⟨x, hx, hfault⟩ := ih hrest
          exact ⟨x, List.mem_cons_of_mem a hx, hfault⟩
        · cases h

theorem mapM_fault_iff {f : α → Except Fault β} (items : List α) :
    (∃ fault, items.mapM f = .error fault) ↔ ∃ a ∈ items, ∃ fault, f a = .error fault := by
  induction items with
  | nil =>
      constructor
      · rintro ⟨fault, h⟩
        cases h
      · rintro ⟨a, ha, -⟩
        exact absurd ha List.not_mem_nil
  | cons a rest ih =>
      simp only [List.mem_cons, or_and_right, exists_or, exists_eq_left]
      rw [List.mapM_cons, ← ih]
      cases ha : f a with
      | error fault => exact ⟨fun _ => .inl ⟨fault, rfl⟩, fun _ => ⟨fault, rfl⟩⟩
      | ok b =>
          cases hrest : rest.mapM f with
          | error fault => exact ⟨fun _ => .inr ⟨fault, rfl⟩, fun _ => ⟨fault, rfl⟩⟩
          | ok others => simp [bind, Except.bind, pure, Except.pure]

theorem mapM_ok_iff {f : α → Except Fault β} (items : List α) :
    (∃ results, items.mapM f = .ok results) ↔ ∀ a ∈ items, ∃ b, f a = .ok b := by
  constructor
  · rintro ⟨results, h⟩ a ha
    cases hf : f a with
    | ok b => exact ⟨b, rfl⟩
    | error fault =>
        obtain ⟨other, hother⟩ := (mapM_fault_iff items).2 ⟨a, ha, fault, hf⟩
        cases h.symm.trans hother
  · intro h
    obtain ⟨results, hresults, -⟩ := exists_mapM_of_forall (R := fun _ _ => True) fun a ha =>
      (h a ha).imp fun _ hb => ⟨hb, trivial⟩
    exact ⟨results, hresults⟩

/-! ## Selecting -/

/-- A question with a fault counts as answered with no. -/
def yes : Except Fault Bool → Bool
  | .ok answer => answer
  | .error _ => false

theorem yes_eq_true_iff {r : Except Fault Bool} : yes r = true ↔ r = .ok true := by
  cases r <;> simp [yes]

section FilterM

variable {f : α → Except Fault Bool} {items acc found : List α}

theorem filterAuxM_eq_ok (h : items.filterAuxM f acc = .ok found) :
    found = (items.filter fun a => yes (f a)).reverse ++ acc := by
  induction items generalizing acc with
  | nil =>
      cases h
      rfl
  | cons a rest ih =>
      obtain ⟨answer, ha, hrest⟩ := ok_of_bind_eq_ok h
      rw [ih hrest, List.filter_cons]
      cases answer <;> simp [ha, yes]

theorem filterM_eq_ok (h : items.filterM f = .ok found) :
    found = items.filter fun a => yes (f a) := by
  obtain ⟨reversed, hreversed, hfound⟩ := ok_of_bind_eq_ok h
  cases hfound
  rw [filterAuxM_eq_ok hreversed, List.append_nil, List.reverse_reverse]

theorem mem_filterM_iff (h : items.filterM f = .ok found) {a : α} :
    a ∈ found ↔ a ∈ items ∧ f a = .ok true := by
  rw [filterM_eq_ok h, List.mem_filter, yes_eq_true_iff]

theorem exists_of_filterAuxM_eq_error {fault : Fault} (h : items.filterAuxM f acc = .error fault) :
    ∃ a ∈ items, f a = .error fault := by
  induction items generalizing acc with
  | nil => cases h
  | cons a rest ih =>
      rcases error_of_bind_eq_error h with ha | ⟨answer, -, hrest⟩
      · exact ⟨a, List.mem_cons_self, ha⟩
      · obtain ⟨b, hb, hfault⟩ := ih hrest
        exact ⟨b, List.mem_cons_of_mem a hb, hfault⟩

theorem exists_of_filterM_eq_error {fault : Fault} (h : items.filterM f = .error fault) :
    ∃ a ∈ items, f a = .error fault := by
  rcases error_of_bind_eq_error h with haux | ⟨reversed, -, hreverse⟩
  · exact exists_of_filterAuxM_eq_error haux
  · cases hreverse

theorem answer_of_filterAuxM (h : items.filterAuxM f acc = .ok found) :
    ∀ a ∈ items, ∃ answer, f a = .ok answer := by
  induction items generalizing acc with
  | nil => exact List.forall_mem_nil _
  | cons a rest ih =>
      obtain ⟨answer, ha, hrest⟩ := ok_of_bind_eq_ok h
      exact List.forall_mem_cons.2 ⟨⟨answer, ha⟩, ih hrest⟩

theorem filterM_ok_iff (f : α → Except Fault Bool) (items : List α) :
    (∃ found, items.filterM f = .ok found) ↔ ∀ a ∈ items, ∃ answer, f a = .ok answer := by
  constructor
  · rintro ⟨found, h⟩
    obtain ⟨reversed, hreversed, -⟩ := ok_of_bind_eq_ok h
    exact answer_of_filterAuxM hreversed
  · intro h
    cases hfound : items.filterM f with
    | ok found => exact ⟨found, rfl⟩
    | error fault =>
        obtain ⟨a, ha, hfault⟩ := exists_of_filterM_eq_error hfound
        obtain ⟨answer, hanswer⟩ := h a ha
        cases hfault.symm.trans hanswer

theorem filterM_fault_iff (f : α → Except Fault Bool) (items : List α) :
    (∃ fault, items.filterM f = .error fault) ↔ ∃ a ∈ items, ∃ fault, f a = .error fault := by
  constructor
  · rintro ⟨fault, h⟩
    obtain ⟨a, ha, hfault⟩ := exists_of_filterM_eq_error h
    exact ⟨a, ha, fault, hfault⟩
  · rintro ⟨a, ha, fault, hfault⟩
    cases hfound : items.filterM f with
    | error other => exact ⟨other, rfl⟩
    | ok found =>
        obtain ⟨answer, hanswer⟩ := (filterM_ok_iff f items).1 ⟨found, hfound⟩ a ha
        cases hfault.symm.trans hanswer

theorem filterM_of_forall (h : ∀ a ∈ items, ∃ answer, f a = .ok answer) :
    items.filterM f = .ok (items.filter fun a => yes (f a)) := by
  obtain ⟨found, hfound⟩ := (filterM_ok_iff f items).2 h
  rw [hfound, filterM_eq_ok hfound]

theorem filterM_of_exists {one : Fault}
    (hone : ∀ a ∈ items, ∀ fault, f a = .error fault → fault = one)
    (h : ∃ a ∈ items, f a = .error one) : items.filterM f = .error one := by
  obtain ⟨a, ha, hfault⟩ := h
  obtain ⟨fault, hfound⟩ := (filterM_fault_iff f items).2 ⟨a, ha, one, hfault⟩
  obtain ⟨b, hb, hother⟩ := exists_of_filterM_eq_error hfound
  rw [hfound, hone b hb fault hother]

theorem filterM_filter {p : α → Bool} (h : ∀ a ∈ items, f a = .ok (p a)) :
    items.filterM f = .ok (items.filter p) := by
  rw [filterM_of_forall fun a ha => ⟨p a, h a ha⟩]
  refine congrArg Except.ok (List.filter_congr fun a ha => ?_)
  rw [h a ha, yes]

end FilterM

end Fault

end LozengeNav
