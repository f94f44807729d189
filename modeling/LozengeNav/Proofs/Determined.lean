import LozengeNav.Host

/-! # Questions that states answer alike

A host may keep things between questions. A question is determined by an
invariant of its states if all states with the invariant give it one result and
have the invariant again afterwards. What is put together from determined
questions is determined, so a whole lookup is looked into only where it looks at
the state itself.
-/

namespace LozengeNav

namespace Query

/-- All states with an invariant give a question one result, of which an answer
has a property, and keep the invariant. -/
def Determined {σ α : Type} (I : σ → Prop) (P : α → Prop) (q : Query σ α) : Prop :=
  ∃ result, (∀ a, result = .ok a → P a) ∧ ∀ s, I s → ∃ s', q.run.run s = (result, s') ∧ I s'

section Determined

variable {σ α β : Type} {I : σ → Prop} {P : α → Prop} {Q : β → Prop}

theorem determined_pure {a : α} (ha : P a) : Determined I P (pure a) := by
  refine ⟨.ok a, ?_, fun s hs => ⟨s, rfl, hs⟩⟩
  rintro _ ⟨⟩
  exact ha

theorem determined_throw (fault : Fault) : Determined I P (throw fault : Query σ α) :=
  ⟨.error fault, nofun, fun s hs => ⟨s, rfl, hs⟩⟩

theorem determined_ofExcept {r : Except Fault α} (hr : ∀ a, r = .ok a → P a) :
    Determined I P (ofExcept r : Query σ α) := by
  cases r with
  | ok a => exact determined_pure (hr a rfl)
  | error fault => exact determined_throw fault

theorem determined_lift {r : Except Fault α} (hr : ∀ a, r = .ok a → P a) :
    Determined I P (liftM r : Query σ α) :=
  ⟨r, hr, fun s hs => ⟨s, rfl, hs⟩⟩

/-- What comes after a question may rely on the property of its answer. -/
theorem determined_bind {q : Query σ α} {f : α → Query σ β} (hq : Determined I P q)
    (hf : ∀ a, P a → Determined I Q (f a)) : Determined I Q (q >>= f) := by
  obtain ⟨result, hresult, hq⟩ := hq
  cases result with
  | error fault =>
      refine ⟨.error fault, nofun, fun s hs => ?_⟩
      obtain ⟨s', hrun, hs'⟩ := hq s hs
      refine ⟨s', ?_, hs'⟩
      rw [ExceptT.run_bind, StateT.run_bind, hrun]
      rfl
  | ok a =>
      obtain ⟨result, hresult, hf⟩ := hf a (hresult a rfl)
      refine ⟨result, hresult, fun s hs => ?_⟩
      obtain ⟨s₁, hrun, hs₁⟩ := hq s hs
      obtain ⟨s₂, hrest, hs₂⟩ := hf s₁ hs₁
      refine ⟨s₂, ?_, hs₂⟩
      rw [ExceptT.run_bind, StateT.run_bind, hrun]
      exact hrest

theorem determined_map (g : α → β) {q : Query σ α} (hq : Determined I P q) :
    Determined I (fun _ => True) (g <$> q) := by
  rw [← bind_pure_comp]
  exact determined_bind hq fun _ _ => determined_pure trivial

/-! ## Single runs -/

theorem run_bind_of_ok {q : Query σ α} (f : α → Query σ β) {s s' : σ} {a : α}
    (h : q.run.run s = (.ok a, s')) : (q >>= f).run.run s = (f a).run.run s' := by
  rw [ExceptT.run_bind, StateT.run_bind, h]
  rfl

theorem run_bind_of_error {q : Query σ α} (f : α → Query σ β) {s s' : σ} {fault : Fault}
    (h : q.run.run s = (.error fault, s')) : (q >>= f).run.run s = (.error fault, s') := by
  rw [ExceptT.run_bind, StateT.run_bind, h]
  rfl

theorem exists_of_run_bind {q : Query σ α} {f : α → Query σ β} {s s' : σ} {b : β}
    (h : (q >>= f).run.run s = (.ok b, s')) :
    ∃ a s₁, q.run.run s = (.ok a, s₁) ∧ (f a).run.run s₁ = (.ok b, s') := by
  obtain ⟨result, s₁, hrun⟩ : ∃ result s₁, q.run.run s = (result, s₁) := ⟨_, _, rfl⟩
  cases result with
  | error fault => rw [run_bind_of_error f hrun] at h; cases h
  | ok a => exact ⟨a, s₁, hrun, (run_bind_of_ok f hrun).symm.trans h⟩

theorem run_ofExcept (r : Except Fault α) (s : σ) :
    (ofExcept r : Query σ α).run.run s = (r, s) := by
  cases r <;> rfl

theorem run_get (f : σ → Query σ β) (s : σ) : (get >>= f).run.run s = (f s).run.run s :=
  rfl

theorem run_modify (g : σ → σ) (f : PUnit → Query σ β) (s : σ) :
    (modify g >>= f).run.run s = (f ⟨⟩).run.run (g s) :=
  rfl

theorem run_tryCatch_of_ok {q : Query σ α} (f : Fault → Query σ α) {s s' : σ} {a : α}
    (h : q.run.run s = (.ok a, s')) : (tryCatch q f).run.run s = (.ok a, s') := by
  change (ExceptT.tryCatch q f).run.run s = _
  rw [ExceptT.tryCatch, ExceptT.run_mk, StateT.run_bind, show StateT.run q s = _ from h]
  rfl

theorem run_tryCatch_of_error {q : Query σ α} (f : Fault → Query σ α) {s s' : σ} {fault : Fault}
    (h : q.run.run s = (.error fault, s')) : (tryCatch q f).run.run s = (f fault).run.run s' := by
  change (ExceptT.tryCatch q f).run.run s = _
  rw [ExceptT.tryCatch, ExceptT.run_mk, StateT.run_bind, show StateT.run q s = _ from h]
  rfl

theorem run_observe (q : Query σ α) (s : σ) :
    q.observe.run.run s = (.ok (q.run.run s).1, (q.run.run s).2) := by
  obtain ⟨result, s', hrun⟩ : ∃ result s', q.run.run s = (result, s') := ⟨_, _, rfl⟩
  rw [observe, hrun]
  cases result with
  | ok a =>
      refine run_tryCatch_of_ok _ ?_
      rw [run_bind_of_ok _ hrun]
      rfl
  | error fault => exact run_tryCatch_of_error _ (run_bind_of_error _ hrun)

theorem run_mapM {f : α → Query σ β} {g : α → Except Fault β} {s : σ}
    (h : ∀ a, (f a).run.run s = (g a, s)) (items : List α) :
    (items.mapM f).run.run s = (items.mapM g, s) := by
  induction items with
  | nil => rfl
  | cons a rest ih =>
      rw [List.mapM_cons, List.mapM_cons]
      cases hfirst : g a with
      | error fault => exact run_bind_of_error _ ((h a).trans (by rw [hfirst]))
      | ok b =>
          rw [run_bind_of_ok _ ((h a).trans (by rw [hfirst]))]
          cases hothers : rest.mapM g with
          | error fault => exact run_bind_of_error _ (ih.trans (by rw [hothers]))
          | ok others =>
              rw [run_bind_of_ok _ (ih.trans (by rw [hothers]))]
              rfl

/-- Looking at the state is no harm if all states with the invariant let the same
follow. -/
theorem determined_get {f : σ → Query σ β} {q : Query σ β} (hf : ∀ s, I s → f s = q)
    (hq : Determined I Q q) : Determined I Q (get >>= f) := by
  obtain ⟨result, hresult, hq⟩ := hq
  refine ⟨result, hresult, fun s hs => ?_⟩
  obtain ⟨s', hrun, hs'⟩ := hq s hs
  rw [← hf s hs] at hrun
  exact ⟨s', hrun, hs'⟩

theorem Determined.mono {q : Query σ α} {P' : α → Prop} (hq : Determined I P q)
    (h : ∀ a, P a → P' a) : Determined I P' q := by
  obtain ⟨result, hresult, hq⟩ := hq
  exact ⟨result, fun a ha => h a (hresult a ha), hq⟩

theorem Determined.result_eq {q : Query σ α} (hq : Determined I P q) {s t : σ} (hs : I s)
    (ht : I t) : (q.run.run s).1 = (q.run.run t).1 := by
  obtain ⟨result, -, hq⟩ := hq
  obtain ⟨s', hrun, -⟩ := hq s hs
  obtain ⟨t', hrun', -⟩ := hq t ht
  rw [hrun, hrun']

theorem Determined.keeps {q : Query σ α} (hq : Determined I P q) {s : σ} (hs : I s) :
    I (q.run.run s).2 := by
  obtain ⟨result, -, hq⟩ := hq
  obtain ⟨s', hrun, hs'⟩ := hq s hs
  rw [hrun]
  exact hs'

theorem Determined.holds {q : Query σ α} (hq : Determined I P q) {s : σ} (hs : I s) {a : α}
    (ha : (q.run.run s).1 = .ok a) : P a := by
  obtain ⟨result, hresult, hq⟩ := hq
  obtain ⟨s', hrun, -⟩ := hq s hs
  rw [hrun] at ha
  exact hresult a ha

/-! ## State on top -/

/-- A question with further state is determined whatever that state is. -/
def DeterminedFrom {τ : Type} (I : σ → Prop) (x : StateT τ (Query σ) α) : Prop :=
  ∀ t, Determined I (fun _ => True) (x.run t)

variable {τ : Type}

theorem determinedFrom_pure (a : α) : DeterminedFrom I (pure a : StateT τ (Query σ) α) :=
  fun _ => determined_pure trivial

theorem determinedFrom_bind {x : StateT τ (Query σ) α} {f : α → StateT τ (Query σ) β}
    (hx : DeterminedFrom I x) (hf : ∀ a, DeterminedFrom I (f a)) : DeterminedFrom I (x >>= f) :=
  fun t => determined_bind (hx t) fun a _ => hf a.1 a.2

theorem determinedFrom_get {f : τ → StateT τ (Query σ) β} (hf : ∀ t, DeterminedFrom I (f t)) :
    DeterminedFrom I (get >>= f) :=
  fun t => hf t t

theorem determinedFrom_modify (g : τ → τ) :
    DeterminedFrom I (modify g : StateT τ (Query σ) PUnit) :=
  fun _ => determined_pure trivial

theorem determinedFrom_lift {q : Query σ α} (hq : Determined I P q) :
    DeterminedFrom I (monadLift q : StateT τ (Query σ) α) :=
  fun _ => determined_bind hq fun _ _ => determined_pure trivial

theorem DeterminedFrom.run' {x : StateT τ (Query σ) α} (hx : DeterminedFrom I x) (t : τ) :
    Determined I (fun _ => True) (x.run' t) :=
  determined_map Prod.fst (hx t)

end Determined

end Query

end LozengeNav
