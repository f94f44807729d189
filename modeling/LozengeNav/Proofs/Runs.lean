/-! # Runs of programs

A search asks its questions through a monad it knows nothing about. What the
search does is stated once, for every monad whose programs run from a state to
an answer and a state. Faults are no runs.
-/

namespace LozengeNav

/-- A monad whose programs run on states. `RunsTo x s a s'` says that `x`, run
from `s`, answers `a` and leaves `s'`. -/
class Runs (m : Type → Type) [Monad m] (σ : outParam Type) where
  RunsTo {α : Type} : m α → σ → α → σ → Prop
  pure {α : Type} (a : α) (s : σ) : RunsTo (pure a) s a s
  bind {α β : Type} {x : m α} {f : α → m β} {s₁ s₂ s₃ : σ} {a : α} {b : β} :
    RunsTo x s₁ a s₂ → RunsTo (f a) s₂ b s₃ → RunsTo (x >>= f) s₁ b s₃

export Runs (RunsTo)

instance {m : Type → Type} [Monad m] {σ τ : Type} [Runs m σ] : Runs (StateT τ m) (τ × σ) where
  RunsTo x s a s' := RunsTo (x.run s.1) s.2 (a, s'.1) s'.2
  pure a s := Runs.pure (a, s.1) s.2
  bind hx hf := Runs.bind hx hf

section Steps

variable {m : Type → Type} [Monad m] {σ τ : Type} [Runs m σ]

theorem runsTo_map [LawfulMonad m] {α β : Type} {x : m α} {s s' : σ} {a : α} (f : α → β)
    (h : RunsTo x s a s') : RunsTo (f <$> x) s (f a) s' := by
  rw [← bind_pure_comp]
  exact Runs.bind h (Runs.pure (f a) s')

theorem runsTo_get (s : τ × σ) : RunsTo (get : StateT τ m τ) s s.1 s :=
  Runs.pure (s.1, s.1) s.2

theorem runsTo_modify (f : τ → τ) (s : τ × σ) :
    RunsTo (modify f : StateT τ m PUnit) s ⟨⟩ (f s.1, s.2) :=
  Runs.pure (PUnit.unit, f s.1) s.2

theorem runsTo_lift {α : Type} {x : m α} {s : τ × σ} {a : α} {s' : σ} (h : RunsTo x s.2 a s') :
    RunsTo (monadLift x : StateT τ m α) s a (s.1, s') :=
  Runs.bind h (Runs.pure (a, s.1) s')

theorem runsTo_run' [LawfulMonad m] {α : Type} {x : StateT τ m α} {t : τ} {s : σ} {a : α}
    {s' : τ × σ} (h : RunsTo x (t, s) a s') : RunsTo (x.run' t) s a s'.2 :=
  runsTo_map Prod.fst h

end Steps

end LozengeNav
