import LozengeNav.Proofs.Server.Startup
import LozengeNav.Server.Contention

/-! # A caller alone

A caller that gets the lock and that nobody interrupts does what `ensure` does, step by
step: it has the engine, or sets one up and falls back once.
-/

namespace LozengeNav

open Query

namespace Server

namespace Contention

section Alone

variable {m : Machine} {c : Contention} {i : Nat} {root : Path} {config : Config}
  {s : Server} {engine : Engine} {fault : Fault}

@[simp] theorem setPhase_phase_self (c : Contention) (i : Nat) (p : Phase) :
    (c.setPhase i p).phase i = p :=
  if_pos rfl

theorem setPhase_phase_of_ne (c : Contention) {i j : Nat} (h : j ≠ i) (p : Phase) :
    (c.setPhase i p).phase j = c.phase j :=
  if_neg h

theorem conclude_of_ok (h : (startEngine m root config).run.run c.server = (.ok engine, s))
    (onFault : Fault → Contention → Contention × List Event) :
    c.conclude m i root config onFault = ({ c with server := s } : Contention).publish i engine := by
  simp only [conclude, h]

theorem conclude_of_error (h : (startEngine m root config).run.run c.server = (.error fault, s))
    (onFault : Fault → Contention → Contention × List Event) :
    c.conclude m i root config onFault =
      ((onFault fault { c with server := s }).1,
        .fails i config.backend fault :: (onFault fault { c with server := s }).2) := by
  simp only [conclude, h]

def kept : Except Fault Engine × Server → Except Fault Engine × Server
  | (.ok engine, s) => (.ok engine, { s with engine := some engine })
  | (.error fault, s) => (.error fault, s)

/-- What comes of a setup that has read a configuration. -/
def chosen (m : Machine) (root : Path) (config : Config) (s : Server) :
    Except Fault Engine × Server :=
  match (startEngine m root config).run.run s with
  | (.ok engine, s') => (.ok engine, s')
  | (.error fault, s') =>
      match retreat? config fault with
      | some other => (startEngine m root other).run.run s'
      | none => (.error fault, s')

theorem setup_run_of_ok (hsettled : settle (Config.load s.inner.tree root) = .ok config) :
    (setup m root).run.run s = chosen m root config s := by
  rw [setup, run_get, hsettled, run_bind_of_ok _ (run_ofExcept _ s),
    run_bind_of_ok _ (run_observe _ s), chosen]
  obtain ⟨result, s', hrun⟩ : ∃ result s', (startEngine m root config).run.run s = (result, s') :=
    ⟨_, _, rfl⟩
  rw [hrun]
  cases result with
  | ok engine => rfl
  | error fault =>
      dsimp only
      cases retreat? config fault <;> rfl

theorem ensure_run_of_none (hroot : Server.root.run.run s = (.ok root, s))
    (hengine : s.engine = none) :
    (ensure m).run.run s = kept ((setup m root).run.run s) := by
  rw [ensure, run_bind_of_ok _ hroot, run_get, hengine]
  obtain ⟨result, s', hrun⟩ : ∃ result s', (setup m root).run.run s = (result, s') := ⟨_, _, rfl⟩
  rw [hrun]
  cases result with
  | ok engine => rw [run_bind_of_ok _ hrun]; rfl
  | error fault => exact run_bind_of_error _ hrun

def ending (i : Nat) : Except Fault Engine → Event
  | .ok engine => .returns i engine
  | .error fault => .raises i (some fault)

/-- Moves let a call end with a result. Nothing is done about other callers. -/
structure EndsWith (m : Machine) (c : Contention) (i : Nat) (moves : List Move)
    (result : Except Fault Engine × Server) : Prop where
  after : after m c moves = ⟨result.2, none, (c.setPhase i .done).phase⟩
  last : ∃ events, trace m c moves = events ++ [ending i result.1]

/-- A call that is over has nothing left to do. -/
theorem resume_of_done (h : c.phase i = .done) (n : Nat) :
    after m c (List.replicate n (.resume i)) = c ∧ trace m c (List.replicate n (.resume i)) = [] := by
  induction n with
  | zero => exact ⟨rfl, rfl⟩
  | succ n ih =>
      have hstep : c.step m (.resume i) = (c, []) := by rw [step, resume, h]
      rw [List.replicate_succ, after, List.foldl_cons, trace, hstep]
      exact ih

theorem endsWith_of_step {move : Move} {result : Except Fault Engine × Server}
    (events : List Event)
    (h : c.step m move =
      (⟨result.2, none, (c.setPhase i .done).phase⟩, events ++ [ending i result.1])) (n : Nat) :
    EndsWith m c i (move :: List.replicate n (.resume i)) result := by
  -- After the step only idle moves are left.
  obtain ⟨hafter, htrace⟩ := resume_of_done (m := m) (i := i)
    (c := ⟨result.2, none, (c.setPhase i .done).phase⟩) (setPhase_phase_self c i .done) n
  refine ⟨?_, events, ?_⟩
  · rw [after, List.foldl_cons, h]
    exact hafter
  · rw [trace, h, htrace, List.append_nil]

theorem endsWith_cons {move : Move} {moves : List Move} {result : Except Fault Engine × Server}
    (hphase : ((c.step m move).1.setPhase i .done).phase = (c.setPhase i .done).phase)
    (h : EndsWith m (c.step m move).1 i moves result) : EndsWith m c i (move :: moves) result := by
  obtain ⟨hafter, events, htrace⟩ := h
  refine ⟨?_, (c.step m move).2 ++ events, ?_⟩
  · rw [← hphase]
    exact hafter
  · rw [trace, htrace, List.append_assoc]

theorem setPhase_phase_of_eq {c' : Contention} {p : Phase} (h : c'.phase = (c.setPhase i p).phase)
    (q : Phase) : (c'.setPhase i q).phase = (c.setPhase i q).phase := by
  funext j
  rw [setPhase, setPhase, h, setPhase]
  by_cases hj : j = i
  · simp only [if_pos hj]
  · simp only [if_neg hj]

/-- The second start of a caller is its last one. -/
theorem endsWith_retreating (hphase : c.phase i = .retreating root config) (n : Nat) :
    EndsWith m c i (.resume i :: List.replicate n (.resume i))
      (kept ((startEngine m root config).run.run c.server)) := by
  have hresume : c.step m (.resume i) =
      c.conclude m i root config fun fault c => c.giveUp i (some fault) := by
    rw [step, resume, hphase]
  obtain ⟨result, s, hrun⟩ : ∃ result s,
      (startEngine m root config).run.run c.server = (result, s) := ⟨_, _, rfl⟩
  rw [hrun]
  cases result with
  | ok engine =>
      refine endsWith_of_step [.completes i engine] ?_ n
      rw [hresume, conclude_of_ok hrun]
      rfl
  | error fault =>
      refine endsWith_of_step [.fails i config.backend fault] ?_ n
      rw [hresume, conclude_of_error hrun]
      rfl

/-- A caller that fails to start what its configuration asks for starts once more, or ends. -/
theorem endsWith_starting (hphase : c.phase i = .starting root config) :
    EndsWith m c i (List.replicate 2 (.resume i)) (kept (chosen m root config c.server)) := by
  have hresume : c.step m (.resume i) = c.conclude m i root config (fallBack i root config) := by
    rw [step, resume, hphase]
  obtain ⟨result, s, hrun⟩ : ∃ result s,
      (startEngine m root config).run.run c.server = (result, s) := ⟨_, _, rfl⟩
  rw [chosen, hrun]
  cases result with
  | ok engine =>
      refine endsWith_of_step [.completes i engine] ?_ 1
      rw [hresume, conclude_of_ok hrun]
      rfl
  | error fault =>
      dsimp only
      cases hretreat : retreat? config fault with
      | none =>
          refine endsWith_of_step [.fails i config.backend fault] ?_ 1
          rw [hresume, conclude_of_error hrun, fallBack, hretreat]
          rfl
      | some other =>
          -- The failed start has left its traces on the server that the next one runs on.
          let c' := (({ c with server := s } : Contention).launch i other (.retreating root other)).1
          have hstep : (c.step m (.resume i)).1 = c' := by
            rw [hresume, conclude_of_error hrun, fallBack, hretreat]
          have hagain : c'.phase i = .retreating root other := setPhase_phase_self c i _
          refine endsWith_cons ?_ ?_
          · rw [hstep]
            exact setPhase_phase_of_eq rfl .done
          · rw [hstep]
            exact endsWith_retreating hagain 0

/-- A caller that gets the lock and that nobody interrupts does what `ensure` does. -/
theorem ensure_alone (hfree : c.holder = none) (hwaits : c.phase i = .waiting root)
    (hroot : Server.root.run.run c.server = (.ok root, c.server)) :
    EndsWith m c i (.acquire i :: List.replicate 2 (.resume i)) ((ensure m).run.run c.server) := by
  have hacquire : c.step m (.acquire i) = c.acquire i root := by
    rw [step, hfree, hwaits]
  cases hengine : c.server.engine with
  | some engine =>
      rw [ensure, run_bind_of_ok _ hroot, run_get, hengine]
      refine endsWith_of_step [] ?_ 2
      rw [hacquire, acquire, hengine, setPhase, hfree]
      rfl
  | none =>
      rw [ensure_run_of_none hroot hengine]
      cases hsettled : settle (Config.load c.server.inner.tree root) with
      | error fault =>
          rw [setup, run_get, hsettled]
          refine endsWith_of_step [.begins i] ?_ 2
          rw [hacquire, acquire, hengine, hsettled]
          rfl
      | ok config =>
          let c' := (c.launch i config (.starting root config)).1
          have hstep : (c.step m (.acquire i)).1 = c' := by
            rw [hacquire, acquire, hengine, hsettled]
          have hstarting : c'.phase i = .starting root config := setPhase_phase_self c i _
          rw [setup_run_of_ok hsettled]
          refine endsWith_cons ?_ ?_
          · rw [hstep]
            exact setPhase_phase_of_eq rfl .done
          · rw [hstep]
            exact endsWith_starting hstarting

end Alone

end Contention

end Server

end LozengeNav
