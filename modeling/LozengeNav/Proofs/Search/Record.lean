import LozengeNav.Proofs.Search.Breadth
import LozengeNav.Proofs.Search.Depth

/-! # Recorded searches

A search that is told fixed answers and writes down what it asks. What it writes
down and what it answers are read off its trace.
-/

namespace LozengeNav

/-- A program without effects runs on nothing. -/
instance : Runs Id Unit where
  RunsTo x _ a _ := x = a
  pure _ _ := rfl
  bind := by
    rintro α β x f - - - a b rfl rfl
    rfl

theorem runsTo_stateM_iff {σ α : Type} {x : StateM σ α} {s s' : σ} {a : α} :
    RunsTo x (s, ()) a (s', ()) ↔ x.run s = (a, s') :=
  Iff.rfl

namespace Search

variable {α κ : Type} [DecidableEq κ]

/-! ## Breadth first -/

/-- A question of a breadth-first search about a node. -/
inductive Probe (α : Type) where
  /-- Whether it is a goal. -/
  | check (node : α)
  /-- Which nodes come next. -/
  | expand (node : α)
  deriving DecidableEq, Repr

section Breadth

variable (neighbors : α → Option (List α)) (isGoal : α → Bool) (key : α → κ)

/-- What a breadth-first search learns about a node. -/
def outcome (a : α) : Bool × List α :=
  (isGoal a, (neighbors a).getD [])

def recordCheck (a : α) : StateM (List (Probe α)) Bool := do
  modify (· ++ [.check a])
  return isGoal a

def recordNeighbors (a : α) : StateM (List (Probe α)) (Option (List α)) := do
  modify (· ++ [.expand a])
  return neighbors a

/-- The questions about nodes that are expanded: each is checked before. -/
def probes (expanded : List α) : List (Probe α) :=
  expanded.flatMap fun a => [.check a, .expand a]

/-- A recorded search checks and expands the nodes of its trace, in order, and last
checks the goal. -/
theorem breadthFirst_run (fuel : Nat) (roots : List α) :
    (breadthFirst (recordNeighbors neighbors) (recordCheck isGoal) key fuel roots).run [] =
      let trace := breadthTrace (outcome neighbors isGoal) key fuel (fresh key [] roots).1
        (fresh key [] roots).2
      (trace.2, probes trace.1 ++ trace.2.toList.map .check) := by
  have hstep : ∀ before a (s : List (Probe α) × Unit), s.1 = probes before →
      ∃ s₁, RunsTo (recordCheck isGoal a) s (outcome neighbors isGoal a).1 s₁ ∧
        ((outcome neighbors isGoal a).1 = false →
          ∃ found s₂, RunsTo (recordNeighbors neighbors a) s₁ found s₂ ∧
            found.getD [] = (outcome neighbors isGoal a).2 ∧ s₂.1 = probes (before ++ [a])) :=
    fun before a s hs => ⟨(s.1 ++ [.check a], ()), rfl, fun _ =>
      ⟨neighbors a, (s.1 ++ [.check a] ++ [.expand a], ()), rfl, rfl, by simp [hs, probes]⟩⟩
  obtain ⟨⟨s₁, _⟩, ⟨s₂, _⟩, hprobes, hrun, hhit, hnone⟩ :=
    breadthFrom_runsTo key (fun before s => s.1 = probes before) hstep fuel
      (fresh key [] roots).1 (fresh key [] roots).2 [] ([], ()) rfl
  rw [runsTo_stateM_iff] at hrun
  refine hrun.trans (Prod.ext rfl ?_)
  simp only [List.nil_append] at hprobes
  cases hfound : (breadthTrace (outcome neighbors isGoal) key fuel (fresh key [] roots).1
      (fresh key [] roots).2).2 with
  | none => simpa [hfound, hprobes] using hnone hfound
  | some a =>
      have hcheck := (Prod.mk.inj (runsTo_stateM_iff.mp (hhit a hfound))).2
      simpa [hfound, hprobes] using hcheck.symm

end Breadth

/-! ## Depth first -/

section Depth

variable (expand : α → Bool × List α) (key : α → κ)

def recordOpening (a : α) : StateM (List α) (Bool × List α) := do
  modify (· ++ [a])
  return expand a

theorem depthFirst_run (fuel : Nat) (root : α) :
    (depthFirst (recordOpening expand) key fuel root).run [] =
      ((depthTrace expand key fuel [root] []).2, (depthTrace expand key fuel [root] []).1) := by
  have hstep : ∀ before a (s : List α × Unit), s.1 = before →
      ∃ s', RunsTo (recordOpening expand a) s (expand a) s' ∧ s'.1 = before ++ [a] :=
    fun before a s hs => ⟨(s.1 ++ [a], ()), rfl, by simp [hs]⟩
  obtain ⟨⟨s, _⟩, hrun, hopened⟩ :=
    depthFrom_runsTo key (fun before s => s.1 = before) hstep fuel [root] [] [] ([], ()) rfl
  rw [runsTo_stateM_iff] at hrun
  exact hrun.trans (Prod.ext rfl hopened)

end Depth

end Search

end LozengeNav
