import LozengeNav.Proofs.Editor.View
import LozengeNav.Proofs.Engine
import LozengeNav.Server

/-! # Setting a server up

A server that an editor has introduced itself to sets up the index of its root
directory when it is asked for the first time, and keeps it.
-/

namespace LozengeNav

open Query

namespace Server

def rootFor (s : Server) (view : Editor.View) : Path :=
  if view.root ≠ "" then .ofString view.root
  else s.defaultRoot.getD ⟨.root, s.inner.tree.here⟩

/-- A server whose engine is an index that recalls what it has read. -/
structure Running (past : List FileTree) (s : Server) (config : Config) (x : SourceIndex) :
    Prop where
  engine : s.engine = some (.sources x)
  config : s.config = config
  recalls : s.inner.index.Recalls past s.inner.tree

/-- A server that serves an editor from the sources: it is running, or waits for the
first question to set its engine up. -/
structure Attends (m : Machine) (past : List FileTree) (s : Server) (view : Editor.View)
    (config : Config) (x : SourceIndex) : Prop where
  told : s.view = some view
  addressed : view.Addressed
  setUp : Engine.SetUp m s.inner.tree (s.rootFor view) config x
  engine : s.engine = none ∨ s.Running past config x

variable {m : Machine} {past : List FileTree} {s : Server} {view : Editor.View} {config : Config}
  {x : SourceIndex}

theorem told_run (h : s.view = some view) : told.run.run s = (.ok view, s) := by
  rw [told, run_get, h]
  rfl

theorem root_run (h : s.view = some view) : root.run.run s = (.ok (s.rootFor view), s) := by
  rw [root, run_bind_of_ok _ (told_run h), rootFor]
  by_cases hroot : view.root ≠ ""
  · rw [if_pos hroot, if_pos hroot]
    rfl
  · rw [if_neg hroot, if_neg hroot]
    rfl

theorem startEngine_run (h : Engine.SetUp m s.inner.tree (s.rootFor view) config x) :
    (startEngine m (s.rootFor view) config).run.run s =
      (.ok (.sources x), { s with config := config, inner := { s.inner with kept := [] } }) := by
  rw [startEngine, run_modify, within, Engine.zoom_run, Engine.start_run h]
  rfl

theorem setup_run (h : Engine.SetUp m s.inner.tree (s.rootFor view) config x) :
    (setup m (s.rootFor view)).run.run s =
      (.ok (.sources x), { s with config := config, inner := { s.inner with kept := [] } }) := by
  have hsettled : settle (Config.load s.inner.tree (s.rootFor view)) = .ok config := by
    rw [h.loaded]
    rfl
  rw [setup, run_get, hsettled, run_bind_of_ok _ (run_ofExcept _ s),
    run_bind_of_ok _ (run_observe _ s), startEngine_run h]
  rfl

theorem ensure_run (h : s.Attends m past view config x) :
    ∃ s', (ensure m).run.run s = (.ok (.sources x), s') ∧ s'.Attends m past view config x ∧
      s'.Running past config x ∧ s'.inner.tree = s.inner.tree := by
  rw [ensure, run_bind_of_ok _ (root_run h.told), run_get]
  rcases h.engine with hnone | hrunning
  · rw [hnone]
    refine ⟨_, run_bind_of_ok _ (setup_run h.setUp), ?_, ?_, rfl⟩
    · exact ⟨h.told, h.addressed, h.setUp, .inr ⟨rfl, rfl, IndexState.recalls_fresh past s.inner.tree⟩⟩
    · exact ⟨rfl, rfl, IndexState.recalls_fresh past s.inner.tree⟩
  · rw [hrunning.engine]
    exact ⟨s, rfl, h, hrunning, rfl⟩

end Server

end LozengeNav
