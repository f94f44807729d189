import LozengeNav.Proofs.Ancestry.Chase
import LozengeNav.Proofs.Ancestry.Hierarchy

/-! # The verdict on a class

A question whether a class descends from the base class always gets an answer
from a fixed world, whatever cycles, diamonds and gaps its tables have, and the
answer is right in both directions.
-/

namespace LozengeNav

namespace World

def strategyFor (w : World) (c : ClassRef) : Strategy :=
  match w.roots? c with
  | some roots => .hierarchy (nodes roots)
  | none => .chase

theorem entry?_eq_find? (outline : List OutlineSymbol) (name : String) :
    Ancestry.entry? outline name =
      outline.find? fun s => s.kind = .type ∧ s.name = name := by
  unfold Ancestry.entry?
  congr 1
  funext s
  simp [Bool.decide_and, beq_eq_decide]

theorem selectStrategy_runsTo (w : World) (c : ClassRef) (s : List Call) :
    ∃ s', RunsTo (Ancestry.selectStrategy w.host c.uri c.name) s (w.strategyFor c) s' := by
  let s₁ := s ++ [.documentOutline c.uri]
  have houtline := runsTo_answer (.documentOutline c.uri) (look w.outlines c.uri) s
  unfold Ancestry.selectStrategy strategyFor roots?
  simp only [entry?_eq_find?]
  cases hentry : ((look w.outlines c.uri).getD []).find? fun s => s.kind = .type ∧ s.name = c.name with
  | none =>
      refine ⟨s₁, Runs.bind houtline ?_⟩
      rw [hentry]
      exact Runs.pure _ s₁
  | some symbol =>
      let s₂ := s₁ ++ [.prepareTypeHierarchy c.uri symbol.selection]
      have hroots := runsTo_answer (.prepareTypeHierarchy c.uri symbol.selection)
        ((look w.hierarchy (c.uri, symbol.selection)).map nodes) s₁
      refine ⟨s₂, Runs.bind houtline ?_⟩
      rw [hentry]
      refine Runs.bind hroots ?_
      simp only [Option.bind_eq_bind, Option.bind_some]
      cases look w.hierarchy (c.uri, symbol.selection) with
      | none => exact Runs.pure _ s₂
      | some roots => cases roots <;> exact Runs.pure _ s₂

/-- A question about a class ends, and its answer is whether the class descends
from the base class. -/
theorem descends_runsTo (w : World) (base : BaseClass) (c : ClassRef) (s : List Call) :
    ∃ verdict s', RunsTo (Ancestry.descends w.host base c.uri c.name) s verdict s' ∧
      (verdict = true ↔ w.Descends base c) := by
  obtain ⟨s₁, hselect⟩ := w.selectStrategy_runsTo c s
  unfold Descends
  cases hroots : w.roots? c with
  | none =>
      obtain ⟨verdict, s₂, hchase, hiff⟩ := w.byChase_runsTo base c s₁
      rw [strategyFor, hroots] at hselect
      exact ⟨verdict, s₂, Runs.bind hselect hchase, hiff⟩
  | some roots =>
      obtain ⟨verdict, s₂, hsearch, hiff⟩ := w.inHierarchy_runsTo base (nodes roots) s₁
      rw [map_key_nodes] at hiff
      rw [strategyFor, hroots] at hselect
      exact ⟨verdict, s₂, Runs.bind hselect hsearch, hiff⟩

instance (w : World) (base : BaseClass) (c : ClassRef) : Decidable (w.Descends base c) :=
  decidable_of_iff ((ask (Ancestry.descends w.host base c.uri c.name)).1 = .ok true) <| by
    obtain ⟨verdict, _, hrun, hiff⟩ := w.descends_runsTo base c []
    rw [← hiff, (ask_of_runsTo hrun).1]
    simp

theorem descends_runsTo_decide (w : World) (base : BaseClass) (c : ClassRef) (s : List Call) :
    RunsTo (Ancestry.descends w.host base c.uri c.name) s (decide (w.Descends base c))
      (s ++ (ask (Ancestry.descends w.host base c.uri c.name)).2) := by
  obtain ⟨verdict, s', hrun, hiff⟩ := w.descends_runsTo base c s
  have hverdict : decide (w.Descends base c) = verdict := by
    rw [Bool.eq_iff_iff, decide_eq_true_iff]
    exact hiff.symm
  rw [hverdict, ← (ask_of_runsTo hrun).2]
  exact hrun

/-- Every question about a class ends with an answer, and the answer is yes
exactly for the classes that descend from the base class. -/
theorem descends_answers_iff (w : World) (base : BaseClass) (uri name : String) :
    ∃ verdict calls, ask (Ancestry.descends w.host base uri name) = (.ok verdict, calls) ∧
      (verdict = true ↔ w.Descends base ⟨uri, name⟩) := by
  obtain ⟨verdict, _, hrun, hiff⟩ := w.descends_runsTo base ⟨uri, name⟩ []
  exact ⟨verdict, _, (ask_of_runsTo hrun).1, hiff⟩

end World

end LozengeNav
