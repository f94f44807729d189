import LozengeNav.Proofs.Runs
import LozengeNav.World

/-! # Answers of fixed worlds

A question to a fixed world runs on the calls made so far: it appends its own
calls and its answer does not depend on those before. The tables of a world are
finite, so all that its answers can name fits into lists of a known length.
-/

namespace LozengeNav

namespace World

/-! ## Questions and their calls -/

instance : Runs (Query Log) (List Call) where
  RunsTo q s a s' :=
    ∃ calls, s' = s ++ calls ∧ ∀ log, q.run.run log = (.ok a, calls.reverse ++ log)
  pure a s := ⟨[], by simp, fun _ => rfl⟩
  bind := by
    rintro α β x f s₁ s₂ s₃ a b ⟨calls, rfl, hx⟩ ⟨more, rfl, hf⟩
    refine ⟨calls ++ more, by simp, fun log => ?_⟩
    rw [ExceptT.run_bind, StateT.run_bind, hx log, List.reverse_append, List.append_assoc]
    exact hf (calls.reverse ++ log)

theorem runsTo_answer {α : Type} (call : Call) (a : α) (s : List Call) :
    RunsTo (answer call a) s a (s ++ [call]) :=
  ⟨[call], rfl, fun _ => rfl⟩

theorem runsTo_ok {α : Type} (a : α) (s : List Call) :
    RunsTo (monadLift (Except.ok a : Except Fault α) : Query Log α) s a s :=
  ⟨[], by simp, fun _ => rfl⟩

theorem runsTo_of_get {α : Type} {f : Log → Query Log α} {q : Query Log α}
    {s s' : List Call} {a : α} (hf : ∀ log, f log = q) (h : RunsTo q s a s') :
    RunsTo (get >>= f) s a s' := by
  obtain ⟨calls, hs, hq⟩ := h
  refine ⟨calls, hs, fun log => ?_⟩
  rw [← hq log, ← hf log]
  rfl

theorem ask_of_runsTo {α : Type} {q : Query Log α} {s s' : List Call} {a : α}
    (h : RunsTo q s a s') : ask q = (.ok a, (ask q).2) ∧ s' = s ++ (ask q).2 := by
  obtain ⟨calls, hs, hq⟩ := h
  have he : ask q = (.ok a, calls) := by
    unfold ask
    rw [hq []]
    simp
  rw [he]
  exact ⟨rfl, hs⟩

theorem runsTo_behind {α : Type} {q : Query Log α} {calls : List Call} {a : α}
    (h : RunsTo q [] a calls) (s : List Call) : RunsTo q s a (s ++ calls) := by
  obtain ⟨own, hcalls, hq⟩ := h
  rw [List.nil_append] at hcalls
  exact ⟨own, hcalls ▸ rfl, hq⟩

/-! ## The size of tables -/

def entries {κ α : Type} (table : List (κ × Option (List α))) : List α :=
  table.flatMap fun e => e.2.getD []

theorem length_entries {κ α : Type} (table : List (κ × Option (List α))) :
    (entries table).length = total table :=
  rfl

theorem mem_entries_of_look {κ α : Type} [BEq κ] {table : List (κ × Option (List α))} {key : κ}
    {a : α} (h : a ∈ (look table key).getD []) : a ∈ entries table := by
  induction table with
  | nil => simp [look] at h
  | cons e rest ih =>
      obtain ⟨k, found⟩ := e
      rw [entries, List.flatMap_cons]
      cases hk : key == k with
      | true =>
          rw [look, List.lookup_cons, hk] at h
          exact List.mem_append_left _ h
      | false =>
          rw [look, List.lookup_cons, hk] at h
          exact List.mem_append_right _ (ih h)

end World

end LozengeNav
