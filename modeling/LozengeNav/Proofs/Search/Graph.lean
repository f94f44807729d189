import Mathlib.Data.List.Perm.Subperm
import Mathlib.Logic.Relation

/-! # Graphs on keys

A search tells nodes apart by their keys only, so what it finds is stated about
a graph on keys. Nodes with one key may look different; they have to agree on
whether they end the search and on the keys of their successors.
-/

namespace LozengeNav

namespace Search

variable {α κ : Type}

/-- Opening nodes presents a graph on keys: `expand` says of a node whether it
is a goal and, if it is none, which nodes come next. -/
structure Presents (expand : α → Bool × List α) (key : α → κ) (edge : κ → κ → Prop)
    (goal : κ → Prop) : Prop where
  goal_iff : ∀ a, (expand a).1 = true ↔ goal (key a)
  edge_iff : ∀ a, (expand a).1 = false → ∀ k, edge (key a) k ↔ ∃ b ∈ (expand a).2, key b = k

/-- A closed set of keys without goals holds all that is reached from it. -/
theorem no_goal_of_closed {edge : κ → κ → Prop} {goal : κ → Prop} (set : κ → Prop)
    (closed : ∀ k, set k → ¬ goal k ∧ ∀ k', edge k k' → set k') {k k' : κ} (hk : set k)
    (reach : Relation.ReflTransGen edge k k') : ¬ goal k' := by
  have hset : set k' := by
    induction reach with
    | refl => exact hk
    | tail _ hedge ih => exact (closed _ ih).2 _ hedge
  exact (closed k' hset).1

theorem length_le_of_within {seen keys : List κ} (nodup : seen.Nodup)
    (within : ∀ k ∈ seen, k ∈ keys) : seen.length ≤ keys.length :=
  (nodup.subperm within).length_le

end Search

end LozengeNav
