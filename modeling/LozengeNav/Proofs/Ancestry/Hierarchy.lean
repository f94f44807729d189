import LozengeNav.Proofs.Ancestry.Descent
import LozengeNav.Proofs.Search.Breadth
import LozengeNav.Proofs.World.Answers

/-! # Searching the type hierarchy

In a fixed world the search of the type hierarchy always ends with an answer,
and the answer is whether a root leads through supertypes to the base class. It
asks for the supertypes of the nodes it expands, in order, and nothing else.
-/

namespace LozengeNav

namespace World

/-- What the search learns at a node: whether it is the base class, and its
supertypes. -/
def hierarchyStep (w : World) (base : BaseClass) (n : HierarchyNode) :
    Bool × List HierarchyNode :=
  (base.isBase n.name n.uri, nodes ((look w.supertypes n.key).getD []))

theorem map_key_nodes (pairs : List (String × String)) :
    (nodes pairs).map HierarchyNode.key = pairs := by
  rw [nodes, List.map_map]
  exact List.map_id pairs

theorem hierarchyStep_presents (w : World) (base : BaseClass) :
    Search.Presents (w.hierarchyStep base) HierarchyNode.key w.Supertype
      fun k => k.2 = base.name ∧ base.Marks k.1 where
  goal_iff _ := BaseClass.isBase_iff
  edge_iff n _ k := by
    rw [← List.mem_map, hierarchyStep, map_key_nodes, Supertype]

def supertypesCall (n : HierarchyNode) : Call :=
  .supertypes n.uri n.name

/-- One node of the search: its test asks nothing, and its supertypes are one
question. -/
theorem hierarchyStep_runsTo (w : World) (base : BaseClass) (before : List HierarchyNode)
    (n : HierarchyNode) (s : List Call) (hs : s = before.map supertypesCall) :
    ∃ s₁, RunsTo (pure (base.isBase n.name n.uri) : Query Log Bool) s (w.hierarchyStep base n).1 s₁ ∧
      ((w.hierarchyStep base n).1 = false → ∃ found s₂, RunsTo (w.host.supertypes n) s₁ found s₂ ∧
        found.getD [] = (w.hierarchyStep base n).2 ∧ s₂ = (before ++ [n]).map supertypesCall) := by
  refine ⟨s, Runs.pure _ s, fun _ => ?_⟩
  refine ⟨(look w.supertypes n.key).map nodes, s ++ [supertypesCall n],
    runsTo_answer _ _ s, ?_, by simp [hs]⟩
  unfold hierarchyStep
  cases look w.supertypes n.key <;> rfl

theorem mem_keys_of_supertype (w : World) (roots : List (String × String)) {k k' : String × String}
    (h : w.Supertype k k') : k' ∈ roots ++ entries w.supertypes :=
  List.mem_append_right roots (mem_entries_of_look h)

/-- The nodes that the search expands, in order, and the one that it finds. -/
def hierarchyTrace (w : World) (base : BaseClass) (roots : List HierarchyNode) :
    List HierarchyNode × Option HierarchyNode :=
  Search.breadthTrace (w.hierarchyStep base) HierarchyNode.key (roots.length + w.host.classBound [])
    (Search.fresh HierarchyNode.key [] roots).1 (Search.fresh HierarchyNode.key [] roots).2

/-- The search follows its trace, and asks for the supertypes of what it expands. -/
theorem inHierarchy_traced (w : World) (base : BaseClass) (roots : List HierarchyNode) :
    RunsTo (Ancestry.inHierarchy w.host base roots) [] (w.hierarchyTrace base roots).2.isSome
      ((w.hierarchyTrace base roots).1.map supertypesCall) := by
  obtain ⟨s₁, s₂, hs₁, hrun, hhit, hnone⟩ := Search.breadthFrom_runsTo HierarchyNode.key
    (fun before s => s = before.map supertypesCall) (w.hierarchyStep_runsTo base)
    (roots.length + w.host.classBound []) (Search.fresh HierarchyNode.key [] roots).1
    (Search.fresh HierarchyNode.key [] roots).2 [] [] rfl
  -- The test of the node that is found asks nothing either.
  have hsame : s₂ = s₁ := by
    cases hfound : (w.hierarchyTrace base roots).2 with
    | none => exact hnone hfound
    | some n =>
        have htest : s₂ = s₁ ++ [] := (ask_of_runsTo (hhit n hfound)).2
        rwa [List.append_nil] at htest
  rw [hsame, hs₁] at hrun
  exact runsTo_of_get (fun _ => rfl) (Runs.bind hrun (Runs.pure _ _))

/-- The search of the hierarchy ends, and finds the base class exactly when a
root leads there. -/
theorem inHierarchy_runsTo (w : World) (base : BaseClass) (roots : List HierarchyNode)
    (s : List Call) :
    ∃ verdict s', RunsTo (Ancestry.inHierarchy w.host base roots) s verdict s' ∧
      (verdict = true ↔ w.HierarchyReaches base (roots.map HierarchyNode.key)) := by
  have henough : (roots.map HierarchyNode.key ++ entries w.supertypes).length ≤
      roots.length + w.host.classBound [] := by
    rw [List.length_append, List.length_map, length_entries]
    simp only [host]
    omega
  have hiff := Search.breadthTrace_roots_iff (w.hierarchyStep_presents base)
    (fun _ _ _ h => w.mem_keys_of_supertype (roots.map HierarchyNode.key) h)
    (fun n hn => List.mem_append_left _ (List.mem_map_of_mem hn)) henough
  refine ⟨_, _, runsTo_behind (w.inHierarchy_traced base roots) s, hiff.trans ?_⟩
  simp only [HierarchyReaches, List.mem_map, exists_exists_and_eq_and]

end World

end LozengeNav
