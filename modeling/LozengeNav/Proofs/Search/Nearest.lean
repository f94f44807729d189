import LozengeNav.Proofs.Search.Layer
import LozengeNav.Proofs.Search.Record

/-! # Breadth-first search finds the nearest goal

With as much fuel as there are keys in reach, more fuel changes nothing. The
search then looks at each key at most once, in the order of their distances, and
ends at a goal that is as near as any, if one can be reached.
-/

namespace LozengeNav

namespace Search

variable {α κ : Type} [DecidableEq κ]

/-! ## Enough fuel -/

section Fuel

variable {expand : α → Bool × List α} {key : α → κ} {edge : κ → κ → Prop} {goal : κ → Prop}

theorem Waiting.trace_add (graph : Presents expand key edge goal) {keys : List κ}
    (closed : ∀ k ∈ keys, ∀ k', edge k k' → k' ∈ keys) {fuel : Nat} {queue : List α}
    {seen : List κ} (h : Waiting edge goal key keys fuel queue seen) (more : Nat) :
    breadthTrace expand key (fuel + more) queue seen = breadthTrace expand key fuel queue seen := by
  induction fuel generalizing queue seen with
  | zero =>
      have hle := length_le_of_within h.nodup h.within
      have henough := h.enough
      have hqueue : queue = [] := List.eq_nil_of_length_eq_zero (by omega)
      subst hqueue
      cases more <;> rfl
  | succ fuel ih =>
      rw [Nat.add_right_comm]
      cases queue with
      | nil => rfl
      | cons node queue =>
          cases hnode : (expand node).1 with
          | true => simp [breadthTrace, hnode]
          | false =>
              simp only [breadthTrace, hnode, Bool.false_eq_true, if_false]
              rw [ih (h.step graph closed hnode)]

theorem expanded_not_goal {fuel : Nat} {queue : List α} {seen : List κ} {a : α}
    (h : a ∈ (breadthTrace expand key fuel queue seen).1) : (expand a).1 = false := by
  induction fuel generalizing queue seen with
  | zero => cases queue <;> simp [breadthTrace] at h
  | succ fuel ih =>
      cases queue with
      | nil => simp [breadthTrace] at h
      | cons node queue =>
          cases hnode : (expand node).1 with
          | true => simp [breadthTrace, hnode] at h
          | false =>
              simp only [breadthTrace, hnode, Bool.false_eq_true, if_false,
                List.mem_cons] at h
              rcases h with rfl | h
              · exact hnode
              · exact ih h

theorem checked_nodup (graph : Presents expand key edge goal) {fuel : Nat} {queue : List α}
    {seen : List κ} (h : Ready key queue seen) :
    ((checked (breadthTrace expand key fuel queue seen)).map key).Nodup := by
  rw [checked, List.map_append, List.nodup_append]
  refine ⟨(breadthTrace_nodup expand key h).2, ?_, ?_⟩
  · cases (breadthTrace expand key fuel queue seen).2 <;> simp
  · rintro k hk k' hk' rfl
    obtain ⟨a, ha, rfl⟩ := List.mem_map.mp hk
    obtain ⟨b, hb, hkey⟩ := List.mem_map.mp hk'
    have hgoal := (breadthTrace_sound graph (Option.mem_toList.mp hb)).1
    rw [hkey, ← graph.goal_iff, expanded_not_goal ha] at hgoal
    exact Bool.false_ne_true hgoal

end Fuel

/-! ## Searches from roots -/

def rootTrace (expand : α → Bool × List α) (key : α → κ) (roots : List α) (fuel : Nat) :
    List α × Option α :=
  breadthTrace expand key fuel (fresh key [] roots).1 (fresh key [] roots).2

section Roots

variable {expand : α → Bool × List α} {key : α → κ} {roots : List α}

omit [DecidableEq κ] in
theorem exists_keys_reachable (hfinite : (reachable expand key roots).Finite) :
    ∃ keys : List κ, keys.length = (reachable expand key roots).ncard ∧
      (∀ a ∈ roots, key a ∈ keys) ∧ ∀ k ∈ keys, ∀ k', Edge expand key k k' → k' ∈ keys := by
  have hreach : ∀ k ∈ reachable expand key roots, ∀ k', Edge expand key k k' →
      k' ∈ reachable expand key roots := fun k hk k' hedge => Reached.step hk hedge
  obtain ⟨keys, hlength, hkeys, hclosed⟩ := exists_keys hfinite hreach
  exact ⟨keys, hlength, fun a ha => hkeys _ ⟨0, .start ⟨a, ha, rfl⟩⟩, hclosed⟩

theorem rootTrace_steady (hkeyed : Keyed expand key)
    (hfinite : (reachable expand key roots).Finite) {fuel : Nat}
    (hfuel : (reachable expand key roots).ncard ≤ fuel) :
    rootTrace expand key roots fuel =
      rootTrace expand key roots (reachable expand key roots).ncard := by
  obtain ⟨keys, hlength, hwithin, hclosed⟩ := exists_keys_reachable hfinite
  obtain ⟨more, rfl⟩ := Nat.exists_eq_add_of_le hfuel
  exact (waiting_roots _ _ hwithin hlength.le).trace_add hkeyed.presents hclosed more

theorem rootTrace_isSome_iff (hkeyed : Keyed expand key)
    (hfinite : (reachable expand key roots).Finite) {fuel : Nat}
    (hfuel : (reachable expand key roots).ncard ≤ fuel) :
    (rootTrace expand key roots fuel).2.isSome = true ↔
      ∃ k ∈ reachable expand key roots, Goal expand key k := by
  obtain ⟨keys, hlength, hwithin, hclosed⟩ := exists_keys_reachable hfinite
  rw [rootTrace, breadthTrace_roots_iff hkeyed.presents hclosed hwithin (hlength ▸ hfuel)]
  constructor
  · rintro ⟨root, hroot, k, hreach, hgoal⟩
    exact ⟨k, reached_iff.mpr ⟨key root, ⟨root, hroot, rfl⟩, hreach⟩, hgoal⟩
  · rintro ⟨k, hk, hgoal⟩
    obtain ⟨-, ⟨root, hroot, rfl⟩, hreach⟩ := reached_iff.mp hk
    exact ⟨root, hroot, k, hreach, hgoal⟩

theorem checked_rootTrace (hkeyed : Keyed expand key) (fuel : Nat) :
    (∀ a ∈ checked (rootTrace expand key roots fuel), key a ∈ reachable expand key roots) ∧
      (checked (rootTrace expand key roots fuel)).Pairwise
        fun a b => depth expand key roots (key a) ≤ depth expand key roots (key b) := by
  have hready := ready_roots key roots
  rw [← List.append_nil (fresh key [] roots).1] at hready
  obtain ⟨hchecked, hsorted⟩ :=
    (layered_roots _ _ key roots).checked_sorted hkeyed.presents fuel hready
  rw [List.append_nil] at hchecked hsorted
  exact ⟨fun a ha => (hchecked a ha).1, hsorted⟩

theorem nearest_of_rootTrace (hkeyed : Keyed expand key) {fuel : Nat} {a : α}
    (ha : (rootTrace expand key roots fuel).2 = some a) :
    (expand a).1 = true ∧ ∀ k ∈ reachable expand key roots, Goal expand key k →
      depth expand key roots (key a) ≤ depth expand key roots k := by
  refine ⟨(hkeyed.goal_iff a).mpr (breadthTrace_sound hkeyed.presents ha).1, fun k hk hgoal => ?_⟩
  have hready := ready_roots key roots
  rw [rootTrace] at ha
  rw [← List.append_nil (fresh key [] roots).1] at hready ha
  exact (layered_roots _ _ key roots).found_nearest hkeyed.presents hready ha hk hgoal

end Roots

/-- A recorded breadth-first search on finitely many keys ends: fuel beyond that for each
key in reach changes nothing. It checks no key twice, the keys nearer to the roots
first, and expands what it checked before the goal. It finds a goal exactly when one
is in reach, and then one that is as near as any. -/
theorem breadthFirst_nearest {neighbors : α → Option (List α)} {isGoal : α → Bool} {key : α → κ}
    (hkeyed : Keyed (outcome neighbors isGoal) key) (roots : List α)
    (hfinite : (reachable (outcome neighbors isGoal) key roots).Finite) :
    ∃ checked expanded found,
      (∀ fuel, (reachable (outcome neighbors isGoal) key roots).ncard ≤ fuel →
        (breadthFirst (recordNeighbors neighbors) (recordCheck isGoal) key fuel roots).run [] =
          (found, probes expanded ++ found.toList.map .check)) ∧
      checked = expanded ++ found.toList ∧
      (checked.map key).Nodup ∧
      (∀ a ∈ checked, key a ∈ reachable (outcome neighbors isGoal) key roots) ∧
      (checked.Pairwise fun a b =>
        depth (outcome neighbors isGoal) key roots (key a) ≤
          depth (outcome neighbors isGoal) key roots (key b)) ∧
      (found.isSome = true ↔ ∃ k ∈ reachable (outcome neighbors isGoal) key roots,
        Goal (outcome neighbors isGoal) key k) ∧
      ∀ a, found = some a → isGoal a = true ∧
        ∀ k ∈ reachable (outcome neighbors isGoal) key roots,
          Goal (outcome neighbors isGoal) key k →
            depth (outcome neighbors isGoal) key roots (key a) ≤
              depth (outcome neighbors isGoal) key roots k := by
  let trace := rootTrace (outcome neighbors isGoal) key roots
    (reachable (outcome neighbors isGoal) key roots).ncard
  obtain ⟨hreached, hsorted⟩ := checked_rootTrace hkeyed
    (reachable (outcome neighbors isGoal) key roots).ncard
  refine ⟨checked trace, trace.1, trace.2, fun fuel hfuel => ?_, rfl,
    checked_nodup hkeyed.presents (ready_roots key roots), hreached, hsorted,
    rootTrace_isSome_iff hkeyed hfinite le_rfl, fun a ha => nearest_of_rootTrace hkeyed ha⟩
  rw [breadthFirst_run]
  exact congrArg (fun t => (t.2, probes t.1 ++ t.2.toList.map .check))
    (rootTrace_steady hkeyed hfinite hfuel)

/-- A village whose houses are told apart by their street: roads lead from street 0 both
ways to streets 1 and 2, on from there to streets 3 and 4, and from 4 back to 0. -/
def village (house : Fin 5 × Bool) : Option (List (Fin 5 × Bool)) :=
  match house.1 with
  | 0 => some [(1, house.2), (2, true), (1, true), (0, false)]
  | 1 => some [(3, house.2), (0, true)]
  | 2 => some [(4, false), (3, true)]
  | 3 => none
  | 4 => some [(0, house.2)]

/-- Streets 3 and 4 have an inn; the search from two houses in street 0 ends in street 3. -/
theorem breadthFirst_nearest_village :
    Keyed (outcome village fun house => 3 ≤ house.1) Prod.fst ∧
      (reachable (outcome village fun house => 3 ≤ house.1) Prod.fst
        [(0, true), (0, false)]).Finite ∧
      (breadthFirst (recordNeighbors village) (recordCheck fun house => 3 ≤ house.1) Prod.fst 5
        [(0, true), (0, false)]).run [] =
          (some (3, true), probes [(0, true), (1, true), (2, true)] ++ [.check (3, true)]) ∧
      ∀ k ∈ reachable (outcome village fun house => 3 ≤ house.1) Prod.fst [(0, true), (0, false)],
        3 ≤ k → depth (outcome village fun house => 3 ≤ house.1) Prod.fst [(0, true), (0, false)] 3 ≤
          depth (outcome village fun house => 3 ≤ house.1) Prod.fst [(0, true), (0, false)] k := by
  have hkeyed : Keyed (outcome village fun house => 3 ≤ house.1) Prod.fst :=
    ⟨by decide, by decide⟩
  have hrun : (breadthFirst (recordNeighbors village) (recordCheck fun house => 3 ≤ house.1)
      Prod.fst 5 [(0, true), (0, false)]).run [] =
        (some (3, true), probes [(0, true), (1, true), (2, true)] ++ [.check (3, true)]) := rfl
  obtain ⟨checked, expanded, found, hsearch, -, -, -, -, -, hnearest⟩ :=
    breadthFirst_nearest hkeyed [(0, true), (0, false)] (Set.toFinite _)
  have hfuel : (reachable (outcome village fun house => 3 ≤ house.1) Prod.fst
      [(0, true), (0, false)]).ncard ≤ 5 :=
    (Set.ncard_le_ncard (Set.subset_univ _)).trans (by simp [Set.ncard_univ])
  have hfound : found = some (3, true) :=
    (Prod.mk.inj ((hsearch 5 hfuel).symm.trans hrun)).1
  refine ⟨hkeyed, Set.toFinite _, hrun, fun k hk hinn => ?_⟩
  exact (hnearest (3, true) hfound).2 k hk ⟨(k, true), rfl, by simpa [outcome] using hinn⟩

end Search

end LozengeNav
