import LozengeNav.Proofs.Search.Breadth
import LozengeNav.Proofs.Search.Distance

/-! # Layers of a breadth-first search

The queue of a breadth-first search holds keys of one distance and behind them
keys that are one step further away. Each step keeps this, so keys leave the
queue in the order of their distances, and the goal that ends the search is as
near as any goal that is reached.
-/

namespace LozengeNav

namespace Search

variable {α κ : Type}

/-- What holds between two steps at distance `d`: the queue is a layer `near`
at this distance and a layer `far` behind it. All keys up to this distance were
seen, those seen of the next layer wait in `far`, those not yet seen follow a key in
`near`, and no goal has left the queue. -/
structure Layered (edge : κ → κ → Prop) (goal start : κ → Prop) (key : α → κ) (d : Nat)
    (near far : List α) (seen : List κ) : Prop where
  near_at : ∀ a ∈ near, Reached edge start (key a) ∧ distance edge start (key a) = d
  far_at : ∀ a ∈ far, Reached edge start (key a) ∧ distance edge start (key a) = d + 1
  seen_le : ∀ k ∈ seen, distance edge start k ≤ d + 1
  covered : ∀ k, Reached edge start k → distance edge start k ≤ d → k ∈ seen
  ahead : ∀ k, Reached edge start k → distance edge start k = d + 1 →
    k ∈ seen ∨ ∃ a ∈ near, edge (key a) k
  waiting : ∀ k ∈ seen, distance edge start k = d + 1 → ∃ a ∈ far, key a = k
  pending : ∀ k, Reached edge start k → goal k → distance edge start k ≤ d →
    ∃ a ∈ near, key a = k

section Layered

variable {edge : κ → κ → Prop} {goal start : κ → Prop} {key : α → κ} {d : Nat}
  {near far : List α} {seen : List κ}

theorem Layered.advance (h : Layered edge goal start key d [] far seen) :
    Layered edge goal start key (d + 1) far [] seen where
  near_at := h.far_at
  far_at _ ha := absurd ha List.not_mem_nil
  seen_le k hk := by have := h.seen_le k hk; omega
  covered k hk hle := by
    by_cases hd : distance edge start k = d + 1
    · simpa using h.ahead k hk hd
    · exact h.covered k hk (by omega)
  ahead k hk hd := by
    obtain ⟨k', hk', hdist, hedge⟩ := exists_nearer hk hd
    have hseen : k' ∈ seen := by simpa using h.ahead k' hk' hdist
    obtain ⟨a, ha, rfl⟩ := h.waiting k' hseen hdist
    exact .inr ⟨a, ha, hedge⟩
  waiting k hk hd := by have := h.seen_le k hk; omega
  pending k hk hgoal hle := by
    by_cases hd : distance edge start k = d + 1
    · have hseen : k ∈ seen := by simpa using h.ahead k hk hd
      exact h.waiting k hseen hd
    · obtain ⟨a, ha, -⟩ := h.pending k hk hgoal (by omega)
      exact absurd ha List.not_mem_nil

theorem Layered.exists_head {node : α} {queue : List α}
    (h : Layered edge goal start key d near far seen) (hqueue : near ++ far = node :: queue) :
    ∃ n near' far', d ≤ n ∧ queue = near' ++ far' ∧
      Layered edge goal start key n (node :: near') far' seen := by
  cases near with
  | nil =>
      rw [List.nil_append] at hqueue
      subst hqueue
      exact ⟨d + 1, queue, [], Nat.le_succ d, (List.append_nil queue).symm, h.advance⟩
  | cons first near' =>
      rw [List.cons_append, List.cons.injEq] at hqueue
      obtain ⟨rfl, rfl⟩ := hqueue
      exact ⟨d, near', far, Nat.le_refl d, rfl, h⟩

/-- A goal in front of the queue is as near as any goal. -/
theorem Layered.nearest {node : α} (h : Layered edge goal start key d (node :: near) far seen)
    {k : κ} (hk : Reached edge start k) (hgoal : goal k) : d ≤ distance edge start k := by
  by_contra hlt
  obtain ⟨a, ha, rfl⟩ := h.pending k hk hgoal (by omega)
  have := (h.near_at a ha).2
  omega

variable [DecidableEq κ] {expand : α → Bool × List α}

theorem Layered.fresh_at (graph : Presents expand key edge goal) {node : α}
    (hnode : (expand node).1 = false) (hseen : seen.Nodup)
    (h : Layered edge goal start key d (node :: near) far seen) {a : α}
    (ha : a ∈ (fresh key seen (expand node).2).1) :
    Reached edge start (key a) ∧ distance edge start (key a) = d + 1 := by
  obtain ⟨hreached, hdist⟩ := h.near_at node List.mem_cons_self
  have hedge : edge (key node) (key a) :=
    (graph.edge_iff node hnode _).mpr ⟨a, mem_of_mem_fresh ha, rfl⟩
  have hle := distance_le_of_edge hreached hedge
  have hnew : key a ∉ seen := (fresh_nodup key _ hseen).2 _ (List.mem_map_of_mem ha)
  have hgt : ¬ distance edge start (key a) ≤ d :=
    fun hle => hnew (h.covered _ (hreached.step hedge) hle)
  exact ⟨hreached.step hedge, by omega⟩

/-- Expanding a node that is no goal keeps the layers. -/
theorem Layered.step (graph : Presents expand key edge goal) {node : α}
    (hnode : (expand node).1 = false) (hseen : seen.Nodup)
    (h : Layered edge goal start key d (node :: near) far seen) :
    Layered edge goal start key d near (far ++ (fresh key seen (expand node).2).1)
      (fresh key seen (expand node).2).2 where
  near_at a ha := h.near_at a (List.mem_cons_of_mem node ha)
  far_at a ha := by
    rcases List.mem_append.mp ha with ha | ha
    · exact h.far_at a ha
    · exact h.fresh_at graph hnode hseen ha
  seen_le k hk := by
    rcases mem_fresh_seen hk with hk | ⟨a, ha, rfl⟩
    · exact h.seen_le k hk
    · exact (h.fresh_at graph hnode hseen ha).2.le
  covered k hk hle := mem_fresh_seen_of_mem_seen _ (h.covered k hk hle)
  ahead k hk hd := by
    rcases h.ahead k hk hd with hmem | ⟨a, ha, hedge⟩
    · exact .inl (mem_fresh_seen_of_mem_seen _ hmem)
    · rcases List.mem_cons.mp ha with rfl | ha
      · obtain ⟨b, hb, rfl⟩ := (graph.edge_iff a hnode k).mp hedge
        exact .inl (mem_fresh_seen_of_mem seen hb)
      · exact .inr ⟨a, ha, hedge⟩
  waiting k hk hd := by
    rcases mem_fresh_seen hk with hk | ⟨a, ha, rfl⟩
    · obtain ⟨a, ha, hkey⟩ := h.waiting k hk hd
      exact ⟨a, List.mem_append_left _ ha, hkey⟩
    · exact ⟨a, List.mem_append_right far ha, rfl⟩
  pending k hk hgoal hle := by
    obtain ⟨a, ha, rfl⟩ := h.pending k hk hgoal hle
    rcases List.mem_cons.mp ha with rfl | ha
    · rw [← graph.goal_iff, hnode] at hgoal
      exact absurd hgoal Bool.false_ne_true
    · exact ⟨a, ha, rfl⟩

theorem layered_roots (edge : κ → κ → Prop) (goal : κ → Prop) (key : α → κ) (roots : List α) :
    Layered edge goal (Root key roots) key 0 (fresh key [] roots).1 []
      (fresh key [] roots).2 := by
  have hkept : ∀ k, Root key roots k → ∃ a ∈ (fresh key [] roots).1, key a = k := by
    rintro k ⟨a, ha, rfl⟩
    simpa using mem_fresh_seen (mem_fresh_seen_of_mem [] ha)
  have hfirst : ∀ k, Reached edge (Root key roots) k → distance edge (Root key roots) k ≤ 0 →
      ∃ a ∈ (fresh key [] roots).1, key a = k :=
    fun k hk hle => hkept k (start_of_distance hk (Nat.le_zero.mp hle))
  have hroot : ∀ k ∈ (fresh key [] roots).2, Root key roots k := by
    intro k hk
    obtain ⟨a, ha, rfl⟩ : ∃ a ∈ (fresh key [] roots).1, key a = k := by
      simpa using mem_fresh_seen hk
    exact ⟨a, mem_of_mem_fresh ha, rfl⟩
  refine ⟨?_, by simp, ?_, ?_, ?_, ?_, fun k hk _ hle => hfirst k hk hle⟩
  · intro a ha
    have hstart : Root key roots (key a) := ⟨a, mem_of_mem_fresh ha, rfl⟩
    exact ⟨⟨0, .start hstart⟩, distance_of_start hstart⟩
  · intro k hk
    rw [distance_of_start (hroot k hk)]
    exact Nat.zero_le _
  · intro k hk hle
    obtain ⟨a, ha, rfl⟩ := hfirst k hk hle
    exact mem_fresh_seen_of_mem [] (mem_of_mem_fresh ha)
  · intro k hk hd
    obtain ⟨k', hk', hdist, hedge⟩ := exists_nearer hk hd
    obtain ⟨a, ha, rfl⟩ := hfirst k' hk' hdist.le
    exact .inr ⟨a, ha, hedge⟩
  · intro k hk hd
    rw [distance_of_start (hroot k hk)] at hd
    omega

/-! ## The order of a search -/

/-- The nodes that a search looks at, in order: those it expands and the goal. -/
def checked (trace : List α × Option α) : List α :=
  trace.1 ++ trace.2.toList

theorem Layered.checked_sorted (graph : Presents expand key edge goal) (fuel : Nat)
    (hseen : Ready key (near ++ far) seen) (h : Layered edge goal start key d near far seen) :
    (∀ a ∈ checked (breadthTrace expand key fuel (near ++ far) seen),
      Reached edge start (key a) ∧ d ≤ distance edge start (key a)) ∧
    (checked (breadthTrace expand key fuel (near ++ far) seen)).Pairwise
      fun a b => distance edge start (key a) ≤ distance edge start (key b) := by
  induction fuel generalizing d near far seen with
  | zero => cases hqueue : near ++ far <;> simp [breadthTrace, checked]
  | succ fuel ih =>
      cases hqueue : near ++ far with
      | nil => simp [breadthTrace, checked]
      | cons node queue =>
          rw [hqueue] at hseen
          obtain ⟨n, near', far', hle, rfl, hlayer⟩ := h.exists_head hqueue
          obtain ⟨hreached, hdist⟩ := hlayer.near_at node List.mem_cons_self
          cases hnode : (expand node).1 with
          | true => simp [breadthTrace, checked, hnode, hreached, hdist, hle]
          | false =>
              have hready := (hseen.step (expand node).2).1
              rw [List.append_assoc] at hready
              obtain ⟨hfar, hsorted⟩ := ih hready (hlayer.step graph hnode hseen.nodup)
              simp only [breadthTrace, hnode, checked, Bool.false_eq_true, if_false,
                List.cons_append, List.append_assoc] at hfar hsorted ⊢
              refine ⟨List.forall_mem_cons.mpr ⟨⟨hreached, by omega⟩, fun a ha => ?_⟩,
                List.pairwise_cons.mpr ⟨fun a ha => ?_, hsorted⟩⟩
              · exact ⟨(hfar a ha).1, hle.trans (hfar a ha).2⟩
              · rw [hdist]
                exact (hfar a ha).2

theorem Layered.found_nearest (graph : Presents expand key edge goal) {fuel : Nat}
    (hseen : Ready key (near ++ far) seen) (h : Layered edge goal start key d near far seen)
    {a : α} (ha : (breadthTrace expand key fuel (near ++ far) seen).2 = some a) {k : κ}
    (hk : Reached edge start k) (hgoal : goal k) :
    distance edge start (key a) ≤ distance edge start k := by
  induction fuel generalizing d near far seen with
  | zero => cases hqueue : near ++ far <;> simp [breadthTrace, hqueue] at ha
  | succ fuel ih =>
      cases hqueue : near ++ far with
      | nil => simp [breadthTrace, hqueue] at ha
      | cons node queue =>
          rw [hqueue] at hseen ha
          obtain ⟨n, near', far', -, rfl, hlayer⟩ := h.exists_head hqueue
          cases hnode : (expand node).1 with
          | true =>
              simp only [breadthTrace, hnode, if_true, Option.some.injEq] at ha
              subst ha
              rw [(hlayer.near_at node List.mem_cons_self).2]
              exact hlayer.nearest hk hgoal
          | false =>
              have hready := (hseen.step (expand node).2).1
              rw [List.append_assoc] at hready
              refine ih hready (hlayer.step graph hnode hseen.nodup) ?_
              simpa only [breadthTrace, hnode, Bool.false_eq_true, if_false,
                List.append_assoc] using ha

end Layered

end Search

end LozengeNav
