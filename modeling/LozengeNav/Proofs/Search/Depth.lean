import LozengeNav.Proofs.Runs
import LozengeNav.Proofs.Search.Graph
import LozengeNav.Search.Depth

/-! # What a depth-first search finds

`depthTrace` is the search without its monad: the nodes it opens, in order, and
whether the last of them ended it. A search run on states follows its trace. The
trace opens no key twice and only what is reached. If the keys that can be
reached fit into the fuel, the trace ends at a goal exactly when a goal is
reachable from the root.
-/

namespace LozengeNav

namespace Search

variable {α κ : Type} [DecidableEq κ]

/-! ## The trace -/

/-- The nodes that a search from a stack opens, in order, and whether the last
one is a goal. -/
def depthTrace (expand : α → Bool × List α) (key : α → κ) (fuel : Nat) (stack : List α)
    (seen : List κ) : List α × Bool :=
  match stack with
  | [] => ([], false)
  | node :: stack =>
      if key node ∈ seen then depthTrace expand key fuel stack seen
      else
        match fuel with
        | 0 => ([], false)
        | fuel + 1 =>
            if (expand node).1 then ([node], true)
            else
              let rest := depthTrace expand key fuel ((expand node).2 ++ stack) (key node :: seen)
              (node :: rest.1, rest.2)
termination_by (fuel, stack.length)

section Equations

variable {expand : α → Bool × List α} {key : α → κ} {node : α} {stack : List α} {seen : List κ}

@[simp] theorem depthTrace_nil (fuel : Nat) : depthTrace expand key fuel [] seen = ([], false) := by
  rw [depthTrace.eq_def]

theorem depthTrace_of_seen (fuel : Nat) (h : key node ∈ seen) :
    depthTrace expand key fuel (node :: stack) seen = depthTrace expand key fuel stack seen := by
  rw [depthTrace.eq_def]
  exact if_pos h

theorem depthTrace_zero (h : key node ∉ seen) :
    depthTrace expand key 0 (node :: stack) seen = ([], false) := by
  rw [depthTrace, if_neg h]

theorem depthTrace_goal (fuel : Nat) (h : key node ∉ seen) (hgoal : (expand node).1 = true) :
    depthTrace expand key (fuel + 1) (node :: stack) seen = ([node], true) := by
  rw [depthTrace, if_neg h]
  simp [hgoal]

theorem depthTrace_open (fuel : Nat) (h : key node ∉ seen) (hgoal : (expand node).1 = false) :
    depthTrace expand key (fuel + 1) (node :: stack) seen =
      (node :: (depthTrace expand key fuel ((expand node).2 ++ stack) (key node :: seen)).1,
        (depthTrace expand key fuel ((expand node).2 ++ stack) (key node :: seen)).2) := by
  rw [depthTrace, if_neg h]
  simp [hgoal]

end Equations

/-- A run of the search follows its trace. Before and after each node the
invariant holds of the nodes opened so far. -/
theorem depthFrom_runsTo {m : Type → Type} [Monad m] {σ : Type} [Runs m σ]
    {openNode : α → m (Bool × List α)} {expand : α → Bool × List α} (key : α → κ)
    (inv : List α → σ → Prop)
    (step : ∀ before a s, inv before s →
      ∃ s', RunsTo (openNode a) s (expand a) s' ∧ inv (before ++ [a]) s')
    (fuel : Nat) (stack : List α) (seen : List κ) (before : List α) (s : σ)
    (hs : inv before s) :
    ∃ s', RunsTo (depthFrom openNode key fuel stack seen) s
      (depthTrace expand key fuel stack seen).2 s' ∧
      inv (before ++ (depthTrace expand key fuel stack seen).1) s' := by
  induction fuel, stack, seen using depthTrace.induct expand key
    generalizing before s with
  | case1 fuel seen =>
      rw [depthFrom.eq_def, depthTrace_nil]
      exact ⟨s, Runs.pure false s, by simpa using hs⟩
  | case2 fuel seen node stack hseen ih =>
      obtain ⟨s', hrun, hinv⟩ := ih before s hs
      rw [depthFrom.eq_def, depthTrace_of_seen fuel hseen]
      exact ⟨s', by simpa [hseen] using hrun, hinv⟩
  | case3 seen node stack hseen =>
      rw [depthFrom, if_neg hseen, depthTrace_zero hseen]
      exact ⟨s, Runs.pure false s, by simpa using hs⟩
  | case4 seen node stack hseen fuel hgoal =>
      obtain ⟨s', hrun, hinv⟩ := step before node s hs
      rw [depthFrom, if_neg hseen, depthTrace_goal fuel hseen hgoal]
      refine ⟨s', Runs.bind hrun ?_, hinv⟩
      simp only [hgoal, if_true]
      exact Runs.pure true s'
  | case5 seen node stack hseen fuel hgoal ih =>
      rw [Bool.not_eq_true] at hgoal
      obtain ⟨s₁, hrun, hinv⟩ := step before node s hs
      obtain ⟨s₂, hrest, hend⟩ := ih (before ++ [node]) s₁ hinv
      rw [depthFrom, if_neg hseen, depthTrace_open fuel hseen hgoal]
      refine ⟨s₂, Runs.bind hrun ?_, by simpa using hend⟩
      simp only [hgoal]
      exact hrest

/-! ## What the trace opens -/

theorem depthTrace_nodup (expand : α → Bool × List α) (key : α → κ) (fuel : Nat) (stack : List α)
    (seen : List κ) :
    (∀ a ∈ (depthTrace expand key fuel stack seen).1, key a ∉ seen) ∧
      ((depthTrace expand key fuel stack seen).1.map key).Nodup := by
  induction fuel, stack, seen using depthTrace.induct expand key with
  | case1 fuel seen => simp
  | case2 fuel seen node stack hseen ih =>
      rw [depthTrace_of_seen fuel hseen]
      exact ih
  | case3 seen node stack hseen => simp [depthTrace_zero hseen]
  | case4 seen node stack hseen fuel hgoal => simp [depthTrace_goal fuel hseen hgoal, hseen]
  | case5 seen node stack hseen fuel hgoal ih =>
      rw [Bool.not_eq_true] at hgoal
      obtain ⟨hfresh, hnodup⟩ := ih
      rw [depthTrace_open fuel hseen hgoal]
      constructor
      · intro a ha
        rcases List.mem_cons.mp ha with rfl | ha
        · exact hseen
        · exact fun h => hfresh a ha (List.mem_cons_of_mem _ h)
      · rw [List.map_cons, List.nodup_cons]
        refine ⟨fun h => ?_, hnodup⟩
        obtain ⟨a, ha, heq⟩ := List.mem_map.mp h
        exact hfresh a ha (heq ▸ List.mem_cons_self)

/-! ## Whether the trace ends at a goal -/

variable {expand : α → Bool × List α} {key : α → κ} {edge : κ → κ → Prop} {goal : κ → Prop}

/-- The search ends at goals that are reached from its stack, whatever its fuel. -/
theorem depthTrace_sound (graph : Presents expand key edge goal) {fuel : Nat} {stack : List α}
    {seen : List κ} (h : (depthTrace expand key fuel stack seen).2 = true) :
    ∃ root ∈ stack, ∃ k, Relation.ReflTransGen edge (key root) k ∧ goal k := by
  induction fuel, stack, seen using depthTrace.induct expand key with
  | case1 fuel seen => simp at h
  | case2 fuel seen node stack hseen ih =>
      rw [depthTrace_of_seen fuel hseen] at h
      obtain ⟨root, hroot, hreach⟩ := ih h
      exact ⟨root, List.mem_cons_of_mem node hroot, hreach⟩
  | case3 seen node stack hseen => simp [depthTrace_zero hseen] at h
  | case4 seen node stack hseen fuel hgoal =>
      exact ⟨node, List.mem_cons_self, key node, .refl, (graph.goal_iff node).mp hgoal⟩
  | case5 seen node stack hseen fuel hgoal ih =>
      rw [Bool.not_eq_true] at hgoal
      rw [depthTrace_open fuel hseen hgoal] at h
      obtain ⟨root, hroot, k, hreach, hk⟩ := ih h
      rcases List.mem_append.mp hroot with hroot | hroot
      · have hedge : edge (key node) (key root) :=
          (graph.edge_iff node hgoal _).mpr ⟨root, hroot, rfl⟩
        exact ⟨node, List.mem_cons_self, k, .head hedge hreach, hk⟩
      · exact ⟨root, List.mem_cons_of_mem node hroot, k, hreach, hk⟩

theorem depthTrace_reached (graph : Presents expand key edge goal) {fuel : Nat} {stack : List α}
    {seen : List κ} {a : α} (h : a ∈ (depthTrace expand key fuel stack seen).1) :
    ∃ root ∈ stack, Relation.ReflTransGen edge (key root) (key a) := by
  induction fuel, stack, seen using depthTrace.induct expand key with
  | case1 fuel seen => simp at h
  | case2 fuel seen node stack hseen ih =>
      rw [depthTrace_of_seen fuel hseen] at h
      obtain ⟨root, hroot, hreach⟩ := ih h
      exact ⟨root, List.mem_cons_of_mem node hroot, hreach⟩
  | case3 seen node stack hseen => simp [depthTrace_zero hseen] at h
  | case4 seen node stack hseen fuel hgoal =>
      rw [depthTrace_goal fuel hseen hgoal, List.mem_singleton] at h
      exact ⟨node, List.mem_cons_self, h ▸ .refl⟩
  | case5 seen node stack hseen fuel hgoal ih =>
      rw [Bool.not_eq_true] at hgoal
      rw [depthTrace_open fuel hseen hgoal] at h
      rcases List.mem_cons.mp h with rfl | h
      · exact ⟨a, List.mem_cons_self, .refl⟩
      · obtain ⟨root, hroot, hreach⟩ := ih h
        rcases List.mem_append.mp hroot with hroot | hroot
        · have hedge : edge (key node) (key root) :=
            (graph.edge_iff node hgoal _).mpr ⟨root, hroot, rfl⟩
          exact ⟨node, List.mem_cons_self, .head hedge hreach⟩
        · exact ⟨root, List.mem_cons_of_mem node hroot, hreach⟩

/-- What holds between two steps: what a key seen leads to was seen or waits on
the stack, and the fuel covers all keys that are still unseen. -/
structure Stacked (edge : κ → κ → Prop) (goal : κ → Prop) (key : α → κ) (keys : List κ)
    (fuel : Nat) (stack : List α) (seen : List κ) : Prop where
  nodup : seen.Nodup
  within : ∀ k ∈ seen, k ∈ keys
  stacked : ∀ a ∈ stack, key a ∈ keys
  settled : ∀ k ∈ seen, ¬ goal k ∧ ∀ k', edge k k' → k' ∈ seen ∨ ∃ a ∈ stack, key a = k'
  enough : keys.length ≤ fuel + seen.length

omit [DecidableEq κ] in
theorem Stacked.skip {keys : List κ} {fuel : Nat} {node : α} {stack : List α} {seen : List κ}
    (hseen : key node ∈ seen) (h : Stacked edge goal key keys fuel (node :: stack) seen) :
    Stacked edge goal key keys fuel stack seen := by
  refine ⟨h.nodup, h.within, fun a ha => h.stacked a (List.mem_cons_of_mem node ha), ?_, h.enough⟩
  intro k hk
  refine ⟨(h.settled k hk).1, fun k' hedge => ?_⟩
  rcases (h.settled k hk).2 k' hedge with hk' | ⟨a, ha, rfl⟩
  · exact .inl hk'
  · rcases List.mem_cons.mp ha with rfl | ha
    · exact .inl hseen
    · exact .inr ⟨a, ha, rfl⟩

omit [DecidableEq κ] in
theorem Stacked.length_lt {keys : List κ} {fuel : Nat} {node : α} {stack : List α}
    {seen : List κ} (hseen : key node ∉ seen)
    (h : Stacked edge goal key keys fuel (node :: stack) seen) : seen.length < keys.length := by
  have hle : (key node :: seen).length ≤ keys.length := by
    refine length_le_of_within (List.nodup_cons.mpr ⟨hseen, h.nodup⟩) fun k hk => ?_
    rcases List.mem_cons.mp hk with rfl | hk
    · exact h.stacked node List.mem_cons_self
    · exact h.within k hk
  exact hle

omit [DecidableEq κ] in
theorem Stacked.step (graph : Presents expand key edge goal) {keys : List κ}
    (closed : ∀ k ∈ keys, ∀ k', edge k k' → k' ∈ keys) {fuel : Nat} {node : α}
    {stack : List α} {seen : List κ} (hseen : key node ∉ seen) (hgoal : (expand node).1 = false)
    (h : Stacked edge goal key keys (fuel + 1) (node :: stack) seen) :
    Stacked edge goal key keys fuel ((expand node).2 ++ stack) (key node :: seen) := by
  have hkeys := h.stacked node List.mem_cons_self
  refine ⟨List.nodup_cons.mpr ⟨hseen, h.nodup⟩, ?_, ?_, ?_, ?_⟩
  · intro k hk
    rcases List.mem_cons.mp hk with rfl | hk
    · exact hkeys
    · exact h.within k hk
  · intro a ha
    rcases List.mem_append.mp ha with ha | ha
    · exact closed _ hkeys _ ((graph.edge_iff node hgoal _).mpr ⟨a, ha, rfl⟩)
    · exact h.stacked a (List.mem_cons_of_mem node ha)
  · intro k hk
    rcases List.mem_cons.mp hk with rfl | hk
    · refine ⟨?_, fun k' hedge => ?_⟩
      · rw [← graph.goal_iff, hgoal]
        exact Bool.false_ne_true
      · obtain ⟨b, hb, rfl⟩ := (graph.edge_iff node hgoal k').mp hedge
        exact .inr ⟨b, List.mem_append_left stack hb, rfl⟩
    · refine ⟨(h.settled k hk).1, fun k' hedge => ?_⟩
      rcases (h.settled k hk).2 k' hedge with hk' | ⟨a, ha, rfl⟩
      · exact .inl (List.mem_cons_of_mem _ hk')
      · rcases List.mem_cons.mp ha with rfl | ha
        · exact .inl List.mem_cons_self
        · exact .inr ⟨a, List.mem_append_right _ ha, rfl⟩
  · have henough := h.enough
    rw [List.length_cons]
    omega

/-- A search that ends without a goal has enclosed its stack and everything it
has seen in a closed set without goals. -/
theorem Stacked.exhausted (graph : Presents expand key edge goal) {keys : List κ}
    (closed : ∀ k ∈ keys, ∀ k', edge k k' → k' ∈ keys) {fuel : Nat} {stack : List α}
    {seen : List κ} (h : Stacked edge goal key keys fuel stack seen)
    (hnone : (depthTrace expand key fuel stack seen).2 = false) :
    ∃ final : List κ, (∀ k ∈ seen, k ∈ final) ∧ (∀ a ∈ stack, key a ∈ final) ∧
      ∀ k ∈ final, ¬ goal k ∧ ∀ k', edge k k' → k' ∈ final := by
  induction fuel, stack, seen using depthTrace.induct expand key with
  | case1 fuel seen =>
      exact ⟨seen, fun k hk => hk, by simp, fun k hk => by simpa using h.settled k hk⟩
  | case2 fuel seen node stack hseen ih =>
      rw [depthTrace_of_seen fuel hseen] at hnone
      obtain ⟨final, hsub, hstack, hfinal⟩ := ih (h.skip hseen) hnone
      refine ⟨final, hsub, fun a ha => ?_, hfinal⟩
      rcases List.mem_cons.mp ha with rfl | ha
      · exact hsub _ hseen
      · exact hstack a ha
  | case3 seen node stack hseen =>
      have hlt := h.length_lt hseen
      have henough := h.enough
      omega
  | case4 seen node stack hseen fuel hgoal => simp [depthTrace_goal fuel hseen hgoal] at hnone
  | case5 seen node stack hseen fuel hgoal ih =>
      rw [Bool.not_eq_true] at hgoal
      rw [depthTrace_open fuel hseen hgoal] at hnone
      obtain ⟨final, hsub, hstack, hfinal⟩ := ih (h.step graph closed hseen hgoal) hnone
      refine ⟨final, fun k hk => hsub k (List.mem_cons_of_mem _ hk), fun a ha => ?_, hfinal⟩
      rcases List.mem_cons.mp ha with rfl | ha
      · exact hsub _ List.mem_cons_self
      · exact hstack a (List.mem_append_right _ ha)

/-- With as much fuel as there are keys, the search ends at a goal exactly when
one is reachable from the root. -/
theorem depthTrace_root_iff (graph : Presents expand key edge goal) {keys : List κ}
    (closed : ∀ k ∈ keys, ∀ k', edge k k' → k' ∈ keys) {root : α} (within : key root ∈ keys)
    {fuel : Nat} (enough : keys.length ≤ fuel) :
    (depthTrace expand key fuel [root] []).2 = true ↔
      ∃ k, Relation.ReflTransGen edge (key root) k ∧ goal k := by
  constructor
  · intro h
    obtain ⟨a, ha, hreach⟩ := depthTrace_sound graph h
    exact List.mem_singleton.mp ha ▸ hreach
  · rintro ⟨k, hreach, hgoal⟩
    by_contra hnone
    rw [Bool.not_eq_true] at hnone
    have hstart : Stacked edge goal key keys fuel [root] [] :=
      ⟨List.nodup_nil, by simp, by simpa using within, by simp, by simpa using enough⟩
    obtain ⟨final, -, hstack, hfinal⟩ := hstart.exhausted graph closed hnone
    have hmem := hstack root List.mem_cons_self
    exact no_goal_of_closed (· ∈ final) hfinal hmem hreach hgoal

end Search

end LozengeNav
