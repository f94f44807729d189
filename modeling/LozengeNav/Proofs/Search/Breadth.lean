import LozengeNav.Proofs.Runs
import LozengeNav.Proofs.Search.Graph
import LozengeNav.Search.Breadth

/-! # What a breadth-first search finds

`breadthTrace` is the search without its monad: the nodes it expands, in order,
and the goal it ends at. A search run on states follows its trace. The trace
expands no key twice and only what is reached. If the keys that can be reached
fit into the fuel, the trace ends at a goal exactly when a goal is reachable from
the roots.
-/

namespace LozengeNav

namespace Search

variable {α κ : Type} [DecidableEq κ]

/-! ## Nodes with new keys -/

theorem fresh_seen (key : α → κ) (seen : List κ) (nodes : List α) :
    (fresh key seen nodes).2 = ((fresh key seen nodes).1.map key).reverse ++ seen := by
  induction nodes generalizing seen with
  | nil => rfl
  | cons a rest ih =>
      by_cases h : key a ∈ seen
      · simp only [fresh, if_pos h]
        exact ih seen
      · simp only [fresh, if_neg h]
        rw [ih (key a :: seen)]
        simp

theorem mem_of_mem_fresh {key : α → κ} {seen : List κ} {nodes : List α} {a : α}
    (h : a ∈ (fresh key seen nodes).1) : a ∈ nodes := by
  induction nodes generalizing seen with
  | nil => exact h
  | cons b rest ih =>
      by_cases hb : key b ∈ seen
      · simp only [fresh, if_pos hb] at h
        exact List.mem_cons_of_mem b (ih h)
      · simp only [fresh, if_neg hb] at h
        rcases List.mem_cons.mp h with rfl | h
        · exact List.mem_cons_self
        · exact List.mem_cons_of_mem b (ih h)

theorem mem_fresh_seen_of_mem_seen {key : α → κ} {seen : List κ} (nodes : List α) {k : κ}
    (h : k ∈ seen) : k ∈ (fresh key seen nodes).2 := by
  rw [fresh_seen]
  exact List.mem_append_right _ h

theorem mem_fresh_seen_of_mem {key : α → κ} (seen : List κ) {nodes : List α} {a : α}
    (h : a ∈ nodes) : key a ∈ (fresh key seen nodes).2 := by
  induction nodes generalizing seen with
  | nil => simp at h
  | cons b rest ih =>
      by_cases hb : key b ∈ seen
      · simp only [fresh, if_pos hb]
        rcases List.mem_cons.mp h with rfl | h
        · exact mem_fresh_seen_of_mem_seen rest hb
        · exact ih seen h
      · simp only [fresh, if_neg hb]
        rcases List.mem_cons.mp h with rfl | h
        · exact mem_fresh_seen_of_mem_seen rest List.mem_cons_self
        · exact ih (key b :: seen) h

theorem mem_fresh_seen {key : α → κ} {seen : List κ} {nodes : List α} {k : κ}
    (h : k ∈ (fresh key seen nodes).2) :
    k ∈ seen ∨ ∃ a ∈ (fresh key seen nodes).1, key a = k := by
  rw [fresh_seen, List.mem_append, List.mem_reverse, List.mem_map] at h
  exact h.symm

theorem nodup_fresh_seen (key : α → κ) {seen : List κ} (nodes : List α) (h : seen.Nodup) :
    (fresh key seen nodes).2.Nodup := by
  induction nodes generalizing seen with
  | nil => exact h
  | cons b rest ih =>
      by_cases hb : key b ∈ seen
      · simp only [fresh, if_pos hb]
        exact ih h
      · simp only [fresh, if_neg hb]
        exact ih (List.nodup_cons.mpr ⟨hb, h⟩)

theorem fresh_nodup (key : α → κ) {seen : List κ} (nodes : List α) (h : seen.Nodup) :
    ((fresh key seen nodes).1.map key).Nodup ∧
      ∀ k ∈ (fresh key seen nodes).1.map key, k ∉ seen := by
  have hseen := nodup_fresh_seen key nodes h
  rw [fresh_seen, List.nodup_append] at hseen
  obtain ⟨hnew, -, hapart⟩ := hseen
  exact ⟨(List.reverse_perm _).nodup_iff.mp hnew, fun k hk hmem => hapart k (List.mem_reverse.mpr hk) k hmem rfl⟩

theorem length_fresh_seen (key : α → κ) (seen : List κ) (nodes : List α) :
    (fresh key seen nodes).2.length = (fresh key seen nodes).1.length + seen.length := by
  rw [fresh_seen]
  simp

/-! ## The trace -/

/-- The nodes that a search from a queue expands, in order, and the goal that
ends it. -/
def breadthTrace (expand : α → Bool × List α) (key : α → κ) :
    Nat → List α → List κ → List α × Option α
  | _, [], _ => ([], none)
  | 0, _ :: _, _ => ([], none)
  | fuel + 1, node :: queue, seen =>
      if (expand node).1 then ([], some node)
      else
        let next := fresh key seen (expand node).2
        let rest := breadthTrace expand key fuel (queue ++ next.1) next.2
        (node :: rest.1, rest.2)

/-- A run of the search follows its trace. Before each node the invariant holds
of the nodes expanded so far; after a goal it does not have to. -/
theorem breadthFrom_runsTo {m : Type → Type} [Monad m] {σ : Type} [Runs m σ]
    {neighbors : α → m (Option (List α))} {isGoal : α → m Bool} {expand : α → Bool × List α}
    (key : α → κ) (inv : List α → σ → Prop)
    (step : ∀ before a s, inv before s → ∃ s₁, RunsTo (isGoal a) s (expand a).1 s₁ ∧
      ((expand a).1 = false → ∃ found s₂, RunsTo (neighbors a) s₁ found s₂ ∧
        found.getD [] = (expand a).2 ∧ inv (before ++ [a]) s₂))
    (fuel : Nat) (queue : List α) (seen : List κ) (before : List α) (s : σ)
    (hs : inv before s) :
    ∃ s₁ s₂, inv (before ++ (breadthTrace expand key fuel queue seen).1) s₁ ∧
      RunsTo (breadthFrom neighbors isGoal key fuel queue seen) s
        (breadthTrace expand key fuel queue seen).2 s₂ ∧
      (∀ a, (breadthTrace expand key fuel queue seen).2 = some a → RunsTo (isGoal a) s₁ true s₂) ∧
      ((breadthTrace expand key fuel queue seen).2 = none → s₂ = s₁) := by
  induction fuel generalizing queue seen before s with
  | zero =>
      cases queue <;> exact ⟨s, s, by simpa [breadthTrace] using hs,
        Runs.pure none s, by simp [breadthTrace]⟩
  | succ fuel ih =>
      cases queue with
      | nil => exact ⟨s, s, by simpa [breadthTrace] using hs,
          Runs.pure none s, by simp [breadthTrace]⟩
      | cons node queue =>
          obtain ⟨s₁, hgoal, hopen⟩ := step before node s hs
          cases hnode : (expand node).1 with
          | true =>
              rw [hnode] at hgoal
              refine ⟨s, s₁, by simpa [breadthTrace, hnode] using hs, ?_, ?_, by
                simp [breadthTrace, hnode]⟩
              · simp only [breadthTrace, hnode, breadthFrom]
                exact Runs.bind hgoal (Runs.pure _ _)
              · intro a ha
                simp only [breadthTrace, hnode, if_true, Option.some.injEq] at ha
                exact ha ▸ hgoal
          | false =>
              rw [hnode] at hgoal
              obtain ⟨found, s₂, hnext, hfound, hinv⟩ := hopen hnode
              let next := fresh key seen (expand node).2
              obtain ⟨s₃, s₄, hend, hrest, hhit, hnone⟩ :=
                ih (queue ++ next.1) next.2 (before ++ [node]) s₂ hinv
              refine ⟨s₃, s₄, by simpa [breadthTrace, hnode] using hend, ?_, ?_, ?_⟩
              · simp only [breadthTrace, hnode, breadthFrom]
                refine Runs.bind hgoal (Runs.bind hnext ?_)
                rw [hfound]
                exact hrest
              · intro a ha
                simp only [breadthTrace, hnode] at ha
                exact hhit a ha
              · intro h
                simp only [breadthTrace, hnode] at h
                exact hnone h

/-! ## What the trace expands -/

/-- A search is ready if its queue and the keys seen hold no key twice and each
key in the queue was seen. -/
structure Ready (key : α → κ) (queue : List α) (seen : List κ) : Prop where
  distinct : (queue.map key).Nodup
  nodup : seen.Nodup
  queued : ∀ a ∈ queue, key a ∈ seen

theorem ready_roots (key : α → κ) (roots : List α) :
    Ready key (fresh key [] roots).1 (fresh key [] roots).2 where
  distinct := (fresh_nodup key roots List.nodup_nil).1
  nodup := nodup_fresh_seen key roots List.nodup_nil
  queued _ ha := mem_fresh_seen_of_mem [] (mem_of_mem_fresh ha)

/-- Expanding a node leaves a ready search, in which its key does not wait again. -/
theorem Ready.step {key : α → κ} {node : α} {queue : List α} {seen : List κ}
    (h : Ready key (node :: queue) seen) (successors : List α) :
    Ready key (queue ++ (fresh key seen successors).1) (fresh key seen successors).2 ∧
      key node ∉ (queue ++ (fresh key seen successors).1).map key := by
  obtain ⟨hnew, hapart⟩ := fresh_nodup key successors h.nodup
  have hdistinct := h.distinct
  rw [List.map_cons, List.nodup_cons] at hdistinct
  refine ⟨⟨?_, nodup_fresh_seen key successors h.nodup, ?_⟩, ?_⟩
  · rw [List.map_append, List.nodup_append]
    refine ⟨hdistinct.2, hnew, ?_⟩
    rintro k hk k' hk' rfl
    obtain ⟨a, ha, rfl⟩ := List.mem_map.mp hk
    exact hapart _ hk' (h.queued a (List.mem_cons_of_mem node ha))
  · intro a ha
    rcases List.mem_append.mp ha with ha | ha
    · exact mem_fresh_seen_of_mem_seen _ (h.queued a (List.mem_cons_of_mem node ha))
    · exact mem_fresh_seen_of_mem seen (mem_of_mem_fresh ha)
  · rw [List.map_append, List.mem_append, not_or]
    exact ⟨hdistinct.1, fun hk => hapart _ hk (h.queued node List.mem_cons_self)⟩

/-- What is expanded waited in the queue or is new, and no key is expanded twice. -/
theorem breadthTrace_nodup (expand : α → Bool × List α) (key : α → κ) {fuel : Nat}
    {queue : List α} {seen : List κ} (h : Ready key queue seen) :
    (∀ a ∈ (breadthTrace expand key fuel queue seen).1, key a ∈ queue.map key ∨ key a ∉ seen) ∧
      ((breadthTrace expand key fuel queue seen).1.map key).Nodup := by
  induction fuel generalizing queue seen with
  | zero => cases queue <;> simp [breadthTrace]
  | succ fuel ih =>
      cases queue with
      | nil => simp [breadthTrace]
      | cons node queue =>
          cases hnode : (expand node).1 with
          | true => simp [breadthTrace, hnode]
          | false =>
              obtain ⟨hnext, hleft⟩ := h.step (expand node).2
              obtain ⟨hfresh, hnodup⟩ := ih hnext
              have hseen := h.queued node List.mem_cons_self
              have hapart := (fresh_nodup key (expand node).2 h.nodup).2
              simp only [breadthTrace, hnode]
              refine ⟨fun a ha => ?_, ?_⟩
              · rcases List.mem_cons.mp ha with rfl | ha
                · exact .inl List.mem_cons_self
                · rcases hfresh a ha with hkey | hkey
                  · rw [List.map_append, List.mem_append] at hkey
                    rcases hkey with hkey | hkey
                    · exact .inl (List.mem_cons_of_mem _ hkey)
                    · exact .inr (hapart _ hkey)
                  · exact .inr fun hk => hkey (mem_fresh_seen_of_mem_seen _ hk)
              · rw [if_neg Bool.false_ne_true, List.map_cons, List.nodup_cons]
                refine ⟨fun hmem => ?_, hnodup⟩
                obtain ⟨a, ha, heq⟩ := List.mem_map.mp hmem
                rcases hfresh a ha with hkey | hkey
                · exact hleft (heq ▸ hkey)
                · exact hkey (heq ▸ mem_fresh_seen_of_mem_seen _ hseen)

/-! ## What the trace ends at -/

variable {expand : α → Bool × List α} {key : α → κ} {edge : κ → κ → Prop} {goal : κ → Prop}

/-- The search ends at goals that are reached from its queue, whatever its fuel. -/
theorem breadthTrace_sound (graph : Presents expand key edge goal) {fuel : Nat}
    {queue : List α} {seen : List κ} {a : α}
    (h : (breadthTrace expand key fuel queue seen).2 = some a) :
    goal (key a) ∧ ∃ root ∈ queue, Relation.ReflTransGen edge (key root) (key a) := by
  induction fuel generalizing queue seen with
  | zero => cases queue <;> simp [breadthTrace] at h
  | succ fuel ih =>
      cases queue with
      | nil => simp [breadthTrace] at h
      | cons node queue =>
          cases hnode : (expand node).1 with
          | true =>
              simp only [breadthTrace, hnode, if_true, Option.some.injEq] at h
              subst h
              exact ⟨(graph.goal_iff node).mp hnode, node, List.mem_cons_self, .refl⟩
          | false =>
              simp only [breadthTrace, hnode] at h
              obtain ⟨hgoal, root, hroot, hreach⟩ := ih h
              refine ⟨hgoal, ?_⟩
              rcases List.mem_append.mp hroot with hroot | hroot
              · exact ⟨root, List.mem_cons_of_mem node hroot, hreach⟩
              · have hedge : edge (key node) (key root) :=
                  (graph.edge_iff node hnode _).mpr ⟨root, mem_of_mem_fresh hroot, rfl⟩
                exact ⟨node, List.mem_cons_self, .head hedge hreach⟩

theorem breadthTrace_reached (graph : Presents expand key edge goal) {fuel : Nat}
    {queue : List α} {seen : List κ} {a : α}
    (h : a ∈ (breadthTrace expand key fuel queue seen).1) :
    ∃ root ∈ queue, Relation.ReflTransGen edge (key root) (key a) := by
  induction fuel generalizing queue seen with
  | zero => cases queue <;> simp [breadthTrace] at h
  | succ fuel ih =>
      cases queue with
      | nil => simp [breadthTrace] at h
      | cons node queue =>
          cases hnode : (expand node).1 with
          | true => simp [breadthTrace, hnode] at h
          | false =>
              simp only [breadthTrace, hnode] at h
              rcases List.mem_cons.mp h with rfl | h
              · exact ⟨a, List.mem_cons_self, .refl⟩
              · obtain ⟨root, hroot, hreach⟩ := ih h
                rcases List.mem_append.mp hroot with hroot | hroot
                · exact ⟨root, List.mem_cons_of_mem node hroot, hreach⟩
                · have hedge : edge (key node) (key root) :=
                    (graph.edge_iff node hnode _).mpr ⟨root, mem_of_mem_fresh hroot, rfl⟩
                  exact ⟨node, List.mem_cons_self, .head hedge hreach⟩

/-- What holds between two steps: each key seen waits in the queue or is settled,
and the fuel covers the queue and all keys that are still unseen. -/
structure Waiting (edge : κ → κ → Prop) (goal : κ → Prop) (key : α → κ) (keys : List κ)
    (fuel : Nat) (queue : List α) (seen : List κ) : Prop where
  nodup : seen.Nodup
  within : ∀ k ∈ seen, k ∈ keys
  queued : ∀ a ∈ queue, key a ∈ seen
  settled : ∀ k ∈ seen, (∃ a ∈ queue, key a = k) ∨ ¬ goal k ∧ ∀ k', edge k k' → k' ∈ seen
  enough : keys.length + queue.length ≤ fuel + seen.length

/-- Expanding a node that is no goal keeps the invariant. -/
theorem Waiting.step (graph : Presents expand key edge goal) {keys : List κ}
    (closed : ∀ k ∈ keys, ∀ k', edge k k' → k' ∈ keys) {fuel : Nat} {node : α}
    {queue : List α} {seen : List κ} (hnode : (expand node).1 = false)
    (h : Waiting edge goal key keys (fuel + 1) (node :: queue) seen) :
    Waiting edge goal key keys fuel (queue ++ (fresh key seen (expand node).2).1)
      (fresh key seen (expand node).2).2 := by
  have hgoal : ¬ goal (key node) := by
    rw [← graph.goal_iff, hnode]
    exact Bool.false_ne_true
  have hkept : ∀ a ∈ (fresh key seen (expand node).2).1, edge (key node) (key a) :=
    fun a ha => (graph.edge_iff node hnode _).mpr ⟨a, mem_of_mem_fresh ha, rfl⟩
  have hnodekeys := h.within _ (h.queued node List.mem_cons_self)
  refine ⟨nodup_fresh_seen key _ h.nodup, ?_, ?_, ?_, ?_⟩
  · intro k hk
    rcases mem_fresh_seen hk with hk | ⟨a, ha, rfl⟩
    · exact h.within k hk
    · exact closed _ hnodekeys _ (hkept a ha)
  · intro a ha
    rcases List.mem_append.mp ha with ha | ha
    · exact mem_fresh_seen_of_mem_seen _ (h.queued a (List.mem_cons_of_mem node ha))
    · exact mem_fresh_seen_of_mem seen (mem_of_mem_fresh ha)
  · intro k hk
    rcases mem_fresh_seen hk with hk | ⟨a, ha, rfl⟩
    · rcases h.settled k hk with ⟨a, ha, rfl⟩ | ⟨hk, hedges⟩
      · rcases List.mem_cons.mp ha with rfl | ha
        · refine .inr ⟨hgoal, fun k' hedge => ?_⟩
          obtain ⟨b, hb, rfl⟩ := (graph.edge_iff a hnode k').mp hedge
          exact mem_fresh_seen_of_mem seen hb
        · exact .inl ⟨a, List.mem_append_left _ ha, rfl⟩
      · exact .inr ⟨hk, fun k' hedge => mem_fresh_seen_of_mem_seen _ (hedges k' hedge)⟩
    · exact .inl ⟨a, List.mem_append_right _ ha, rfl⟩
  · have henough := h.enough
    rw [List.length_cons] at henough
    rw [List.length_append, length_fresh_seen]
    omega

/-- A search that ends without a goal has enclosed everything it has seen in a
closed set without goals. -/
theorem Waiting.exhausted (graph : Presents expand key edge goal) {keys : List κ}
    (closed : ∀ k ∈ keys, ∀ k', edge k k' → k' ∈ keys) {fuel : Nat} {queue : List α}
    {seen : List κ} (h : Waiting edge goal key keys fuel queue seen)
    (hnone : (breadthTrace expand key fuel queue seen).2 = none) :
    ∃ final : List κ, (∀ k ∈ seen, k ∈ final) ∧
      ∀ k ∈ final, ¬ goal k ∧ ∀ k', edge k k' → k' ∈ final := by
  induction fuel generalizing queue seen with
  | zero =>
      have hle := length_le_of_within h.nodup h.within
      have henough := h.enough
      have hqueue : queue = [] := List.eq_nil_of_length_eq_zero (by omega)
      subst hqueue
      exact ⟨seen, fun k hk => hk, fun k hk => by simpa using h.settled k hk⟩
  | succ fuel ih =>
      cases queue with
      | nil => exact ⟨seen, fun k hk => hk, fun k hk => by simpa using h.settled k hk⟩
      | cons node queue =>
          cases hnode : (expand node).1 with
          | true => simp [breadthTrace, hnode] at hnone
          | false =>
              simp only [breadthTrace, hnode] at hnone
              obtain ⟨final, hsub, hfinal⟩ := ih (h.step graph closed hnode) hnone
              exact ⟨final, fun k hk => hsub k (mem_fresh_seen_of_mem_seen _ hk), hfinal⟩

theorem waiting_roots (edge : κ → κ → Prop) (goal : κ → Prop) {keys : List κ} {roots : List α}
    (within : ∀ a ∈ roots, key a ∈ keys) {fuel : Nat} (enough : keys.length ≤ fuel) :
    Waiting edge goal key keys fuel (fresh key [] roots).1 (fresh key [] roots).2 := by
  refine ⟨nodup_fresh_seen key roots List.nodup_nil, ?_, ?_, ?_, ?_⟩
  · intro k hk
    rcases mem_fresh_seen hk with hk | ⟨a, ha, rfl⟩
    · simp at hk
    · exact within a (mem_of_mem_fresh ha)
  · exact fun a ha => mem_fresh_seen_of_mem [] (mem_of_mem_fresh ha)
  · intro k hk
    rcases mem_fresh_seen hk with hk | hk
    · simp at hk
    · exact .inl hk
  · rw [length_fresh_seen]
    simp only [List.length_nil]
    omega

/-- With as much fuel as there are keys, the search ends at a goal exactly when
one is reachable from a root. -/
theorem breadthTrace_roots_iff (graph : Presents expand key edge goal) {keys : List κ}
    (closed : ∀ k ∈ keys, ∀ k', edge k k' → k' ∈ keys) {roots : List α}
    (within : ∀ a ∈ roots, key a ∈ keys) {fuel : Nat} (enough : keys.length ≤ fuel) :
    (breadthTrace expand key fuel (fresh key [] roots).1 (fresh key [] roots).2).2.isSome = true ↔
      ∃ root ∈ roots, ∃ k, Relation.ReflTransGen edge (key root) k ∧ goal k := by
  constructor
  · intro h
    obtain ⟨a, ha⟩ := Option.isSome_iff_exists.mp h
    obtain ⟨hgoal, root, hroot, hreach⟩ := breadthTrace_sound graph ha
    exact ⟨root, mem_of_mem_fresh hroot, key a, hreach, hgoal⟩
  · rintro ⟨root, hroot, k, hreach, hgoal⟩
    by_contra hnone
    rw [Bool.not_eq_true, Option.isSome_eq_false_iff, Option.isNone_iff_eq_none] at hnone
    obtain ⟨final, hsub, hfinal⟩ :=
      (waiting_roots edge goal within enough).exhausted graph closed hnone
    have hmem := hsub _ (mem_fresh_seen_of_mem [] hroot)
    exact no_goal_of_closed (· ∈ final) hfinal hmem hreach hgoal

end Search

end LozengeNav
