import LozengeNav.Proofs.Search.Graph
import Mathlib.Data.Set.Card
import Mathlib.Order.Lattice.Nat

/-! # Distances on keys

The distance of a key is the length of a shortest walk to it. A key at a positive
distance has a predecessor one step nearer, and an edge leads at most one step
further away.
-/

namespace LozengeNav

namespace Search

variable {α κ : Type}

/-! ## Graphs of searches -/

/-- Nodes with one key agree on whether they end a search and on the keys of what
comes next. -/
structure Keyed (expand : α → Bool × List α) (key : α → κ) : Prop where
  goal : ∀ a b, key a = key b → (expand a).1 = (expand b).1
  next : ∀ a b, key a = key b → ∀ c ∈ (expand a).2, ∃ d ∈ (expand b).2, key d = key c

def Goal (expand : α → Bool × List α) (key : α → κ) (k : κ) : Prop :=
  ∃ a, key a = k ∧ (expand a).1 = true

/-- One key leads to another if a node of the one comes next to a node of the other. -/
def Edge (expand : α → Bool × List α) (key : α → κ) (k k' : κ) : Prop :=
  ∃ a, key a = k ∧ ∃ b ∈ (expand a).2, key b = k'

/-- An edge from a key that does not end a search. -/
def OpenEdge (expand : α → Bool × List α) (key : α → κ) (k k' : κ) : Prop :=
  ∃ a, key a = k ∧ (expand a).1 = false ∧ ∃ b ∈ (expand a).2, key b = k'

def Root (key : α → κ) (roots : List α) (k : κ) : Prop :=
  ∃ a ∈ roots, key a = k

section Keyed

variable {expand : α → Bool × List α} {key : α → κ}

theorem Keyed.goal_iff (h : Keyed expand key) (a : α) :
    (expand a).1 = true ↔ Goal expand key (key a) :=
  ⟨fun ha => ⟨a, rfl, ha⟩, fun ⟨b, hkey, hb⟩ => by rw [← h.goal b a hkey, hb]⟩

theorem Keyed.edge_iff (h : Keyed expand key) (a : α) (k : κ) :
    Edge expand key (key a) k ↔ ∃ b ∈ (expand a).2, key b = k := by
  constructor
  · rintro ⟨b, hkey, c, hc, rfl⟩
    exact h.next b a hkey c hc
  · intro hnext
    exact ⟨a, rfl, hnext⟩

theorem Keyed.presents (h : Keyed expand key) :
    Presents expand key (Edge expand key) (Goal expand key) :=
  ⟨h.goal_iff, fun a _ k => h.edge_iff a k⟩

theorem Keyed.presents_open (h : Keyed expand key) :
    Presents expand key (OpenEdge expand key) (Goal expand key) := by
  refine ⟨h.goal_iff, fun a ha k => ?_⟩
  constructor
  · rintro ⟨b, hkey, -, c, hc, rfl⟩
    exact h.next b a hkey c hc
  · intro hnext
    exact ⟨a, rfl, ha, hnext⟩

end Keyed

/-! ## Walks -/

/-- A walk of some length along edges ends at a key. -/
inductive Walk (edge : κ → κ → Prop) (start : κ → Prop) : Nat → κ → Prop
  | start {k : κ} (h : start k) : Walk edge start 0 k
  | step {n : Nat} {k k' : κ} (h : Walk edge start n k) (hedge : edge k k') :
      Walk edge start (n + 1) k'

def Reached (edge : κ → κ → Prop) (start : κ → Prop) (k : κ) : Prop :=
  ∃ n, Walk edge start n k

/-- The length of a shortest walk to a key. -/
noncomputable def distance (edge : κ → κ → Prop) (start : κ → Prop) (k : κ) : Nat :=
  sInf {n | Walk edge start n k}

/-- The keys that are reached from some roots. -/
def reachable (expand : α → Bool × List α) (key : α → κ) (roots : List α) : Set κ :=
  {k | Reached (Edge expand key) (Root key roots) k}

/-- How far a key is from the nearest of some roots. -/
noncomputable def depth (expand : α → Bool × List α) (key : α → κ) (roots : List α) (k : κ) : Nat :=
  distance (Edge expand key) (Root key roots) k

section Walk

variable {edge : κ → κ → Prop} {start : κ → Prop} {k k' : κ} {n : Nat}

theorem Reached.step (h : Reached edge start k) (hedge : edge k k') : Reached edge start k' := by
  obtain ⟨n, hn⟩ := h
  exact ⟨n + 1, hn.step hedge⟩

theorem Walk.reflTransGen (h : Walk edge start n k) :
    ∃ root, start root ∧ Relation.ReflTransGen edge root k := by
  induction h with
  | start h => exact ⟨_, h, .refl⟩
  | step _ hedge ih =>
      obtain ⟨root, hroot, hreach⟩ := ih
      exact ⟨root, hroot, hreach.tail hedge⟩

theorem reached_iff :
    Reached edge start k ↔ ∃ root, start root ∧ Relation.ReflTransGen edge root k := by
  constructor
  · rintro ⟨n, hn⟩
    exact hn.reflTransGen
  · rintro ⟨root, hroot, hreach⟩
    induction hreach with
    | refl => exact ⟨0, .start hroot⟩
    | tail _ hedge ih => exact ih.step hedge

theorem exists_keys {set : Set κ} (hfinite : set.Finite)
    (closed : ∀ k ∈ set, ∀ k', edge k k' → k' ∈ set) :
    ∃ keys : List κ, keys.length = set.ncard ∧ (∀ k ∈ set, k ∈ keys) ∧
      ∀ k ∈ keys, ∀ k', edge k k' → k' ∈ keys := by
  refine ⟨hfinite.toFinset.toList, ?_, fun k hk => by simpa using hk, fun k hk k' hedge => ?_⟩
  · rw [Finset.length_toList, Set.ncard_eq_toFinset_card set hfinite]
  · simpa using closed k (by simpa using hk) k' hedge

theorem walk_distance (h : Reached edge start k) : Walk edge start (distance edge start k) k :=
  Nat.sInf_mem (s := {n | Walk edge start n k}) h

theorem Walk.distance_le (h : Walk edge start n k) : distance edge start k ≤ n :=
  Nat.sInf_le h

theorem distance_of_start (h : start k) : distance edge start k = 0 :=
  Nat.le_zero.mp (Walk.start h).distance_le

theorem start_of_distance (h : Reached edge start k) (hzero : distance edge start k = 0) :
    start k := by
  have hwalk := walk_distance h
  rw [hzero] at hwalk
  cases hwalk with
  | start hk => exact hk

theorem distance_le_of_edge (h : Reached edge start k) (hedge : edge k k') :
    distance edge start k' ≤ distance edge start k + 1 :=
  ((walk_distance h).step hedge).distance_le

theorem exists_nearer (h : Reached edge start k) (hn : distance edge start k = n + 1) :
    ∃ k', Reached edge start k' ∧ distance edge start k' = n ∧ edge k' k := by
  have hwalk := walk_distance h
  rw [hn] at hwalk
  cases hwalk with
  | @step m k' k hwalk hedge =>
      have hreached : Reached edge start k' := ⟨n, hwalk⟩
      have hle := distance_le_of_edge hreached hedge
      have hge := hwalk.distance_le
      exact ⟨k', hreached, by omega, hedge⟩

end Walk

end Search

end LozengeNav
