import LozengeNav.Proofs.Search.Distance
import LozengeNav.Proofs.Search.Record
import Mathlib.Data.Finset.Card

/-! # Depth-first search is a recursive walk

The walk by recursion opens a node, walks through what comes next and goes on behind
it; it leaves out keys that were opened anywhere before, and it is over with the
first goal. On finitely many keys it ends, and the search with a stack opens the
same nodes in the same order: what waits on the stack is what the recursion has yet
to come back to.
-/

namespace LozengeNav

namespace Search

variable {α κ : Type}

/-! ## The walk -/

/-- The walk through `nodes` when `seen` was opened before: the nodes it opens, in order,
whether it is over with a goal, and what was opened then. -/
inductive Tour (expand : α → Bool × List α) (key : α → κ) :
    List α → List κ → List α → Bool → List κ → Prop
  | done {seen : List κ} : Tour expand key [] seen [] false seen
  /-- A key is not opened again. -/
  | skip {a : α} {rest : List α} {seen : List κ} {opened : List α} {found : Bool} {final : List κ}
      (hseen : key a ∈ seen) (hrest : Tour expand key rest seen opened found final) :
      Tour expand key (a :: rest) seen opened found final
  /-- A goal ends the walk. -/
  | goal {a : α} {rest : List α} {seen : List κ} (hnew : key a ∉ seen)
      (hgoal : (expand a).1 = true) : Tour expand key (a :: rest) seen [a] true (key a :: seen)
  /-- So does a goal that the walk through the successors of a node comes to. -/
  | inside {a : α} {rest : List α} {seen : List κ} {opened : List α} {final : List κ}
      (hnew : key a ∉ seen) (hopen : (expand a).1 = false)
      (hinside : Tour expand key (expand a).2 (key a :: seen) opened true final) :
      Tour expand key (a :: rest) seen (a :: opened) true final
  /-- If there is none the walk goes on behind the node. -/
  | behind {a : α} {rest : List α} {seen : List κ} {opened : List α} {between : List κ}
      {more : List α} {found : Bool} {final : List κ} (hnew : key a ∉ seen)
      (hopen : (expand a).1 = false)
      (hinside : Tour expand key (expand a).2 (key a :: seen) opened false between)
      (hrest : Tour expand key rest between more found final) :
      Tour expand key (a :: rest) seen (a :: (opened ++ more)) found final

section Walk

variable {expand : α → Bool × List α} {key : α → κ} {nodes : List α} {seen : List κ}
  {opened : List α} {found : Bool} {final : List κ}

theorem Tour.subset (h : Tour expand key nodes seen opened found final) : seen ⊆ final := by
  induction h with
  | done => exact List.Subset.refl _
  | skip _ _ ih => exact ih
  | goal => exact List.subset_cons_self _ _
  | inside _ _ _ ih => exact List.Subset.trans (List.subset_cons_self _ _) ih
  | behind _ _ _ _ ihinside ihrest =>
      exact List.Subset.trans (List.Subset.trans (List.subset_cons_self _ _) ihinside) ihrest

/-- The walk is determined by where it begins. -/
theorem Tour.unique {opened' : List α} {found' : Bool} {final' : List κ}
    (h : Tour expand key nodes seen opened found final)
    (h' : Tour expand key nodes seen opened' found' final') :
    opened' = opened ∧ found' = found ∧ final' = final := by
  induction h generalizing opened' found' final' with
  | done =>
      cases h'
      exact ⟨rfl, rfl, rfl⟩
  | skip hseen _ ih =>
      cases h' with
      | skip _ hrest' => exact ih hrest'
      | goal hnew | inside hnew | behind hnew => exact absurd hseen hnew
  | goal hnew hgoal =>
      cases h' with
      | skip hseen => exact absurd hseen hnew
      | goal => exact ⟨rfl, rfl, rfl⟩
      | inside _ hopen | behind _ hopen => simp [hgoal] at hopen
  | inside hnew hopen _ ih =>
      cases h' with
      | skip hseen => exact absurd hseen hnew
      | goal _ hgoal => simp [hopen] at hgoal
      | inside _ _ hinside' =>
          obtain ⟨rfl, -, rfl⟩ := ih hinside'
          exact ⟨rfl, rfl, rfl⟩
      | behind _ _ hinside' => simpa using (ih hinside').2.1
  | behind hnew hopen _ _ ihinside ihrest =>
      cases h' with
      | skip hseen => exact absurd hseen hnew
      | goal _ hgoal => simp [hopen] at hgoal
      | inside _ _ hinside' => simpa using (ihinside hinside').2.1
      | behind _ _ hinside' hrest' =>
          obtain ⟨rfl, -, rfl⟩ := ihinside hinside'
          obtain ⟨rfl, rfl, rfl⟩ := ihrest hrest'
          exact ⟨rfl, rfl, rfl⟩

variable [DecidableEq κ]

theorem card_unseen_lt {keys : List κ} {k : κ} (hkey : k ∈ keys) (hnew : k ∉ seen)
    (hsub : k :: seen ⊆ final) :
    (keys.toFinset \ final.toFinset).card < (keys.toFinset \ seen.toFinset).card := by
  refine Finset.card_lt_card (Finset.ssubset_iff_of_subset ?_ |>.mpr ⟨k, ?_, ?_⟩)
  · intro k' hk'
    simp only [Finset.mem_sdiff, List.mem_toFinset] at hk' ⊢
    exact ⟨hk'.1, fun hmem => hk'.2 (hsub (List.mem_cons_of_mem k hmem))⟩
  · simp [hkey, hnew]
  · simp [hsub List.mem_cons_self]

/-- On finitely many keys the walk ends: with each node it opens, fewer keys are unseen. -/
theorem exists_tour {keys : List κ}
    (closed : ∀ k ∈ keys, ∀ k', OpenEdge expand key k k' → k' ∈ keys) (seen : List κ)
    {nodes : List α} (hnodes : ∀ a ∈ nodes, key a ∈ keys) :
    ∃ opened found final, Tour expand key nodes seen opened found final := by
  induction hn : (keys.toFinset \ seen.toFinset).card using Nat.strong_induction_on
    generalizing seen nodes with
  | h n ihunseen =>
      induction nodes with
      | nil => exact ⟨[], false, seen, .done⟩
      | cons a rest ih =>
          obtain ⟨hkey, hrest⟩ := List.forall_mem_cons.mp hnodes
          by_cases hnew : key a ∈ seen
          · obtain ⟨opened, found, final, htour⟩ := ih hrest
            exact ⟨opened, found, final, .skip hnew htour⟩
          cases hopen : (expand a).1 with
          | true => exact ⟨[a], true, key a :: seen, .goal hnew hopen⟩
          | false =>
              have hnext : ∀ b ∈ (expand a).2, key b ∈ keys := fun b hb =>
                closed _ hkey _ ⟨a, rfl, hopen, b, hb, rfl⟩
              have hless := card_unseen_lt hkey hnew (List.Subset.refl _)
              obtain ⟨opened, found, between, hinside⟩ :=
                ihunseen _ (hn ▸ hless) (key a :: seen) hnext rfl
              cases found with
              | true => exact ⟨a :: opened, true, between, .inside hnew hopen hinside⟩
              | false =>
                  have hstill := card_unseen_lt hkey hnew hinside.subset
                  obtain ⟨more, found, final, htour⟩ :=
                    ihunseen _ (hn ▸ hstill) between hrest rfl
                  exact ⟨a :: (opened ++ more), found, final,
                    .behind hnew hopen hinside htour⟩

/-! ## The stack -/

/-- The search with the nodes of a walk on top of its stack opens what the walk opens,
and then goes on with the rest of the stack unless the walk found a goal. -/
theorem Tour.depthTrace_append (h : Tour expand key nodes seen opened found final) (fuel : Nat)
    (stack : List α) :
    depthTrace expand key (opened.length + fuel) (nodes ++ stack) seen =
      if found then (opened, true)
      else (opened ++ (depthTrace expand key fuel stack final).1,
        (depthTrace expand key fuel stack final).2) := by
  induction h generalizing fuel stack with
  | done => simp
  | skip hseen _ ih =>
      rw [List.cons_append, depthTrace_of_seen _ hseen]
      exact ih fuel stack
  | goal hnew hgoal =>
      rw [List.length_singleton, Nat.add_comm, List.cons_append, depthTrace_goal _ hnew hgoal]
      rfl
  | inside hnew hopen _ ih =>
      rw [List.length_cons, Nat.add_right_comm, List.cons_append, depthTrace_open _ hnew hopen,
        ih fuel]
      rfl
  | @behind a rest seen opened between more found final hnew hopen _ _ ihinside ihrest =>
      have hlength : (a :: (opened ++ more)).length + fuel =
          opened.length + (more.length + fuel) + 1 := by
        simp only [List.length_cons, List.length_append]
        omega
      rw [hlength, List.cons_append, depthTrace_open _ hnew hopen, ihinside, ihrest]
      cases found <;> simp

/-- With fuel for what the walk opens, the search is the walk. -/
theorem Tour.depthTrace_eq (h : Tour expand key nodes seen opened found final) {fuel : Nat}
    (hfuel : opened.length ≤ fuel) :
    depthTrace expand key fuel nodes seen = (opened, found) := by
  obtain ⟨more, rfl⟩ := Nat.exists_eq_add_of_le hfuel
  have htrace := h.depthTrace_append more []
  rw [List.append_nil] at htrace
  rw [htrace]
  cases found <;> simp

end Walk

/-! ## Searches from a root -/

/-- The keys that are reached from a root through nodes that are no goals. -/
def openReach (expand : α → Bool × List α) (key : α → κ) (root : α) : Set κ :=
  {k | Relation.ReflTransGen (OpenEdge expand key) (key root) k}

variable [DecidableEq κ]

/-- A recorded depth-first search on finitely many keys ends: fuel beyond that for each
key in reach changes nothing. The walk by recursion ends too, in one way only, and both
open the same nodes in the same order, no key twice. They find a goal exactly when
one is in reach. -/
theorem depthFirst_recursive {expand : α → Bool × List α} {key : α → κ} (hkeyed : Keyed expand key)
    (root : α) (hfinite : (openReach expand key root).Finite) :
    ∃ opened found final,
      (∀ opened' found' final', Tour expand key [root] [] opened' found' final' ↔
        opened' = opened ∧ found' = found ∧ final' = final) ∧
      (∀ fuel, (openReach expand key root).ncard ≤ fuel →
        (depthFirst (recordOpening expand) key fuel root).run [] = (found, opened)) ∧
      (opened.map key).Nodup ∧
      (found = true ↔ ∃ k ∈ openReach expand key root, Goal expand key k) := by
  have hgraph := hkeyed.presents_open
  have hreach : ∀ k ∈ openReach expand key root, ∀ k', OpenEdge expand key k k' →
      k' ∈ openReach expand key root := fun k hk k' hedge => hk.tail hedge
  obtain ⟨keys, hlength, hkeys, hclosed⟩ := exists_keys hfinite hreach
  have hroot : ∀ a ∈ [root], key a ∈ keys := by simpa using hkeys _ .refl
  obtain ⟨opened, found, final, htour⟩ := exists_tour hclosed [] hroot
  have htrace := htour.depthTrace_eq le_rfl
  have hnodup : (opened.map key).Nodup := by
    simpa [htrace] using (depthTrace_nodup expand key opened.length [root] []).2
  have hwithin : ∀ k ∈ opened.map key, k ∈ keys := by
    intro k hk
    obtain ⟨a, ha, rfl⟩ := List.mem_map.mp hk
    have hopened : a ∈ (depthTrace expand key opened.length [root] []).1 := by rwa [htrace]
    obtain ⟨b, hb, hreach⟩ := depthTrace_reached hgraph hopened
    exact hkeys _ (List.mem_singleton.mp hb ▸ hreach)
  have hfuel : opened.length ≤ (openReach expand key root).ncard := by
    simpa [hlength] using length_le_of_within hnodup hwithin
  refine ⟨opened, found, final, fun _ _ _ => ⟨htour.unique, ?_⟩, fun fuel hle => ?_, hnodup, ?_⟩
  · rintro ⟨rfl, rfl, rfl⟩
    exact htour
  · rw [depthFirst_run, htour.depthTrace_eq (hfuel.trans hle)]
  · have hiff := depthTrace_root_iff hgraph hclosed (hroot root List.mem_cons_self)
      (le_refl keys.length)
    rwa [htour.depthTrace_eq (hlength ▸ hfuel)] at hiff

/-- Caves whose mouths open into one another: a mouth is told apart by its cave. Cave 1
leads to itself and back to the entrance, caves 2 and 4 lead on to each other. Nothing leads to
cave 5. -/
def caves (mouth : Fin 6 × Bool) : Bool × List (Fin 6 × Bool) :=
  match mouth with
  | (0, upper) => (false, [(1, true), (2, upper), (1, false), (3, true)])
  | (1, upper) => (false, [(1, !upper), (0, true)])
  | (2, _) => (false, [(4, true), (4, false)])
  | (3, upper) => (true, [(0, upper)])
  | (4, _) => (false, [(2, true), (4, true), (3, false)])
  | (5, _) => (true, [(0, true)])

/-- The goal in cave 3 is come to by way of caves 2 and 4. -/
theorem depthFirst_recursive_caves :
    Keyed caves Prod.fst ∧ (openReach caves Prod.fst (0, true)).Finite ∧
      (depthFirst (recordOpening caves) Prod.fst 6 (0, true)).run [] =
        (true, [(0, true), (1, true), (2, true), (4, true), (3, false)]) ∧
      (∃ final, Tour caves Prod.fst [(0, true)] []
        [(0, true), (1, true), (2, true), (4, true), (3, false)] true final) ∧
      ∃ k ∈ openReach caves Prod.fst (0, true), Goal caves Prod.fst k := by
  have hkeyed : Keyed caves Prod.fst := ⟨by decide, by decide⟩
  have hrun : (depthFirst (recordOpening caves) Prod.fst 6 (0, true)).run [] =
      (true, [(0, true), (1, true), (2, true), (4, true), (3, false)]) := by
    rw [depthFirst_run]
    simp [depthTrace, caves]
  obtain ⟨opened, found, final, htour, hsearch, -, hgoal⟩ :=
    depthFirst_recursive hkeyed (0, true) (Set.toFinite _)
  have hfuel : (openReach caves Prod.fst (0, true)).ncard ≤ 6 :=
    (Set.ncard_le_ncard (Set.subset_univ _)).trans (by simp [Set.ncard_univ])
  obtain ⟨rfl, rfl⟩ := Prod.mk.inj ((hsearch 6 hfuel).symm.trans hrun)
  exact ⟨hkeyed, Set.toFinite _, hrun, ⟨final, (htour _ _ _).mpr ⟨rfl, rfl, rfl⟩⟩, hgoal.mp rfl⟩

end Search

end LozengeNav
