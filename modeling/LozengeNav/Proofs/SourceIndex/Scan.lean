import LozengeNav.Proofs.SourceIndex.Outlines
import LozengeNav.Proofs.SourceIndex.Reexport
import Mathlib.Data.List.Induction

/-! # Scanning the prefixes of a name

A lookup asks for the module of each prefix of a name, the longest first. It stops
at the first one that has a module or whose question has no answer, and nothing
else happens on the way.
-/

namespace LozengeNav

namespace SourceIndex

/-- The search finds no module for a longer prefix than `parts`. -/
def Missed (x : SourceIndex) (t : FileTree) (parts rest : List String) : Prop :=
  ∀ extra, extra ≠ [] → extra <+: rest → x.moduleFile? t (parts ++ extra) = .ok none

section Scan

variable {x : SourceIndex} {t : FileTree}

theorem missed_all (x : SourceIndex) (t : FileTree) (parts : List String) : Missed x t parts [] :=
  fun _ hne hprefix => absurd (List.prefix_nil.1 hprefix) hne

theorem Missed.extend {parts rest : List String} {last : String}
    (h : Missed x t (parts ++ [last]) rest)
    (hnone : x.moduleFile? t (parts ++ [last]) = .ok none) : Missed x t parts (last :: rest) := by
  intro extra hne hprefix
  cases extra with
  | nil => exact absurd rfl hne
  | cons first others =>
      obtain ⟨rfl, hothers⟩ := List.cons_prefix_cons.1 hprefix
      cases others with
      | nil => exact hnone
      | cons second more =>
          have hmore := h (second :: more) (List.cons_ne_nil _ _) hothers
          rwa [List.append_assoc, List.singleton_append] at hmore

theorem Missed.asked {q : String} {parts rest : List String} (h : Missed x t parts rest)
    (hspelled : ModuleName.pieces q = parts ++ rest) (hne : parts ≠ []) :
    Asked x t q parts rest where
  spelled := hspelled
  nonempty := hne
  longest extra hextra hprefix := (moduleFile?_eq_ok (h extra hextra hprefix)).symm

/-- The scan stops at some prefix, or else it has missed all of them. -/
theorem exists_stop {parts rest : List String} (h : Missed x t parts rest) :
    (∃ front back, front ++ back = parts ++ rest ∧ front ≠ [] ∧ Missed x t front back ∧
      x.moduleFile? t front ≠ .ok none) ∨ Missed x t [] (parts ++ rest) := by
  induction parts using List.reverseRecOn generalizing rest with
  | nil => exact .inr h
  | append_singleton init last ih =>
      by_cases hnone : x.moduleFile? t (init ++ [last]) = .ok none
      · rw [List.append_assoc]
        exact ih (h.extend hnone)
      · exact .inl ⟨init ++ [last], rest, rfl, by simp, h, hnone⟩

theorem locateFrom_step {follow : Option Follow} {rest before : List String} {last : String}
    {found : Option Path} {r : Except Fault (Option Location)}
    (hfound : x.moduleFile? t (last :: before).reverse = .ok found)
    (hr : Yields t
      (match found with
        | some file =>
            match rest with
            | [] => do return some (.fileStart (← Query.ofExcept file.toUri))
            | head :: tail =>
                memberIn file (ModuleName.spell (last :: before).reverse) head tail follow
        | none => locateFrom x follow (last :: rest) before) r) :
    Yields t (locateFrom x follow rest (last :: before)) r := by
  rw [locateFrom]
  refine yields_get fun s htree _ => ?_
  rw [htree, hfound]
  exact yields_bind (yields_ofExcept (.ok found)) hr

theorem locateFrom_fault {follow : Option Follow} {rest before : List String} {last : String}
    {fault : Fault} (hfault : x.moduleFile? t (last :: before).reverse = .error fault) :
    Yields t (locateFrom x follow rest (last :: before)) (.error fault) := by
  rw [locateFrom]
  refine yields_get fun s htree _ => ?_
  rw [htree, hfault]
  exact yields_bind_error (yields_ofExcept (.error fault))

theorem locateFrom_skip {follow : Option Follow} {front back rest : List String}
    {r : Except Fault (Option Location)} (h : Missed x t front back)
    (hr : Yields t (locateFrom x follow (back ++ rest) front.reverse) r) :
    Yields t (locateFrom x follow rest (front ++ back).reverse) r := by
  induction back using List.reverseRecOn generalizing rest with
  | nil => rwa [List.append_nil]
  | append_singleton init last ih =>
      have hlast := h (init ++ [last]) (by simp) (List.prefix_rfl)
      have hreverse : (front ++ (init ++ [last])).reverse = last :: (front ++ init).reverse := by
        simp
      have hinit : Missed x t front init := fun extra hne hextra =>
        h extra hne (hextra.trans (List.prefix_append init [last]))
      rw [hreverse]
      refine locateFrom_step (by rw [← hreverse, List.reverse_reverse]; exact hlast) ?_
      refine ih hinit ?_
      rwa [List.append_assoc, List.singleton_append] at hr

end Scan

end SourceIndex

end LozengeNav
