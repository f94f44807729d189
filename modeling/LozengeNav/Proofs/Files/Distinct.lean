import LozengeNav.Proofs.Files.Plain
import Mathlib.Data.List.Nodup

/-! # Searches without repetition

In a tree that has each entry once, a search finds each path once: names in one
directory differ, what is found below different names differs, and where ways through
nested directories meet, repetitions are dropped.
-/

namespace LozengeNav

namespace FileTree

/-- Each entry is there once. -/
def Distinct (t : FileTree) : Prop :=
  (t.entries.map Prod.fst).Nodup

instance (t : FileTree) : Decidable t.Distinct :=
  inferInstanceAs (Decidable (List.Nodup _))

theorem Distinct.nodup_children {t : FileTree} (h : t.Distinct) (trail : Trail) :
    ((t.children trail).map Prod.fst).Nodup := by
  rw [Distinct, List.Nodup, List.pairwise_map] at h
  rw [List.Nodup, List.pairwise_map]
  -- the name of a child and its directory tell the trail of the child
  refine h.filterMap _ fun e e' hne child hchild child' hchild' hsame => hne ?_
  dsimp only at hchild hchild'
  split at hchild
  · next last hlast =>
      split at hchild'
      · next last' hlast' =>
          split at hchild
          · next hparent =>
              split at hchild'
              · next hparent' =>
                  cases hchild
                  cases hchild'
                  dsimp only at hsame
                  rw [← List.dropLast_append_getLast? _ hlast, hparent, hsame, ← hparent',
                    List.dropLast_append_getLast? _ hlast']
              · cases hchild'
          · cases hchild
      · cases hchild'
  · cases hchild

end FileTree

namespace Glob

variable {t : FileTree}

theorem nodup_entriesIn (h : t.Distinct) {p : Path} {entries : List (String × Entry)}
    (hentries : entriesIn t p = .ok entries) : (entries.map Prod.fst).Nodup := by
  unfold entriesIn at hentries
  split at hentries <;> cases hentries
  · exact h.nodup_children _
  · exact List.nodup_nil

theorem nodup_eraseDups {α : Type} [DecidableEq α] (items : List α) : items.eraseDups.Nodup := by
  cases items with
  | nil => exact List.nodup_nil
  | cons a rest =>
      rw [List.eraseDups_cons, List.nodup_cons, List.mem_eraseDups]
      exact ⟨by simp, nodup_eraseDups _⟩
termination_by items.length
decreasing_by exact Nat.lt_succ_of_le (List.length_filter_le _ rest)

theorem nodup_flatten_of_mapM {α β : Type} {f : α → Except Fault (List β)} {items : List α}
    {lists : List (List β)} (h : items.mapM f = .ok lists) (hnodup : items.Nodup)
    (heach : ∀ a list, f a = .ok list → list.Nodup)
    (hdisjoint : ∀ a ∈ items, ∀ b ∈ items, a ≠ b →
      ∀ list other, f a = .ok list → f b = .ok other → list.Disjoint other) :
    lists.flatten.Nodup := by
  induction items generalizing lists with
  | nil =>
      cases h
      exact List.nodup_nil
  | cons a rest ih =>
      rw [List.mapM_cons] at h
      obtain ⟨list, hlist, h⟩ := Fault.ok_of_bind_eq_ok h
      obtain ⟨others, hothers, h⟩ := Fault.ok_of_bind_eq_ok h
      cases h
      obtain ⟨ha, hrest⟩ := List.nodup_cons.1 hnodup
      rw [List.flatten_cons, List.nodup_append']
      refine ⟨heach a list hlist, ih hothers hrest fun b hb c hc =>
        hdisjoint b (List.mem_cons_of_mem a hb) c (List.mem_cons_of_mem a hc), ?_⟩
      intro q hq hq'
      obtain ⟨other, hother, hq'⟩ := List.mem_flatten.1 hq'
      obtain ⟨b, hb, hmade⟩ := Fault.exists_of_mem_mapM hothers hother
      have hne : a ≠ b := fun heq => ha (heq ▸ hb)
      exact hdisjoint a List.mem_cons_self b (List.mem_cons_of_mem a hb) hne _ _ hlist hmade hq hq'

section Select

variable {directory : Bool} {rest : List Segment} {p : Path} {found : List Path}

theorem disjoint_select (hnamed : t.Named) (hrest : ∀ segment ∈ rest, segment.Named)
    {name other : String} (hne : name ≠ other) {inner outer : List Path}
    (hinner : select t directory rest (p.child name) = .ok inner)
    (houter : select t directory rest (p.child other) = .ok outer) : inner.Disjoint outer := by
  intro q hq hq'
  obtain ⟨names, rfl, -⟩ := exists_names_of_mem_select hnamed hrest hinner hq
  obtain ⟨others, heq, -⟩ := exists_names_of_mem_select hnamed hrest houter hq'
  have hparts : p.parts ++ [name] ++ names = p.parts ++ [other] ++ others := congrArg Path.parts heq
  rw [List.append_assoc, List.append_assoc, List.append_cancel_left_eq] at hparts
  exact hne (List.cons.inj hparts).1

end Select

theorem nodup_select (hnamed : t.Named) (hdistinct : t.Distinct) {directory : Bool}
    {segments : List Segment} (hsegments : ∀ segment ∈ segments, segment.Named) {p : Path}
    {found : List Path} (h : select t directory segments p = .ok found) : found.Nodup := by
  -- The induction is on the segments; only different names and nested directories lead to more
  -- than one path.
  induction segments generalizing p found with
  | nil =>
      cases h
      exact List.nodup_singleton p
  | cons segment rest ih =>
      obtain ⟨-, hrest⟩ := List.forall_mem_cons.1 hsegments
      cases segment with
      | name s =>
          rcases select_name_eq_ok h with rfl | hselect
          · exact List.nodup_nil
          · exact ih hrest hselect
      | wildcard s =>
          obtain ⟨entries, taken, lists, hentries, htaken, hlists, rfl⟩ := select_wildcard_eq_ok h
          have hnames := nodup_entriesIn hdistinct hentries
          have hsub : taken.Sublist entries := by
            rw [Fault.filterM_eq_ok htaken]
            exact List.filter_sublist
          refine nodup_flatten_of_mapM hlists ((List.Nodup.of_map _ hnames).sublist hsub)
            (fun _ _ => ih hrest) ?_
          intro e he other hother hne inner outer hinner houter
          refine disjoint_select hnamed hrest (fun heq => hne ?_) hinner houter
          exact List.inj_on_of_nodup_map hnames (hsub.subset he) (hsub.subset hother) heq
      | directories =>
          rw [select] at h
          obtain ⟨starts, -, h⟩ := Fault.ok_of_bind_eq_ok h
          obtain ⟨lists, -, h⟩ := Fault.ok_of_bind_eq_ok h
          cases h
          exact nodup_eraseDups _

theorem nodup_find (hnamed : t.Named) (hdistinct : t.Distinct) {root : Path} {pattern : String}
    {found : List Path} (h : find t root pattern = .ok found) : found.Nodup := by
  obtain ⟨read, hread, h⟩ := Fault.ok_of_bind_eq_ok h
  obtain ⟨isDirectory, -, h⟩ := Fault.ok_of_bind_eq_ok h
  cases isDirectory with
  | false =>
      cases h
      exact List.nodup_nil
  | true => exact nodup_select hnamed hdistinct (named_of_ofString hread) h

end Glob

end LozengeNav
