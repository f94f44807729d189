import LozengeNav.Proofs.Ancestry.Verdict
import LozengeNav.Proofs.ClassHeader.BaseList
import LozengeNav.Proofs.ClassHeader.First
import Mathlib.Data.List.Nodup

/-! # Questions are asked once

While a strategy runs, no question is asked twice, whatever cycles and diamonds
the world has: each text is read once, supertypes are asked for once a class, and
jumps are made once from each base of a class that is opened once. That two
classes never jump from one place is a fact about headers: a line declares one
name, and its bases stand at different columns.
-/

namespace LozengeNav

namespace World

/-! ## Calls without repetition -/

theorem nodup_of_unread {calls : List Call} (hreads : (calls.filterMap read?).Nodup)
    (hunread : (unread calls).Nodup) : calls.Nodup := by
  induction calls with
  | nil => exact List.nodup_nil
  | cons call rest ih =>
      cases hcall : read? call with
      | some uri =>
          rw [List.filterMap_cons_some hcall, List.nodup_cons] at hreads
          have hskip : unread (call :: rest) = unread rest := by simp [unread, hcall]
          rw [hskip] at hunread
          refine List.nodup_cons.mpr ⟨fun hmem => ?_, ih hreads.2 hunread⟩
          exact hreads.1 (List.mem_filterMap.mpr ⟨call, hmem, hcall⟩)
      | none =>
          rw [List.filterMap_cons_none hcall] at hreads
          have hkeep : unread (call :: rest) = call :: unread rest := by simp [unread, hcall]
          rw [hkeep, List.nodup_cons] at hunread
          refine List.nodup_cons.mpr ⟨fun hmem => ?_, ih hreads hunread.2⟩
          exact hunread.1 (List.mem_filter.mpr ⟨hmem, by simp [hcall]⟩)

/-! ## Jumps from headers -/

section Jumps

variable {w : World} {base : BaseClass} {c d : ClassRef}

theorem exists_of_mem_jumps {call : Call} (h : call ∈ w.jumps base c) :
    ∃ text index line column, look w.texts c.uri = some text ∧
      classHeader? text.toList c.name = some (index, line) ∧
      call = .jumpToDefinition c.uri ⟨index, column⟩ := by
  unfold jumps at h
  split at h
  · cases h
  · next text htext =>
      split at h
      · cases h
      · next index line hheader =>
          obtain ⟨b, hb, rfl⟩ := List.mem_map.mp h
          obtain ⟨chain, -, rfl⟩ := ClassHeader.exists_chain_of_mem_baseList hb
          exact ⟨text, index, line, _, htext, hheader, rfl⟩

theorem jumps_nodup (w : World) (base : BaseClass) (c : ClassRef) : (w.jumps base c).Nodup := by
  unfold jumps
  split
  · exact List.nodup_nil
  · split
    · exact List.nodup_nil
    · next index line _ =>
        refine List.pairwise_map.mpr ?_
        refine (ClassHeader.pairwise_baseList index line c.name base.rootBase).imp ?_
        intro b b' hlt heq
        simp only [Call.jumpToDefinition.injEq, Position.mk.injEq] at heq
        omega

/-- Different classes do not jump from one place. -/
theorem jumps_disjoint (hc : ClassHeader.Spellable c.name.toList)
    (hd : ClassHeader.Spellable d.name.toList) (hne : c ≠ d) :
    (w.jumps base c).Disjoint (w.jumps base d) := by
  intro call hcall hcall'
  obtain ⟨text, index, line, column, htext, hheader, rfl⟩ := exists_of_mem_jumps hcall
  obtain ⟨text', index', line', column', htext', hheader', heq⟩ := exists_of_mem_jumps hcall'
  simp only [Call.jumpToDefinition.injEq, Position.mk.injEq] at heq
  obtain ⟨huri, hindex, -⟩ := heq
  rw [huri, htext', Option.some.injEq] at htext
  subst htext
  have hindex : index = index' := by omega
  subst hindex
  have hname := ClassHeader.name_eq_of_classHeader? hc hd hheader hheader'
  apply hne
  cases c
  cases d
  simp_all

theorem flatMap_jumps_nodup {classes : List ClassRef} (hnodup : classes.Nodup)
    (hnames : ∀ c ∈ classes, ClassHeader.Spellable c.name.toList) :
    (classes.flatMap (w.jumps base)).Nodup := by
  rw [List.nodup_flatMap]
  refine ⟨fun c _ => w.jumps_nodup base c, ?_⟩
  exact hnodup.imp_of_mem fun hc hd hne => jumps_disjoint (hnames _ hc) (hnames _ hd) hne

theorem spellable_of_reached (hc : ClassHeader.Spellable c.name.toList)
    (reach : Relation.ReflTransGen (w.LeadsTo base) c d) :
    ClassHeader.Spellable d.name.toList := by
  cases reach.cases_tail with
  | inl heq => exact heq ▸ hc
  | inr h =>
      obtain ⟨_, -, l, -, hclass⟩ := h
      obtain ⟨name, hname, rfl⟩ := Option.map_eq_some_iff.mp hclass
      unfold nameAt? at hname
      split at hname
      · cases hname
      · split at hname
        · cases hname
        · exact ClassHeader.spellable_of_classNameAt? hname

end Jumps

/-! ## Questions of a strategy -/

def Reaches (w : World) (base : BaseClass) (c : ClassRef) : Strategy → ClassRef → Prop
  | .hierarchy roots, d =>
      ∃ root ∈ roots, Relation.ReflTransGen w.Supertype root.key (d.uri, d.name)
  | .chase, d => Relation.ReflTransGen (w.LeadsTo base) c d

/-- What a strategy asks about a class, besides texts, when it expands the class. -/
def questions (w : World) (base : BaseClass) : Strategy → ClassRef → List Call
  | .hierarchy _, d => [.supertypes d.uri d.name]
  | .chase, d => w.jumps base d

/-- What the verdict of a strategy says of a class. -/
def Holds (w : World) (base : BaseClass) (c : ClassRef) : Strategy → Prop
  | .hierarchy roots => w.HierarchyReaches base (roots.map HierarchyNode.key)
  | .chase => w.ChainReaches base c

theorem inHierarchy_frugal (w : World) (base : BaseClass) (c : ClassRef)
    (roots : List HierarchyNode) :
    ∃ verdict calls, RunsTo (Ancestry.inHierarchy w.host base roots) [] verdict calls ∧
      calls.Nodup ∧ ∃ expanded : List ClassRef, expanded.Nodup ∧
        (∀ d ∈ expanded, w.Reaches base c (.hierarchy roots) d) ∧
        (unread calls).Sublist (expanded.flatMap (w.questions base (.hierarchy roots))) := by
  let nodes := (w.hierarchyTrace base roots).1
  let classOf : HierarchyNode → ClassRef := fun n => ⟨n.uri, n.name⟩
  have hkeys : (nodes.map HierarchyNode.key).Nodup :=
    (Search.breadthTrace_nodup (w.hierarchyStep base) HierarchyNode.key
      (Search.ready_roots HierarchyNode.key roots)).2
  have hdistinct : nodes.Pairwise fun n n' => n.key ≠ n'.key := List.pairwise_map.mp hkeys
  have hquestions : nodes.map supertypesCall =
      (nodes.map classOf).flatMap (w.questions base (.hierarchy roots)) := by
    rw [List.flatMap_map, List.map_eq_flatMap]
    rfl
  refine ⟨_, _, w.inHierarchy_traced base roots, ?_, nodes.map classOf, ?_, ?_, ?_⟩
  · refine List.pairwise_map.mpr (hdistinct.imp ?_)
    intro n n' hne heq
    apply hne
    simpa [supertypesCall, HierarchyNode.key] using heq
  · refine List.pairwise_map.mpr (hdistinct.imp ?_)
    intro n n' hne heq
    apply hne
    simpa [classOf, HierarchyNode.key] using heq
  · intro d hd
    obtain ⟨n, hn, rfl⟩ := List.mem_map.mp hd
    obtain ⟨root, hroot, hreach⟩ := Search.breadthTrace_reached (w.hierarchyStep_presents base) hn
    exact ⟨root, Search.mem_of_mem_fresh hroot, hreach⟩
  · rw [← hquestions]
    exact List.filter_sublist

/-- The chase opens each class once, reads each text once and jumps from the bases of the
classes it opens. -/
theorem byChase_frugal (w : World) (base : BaseClass) {c : ClassRef}
    (hname : ClassHeader.Spellable c.name.toList) :
    ∃ verdict calls, RunsTo (Ancestry.byChase w.host base c) [] verdict calls ∧
      calls.Nodup ∧ ∃ expanded : List ClassRef, expanded.Nodup ∧
        (∀ d ∈ expanded, w.Reaches base c .chase d) ∧
        (unread calls).Sublist (expanded.flatMap (w.questions base .chase)) := by
  obtain ⟨asked, s, hrun, hasked, htracks⟩ := w.byChase_traced base c
  have hnodup : ((w.chaseTrace base c).1.map id).Nodup :=
    (Search.depthTrace_nodup (fun c => w.sitesOutcome base (w.baseSites base c) []) id
      (w.host.classBound [] + 1) [c] []).2
  rw [List.map_id] at hnodup
  have hreach : ∀ d ∈ (w.chaseTrace base c).1, Relation.ReflTransGen (w.LeadsTo base) c d := by
    intro d hd
    obtain ⟨root, hroot, hreach⟩ := Search.depthTrace_reached (w.sitesOutcome_presents base) hd
    exact List.mem_singleton.mp hroot ▸ hreach
  have hjumps : ((w.chaseTrace base c).1.flatMap (w.jumps base)).Nodup :=
    flatMap_jumps_nodup hnodup fun d hd => spellable_of_reached hname (hreach d hd)
  have hreads : (s.2.filterMap read?).Nodup := by
    rw [htracks.reads]
    exact List.nodup_reverse.mpr htracks.once
  have hunread : (unread s.2).Sublist ((w.chaseTrace base c).1.flatMap (w.jumps base)) := by
    rw [htracks.asked]
    exact hasked
  exact ⟨_, s.2, hrun, nodup_of_unread hreads (hjumps.sublist hunread), _, hnodup, hreach, hunread⟩

/-- A strategy ends with its verdict and asks nothing twice: no text, no supertypes of a
class and no jump from a place. Besides texts it asks what it has to ask about
classes that it reaches, each of which it expands once. -/
theorem follow_calls_nodup (w : World) (base : BaseClass) (c : ClassRef)
    (hname : ClassHeader.Spellable c.name.toList) (strategy : Strategy) :
    ∃ verdict calls, ask (Ancestry.follow w.host base c strategy) = (.ok verdict, calls) ∧
      (verdict = true ↔ w.Holds base c strategy) ∧ calls.Nodup ∧
      ∃ expanded : List ClassRef, expanded.Nodup ∧
        (∀ d ∈ expanded, w.Reaches base c strategy d) ∧
        (unread calls).Sublist (expanded.flatMap (w.questions base strategy)) := by
  obtain ⟨verdict, calls, hrun, hfrugal⟩ : ∃ verdict calls,
      RunsTo (Ancestry.follow w.host base c strategy) [] verdict calls ∧ calls.Nodup ∧
        ∃ expanded : List ClassRef, expanded.Nodup ∧
          (∀ d ∈ expanded, w.Reaches base c strategy d) ∧
          (unread calls).Sublist (expanded.flatMap (w.questions base strategy)) := by
    cases strategy with
    | hierarchy roots => exact w.inHierarchy_frugal base c roots
    | chase => exact w.byChase_frugal base hname
  obtain ⟨verdict', _, hrun', hiff⟩ : ∃ verdict s',
      RunsTo (Ancestry.follow w.host base c strategy) [] verdict s' ∧
        (verdict = true ↔ w.Holds base c strategy) := by
    cases strategy with
    | hierarchy roots => exact w.inHierarchy_runsTo base roots []
    | chase => exact w.byChase_runsTo base c []
  obtain ⟨hask, hcalls⟩ := ask_of_runsTo hrun
  have hask' := (ask_of_runsTo hrun').1
  rw [hask, Prod.mk.injEq, Except.ok.injEq] at hask'
  obtain ⟨rfl, -⟩ := hask'
  rw [List.nil_append] at hcalls
  exact ⟨verdict, calls, hcalls ▸ hask, hiff, hfrugal⟩

/-! ## Classes in a circle -/

/-- Four classes of one document: two ways lead from the first to the last, and the last
lists the first again. -/
def circle : World where
  texts := [("file:///ws/a.py", some "class A(B, C):\nclass B(D):\nclass C(D, A):\nclass D(A):\n")]
  definitions := [
    (("file:///ws/a.py", ⟨0, 8⟩), some [⟨"file:///ws/a.py", ⟨⟨1, 6⟩, ⟨1, 7⟩⟩⟩]),
    (("file:///ws/a.py", ⟨0, 11⟩), some [⟨"file:///ws/a.py", ⟨⟨2, 6⟩, ⟨2, 7⟩⟩⟩]),
    (("file:///ws/a.py", ⟨1, 8⟩), some [⟨"file:///ws/a.py", ⟨⟨3, 6⟩, ⟨3, 7⟩⟩⟩]),
    (("file:///ws/a.py", ⟨2, 8⟩), some [⟨"file:///ws/a.py", ⟨⟨3, 6⟩, ⟨3, 7⟩⟩⟩]),
    (("file:///ws/a.py", ⟨2, 11⟩), some [⟨"file:///ws/a.py", ⟨⟨0, 6⟩, ⟨0, 7⟩⟩⟩]),
    (("file:///ws/a.py", ⟨3, 8⟩), some [⟨"file:///ws/a.py", ⟨⟨0, 6⟩, ⟨0, 7⟩⟩⟩])]

def circleClass : ClassRef :=
  ⟨"file:///ws/a.py", "A"⟩

theorem follow_calls_nodup_circle : ClassHeader.Spellable circleClass.name.toList ∧
    ∃ verdict calls, ask (Ancestry.follow circle.host {} circleClass .chase) = (.ok verdict, calls) ∧
      (verdict = true ↔ circle.Holds {} circleClass .chase) ∧ calls.Nodup ∧
      ∃ expanded : List ClassRef, expanded.Nodup ∧
        (∀ d ∈ expanded, circle.Reaches {} circleClass .chase d) ∧
        (unread calls).Sublist (expanded.flatMap (circle.questions {} .chase)) := by
  have hname : ClassHeader.Spellable circleClass.name.toList :=
    ClassHeader.spellable_of_identifier (by decide)
  exact ⟨hname, circle.follow_calls_nodup {} circleClass hname .chase⟩

end World

end LozengeNav
