import LozengeNav.Proofs.Ancestry.Verdict

/-! # Agreement of the strategies

Where the supertypes of the type hierarchy are the classes that the headers lead
to, searching the hierarchy and following the definitions give one verdict. The
search tests classes when they leave its queue, the chase tests files while it
reads a header; both come down to whether the base class can be reached.
-/

namespace LozengeNav

namespace ClassRef

def key (c : ClassRef) : String × String :=
  (c.uri, c.name)

theorem key_inj {c d : ClassRef} : c.key = d.key ↔ c = d := by
  cases c
  cases d
  simp [key]

end ClassRef

namespace World

/-- The two graphs of a world agree on what is reached from a class: supertypes
are the classes that the bases lead to, only the base class itself is named in
files that may define it, and the class is not the base class. -/
structure GraphsAgree (w : World) (base : BaseClass) (c : ClassRef) : Prop where
  same : ∀ d, Relation.ReflTransGen (w.LeadsTo base) c d → ∀ e : ClassRef,
    w.Supertype d.key e.key ↔ w.LeadsTo base d e
  named : ∀ d, Relation.ReflTransGen (w.LeadsTo base) c d → ∀ l ∈ w.baseSites base d,
    base.Marks l.uri → w.nameAt? l = some base.name
  apart : ¬ (c.name = base.name ∧ base.Marks c.uri)

theorem uri_of_classAt? {w : World} {l : Location} {c : ClassRef} (h : w.classAt? l = some c) :
    l.uri = c.uri := by
  obtain ⟨name, -, rfl⟩ := Option.map_eq_some_iff.mp h
  rfl

namespace GraphsAgree

variable {w : World} {base : BaseClass} {c : ClassRef}

theorem leadsTo_of_supertype (h : w.GraphsAgree base c) {k : String × String}
    (reach : Relation.ReflTransGen w.Supertype c.key k) :
    Relation.ReflTransGen (w.LeadsTo base) c ⟨k.1, k.2⟩ := by
  induction reach with
  | refl => exact .refl
  | tail _ hedge ih => exact .tail ih ((h.same _ ih _).mp hedge)

theorem supertype_of_leadsTo (h : w.GraphsAgree base c) {d : ClassRef}
    (reach : Relation.ReflTransGen (w.LeadsTo base) c d) :
    Relation.ReflTransGen w.Supertype c.key d.key := by
  induction reach with
  | refl => exact .refl
  | tail hreach hedge ih => exact .tail ih ((h.same _ hreach _).mpr hedge)

theorem reaches_iff (h : w.GraphsAgree base c) :
    w.HierarchyReaches base [c.key] ↔ w.ChainReaches base c := by
  constructor
  · rintro ⟨root, hroot, k, hreach, hname, hmarks⟩
    rw [List.mem_singleton.mp hroot] at hreach
    -- The base class is no root, so it is met at the end of some edge.
    rcases hreach.cases_tail with rfl | ⟨d, hd, hedge⟩
    · exact absurd ⟨hname, hmarks⟩ h.apart
    · have hchain := h.leadsTo_of_supertype hd
      obtain ⟨l, hl, hclass⟩ := (h.same _ hchain ⟨k.1, k.2⟩).mp hedge
      refine ⟨_, hchain, l, hl, ?_⟩
      rw [uri_of_classAt? hclass]
      exact hmarks
  · rintro ⟨d, hchain, l, hl, hmarks⟩
    have hclass : w.classAt? l = some ⟨l.uri, base.name⟩ := by
      rw [classAt?, h.named d hchain l hl hmarks]
      rfl
    have hedge := (h.same d hchain _).mpr ⟨l, hl, hclass⟩
    exact ⟨c.key, List.mem_singleton_self _, _, .tail (h.supertype_of_leadsTo hchain) hedge, rfl,
      hmarks⟩

end GraphsAgree

/-- Where the graphs agree, searching the hierarchy from a class and following
its headers both end, with one verdict. -/
theorem follow_hierarchy_eq_chase (w : World) (base : BaseClass) (c : ClassRef)
    (handle : Option Datum) (agree : w.GraphsAgree base c) :
    ∃ verdict calls calls',
      ask (Ancestry.follow w.host base c (.hierarchy [⟨c.uri, c.name, handle⟩])) =
        (.ok verdict, calls) ∧
      ask (Ancestry.follow w.host base c .chase) = (.ok verdict, calls') := by
  obtain ⟨found, _, hsearch, hfound⟩ := w.inHierarchy_runsTo base [⟨c.uri, c.name, handle⟩] []
  obtain ⟨reached, _, hchase, hreached⟩ := w.byChase_runsTo base c []
  have heq : found = reached := by
    rw [Bool.eq_iff_iff, hfound, hreached]
    exact agree.reaches_iff
  subst heq
  exact ⟨found, _, _, (ask_of_runsTo hsearch).1, (ask_of_runsTo hchase).1⟩

/-! ## A class that is its own base -/

/-- A class that lists itself and the base class, in a world whose hierarchy says
the same. -/
def ring : World where
  texts := [("file:///ws/a.py", some "class A(A, Context):"),
    ("file:///lib/appeldryck/core.py", some "class Context:")]
  supertypes := [(("file:///ws/a.py", "A"),
    some [("file:///ws/a.py", "A"), ("file:///lib/appeldryck/core.py", "Context")])]
  definitions := [
    (("file:///ws/a.py", ⟨0, 8⟩), some [⟨"file:///ws/a.py", ⟨⟨0, 6⟩, ⟨0, 7⟩⟩⟩]),
    (("file:///ws/a.py", ⟨0, 11⟩), some [⟨"file:///lib/appeldryck/core.py", ⟨⟨0, 6⟩, ⟨0, 13⟩⟩⟩])]

def ringClass : ClassRef :=
  ⟨"file:///ws/a.py", "A"⟩

def ringBase : ClassRef :=
  ⟨"file:///lib/appeldryck/core.py", "Context"⟩

theorem ring_baseSites : ring.baseSites {} ringClass =
    [⟨ringClass.uri, ⟨⟨0, 6⟩, ⟨0, 7⟩⟩⟩, ⟨ringBase.uri, ⟨⟨0, 6⟩, ⟨0, 13⟩⟩⟩] := by
  decide +kernel

theorem ring_baseSites_base : ring.baseSites {} ringBase = [] := by
  decide

theorem ring_leadsTo_iff {d : ClassRef} :
    ring.LeadsTo {} ringClass d ↔ d = ringClass ∨ d = ringBase := by
  have hself : ring.classAt? ⟨ringClass.uri, ⟨⟨0, 6⟩, ⟨0, 7⟩⟩⟩ = some ringClass := by
    decide
  have hbase : ring.classAt? ⟨ringBase.uri, ⟨⟨0, 6⟩, ⟨0, 13⟩⟩⟩ = some ringBase := by
    decide
  simp [LeadsTo, ring_baseSites, hself, hbase, eq_comm]

theorem ring_reached {d : ClassRef}
    (reach : Relation.ReflTransGen (ring.LeadsTo {}) ringClass d) :
    d = ringClass ∨ d = ringBase := by
  induction reach with
  | refl => exact .inl rfl
  | tail _ hedge ih =>
      rcases ih with rfl | rfl
      · exact ring_leadsTo_iff.mp hedge
      · obtain ⟨l, hl, -⟩ := hedge
        rw [ring_baseSites_base] at hl
        exact absurd hl List.not_mem_nil

theorem ring_same (d e : ClassRef) (hd : d = ringClass ∨ d = ringBase) :
    ring.Supertype d.key e.key ↔ ring.LeadsTo {} d e := by
  rcases hd with rfl | rfl
  · have hlook : (look ring.supertypes ringClass.key).getD [] = [ringClass.key, ringBase.key] := by
      decide
    rw [Supertype, hlook, ring_leadsTo_iff]
    simp [ClassRef.key_inj]
  · have hlook : (look ring.supertypes ringBase.key).getD [] = [] := by
      decide
    rw [Supertype, hlook, LeadsTo, ring_baseSites_base]
    simp

theorem ring_graphsAgree : ring.GraphsAgree {} ringClass where
  same d reach e := ring_same d e (ring_reached reach)
  named d reach l hl hmarks := by
    rcases ring_reached reach with rfl | rfl
    · rw [ring_baseSites, List.mem_pair] at hl
      rcases hl with rfl | rfl
      · exact absurd hmarks (by decide)
      · decide
    · rw [ring_baseSites_base] at hl
      exact absurd hl List.not_mem_nil
  apart := by decide

theorem follow_ring : ring.GraphsAgree {} ringClass ∧
    ∃ verdict calls calls',
      ask (Ancestry.follow ring.host {} ringClass
        (.hierarchy [⟨ringClass.uri, ringClass.name, none⟩])) = (.ok verdict, calls) ∧
      ask (Ancestry.follow ring.host {} ringClass .chase) = (.ok verdict, calls') :=
  ⟨ring_graphsAgree, follow_hierarchy_eq_chase ring {} ringClass none ring_graphsAgree⟩

end World

end LozengeNav
