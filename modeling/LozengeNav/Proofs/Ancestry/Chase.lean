import LozengeNav.Proofs.Ancestry.Descent
import LozengeNav.Proofs.Search.Depth
import LozengeNav.Proofs.World.Answers

/-! # Following definitions

In a fixed world the chase always ends with an answer, and the answer is whether
a chain of class headers leads to the base class. Texts that were read are kept
during a chase, so that no text is read twice, and what is kept is what the world
would answer again. All other questions are jumps from the bases of the classes
that are opened.
-/

namespace LozengeNav

namespace World

open Ancestry (Sources Chase)

/-! ## Questions of a chase -/

def read? : Call → Option String
  | .readText uri => some uri
  | _ => none

/-- The calls that read no document, in order. -/
def unread (calls : List Call) : List Call :=
  calls.filter fun call => (read? call).isNone

def jumpsOf (uri : String) (bases : List BaseReference) : List Call :=
  bases.map fun b => .jumpToDefinition uri ⟨b.line, b.column⟩

def jumps (w : World) (base : BaseClass) (c : ClassRef) : List Call :=
  match look w.texts c.uri with
  | none => []
  | some text =>
      match classHeader? text.toList c.name with
      | none => []
      | some (index, line) => jumpsOf c.uri (baseList index line c.name base.rootBase)

/-- What a chase has kept and asked: the texts kept are those of the world, each was
read once, and `asked` are the calls besides. -/
structure Tracks (w : World) (asked : List Call) (s : Sources × List Call) : Prop where
  faithful : ∀ uri text, s.1.lookup uri = some text → text = look w.texts uri
  once : (s.1.map Prod.fst).Nodup
  reads : s.2.filterMap read? = (s.1.map Prod.fst).reverse
  asked : unread s.2 = asked

theorem tracks_nil (w : World) : w.Tracks [] ([], []) :=
  ⟨by simp, by simp, rfl, rfl⟩

theorem Tracks.call {w : World} {asked : List Call} {s : Sources × List Call}
    (h : w.Tracks asked s) {call : Call} (hcall : read? call = none) :
    w.Tracks (asked ++ [call]) (s.1, s.2 ++ [call]) := by
  refine ⟨h.faithful, h.once, ?_, ?_⟩
  · rw [List.filterMap_append, h.reads]
    simp [hcall]
  · rw [unread, List.filter_append, ← h.asked]
    simp [unread, hcall]

theorem Tracks.keep {w : World} {asked : List Call} {s : Sources × List Call}
    (h : w.Tracks asked s) {uri : String} (hnew : s.1.lookup uri = none) :
    w.Tracks asked ((uri, look w.texts uri) :: s.1, s.2 ++ [.readText uri]) := by
  refine ⟨?_, ?_, ?_, ?_⟩
  · intro other text hlook
    rw [List.lookup_cons] at hlook
    split at hlook
    next heq =>
      rw [beq_iff_eq.mp heq]
      exact (Option.some.inj hlook).symm
    next => exact h.faithful other text hlook
  · rw [List.map_cons, List.nodup_cons]
    refine ⟨fun hmem => ?_, h.once⟩
    obtain ⟨⟨other, text⟩, hkept, rfl⟩ := List.mem_map.mp hmem
    rw [List.lookup_eq_none_iff] at hnew
    simpa using hnew _ hkept
  · rw [List.filterMap_append, h.reads, List.map_cons, List.reverse_cons]
    rfl
  · rw [unread, List.filter_append, ← h.asked]
    simp [unread, read?]

theorem source_runsTo {w : World} {asked : List Call} {s : Sources × List Call}
    (hs : w.Tracks asked s) (uri : String) :
    ∃ s', RunsTo (Ancestry.source w.host uri) s (look w.texts uri) s' ∧ w.Tracks asked s' := by
  cases hkept : s.1.lookup uri with
  | some text =>
      refine ⟨s, Runs.bind (runsTo_get s) ?_, hs⟩
      rw [hkept, ← hs.faithful uri text hkept]
      exact Runs.pure text s
  | none =>
      refine ⟨((uri, look w.texts uri) :: s.1, s.2 ++ [.readText uri]),
        Runs.bind (runsTo_get s) ?_, hs.keep hkept⟩
      rw [hkept]
      refine Runs.bind (runsTo_lift (runsTo_answer (.readText uri) (look w.texts uri) s.2)) ?_
      exact Runs.bind (runsTo_modify _ _) (Runs.pure _ _)

/-! ## Opening a class -/

theorem nameAt?_runsTo {w : World} {asked : List Call} {s : Sources × List Call}
    (hs : w.Tracks asked s) (l : Location) :
    ∃ s', RunsTo (Ancestry.nameAt? w.host l) s (w.nameAt? l) s' ∧ w.Tracks asked s' := by
  obtain ⟨s', hrun, hs'⟩ := source_runsTo hs l.uri
  refine ⟨s', Runs.bind hrun ?_, hs'⟩
  unfold nameAt?
  cases look w.texts l.uri with
  | none => exact Runs.pure none s'
  | some text =>
      dsimp only
      cases (Text.lines text.toList)[l.span.start.line]? with
      | none => exact Runs.pure none s'
      | some line => exact Runs.pure _ s'

/-- What some locations say: the end of the chase, or further classes behind
those found before. -/
def sitesOutcome (w : World) (base : BaseClass) (sites : List Location) (found : List ClassRef) :
    Bool × List ClassRef :=
  if sites.any fun l => base.definedIn l.uri then (true, [])
  else (false, found ++ sites.filterMap w.classAt?)

theorem sitesOutcome_marked {w : World} {base : BaseClass} {sites : List Location}
    (h : sites.any (fun l => base.definedIn l.uri) = true) (found : List ClassRef) :
    w.sitesOutcome base sites found = (true, []) :=
  if_pos h

theorem sitesOutcome_plain {w : World} {base : BaseClass} {sites : List Location}
    (h : sites.any (fun l => base.definedIn l.uri) = false) (found : List ClassRef) :
    w.sitesOutcome base sites found = (false, found ++ sites.filterMap w.classAt?) :=
  if_neg (Bool.eq_false_iff.mp h)

@[simp] theorem sitesOutcome_nil (w : World) (base : BaseClass) (found : List ClassRef) :
    w.sitesOutcome base [] found = (false, found) := by
  simp [sitesOutcome]

theorem sitesOutcome_append (w : World) (base : BaseClass) (first rest : List Location)
    (found : List ClassRef) :
    w.sitesOutcome base (first ++ rest) found =
      if (w.sitesOutcome base first found).1 then (true, [])
      else w.sitesOutcome base rest (w.sitesOutcome base first found).2 := by
  cases h : first.any fun l => base.definedIn l.uri with
  | true =>
      rw [sitesOutcome_marked h, sitesOutcome_marked (by simp [h])]
      rfl
  | false =>
      rw [sitesOutcome_plain h]
      simp [sitesOutcome, List.any_append, h]

theorem followLocations_runsTo {w : World} (base : BaseClass) (sites : List Location)
    {asked : List Call} {s : Sources × List Call} (hs : w.Tracks asked s) (found : List ClassRef) :
    ∃ s', RunsTo (Ancestry.followLocations w.host base sites found) s
      (w.sitesOutcome base sites found) s' ∧ w.Tracks asked s' := by
  induction sites generalizing s found with
  | nil =>
      rw [sitesOutcome_nil, Ancestry.followLocations]
      exact ⟨s, Runs.pure _ s, hs⟩
  | cons l rest ih =>
      have hsplit := sitesOutcome_append w base [l] rest found
      rw [List.singleton_append] at hsplit
      rw [hsplit, Ancestry.followLocations]
      cases hl : base.definedIn l.uri with
      | true =>
          rw [sitesOutcome_marked (by simpa using hl)]
          exact ⟨s, Runs.pure _ s, hs⟩
      | false =>
          rw [sitesOutcome_plain (by simpa using hl)]
          obtain ⟨s₁, hname, hs₁⟩ := nameAt?_runsTo hs l
          cases hn : w.nameAt? l with
          | none =>
              obtain ⟨s₂, hrest, hs₂⟩ := ih hs₁ found
              rw [hn] at hname
              refine ⟨s₂, Runs.bind hname ?_, hs₂⟩
              simpa [classAt?, hn] using hrest
          | some name =>
              obtain ⟨s₂, hrest, hs₂⟩ := ih hs₁ (found ++ [⟨l.uri, name⟩])
              rw [hn] at hname
              refine ⟨s₂, Runs.bind hname ?_, hs₂⟩
              simpa [classAt?, hn] using hrest

/-- Following bases jumps from them in order, and from the first ones only if the
chase ends there. -/
theorem followBases_runsTo {w : World} (base : BaseClass) (uri : String)
    (bases : List BaseReference) {asked : List Call} {s : Sources × List Call}
    (hs : w.Tracks asked s) (found : List ClassRef) :
    ∃ s' more, RunsTo (Ancestry.followBases w.host base uri bases found) s
        (w.sitesOutcome base (w.definitionsOf uri bases) found) s' ∧
      more <+: jumpsOf uri bases ∧ w.Tracks (asked ++ more) s' := by
  induction bases generalizing asked s found with
  | nil =>
      rw [definitionsOf, List.flatMap_nil, sitesOutcome_nil, Ancestry.followBases]
      exact ⟨s, [], Runs.pure _ s, List.nil_prefix, by simpa using hs⟩
  | cons b rest ih =>
      let sites := (look w.definitions (uri, ⟨b.line, b.column⟩)).getD []
      let jump := Call.jumpToDefinition uri ⟨b.line, b.column⟩
      have hsplit : w.definitionsOf uri (b :: rest) = sites ++ w.definitionsOf uri rest := by
        rw [definitionsOf, List.flatMap_cons]
        rfl
      have hcalled : w.Tracks (asked ++ [jump]) (s.1, s.2 ++ [jump]) := hs.call rfl
      obtain ⟨s₁, hsites, hs₁⟩ := followLocations_runsTo base sites hcalled found
      have hjump : RunsTo (monadLift (w.host.jumpToDefinition uri ⟨b.line, b.column⟩) :
          Chase Log _) s (look w.definitions (uri, ⟨b.line, b.column⟩)) (s.1, s.2 ++ [jump]) :=
        runsTo_lift (runsTo_answer jump _ s.2)
      rw [hsplit, sitesOutcome_append, Ancestry.followBases]
      cases hreached : (w.sitesOutcome base sites found).1 with
      | true =>
          refine ⟨s₁, [jump], Runs.bind hjump (Runs.bind hsites ?_), by simp [jumpsOf, jump], hs₁⟩
          simp only [hreached]
          exact Runs.pure _ s₁
      | false =>
          obtain ⟨s₂, more, hrest, hmore, hs₂⟩ := ih hs₁ (w.sitesOutcome base sites found).2
          refine ⟨s₂, jump :: more, Runs.bind hjump (Runs.bind hsites ?_),
            List.cons_prefix_cons.mpr ⟨rfl, hmore⟩, by simpa using hs₂⟩
          simp only [hreached]
          exact hrest

theorem expand_runsTo {w : World} (base : BaseClass) (c : ClassRef) {asked : List Call}
    {s : Sources × List Call} (hs : w.Tracks asked s) :
    ∃ s' more, RunsTo (Ancestry.expand w.host base c) s
        (w.sitesOutcome base (w.baseSites base c) []) s' ∧
      more <+: w.jumps base c ∧ w.Tracks (asked ++ more) s' := by
  obtain ⟨s₁, hsource, hs₁⟩ := source_runsTo hs c.uri
  unfold Ancestry.expand baseSites jumps
  cases htext : look w.texts c.uri with
  | none =>
      rw [htext] at hsource
      exact ⟨s₁, [], Runs.bind hsource (Runs.pure _ s₁), List.nil_prefix, by simpa using hs₁⟩
  | some text =>
      rw [htext] at hsource
      dsimp only
      cases hheader : classHeader? text.toList c.name with
      | none =>
          refine ⟨s₁, [], Runs.bind hsource ?_, List.nil_prefix, by simpa using hs₁⟩
          simp only [hheader]
          exact Runs.pure _ s₁
      | some header =>
          obtain ⟨s₂, more, hbases, hmore, hs₂⟩ := followBases_runsTo base c.uri
            (baseList header.1 header.2 c.name base.rootBase) hs₁ []
          refine ⟨s₂, more, Runs.bind hsource ?_, hmore, hs₂⟩
          simp only [hheader]
          exact hbases

/-! ## The chase -/

theorem sitesOutcome_presents (w : World) (base : BaseClass) :
    Search.Presents (fun c => w.sitesOutcome base (w.baseSites base c) []) id (w.LeadsTo base)
      (w.Touches base) where
  goal_iff c := by
    unfold sitesOutcome Touches
    simp only [id, ← BaseClass.definedIn_iff, ← List.any_eq_true]
    split
    next h => simp [h]
    next h => simp [h]
  edge_iff c h d := by
    cases hmarked : (w.baseSites base c).any fun l => base.definedIn l.uri with
    | true => simp [sitesOutcome_marked hmarked] at h
    | false =>
        simp only [sitesOutcome_plain hmarked, List.nil_append, List.mem_filterMap, id, LeadsTo]
        exact ⟨fun hd => ⟨d, hd, rfl⟩, fun ⟨_, hd, he⟩ => he ▸ hd⟩

theorem mem_definitions_of_mem_baseSites {w : World} {base : BaseClass} {c : ClassRef}
    {l : Location} (h : l ∈ w.baseSites base c) : l ∈ entries w.definitions := by
  unfold baseSites definitionsOf at h
  split at h
  · simp at h
  · split at h
    · simp at h
    · obtain ⟨b, -, hl⟩ := List.mem_flatMap.mp h
      exact mem_entries_of_look hl

/-- The classes that a chase opens, in order, and whether it reaches the base class. -/
def chaseTrace (w : World) (base : BaseClass) (c : ClassRef) : List ClassRef × Bool :=
  Search.depthTrace (fun c => w.sitesOutcome base (w.baseSites base c) []) id
    (w.host.classBound [] + 1) [c] []

/-- The chase follows its trace, and its jumps are from the headers of the classes opened. -/
theorem byChase_traced (w : World) (base : BaseClass) (c : ClassRef) :
    ∃ asked s', RunsTo (Ancestry.byChase w.host base c) [] (w.chaseTrace base c).2 s'.2 ∧
      asked.Sublist ((w.chaseTrace base c).1.flatMap (w.jumps base)) ∧ w.Tracks asked s' := by
  obtain ⟨s', hrun, asked, hasked, hs'⟩ := Search.depthFrom_runsTo id
    (fun opened s => ∃ asked, asked.Sublist (opened.flatMap (w.jumps base)) ∧ w.Tracks asked s)
    (fun opened c s ⟨asked, hasked, hs⟩ => by
      obtain ⟨s', more, hrun, hmore, hs'⟩ := expand_runsTo base c hs
      refine ⟨s', hrun, asked ++ more, ?_, hs'⟩
      rw [List.flatMap_append, List.flatMap_singleton]
      exact hasked.append hmore.sublist)
    (w.host.classBound [] + 1) [c] [] [] ([], []) ⟨[], List.Sublist.refl _, w.tracks_nil⟩
  exact ⟨asked, s', runsTo_of_get (fun _ => rfl) (runsTo_run' hrun), hasked, hs'⟩

/-- The chase ends, and reaches the base class exactly when a chain leads there. -/
theorem byChase_runsTo (w : World) (base : BaseClass) (c : ClassRef) (s : List Call) :
    ∃ verdict s', RunsTo (Ancestry.byChase w.host base c) s verdict s' ∧
      (verdict = true ↔ w.ChainReaches base c) := by
  obtain ⟨_, s', hrun, -⟩ := w.byChase_traced base c
  let keys := c :: (entries w.definitions).filterMap w.classAt?
  have hclosed : ∀ k ∈ keys, ∀ k', w.LeadsTo base k k' → k' ∈ keys := by
    rintro k - k' ⟨l, hl, hk'⟩
    refine List.mem_cons_of_mem c (List.mem_filterMap.mpr ⟨l, ?_, hk'⟩)
    exact mem_definitions_of_mem_baseSites hl
  have henough : keys.length ≤ w.host.classBound [] + 1 := by
    have hle := List.length_filterMap_le w.classAt? (entries w.definitions)
    rw [length_entries] at hle
    simp only [keys, host, List.length_cons]
    omega
  exact ⟨_, s ++ s'.2, runsTo_behind hrun s,
    Search.depthTrace_root_iff (w.sitesOutcome_presents base) hclosed List.mem_cons_self henough⟩

end World

end LozengeNav
