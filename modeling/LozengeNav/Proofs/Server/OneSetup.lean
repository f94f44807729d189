import LozengeNav.Proofs.Server.Stage

/-! # One setup at a time

The lock is with a caller exactly as long as that caller is in a setup, and there is no
engine meanwhile. So the holder of the lock and the engine tell the stage, and whatever
the event loop does next runs on from that stage. From nobody having called to any
later state, the events are orderly in every interleaving.
-/

namespace LozengeNav

open Query

namespace Config

/-- Search paths have no fault but that of a home directory. -/
theorem noHome_of_resolveSearchPaths {config : Config} {home root : Path} {fault : Fault}
    (h : config.resolveSearchPaths home root = .error fault) : fault = .noHome := by
  obtain ⟨entry, -, hentry⟩ := Fault.exists_of_mapM_eq_error h
  rcases Fault.error_of_bind_eq_error hentry with hhome | ⟨p, -, hp⟩
  · unfold expandHome at hhome
    split at hhome
    · split at hhome
      · cases hhome
      · split at hhome <;> cases hhome
        rfl
    · cases hhome
  · cases hp

end Config

namespace Server

def Stage.idle : Option Engine → Stage
  | none => vacant
  | some engine => ready engine

/-- A caller in a setup. -/
def Phase.Inside : Phase → Prop
  | starting .. => True
  | retreating .. => True
  | _ => False

def Phase.stage (i : Nat) : Phase → Stage
  | starting _ config => .starting i config.backend
  | retreating .. => .retreating i
  | _ => .vacant

/-- There can be no session only where a language server was asked for. -/
theorem backend_of_isNoSession {m : Machine} {root : Path} {config : Config} {s : Server}
    {fault : Fault} (h : ((startEngine m root config).run.run s).1 = .error fault)
    (hnone : fault.isNoSession = true) : config.backend = .lsp := by
  rw [startEngine_fst, Engine.started] at h
  cases hbackend : config.backend with
  | lsp => rfl
  | static =>
      rw [hbackend] at h
      rcases Fault.error_of_bind_eq_error h with hpaths | ⟨paths, -, hpaths⟩
      · rw [Config.noHome_of_resolveSearchPaths hpaths] at hnone
        cases hnone
      · cases hpaths

theorem within_engine {α : Type} (q : Query EngineState α) (s : Server) :
    ((within q).run.run s).2.engine = s.engine := by
  rw [within, Engine.zoom_run]
  rfl

theorem startEngine_engine (m : Machine) (root : Path) (config : Config) (s : Server) :
    ((startEngine m root config).run.run s).2.engine = s.engine := by
  rw [startEngine, run_modify, within_engine]

theorem close_engine (s : Server) : (close s).engine = none := by
  unfold close
  split
  · assumption
  · exact within_engine _ _

namespace Contention

def stage (c : Contention) : Stage :=
  match c.holder with
  | some i => (c.phase i).stage i
  | none => .idle c.server.engine

/-- The lock is with the caller that sets up, and nobody sets up while there is an engine. -/
structure Locked (c : Contention) : Prop where
  held : ∀ {i}, (c.phase i).Inside → c.holder = some i
  inside : ∀ {i}, c.holder = some i → (c.phase i).Inside ∧ c.server.engine = none
  static : ∀ {i root config}, c.phase i = .retreating root config → config.backend = .static

/-- Nobody but perhaps one caller sets up, and there is no engine. -/
structure Solitary (c : Contention) (i : Nat) : Prop where
  others : ∀ j, j ≠ i → ¬ (c.phase j).Inside
  engine : c.server.engine = none

/-- Events lead on from a stage, and the lock is kept. -/
structure Leads (stage : Stage) (x : Contention × List Event) : Prop where
  path : stage.Run x.2 x.1.stage
  locked : x.1.Locked

section Steps

variable {m : Machine} {c : Contention} {i : Nat} {stage : Stage} {root : Path} {config : Config}

theorem stage_of_holder (h : c.holder = some i) : c.stage = (c.phase i).stage i := by
  rw [Contention.stage, h]

theorem stage_of_free (h : c.holder = none) : c.stage = .idle c.server.engine := by
  rw [Contention.stage, h]

theorem stage_settled (c : Contention) : c.stage.Settled := by
  cases hholder : c.holder with
  | none =>
      rw [stage_of_free hholder]
      cases c.server.engine <;> trivial
  | some i =>
      rw [stage_of_holder hholder]
      cases c.phase i <;> trivial

theorem locked_fresh (s : Server) : (fresh s).Locked :=
  ⟨False.elim, nofun, nofun⟩

theorem locked_of_free (hfree : c.holder = none) (h : ∀ j, ¬ (c.phase j).Inside) : c.Locked := by
  refine ⟨fun hi => (h _ hi).elim, fun hi => ?_, fun {j _ _} hj => ?_⟩
  · rw [hfree] at hi
    cases hi
  · refine (h j ?_).elim
    rw [hj]
    trivial

theorem Locked.solitary_of_free (hc : c.Locked) (hfree : c.holder = none)
    (hengine : c.server.engine = none) (i : Nat) : c.Solitary i := by
  refine ⟨fun j _ hj => ?_, hengine⟩
  cases (hc.held hj).symm.trans hfree

/-- A caller that is suspended in a setup has the lock, and is alone with it. -/
theorem Locked.suspended {p : Phase} (hc : c.Locked) (hphase : c.phase i = p) (hp : p.Inside) :
    c.stage = p.stage i ∧ c.Solitary i := by
  subst hphase
  have hholder := hc.held hp
  refine ⟨stage_of_holder hholder, fun j hne hj => ?_, (hc.inside hholder).2⟩
  cases (hc.held hj).symm.trans hholder
  exact hne rfl

theorem Solitary.not_inside_done (h : c.Solitary i) (j : Nat) :
    ¬ ((c.setPhase i .done).phase j).Inside := by
  by_cases hj : j = i
  · rw [hj, setPhase_phase_self]
    exact id
  · rw [setPhase_phase_of_ne c hj]
    exact h.others j hj

theorem leads_giveUp (h : c.Solitary i) {cause : Option Fault}
    (hnext : stage.Next (.raises i cause) .vacant) : Leads stage (c.giveUp i cause) := by
  refine ⟨.cons hnext ?_, locked_of_free rfl h.not_inside_done⟩
  rw [show (c.giveUp i cause).1.stage = .vacant from congrArg Stage.idle h.engine]
  exact .nil _

theorem leads_publish (h : c.Solitary i) {engine : Engine}
    (hnext : stage.Next (.completes i engine) (.ready engine)) :
    Leads stage (c.publish i engine) :=
  ⟨.cons hnext (.cons (.returns i engine) (.nil _)), locked_of_free rfl h.not_inside_done⟩

theorem leads_launch (h : c.Solitary i) {p : Phase} (hinside : p.Inside)
    (hstatic : ∀ {root config}, p = .retreating root config → config.backend = .static)
    (hnext : stage.Next (.starts i config.backend) (p.stage i)) :
    Leads stage (c.launch i config p) := by
  have hphase : (c.launch i config p).1.phase i = p := setPhase_phase_self c i p
  have hothers : ∀ j, j ≠ i → ((c.launch i config p).1.phase j) = c.phase j :=
    fun j hj => setPhase_phase_of_ne c hj p
  -- The caller has the lock now, and what others do has not changed.
  refine ⟨.cons hnext ?_, ?_, ?_, ?_⟩
  · rw [show (c.launch i config p).1.stage = p.stage i from congrArg (Phase.stage i) hphase]
    exact .nil _
  · intro j hj
    by_cases hne : j = i
    · rw [hne]
      rfl
    · rw [hothers j hne] at hj
      exact (h.others j hne hj).elim
  · rintro j ⟨⟩
    rw [hphase]
    exact ⟨hinside, h.engine⟩
  · intro j root config hj
    by_cases hne : j = i
    · rw [hne, hphase] at hj
      exact hstatic hj
    · rw [hothers j hne] at hj
      refine (h.others j hne ?_).elim
      rw [hj]
      trivial

/-- What a caller outside of a setup does leaves the lock as it is. -/
theorem Locked.setPhase {p : Phase} (hc : c.Locked) (hi : ¬ (c.phase i).Inside)
    (hp : ¬ p.Inside) : (c.setPhase i p).Locked := by
  have hkept : ∀ {j}, ((c.setPhase i p).phase j).Inside →
      (c.setPhase i p).phase j = c.phase j := by
    intro j hj
    refine setPhase_phase_of_ne c ?_ p
    rintro rfl
    rw [setPhase_phase_self] at hj
    exact hp hj
  refine ⟨fun hj => hc.held (hkept hj ▸ hj), fun {j} hj => ?_, fun {j root config} hj => ?_⟩
  · have hinside := hc.inside (i := j) hj
    have hne : j ≠ i := by
      rintro rfl
      exact hi hinside.1
    rw [setPhase_phase_of_ne c hne]
    exact hinside
  · have hinside : ((c.setPhase i p).phase j).Inside := by rw [hj]; trivial
    exact hc.static ((hkept hinside).symm.trans hj)

theorem Locked.stage_setPhase {p : Phase} (hc : c.Locked) (hi : ¬ (c.phase i).Inside) :
    (c.setPhase i p).stage = c.stage := by
  cases hholder : c.holder with
  | none => rw [stage_of_free (c := c.setPhase i p) hholder, stage_of_free hholder]; rfl
  | some j =>
      have hne : j ≠ i := by
        rintro rfl
        exact hi (hc.inside hholder).1
      rw [stage_of_holder (c := c.setPhase i p) hholder, stage_of_holder hholder,
        setPhase_phase_of_ne c hne]

theorem leads_setPhase {p : Phase} {events : List Event} (hc : c.Locked)
    (hi : ¬ (c.phase i).Inside) (hp : ¬ p.Inside) (hevents : c.stage.Run events c.stage) :
    Leads c.stage (c.setPhase i p, events) := by
  refine ⟨?_, hc.setPhase hi hp⟩
  rw [hc.stage_setPhase hi]
  exact hevents

theorem leads_conclude (h : c.Solitary i)
    (hok : ∀ engine, stage.Next (.completes i engine) (.ready engine))
    {onFault : Fault → Contention → Contention × List Event}
    (hfault : ∀ {fault c'}, ((startEngine m root config).run.run c.server).1 = .error fault →
      Solitary c' i → ∃ stage', stage.Next (.fails i config.backend fault) stage' ∧
        Leads stage' (onFault fault c')) :
    Leads stage (c.conclude m i root config onFault) := by
  obtain ⟨result, s, hrun⟩ : ∃ result s,
      (startEngine m root config).run.run c.server = (result, s) := ⟨_, _, rfl⟩
  have hengine := startEngine_engine m root config c.server
  rw [hrun] at hfault hengine
  have hsolitary : Solitary { c with server := s } i := ⟨h.others, hengine.trans h.engine⟩
  cases result with
  | ok engine =>
      rw [conclude_of_ok hrun]
      exact leads_publish hsolitary (hok engine)
  | error fault =>
      rw [conclude_of_error hrun]
      obtain ⟨stage', hnext, hleads⟩ := hfault rfl hsolitary
      exact ⟨.cons hnext hleads.path, hleads.locked⟩

/-- Without a session a caller falls back on the sources, and it gives up otherwise. -/
theorem leads_fallBack {fault : Fault} (h : c.Solitary i)
    (hlsp : fault.isNoSession = true → config.backend = .lsp) :
    ∃ stage', (Stage.starting i config.backend).Next (.fails i config.backend fault) stage' ∧
      Leads stage' (fallBack i root config fault c) := by
  rw [fallBack, retreat?]
  by_cases hnone : fault.isNoSession = true
  · rw [if_pos hnone]
    refine ⟨_, .refuses i _ fault ⟨hlsp hnone, hnone⟩, leads_launch h trivial ?_ (.retreat i)⟩
    rintro _ _ ⟨⟩
    rfl
  · rw [if_neg hnone]
    exact ⟨_, .fails i _ fault fun hretreats => hnone hretreats.2, leads_giveUp h (.raises i fault)⟩

theorem leads_resume (hc : c.Locked) : Leads c.stage (c.resume m i) := by
  unfold resume
  split
  · next root config hphase =>
      obtain ⟨hstage, hsolitary⟩ := hc.suspended hphase trivial
      rw [hstage]
      refine leads_conclude hsolitary (.completes i _) ?_
      intro fault c' hrun hsolitary
      exact leads_fallBack hsolitary (backend_of_isNoSession hrun)
  · next root config hphase =>
      obtain ⟨hstage, hsolitary⟩ := hc.suspended hphase trivial
      rw [hstage]
      refine leads_conclude hsolitary (.completesRetreat i) ?_
      intro fault c' _ hsolitary
      -- The configuration of a retreat has the sources as its backend.
      rw [hc.static hphase]
      exact ⟨_, .failsRetreat i fault, leads_giveUp hsolitary (.raises i fault)⟩
  · exact ⟨.nil _, hc⟩

theorem leads_cancel (hc : c.Locked) : Leads c.stage (c.cancel i) := by
  unfold cancel
  split
  · next root hphase =>
      exact leads_setPhase hc (by rw [hphase]; exact id) id (.nil _)
  · next root config hphase =>
      obtain ⟨hstage, hsolitary⟩ := hc.suspended hphase trivial
      rw [hstage]
      exact leads_giveUp hsolitary (.cancelled i _)
  · next root config hphase =>
      obtain ⟨hstage, hsolitary⟩ := hc.suspended hphase trivial
      rw [hstage]
      exact leads_giveUp hsolitary (.cancelledRetreat i)
  · exact ⟨.nil _, hc⟩

theorem leads_acquire (hc : c.Locked) (hfree : c.holder = none) (hi : ¬ (c.phase i).Inside) :
    Leads c.stage (c.acquire i root) := by
  unfold acquire
  split
  · next engine hengine =>
      refine leads_setPhase hc hi id ?_
      rw [stage_of_free hfree, hengine]
      exact .cons (.returns i engine) (.nil _)
  · next hengine =>
      have hsolitary := hc.solitary_of_free hfree hengine i
      rw [stage_of_free hfree, hengine]
      cases settle (Config.load c.server.inner.tree root) with
      | error fault =>
          have hleads := leads_giveUp hsolitary (.unreadable i fault)
          exact ⟨.cons (.begins i) hleads.path, hleads.locked⟩
      | ok config =>
          have hleads := leads_launch hsolitary (p := .starting root config) trivial nofun
            (.starts i config.backend)
          exact ⟨.cons (.begins i) hleads.path, hleads.locked⟩

/-- A change of the server that brings no engine leaves the lock as it is. -/
theorem Locked.setServer {s : Server} (hc : c.Locked)
    (h : c.server.engine = none → s.engine = none) : Locked { c with server := s } :=
  ⟨hc.held, fun hi => ⟨(hc.inside hi).1, h (hc.inside hi).2⟩, hc.static⟩

theorem stage_close (c : Contention) :
    Contention.stage { c with server := close c.server } = c.stage.stopped := by
  rw [Contention.stage, close_engine, Contention.stage]
  cases c.holder with
  | none => cases c.server.engine <;> rfl
  | some i =>
      dsimp only
      cases c.phase i <;> rfl

/-- One move: the stages let its events follow, and the lock is kept. -/
theorem leads_step (m : Machine) (hc : c.Locked) (move : Move) : Leads c.stage (c.step m move) := by
  cases move with
  | call i root =>
      rw [step]
      split
      · next hphase => exact leads_setPhase hc (by rw [hphase]; exact id) id (.nil _)
      · exact ⟨.nil _, hc⟩
  | acquire i =>
      rw [step]
      split
      · next root hfree hphase => exact leads_acquire hc hfree (by rw [hphase]; exact id)
      · exact ⟨.nil _, hc⟩
  | resume i => exact leads_resume hc
  | cancel i => exact leads_cancel hc
  | stop =>
      -- In the middle of a setup there is no engine to give up.
      refine ⟨.cons (.stops _ c.stage_settled) ?_, hc.setServer fun _ => close_engine _⟩
      rw [← stage_close c]
      exact .nil _
  | proceed view ended inner => exact ⟨.nil _, hc.setServer id⟩

theorem leads_run (m : Machine) (hc : c.Locked) (moves : List Move) :
    Leads c.stage (after m c moves, trace m c moves) := by
  induction moves generalizing c with
  | nil => exact ⟨.nil _, hc⟩
  | cons move rest ih =>
      have hstep := leads_step m hc move
      have hrest := ih hstep.locked
      exact ⟨hstep.path.append hrest.path, hrest.locked⟩

end Steps

/-- There is no engine, the lock is free, and the next caller that gets it sets up. -/
structure Reopened (m : Machine) (c : Contention) : Prop where
  engine : c.server.engine = none
  free : c.holder = none
  next : ∀ {i root}, c.phase i = .waiting root →
    ∃ events, (c.step m (.acquire i)).2 = .begins i :: events

theorem Locked.reopened {m : Machine} {c : Contention} (hc : c.Locked) (h : c.stage = .vacant) :
    c.Reopened m := by
  have hfree : c.holder = none := by
    cases hholder : c.holder with
    | none => rfl
    | some i =>
        have hinside := (hc.inside hholder).1
        rw [stage_of_holder hholder] at h
        cases hphase : c.phase i with
        | starting => rw [hphase] at h; cases h
        | retreating => rw [hphase] at h; cases h
        | _ => rw [hphase] at hinside; exact hinside.elim
  have hengine : c.server.engine = none := by
    rw [stage_of_free hfree] at h
    cases hengine : c.server.engine with
    | none => rfl
    | some engine => rw [hengine] at h; cases h
  refine ⟨hengine, hfree, fun {i root} hwaits => ?_⟩
  simp only [step, hfree, hwaits, acquire, hengine]
  exact ⟨_, rfl⟩

/-- In every interleaving of callers, with engines given up, callers cancelled and other
things going on at any time: at most one caller is in a setup, the events are orderly,
and after a setup that ended without an engine the next caller sets up again. -/
theorem one_setup_per_session (m : Machine) (defaultRoot : Option Path) (inner : EngineState)
    (moves : List Move) :
    (∀ {i j}, ((after m (fresh (.fresh defaultRoot inner)) moves).phase i).Inside →
      ((after m (fresh (.fresh defaultRoot inner)) moves).phase j).Inside → i = j) ∧
    Orderly (trace m (fresh (.fresh defaultRoot inner)) moves) ∧
    (∀ {i cause},
      (trace m (fresh (.fresh defaultRoot inner)) moves).getLast? = some (.raises i cause) →
      Reopened m (after m (fresh (.fresh defaultRoot inner)) moves)) := by
  obtain ⟨hpath, hlocked⟩ := leads_run m (locked_fresh (.fresh defaultRoot inner)) moves
  refine ⟨?_, hpath.orderly (stage_settled _), ?_⟩
  · intro i j hi hj
    exact Option.some.inj ((hlocked.held hi).symm.trans (hlocked.held hj))
  · intro i cause hlast
    obtain ⟨before, hlog⟩ := List.getLast?_eq_some_iff.1 hlast
    dsimp only at hpath hlocked
    rw [hlog] at hpath
    exact hlocked.reopened hpath.vacant_of_raises

def contendedRoot : Path :=
  ⟨.root, ["ws"]⟩

/-- A workspace that asks for a language server, which does not answer. -/
def unanswered : EngineState :=
  .fresh (configuredWith (Text.Utf8.encode "backend = 'lsp'".toList)) (some [])

/-- The lock is asked for while it is taken, the engine is given up, and a caller is
cancelled in its setup while another one waits. -/
def contendedMoves : List Move :=
  [.call 0 contendedRoot, .call 1 contendedRoot, .acquire 0, .acquire 1, .resume 0, .acquire 1,
    .resume 0, .acquire 1, .stop, .call 2 contendedRoot, .acquire 2, .call 3 contendedRoot,
    .acquire 3, .cancel 2]

def sourcesOfRoot : Engine :=
  .sources ⟨Engine.workspace {} contendedRoot, [], []⟩

/-- Two callers get one engine from one setup, and after the cancelled setup another one
begins. -/
theorem one_setup_per_session_contended :
    trace plainMachine (fresh (.fresh none unanswered)) contendedMoves =
        [.begins 0, .starts 0 .lsp, .fails 0 .lsp (.notInitialized "pyright-langserver"),
          .starts 0 .static, .completes 0 sourcesOfRoot, .returns 0 sourcesOfRoot,
          .returns 1 sourcesOfRoot, .stops, .begins 2, .starts 2 .lsp, .raises 2 none] ∧
      Reopened plainMachine
        (after plainMachine (fresh (.fresh none unanswered)) contendedMoves) ∧
      trace plainMachine (fresh (.fresh none unanswered)) (contendedMoves ++ [.acquire 3]) =
        trace plainMachine (fresh (.fresh none unanswered)) contendedMoves ++
          [.begins 3, .starts 3 .lsp] := by
  have hlog : trace plainMachine (fresh (.fresh none unanswered)) contendedMoves =
      [.begins 0, .starts 0 .lsp, .fails 0 .lsp (.notInitialized "pyright-langserver"),
        .starts 0 .static, .completes 0 sourcesOfRoot, .returns 0 sourcesOfRoot,
        .returns 1 sourcesOfRoot, .stops, .begins 2, .starts 2 .lsp, .raises 2 none] := by
    decide +kernel
  have hlast : (trace plainMachine (fresh (.fresh none unanswered)) contendedMoves).getLast? =
      some (.raises 2 none) := by rw [hlog]; rfl
  obtain ⟨-, -, hreopened⟩ := one_setup_per_session plainMachine none unanswered contendedMoves
  exact ⟨hlog, hreopened hlast, by decide +kernel⟩

end Contention

end Server

end LozengeNav
