import LozengeNav.Proofs.Server.Contention

/-! # Stages of setting up

What has happened to the engine of a server determines a stage, and each stage lets few
events follow. Events that run through the stages are orderly: setups do not overlap, an
engine stays until it is given up, a language server that cannot be started makes way
for the sources once, and after a setup that failed otherwise the next caller sets up
again. Callers and their lock are not looked at here.
-/

namespace LozengeNav

namespace Server

/-! ## Stages -/

/-- How far setting up has got. -/
inductive Stage where
  /-- There is no engine, and nobody sets one up. -/
  | vacant
  | began (i : Nat)
  | starting (i : Nat) (backend : Backend)
  /-- There is no session with a language server. -/
  | refused (i : Nat)
  | retreating (i : Nat)
  /-- The setup is going to end with a fault. -/
  | failed (i : Nat) (fault : Fault)
  | ready (engine : Engine)

def Stage.SetUpBy (i : Nat) : Stage → Prop
  | began j => j = i
  | starting j _ => j = i
  | refused j => j = i
  | retreating j => j = i
  | failed j _ => j = i
  | _ => False

/-- A caller is in the middle of its setup and will start no engine any more. -/
def Stage.SpentBy (i : Nat) : Stage → Prop
  | retreating j => j = i
  | failed j _ => j = i
  | _ => False

/-- The event loop can turn to something else: callers are suspended or absent. -/
def Stage.Settled : Stage → Prop
  | vacant => True
  | starting .. => True
  | retreating _ => True
  | ready _ => True
  | _ => False

def Stage.stopped : Stage → Stage
  | ready _ => vacant
  | stage => stage

/-- A failure of a start that leaves the sources to fall back on. -/
def Retreats (backend : Backend) (fault : Fault) : Prop :=
  backend = .lsp ∧ fault.isNoSession = true

/-- The events that can follow a stage, with the stage after them. -/
inductive Stage.Next : Stage → Event → Stage → Prop where
  | begins (i : Nat) : Next vacant (.begins i) (began i)
  | unreadable (i : Nat) (cause : Option Fault) : Next (began i) (.raises i cause) vacant
  | starts (i : Nat) (backend : Backend) : Next (began i) (.starts i backend) (starting i backend)
  | completes (i : Nat) (backend : Backend) (engine : Engine) :
      Next (starting i backend) (.completes i engine) (ready engine)
  | refuses (i : Nat) (backend : Backend) (fault : Fault) (h : Retreats backend fault) :
      Next (starting i backend) (.fails i backend fault) (refused i)
  | fails (i : Nat) (backend : Backend) (fault : Fault) (h : ¬ Retreats backend fault) :
      Next (starting i backend) (.fails i backend fault) (failed i fault)
  | retreat (i : Nat) : Next (refused i) (.starts i .static) (retreating i)
  | completesRetreat (i : Nat) (engine : Engine) :
      Next (retreating i) (.completes i engine) (ready engine)
  | failsRetreat (i : Nat) (fault : Fault) :
      Next (retreating i) (.fails i .static fault) (failed i fault)
  | raises (i : Nat) (fault : Fault) : Next (failed i fault) (.raises i (some fault)) vacant
  | cancelled (i : Nat) (backend : Backend) : Next (starting i backend) (.raises i none) vacant
  | cancelledRetreat (i : Nat) : Next (retreating i) (.raises i none) vacant
  | returns (i : Nat) (engine : Engine) : Next (ready engine) (.returns i engine) (ready engine)
  | stops (stage : Stage) (h : stage.Settled) : Next stage .stops stage.stopped

/-- Events that follow each other from one stage to another. -/
inductive Stage.Run : Stage → List Event → Stage → Prop where
  | nil (stage : Stage) : Run stage [] stage
  | cons {stage₁ stage₂ stage₃ : Stage} {e : Event} {rest : List Event} :
      Next stage₁ e stage₂ → Run stage₂ rest stage₃ → Run stage₁ (e :: rest) stage₃

/-- A setup ends, with an engine or without. -/
def Event.Ends (i : Nat) : Event → Prop
  | completes j _ => j = i
  | raises j _ => j = i
  | _ => False

namespace Stage

variable {stage stage' : Stage} {e : Event} {i : Nat} {before log : List Event}

theorem Run.append {stage₁ stage₂ stage₃ : Stage} {others : List Event}
    (h : Run stage₁ log stage₂) (h' : Run stage₂ others stage₃) :
    Run stage₁ (log ++ others) stage₃ := by
  induction h with
  | nil => exact h'
  | cons hnext _ ih => exact .cons hnext (ih h')

theorem Run.split {stage₁ stage₃ : Stage} {others : List Event}
    (h : Run stage₁ (log ++ others) stage₃) :
    ∃ stage₂, Run stage₁ log stage₂ ∧ Run stage₂ others stage₃ := by
  induction log generalizing stage₁ with
  | nil => exact ⟨stage₁, .nil stage₁, h⟩
  | cons e rest ih =>
      cases h with
      | cons hnext hrest =>
          obtain ⟨stage₂, hfirst, hsecond⟩ := ih hrest
          exact ⟨stage₂, .cons hnext hfirst, hsecond⟩

theorem Run.at {stage₁ stage₃ : Stage} {after : List Event}
    (h : Run stage₁ (before ++ e :: after) stage₃) :
    ∃ stage stage', Run stage₁ before stage ∧ Next stage e stage' ∧ Run stage' after stage₃ := by
  obtain ⟨stage, hbefore, hrest⟩ := h.split
  cases hrest with
  | cons hnext hafter => exact ⟨stage, _, hbefore, hnext, hafter⟩

/-! ## Looking ahead -/

/-- If only the end of a setup ends something, and an event cannot come while it lasts,
then the setup ends before that event. -/
theorem Run.ends_before {P : Stage → Prop}
    (hkeeps : ∀ {stage e stage'}, Next stage e stage' → P stage → e.Ends i ∨ P stage')
    (hblocks : ∀ {stage stage'}, Next stage e stage' → ¬ P stage) {after : List Event}
    {stage₁ stage₃ : Stage} (h : Run stage₁ (before ++ e :: after) stage₃) (hP : P stage₁) :
    ∃ x ∈ before, x.Ends i := by
  -- `P` is carried from stage to stage until the setup ends.
  induction before generalizing stage₁ with
  | nil =>
      cases h with
      | cons hnext _ => exact (hblocks hnext hP).elim
  | cons x rest ih =>
      cases h with
      | cons hnext hrest =>
          rcases hkeeps hnext hP with hends | hP'
          · exact ⟨x, List.mem_cons_self, hends⟩
          · obtain ⟨y, hy, hends⟩ := ih hrest hP'
            exact ⟨y, List.mem_cons_of_mem x hy, hends⟩

theorem Next.ends_or_setUpBy (h : Next stage e stage') (hi : stage.SetUpBy i) :
    e.Ends i ∨ stage'.SetUpBy i := by
  cases h with
  | completes => exact .inl hi
  | completesRetreat => exact .inl hi
  | unreadable => exact .inl hi
  | raises => exact .inl hi
  | cancelled => exact .inl hi
  | cancelledRetreat => exact .inl hi
  | stops => cases stage <;> exact .inr hi
  | begins => exact hi.elim
  | returns => exact hi.elim
  | _ => exact .inr hi

theorem Next.ends_or_spentBy (h : Next stage e stage') (hi : stage.SpentBy i) :
    e.Ends i ∨ stage'.SpentBy i := by
  cases h with
  | completesRetreat => exact .inl hi
  | raises => exact .inl hi
  | cancelledRetreat => exact .inl hi
  | failsRetreat => exact .inr hi
  | stops => cases stage <;> exact .inr hi
  | _ => exact hi.elim

/-- A setup that is under way has just begun, or it was before and has not ended. -/
theorem Next.begins_or_setUpBy (h : Next stage e stage') (hi : stage'.SetUpBy i) :
    e = .begins i ∨ (stage.SetUpBy i ∧ ¬ e.Ends i) := by
  cases h with
  | begins => cases hi; exact .inl rfl
  | starts => exact .inr ⟨hi, id⟩
  | refuses => exact .inr ⟨hi, id⟩
  | fails => exact .inr ⟨hi, id⟩
  | retreat => exact .inr ⟨hi, id⟩
  | failsRetreat => exact .inr ⟨hi, id⟩
  -- An engine is given up, and only with an engine does that change the stage.
  | stops => cases stage <;> first | exact hi.elim | exact .inr ⟨hi, id⟩
  | _ => exact hi.elim

/-- An engine that is there has just been set up, or it was there before. -/
theorem Next.completes_or_ready {engine : Engine} (h : Next stage e stage')
    (hready : stage' = ready engine) :
    (∃ i, e = .completes i engine) ∨ (stage = ready engine ∧ e ≠ .stops) := by
  cases h with
  | completes j => cases hready; exact .inl ⟨j, rfl⟩
  | completesRetreat j => cases hready; exact .inl ⟨j, rfl⟩
  | returns => exact .inr ⟨hready, nofun⟩
  | stops => cases stage <;> cases hready
  | _ => cases hready

/-- Between two beginnings there is the end of the first setup. -/
theorem Run.ends_before_begins {mid after : List Event} {j : Nat} {stage₁ stage₃ : Stage}
    (h : Run stage₁ (mid ++ .begins j :: after) stage₃) (hi : stage₁.SetUpBy i) :
    ∃ x ∈ mid, x.Ends i := by
  refine h.ends_before (P := Stage.SetUpBy i) Next.ends_or_setUpBy ?_ hi
  intro stage stage' hnext hby
  cases hnext
  exact hby

/-- The last start of a setup is followed by its end before anything else is started. -/
theorem Run.ends_before_starts {mid after : List Event} {j : Nat} {backend : Backend}
    {stage₁ stage₃ : Stage} (h : Run stage₁ (mid ++ .starts j backend :: after) stage₃)
    (hi : stage₁.SpentBy i) : ∃ x ∈ mid, x.Ends i := by
  refine h.ends_before (P := Stage.SpentBy i) Next.ends_or_spentBy ?_ hi
  intro stage stage' hnext hby
  cases hnext <;> exact hby

/-- Until it is given up, an engine is returned and nothing else happens. -/
theorem Run.returns_of_ready {engine : Engine} {after : List Event} {stage₃ : Stage}
    (h : Run (ready engine) (log ++ after) stage₃) (hstops : .stops ∉ log) :
    ∀ e ∈ log, ∃ j, e = .returns j engine := by
  induction log with
  | nil => exact fun e he => absurd he List.not_mem_nil
  | cons x rest ih =>
      rw [List.mem_cons, not_or] at hstops
      cases h with
      | cons hnext hrest =>
          cases hnext with
          | stops => exact absurd rfl hstops.1
          | returns j =>
              rw [List.forall_mem_cons]
              exact ⟨⟨j, rfl⟩, ih hrest hstops.2⟩

/-- Without an engine and a setup, a setup begins before anything else happens. -/
theorem Run.begins_of_vacant {mid after : List Event} {stage₃ : Stage}
    (h : Run vacant (mid ++ e :: after) stage₃) (hmid : ∀ x ∈ mid, x = .stops) :
    e = .stops ∨ ∃ j, e = .begins j := by
  induction mid with
  | nil =>
      cases h with
      | cons hnext _ =>
          cases hnext with
          | begins j => exact .inr ⟨j, rfl⟩
          | stops => exact .inl rfl
  | cons x rest ih =>
      obtain ⟨rfl, hrest⟩ := List.forall_mem_cons.1 hmid
      cases h with
      | cons hnext hafter =>
          cases hnext
          exact ih hafter hrest

theorem Run.vacant_of_raises {cause : Option Fault} {stage₁ stage₃ : Stage}
    (h : Run stage₁ (before ++ [.raises i cause]) stage₃) : stage₃ = vacant := by
  obtain ⟨_, _, -, hnext, hrest⟩ := h.at
  cases hrest
  cases hnext <;> rfl

/-- A caller that was refused a session goes on at once. -/
theorem Run.starts_of_refused {stage₃ : Stage} (h : Run (refused i) log stage₃)
    (hsettled : stage₃.Settled) :
    ∃ rest, log = .starts i .static :: rest ∧ Run (retreating i) rest stage₃ := by
  cases h with
  | nil => exact hsettled.elim
  | cons hnext hrest =>
      cases hnext with
      | stops _ h => exact h.elim
      | retreat => exact ⟨_, rfl, hrest⟩

/-- A caller that failed to start an engine ends at once. -/
theorem Run.raises_of_failed {fault : Fault} {stage₃ : Stage}
    (h : Run (failed i fault) log stage₃) (hsettled : stage₃.Settled) :
    ∃ rest, log = .raises i (some fault) :: rest := by
  cases h with
  | nil => exact hsettled.elim
  | cons hnext _ =>
      cases hnext with
      | stops _ h => exact h.elim
      | raises => exact ⟨_, rfl⟩

/-! ## Looking back -/

/-- What holds in a stage has held from the start on, or an event has opened it since. -/
theorem Run.origin {Opens : Event → Prop} (P : Stage → Prop) (Closes : Event → Prop)
    (hback : ∀ {stage e stage'}, Next stage e stage' → P stage' →
      Opens e ∨ (P stage ∧ ¬ Closes e))
    {stage₁ stage₂ : Stage} (h : Run stage₁ log stage₂) (hP : P stage₂) :
    (P stage₁ ∧ ∀ x ∈ log, ¬ Closes x) ∨
      ∃ earlier x mid, log = earlier ++ x :: mid ∧ Opens x ∧ ∀ y ∈ mid, ¬ Closes y := by
  induction h with
  | nil => exact .inl ⟨hP, fun x hx => absurd hx List.not_mem_nil⟩
  | @cons _ _ _ e rest hnext _ ih =>
      rcases ih hP with ⟨hmid, hrest⟩ | ⟨earlier, x, mid, rfl, hopens, hmid⟩
      · rcases hback hnext hmid with hopens | ⟨hfirst, hcloses⟩
        · exact .inr ⟨[], e, rest, rfl, hopens, hrest⟩
        · exact .inl ⟨hfirst, List.forall_mem_cons.2 ⟨hcloses, hrest⟩⟩
      · exact .inr ⟨e :: earlier, x, mid, rfl, hopens, hmid⟩

/-- A setup that is under way has begun and not ended. -/
theorem Run.begins_before {stage₂ : Stage} (h : Run vacant log stage₂)
    (hi : stage₂.SetUpBy i) :
    ∃ earlier mid, log = earlier ++ .begins i :: mid ∧ ∀ x ∈ mid, ¬ x.Ends i := by
  rcases h.origin (Stage.SetUpBy i) (Event.Ends i) Next.begins_or_setUpBy hi with
    ⟨hvacant, -⟩ | ⟨earlier, x, mid, hlog, rfl, hmid⟩
  · exact hvacant.elim
  · exact ⟨earlier, mid, hlog, hmid⟩

/-- An engine that is there comes from a setup, and was not given up since. -/
theorem Run.completes_before {engine : Engine} (h : Run vacant log (ready engine)) :
    ∃ earlier i mid, log = earlier ++ .completes i engine :: mid ∧ .stops ∉ mid := by
  rcases h.origin (· = ready engine) (· = .stops) Next.completes_or_ready rfl with
    ⟨hvacant, -⟩ | ⟨earlier, x, mid, hlog, ⟨i, rfl⟩, hmid⟩
  · cases hvacant
  · exact ⟨earlier, i, mid, hlog, fun hstops => hmid _ hstops rfl⟩

end Stage

/-! ## Order -/

/-- Events among which setups come one at a time and engines stay. -/
structure Orderly (log : List Event) : Prop where
  /-- A setup ends before the next one begins. -/
  apart : ∀ {before i mid j after}, log = before ++ .begins i :: (mid ++ .begins j :: after) →
    ∃ e ∈ mid, e.Ends i
  /-- Engines are started in the course of setups only. -/
  inside : ∀ {before i backend after}, log = before ++ .starts i backend :: after →
    ∃ earlier mid, before = earlier ++ .begins i :: mid ∧ ∀ e ∈ mid, ¬ e.Ends i
  /-- From the end of a setup on, its engine is returned, and nothing is set up or started
  until it is given up. -/
  stays : ∀ {before i engine mid after},
    log = before ++ .completes i engine :: (mid ++ after) → .stops ∉ mid →
    ∀ e ∈ mid, ∃ j, e = .returns j engine
  /-- Calls return the engine of the last setup. -/
  same : ∀ {before j engine after}, log = before ++ .returns j engine :: after →
    ∃ earlier i mid, before = earlier ++ .completes i engine :: mid ∧ .stops ∉ mid
  /-- Without a session, the caller that asked for it starts the sources, and nothing is
  started after that before its setup has ended. -/
  retreat : ∀ {before i backend fault after}, log = before ++ .fails i backend fault :: after →
    Retreats backend fault → ∃ rest, after = .starts i .static :: rest ∧
      ∀ {mid j other later}, rest = mid ++ .starts j other :: later → ∃ e ∈ mid, e.Ends i
  /-- Any other failure ends the setup, and the caller is told. -/
  raise : ∀ {before i backend fault after}, log = before ++ .fails i backend fault :: after →
    ¬ Retreats backend fault → ∃ rest, after = .raises i (some fault) :: rest
  /-- After a setup without an engine, whoever comes next sets up again. -/
  again : ∀ {before i cause mid e after},
    log = before ++ .raises i cause :: (mid ++ e :: after) → (∀ x ∈ mid, x = .stops) →
    e = .stops ∨ ∃ j, e = .begins j

/-- Between settled stages nothing is left half done, so all that a failure leads to is
in the log. -/
theorem Stage.Run.orderly {log : List Event} {stage : Stage} (h : Run vacant log stage)
    (hsettled : stage.Settled) : Orderly log where
  -- The log is cut at an event, which tells the stages before and behind it; what may
  -- come before or behind is then what a run between such stages leaves in the log.
  apart := by
    rintro before i mid j after rfl
    obtain ⟨_, _, -, hnext, hrest⟩ := h.at
    cases hnext
    exact hrest.ends_before_begins rfl
  inside := by
    rintro before i backend after rfl
    obtain ⟨_, _, hbefore, hnext, -⟩ := h.at
    cases hnext with
    | starts => exact hbefore.begins_before rfl
    | retreat => exact hbefore.begins_before rfl
  stays := by
    rintro before i engine mid after rfl
    obtain ⟨_, _, -, hnext, hrest⟩ := h.at
    cases hnext with
    | completes => exact hrest.returns_of_ready
    | completesRetreat => exact hrest.returns_of_ready
  same := by
    rintro before j engine after rfl
    obtain ⟨_, _, hbefore, hnext, -⟩ := h.at
    cases hnext
    exact hbefore.completes_before
  retreat := by
    rintro before i backend fault after rfl hretreats
    obtain ⟨_, _, -, hnext, hrest⟩ := h.at
    cases hnext with
    | fails _ _ _ hnot => exact (hnot hretreats).elim
    | failsRetreat => exact absurd hretreats.1 nofun
    | refuses =>
        obtain ⟨rest, hstart, hlast⟩ := hrest.starts_of_refused hsettled
        refine ⟨rest, hstart, ?_⟩
        rintro mid j other later rfl
        exact hlast.ends_before_starts rfl
  raise := by
    rintro before i backend fault after rfl hnot
    obtain ⟨_, _, -, hnext, hrest⟩ := h.at
    cases hnext with
    | refuses _ _ _ hretreats => exact (hnot hretreats).elim
    | fails => exact hrest.raises_of_failed hsettled
    | failsRetreat => exact hrest.raises_of_failed hsettled
  again := by
    rintro before i cause mid e after rfl hmid
    obtain ⟨_, _, -, hnext, hrest⟩ := h.at
    cases hnext <;> exact hrest.begins_of_vacant hmid

end Server

end LozengeNav
