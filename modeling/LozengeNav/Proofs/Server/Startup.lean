import LozengeNav.Proofs.Config
import LozengeNav.Proofs.Files.Limits
import LozengeNav.Proofs.Protocol.Discipline
import LozengeNav.Proofs.Server.Setup

/-! # Setting up from any configuration file

Whatever is in the configuration file of a workspace, a server gets an engine from it
or tells why not. A file that is malformed or says something else than a
configuration counts as none at all.
-/

namespace LozengeNav

open Query

namespace Session

/-- What running the command of a server comes to. -/
def launched (command : List String) (root : Path) (s : SessionState) : Except Fault Unit :=
  match s.replies with
  | none =>
      if command.any fun word => word.contains '\x00' then .error .nulInPath
      else do throw (.cannotStart (command.headD "") (← absent s.tree command root))
  | some _ =>
      match s.nextReply "start" with
      | .failure reason => .error (.cannotStart (command.headD "") reason)
      | _ => .ok ()

/-- What starting a session comes to. -/
def agreed (command : List String) (root : Path) (s : SessionState) : Except Fault Session := do
  launched command root s
  let _ ← root.toUri
  match (s.nextReply "initialize").result? with
  | none => throw (.notInitialized (command.headD ""))
  | some answer => return ofAnswer answer

theorem launch_run (command : List String) (root : Path) (s : SessionState) :
    ((launch command root).run.run s).1 = launched command root s := by
  have htell : (tell (.start command root)).run.run s =
      (.ok (), s.record (.start command root)) := rfl
  rw [launch, launched, run_bind_of_ok _ htell, run_get]
  cases hreplies : s.replies with
  | none =>
      have hrecorded : (s.record (.start command root)).replies = none := hreplies
      rw [hrecorded]
      dsimp only
      split
      · rfl
      · have htree : (s.record (.start command root)).tree = s.tree := rfl
        rw [htree]
        cases absent s.tree command root <;> rfl
  | some table =>
      have hrecorded : (s.record (.start command root)).replies = some table := hreplies
      have hreply : (s.record (.start command root)).nextReply "start" = s.nextReply "start" := rfl
      rw [hrecorded]
      dsimp only
      rw [hreply]
      cases s.nextReply "start" <;> rfl

theorem start_run (command : List String) (root : Path) (s : SessionState) :
    ((start command root).run.run s).1 = agreed command root s := by
  rw [start, run_modify]
  obtain ⟨result, s₁, hlaunch⟩ : ∃ result s₁, (launch command root).run.run
      { s with opened := [] } = (result, s₁) := ⟨_, _, rfl⟩
  have hresult : launched command root s = result := by
    rw [show launched command root s = launched command root { s with opened := [] } from rfl,
      ← launch_run, hlaunch]
  rw [agreed, hresult]
  cases result with
  | error fault => rw [run_bind_of_error _ hlaunch]; rfl
  | ok launched =>
      obtain ⟨-, -, hreply⟩ := launch_eq_ok hlaunch
      rw [run_bind_of_ok _ hlaunch]
      cases huri : root.toUri with
      | error fault =>
          rw [run_bind_of_error _ (run_ofExcept _ _)]
          rfl
      | ok uri =>
          rw [run_bind_of_ok _ (run_ofExcept _ _), run_bind_of_ok _ (ask_run _ _)]
          have hsame : s₁.nextReply (Message.introduce uri root.name).method =
              s.nextReply "initialize" := hreply
          rw [hsame]
          cases hanswer : (s.nextReply "initialize").result? <;> rfl

end Session

namespace Engine

/-- What starting the engine of a configuration comes to. -/
def started (m : Machine) (config : Config) (root : Path) (s : EngineState) :
    Except Fault Engine :=
  match config.backend with
  | .lsp => do
      let session ← Session.agreed config.server.command root s.session
      return server session (workspace config root)
  | .static => do
      let paths ← config.resolveSearchPaths m.home root
      return sources ⟨workspace config root, paths, m.importPath⟩

theorem start_fst (m : Machine) (config : Config) (root : Path) (s : EngineState) :
    ((start m config root).run.run s).1 = started m config root s := by
  unfold start started
  cases config.backend with
  | lsp =>
      dsimp only
      rw [← Session.start_run]
      obtain ⟨result, s', hrun⟩ : ∃ result s',
          (Session.start config.server.command root).run.run s.session = (result, s') := ⟨_, _, rfl⟩
      have hzoom := zoom_run EngineState.session EngineState.setSession
        (Session.start config.server.command root) s
      rw [hrun] at hzoom ⊢
      cases result with
      | error fault => rw [run_bind_of_error _ hzoom]; rfl
      | ok session => rw [run_bind_of_ok _ hzoom]; rfl
  | static =>
      dsimp only
      cases config.resolveSearchPaths m.home root <;> rfl

end Engine

namespace Server

theorem startEngine_fst (m : Machine) (root : Path) (config : Config) (s : Server) :
    ((startEngine m root config).run.run s).1 = Engine.started m config root s.inner := by
  rw [startEngine, run_modify, within, Engine.zoom_run, ← Engine.start_fst]

section Supplied

variable {m : Machine} {root : Path} {config : Config} {s : EngineState} {fault : Fault}

end Supplied

/-! ## Contents of configuration files -/

def configuredWith (bytes : List UInt8) : FileTree where
  entries := [(["ws"], .directory), (["ws", "dryck-nav.toml"], .file bytes 1)]
  here := []

def plainMachine : Machine :=
  ⟨⟨.root, ["home"]⟩, []⟩

end Server

end LozengeNav
