import LozengeNav.Config
import LozengeNav.Definition
import LozengeNav.Protocol.Session
import LozengeNav.SourceIndex

/-!
# Engines

The index of the foreign code base that a configuration asks for: the sources themselves or a
language server.  Navigation does not tell them apart.
-/

namespace LozengeNav

/-- What is known of the machine besides its files. -/
structure Machine where
  home : Path
  /-- The directories that modules are imported from, whatever the workspace. -/
  importPath : List Path
  deriving Repr

structure EngineState where
  tree : FileTree
  kept : List KeptOutline
  replies : Option (List (String × List Reply))
  /-- The messages to language servers so far, the latest first. -/
  sent : List Message
  opened : List String

namespace EngineState

def fresh (tree : FileTree) (replies : Option (List (String × List Reply))) : EngineState :=
  ⟨tree, [], replies, [], []⟩

def index (s : EngineState) : IndexState :=
  ⟨s.tree, s.kept⟩

/-- The state after an index of sources has changed what it sees. -/
def setIndex (s : EngineState) (x : IndexState) : EngineState :=
  { s with tree := x.tree, kept := x.kept }

def session (s : EngineState) : SessionState :=
  ⟨s.tree, s.replies, s.sent, s.opened⟩

/-- The state after a session has changed what it sees. -/
def setSession (s : EngineState) (x : SessionState) : EngineState :=
  { s with tree := x.tree, replies := x.replies, sent := x.sent, opened := x.opened }

end EngineState

/-- Ask a question that sees a part of the state. -/
def Query.zoom {σ τ α : Type} (view : τ → σ) (update : τ → σ → τ) (q : Query σ α) : Query τ α := do
  let t ← get
  let (result, s) := (q.run).run (view t)
  set (update t s)
  Query.ofExcept result

inductive Engine where
  | sources (x : SourceIndex)
  | server (x : Session) (w : Workspace)

namespace Engine

/-- Ask an engine a question that can be asked of any host. -/
def ask {α : Type} (e : Engine) (q : (σ : Type) → Host σ → Query σ α) : Query EngineState α :=
  match e with
  | sources x => (q IndexState x.host).zoom EngineState.index EngineState.setIndex
  | server x w => (q SessionState (x.host w)).zoom EngineState.session EngineState.setSession

/-- The workspace that a configuration sets up below a root directory. -/
def workspace (config : Config) (root : Path) : Workspace :=
  ⟨root, config.exclude, config.nestedIgnore⟩

def start (m : Machine) (config : Config) (root : Path) : Query EngineState Engine :=
  match config.backend with
  | .lsp => do
    let session ← (Session.start config.server.command root).zoom EngineState.session
      EngineState.setSession
    return server session (workspace config root)
  | .static => do
    let paths ← Query.ofExcept (config.resolveSearchPaths m.home root)
    modify fun s => { s with kept := [] }
    return sources ⟨workspace config root, paths, m.importPath⟩

def stop : Engine → Query EngineState Unit
  | sources _ => return
  | server .. => Session.stop.zoom EngineState.session EngineState.setSession

/-- What a configuration sets navigation up with. -/
def navigation (config : Config) : Navigation :=
  ⟨config.base, config.extension⟩

/-- The locations of the reference under a cursor, as a configuration wants them found. -/
def definition (e : Engine) (config : Config) (document : Document) (position : Position) :
    Query EngineState (List Location) :=
  e.ask fun _ host => (navigation config).definition host document position

end Engine

end LozengeNav
