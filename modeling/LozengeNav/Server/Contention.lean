import LozengeNav.Server

/-!
# Callers that contend for one engine

Notices and questions that need the engine of a server are handled side by side.  A caller looks
for the engine under a lock.  If there is none it sets one up, and whenever it has asked for an
engine to be started it is suspended, while other callers come and go, files change and the editor
tells more.  The lock goes to any of the callers that wait for it.
-/

namespace LozengeNav

deriving instance DecidableEq for SourceIndex, Engine

namespace Server

/-- What a caller that needs the engine is doing. -/
inductive Phase where
  | absent
  | waiting (root : Path)
  /-- It waits for the engine that its configuration asks for. -/
  | starting (root : Path) (config : Config)
  /-- It waits for the engine that it has fallen back on. -/
  | retreating (root : Path) (config : Config)
  | done

/-- Something that happens to the engine of a server. -/
inductive Event where
  | begins (i : Nat)
  /-- It asks for an engine to be started. -/
  | starts (i : Nat) (backend : Backend)
  /-- The engine cannot be started. -/
  | fails (i : Nat) (backend : Backend) (fault : Fault)
  /-- The setup ends with an engine. -/
  | completes (i : Nat) (engine : Engine)
  /-- The setup ends with a fault, or because the caller is cancelled. -/
  | raises (i : Nat) (cause : Option Fault)
  | returns (i : Nat) (engine : Engine)
  /-- The engine is given up. -/
  | stops
  deriving DecidableEq

/-- What the event loop does next. -/
inductive Move where
  | call (i : Nat) (root : Path)
  /-- The lock goes to a caller that waits for it. -/
  | acquire (i : Nat)
  /-- The start that a caller waits for comes to an end. -/
  | resume (i : Nat)
  | cancel (i : Nat)
  | stop
  /-- Something else goes on: the editor tells something, files change, engines are asked. -/
  | proceed (view : Option Editor.View) (ended : Bool) (inner : EngineState)

/-- A server and its callers. -/
structure Contention where
  server : Server
  /-- The caller that has the lock. -/
  holder : Option Nat
  phase : Nat → Phase

namespace Contention

def fresh (s : Server) : Contention :=
  ⟨s, none, fun _ => .absent⟩

def setPhase (c : Contention) (i : Nat) (p : Phase) : Contention :=
  { c with phase := fun j => if j = i then p else c.phase j }

/-- A setup ends without an engine, and the lock is free. -/
def giveUp (c : Contention) (i : Nat) (cause : Option Fault) : Contention × List Event :=
  ({ c.setPhase i .done with holder := none }, [.raises i cause])

def publish (c : Contention) (i : Nat) (engine : Engine) : Contention × List Event :=
  ({ c.setPhase i .done with
      server := { c.server with engine := some engine }, holder := none },
    [.completes i engine, .returns i engine])

/-- A caller asks for the engine of a configuration and is suspended. -/
def launch (c : Contention) (i : Nat) (config : Config) (p : Phase) : Contention × List Event :=
  ({ c.setPhase i p with
      server := { c.server with config := config }, holder := some i },
    [.starts i config.backend])

/-- The lock goes to a caller: it has the engine, or begins to set one up. -/
def acquire (c : Contention) (i : Nat) (root : Path) : Contention × List Event :=
  match c.server.engine with
  | some engine => (c.setPhase i .done, [.returns i engine])
  | none =>
    let (c, events) := match settle (Config.load c.server.inner.tree root) with
      | .error fault => c.giveUp i (some fault)
      | .ok config => c.launch i config (.starting root config)
    (c, .begins i :: events)

/-- A start comes to an end.  What a caller does about a failure is given to this. -/
def conclude (m : Machine) (c : Contention) (i : Nat) (root : Path) (config : Config)
    (onFault : Fault → Contention → Contention × List Event) : Contention × List Event :=
  let (result, server) := ((startEngine m root config).run).run c.server
  let c := { c with server := server }
  match result with
  | .ok engine => c.publish i engine
  | .error fault =>
    let (c, events) := onFault fault c
    (c, .fails i config.backend fault :: events)

/-- What a caller does about a failure of its first start. -/
def fallBack (i : Nat) (root : Path) (config : Config) (fault : Fault) (c : Contention) :
    Contention × List Event :=
  match retreat? config fault with
  | some other => c.launch i other (.retreating root other)
  | none => c.giveUp i (some fault)

def resume (m : Machine) (c : Contention) (i : Nat) : Contention × List Event :=
  match c.phase i with
  | .starting root config => c.conclude m i root config (fallBack i root config)
  | .retreating root config => c.conclude m i root config fun fault c => c.giveUp i (some fault)
  | _ => (c, [])

def cancel (c : Contention) (i : Nat) : Contention × List Event :=
  match c.phase i with
  | .waiting _ => (c.setPhase i .done, [])
  | .starting .. => c.giveUp i none
  | .retreating .. => c.giveUp i none
  | _ => (c, [])

/-- The event loop makes a move, if that is possible. -/
def step (m : Machine) (c : Contention) : Move → Contention × List Event
  | .call i root =>
    match c.phase i with
    | .absent => (c.setPhase i (.waiting root), [])
    | _ => (c, [])
  | .acquire i =>
    match c.holder, c.phase i with
    | none, .waiting root => c.acquire i root
    | _, _ => (c, [])
  | .resume i => c.resume m i
  | .cancel i => c.cancel i
  | .stop => ({ c with server := close c.server }, [.stops])
  | .proceed view ended inner =>
    ({ c with server := { c.server with view := view, ended := ended, inner := inner } }, [])

def after (m : Machine) (c : Contention) (moves : List Move) : Contention :=
  moves.foldl (fun c move => (c.step m move).1) c

/-- What happens in the course of moves. -/
def trace (m : Machine) (c : Contention) : List Move → List Event
  | [] => []
  | move :: rest => (c.step m move).2 ++ trace m (c.step m move).1 rest

end Contention

end Server

end LozengeNav
