import LozengeNav.Config.Load
import LozengeNav.Editor.Message
import LozengeNav.Editor.View
import LozengeNav.Engine

/-!
# Serving an editor

A server answers where the references in an editor's documents lead.  Its engine is set up once, when
the editor is ready or asks for the first time: a configuration that is malformed counts as the
default one, and a language server that cannot be started gives way to the sources.  When anything
else goes wrong, the next question sets up anew.
-/

namespace LozengeNav

structure Server where
  /-- The root directory for editors that name none. -/
  defaultRoot : Option Path
  /-- What the editor has told, once it has introduced itself. -/
  view : Option Editor.View
  config : Config
  engine : Option Engine
  ended : Bool
  inner : EngineState

abbrev Serving : Type → Type :=
  Query Server

namespace Server

def fresh (defaultRoot : Option Path) (inner : EngineState) : Server :=
  ⟨defaultRoot, none, {}, none, false, inner⟩

/-- The state after the engine has changed what it works on. -/
def setInner (s : Server) (inner : EngineState) : Server :=
  { s with inner := inner }

def within {α : Type} (q : Query EngineState α) : Serving α :=
  q.zoom Server.inner setInner

/-- What the editor has told. -/
def told : Serving Editor.View := do
  match (← get).view with
  | some view => return view
  | none => throw .notIntroduced

/-! ## Setting up -/

/-- The root directory: the editor's, or else the default one, or else the current directory. -/
def root : Serving Path := do
  let view ← told
  if view.root ≠ "" then return .ofString view.root
  else
    let s ← get
    return s.defaultRoot.getD ⟨.root, s.inner.tree.here⟩

/-- The configuration that a file stands for, the default one if the file is malformed. -/
def settle : Except Config.LoadFault Config → Except Fault Config
  | .ok config => .ok config
  | .error (.unreadable fault) => .error fault
  | .error _ => .ok {}

/-- The configuration to go on with after a failure to start the engine, if there is one. -/
def retreat? (config : Config) (fault : Fault) : Option Config :=
  if fault.isNoSession then some { config with backend := .static } else none

def startEngine (m : Machine) (root : Path) (config : Config) : Serving Engine := do
  modify fun s => { s with config := config }
  within (Engine.start m config root)

def setup (m : Machine) (root : Path) : Serving Engine := do
  let config ← Query.ofExcept (settle (Config.load (← get).inner.tree root))
  match ← (startEngine m root config).observe with
  | .ok engine => return engine
  | .error fault =>
    match retreat? config fault with
    | some config => startEngine m root config
    | none => throw fault

/-- The engine, which is set up unless it has been. -/
def ensure (m : Machine) : Serving Engine := do
  let root ← root
  match (← get).engine with
  | some engine => return engine
  | none =>
    let engine ← setup m root
    modify fun s => { s with engine := some engine }
    return engine

/-! ## Answers -/

/-- A location as it is told to the editor, by the text that its document has now. -/
def encode (location : Location) : Serving Location := do
  let view ← told
  let (_, text) ← Query.ofExcept (view.document (← get).inner.tree location.uri)
  return ⟨location.uri, location.span.toUnits view.encoding (Text.wholeLines text)⟩

/-- Where a position in a document leads. -/
def definition (m : Machine) (uri : String) (position : Position) : Serving (List Location) := do
  let engine ← ensure m
  let view ← told
  let (path, text) ← Query.ofExcept (view.document (← get).inner.tree uri)
  let place := position.ofUnits view.encoding (Text.wholeLines text)
  let found ← within
    (engine.definition (← get).config (Document.ofEditor path text) place)
  found.mapM encode

/-- Answer a request.  The server has no commands to run. -/
def respond (m : Machine) : Editor.Request → Serving Editor.Answer
  | .introduce rootUri rootPath encodings => do
    let view ← Query.ofExcept (Editor.View.introduce rootUri rootPath encodings)
    modify fun s => { s with view := some view }
    return .introduced view.encoding
  | .definition uri position => return .locations (← definition m uri position)
  | .shutdown => do
    modify fun s => { s with ended := true }
    return .nothing
  | .command => return .failed
  | .unknown => return .unknown

/-- Change what the editor has told. -/
def tell (change : Editor.View → Except Fault Editor.View) : Serving Unit := do
  let view ← Query.ofExcept (change (← told))
  modify fun s => { s with view := some view }

def notice (m : Machine) : Editor.Notice → Serving Unit
  | .introduced => do
    let _ ← ensure m
  | .didOpen uri text => tell fun v => v.opened uri text
  | .didChange uri changes => tell fun v => .ok (v.changed uri changes)
  | .didClose uri => tell fun v => .ok (v.closed uri)
  | .exit => return
  | .unknown => return

/-- The answer to a request, and the server after it.  A fault is answered too. -/
def answer (m : Machine) (request : Editor.Request) (s : Server) : Editor.Answer × Server :=
  let (result, s) := ((respond m request).run).run s
  match result with
  | .ok a => (a, s)
  | .error _ => (.failed, s)

/-- The server after a notice.  Once the session has ended, nothing is taken notice of. -/
def take (m : Machine) (n : Editor.Notice) (s : Server) : Server :=
  if s.ended then s else (((notice m n).run).run s).2

/-- The server after the last message: the engine is stopped. -/
def close (s : Server) : Server :=
  match s.engine with
  | none => s
  | some engine => (((within engine.stop).run).run { s with engine := none }).2

end Server

end LozengeNav
