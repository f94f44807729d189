import LozengeNav.CommandLine.Command
import LozengeNav.Config.Load
import LozengeNav.Engine

/-!
# Running commands

What a command shows and how it ends: with 0 if something was found, with 1 if nothing was, and with
2 if the words, the configuration or the file are at fault.
-/

namespace LozengeNav

namespace CommandLine

/-- What a command shows and how it ends. -/
structure Report where
  code : Nat
  output : String
  complaint : Option String
  deriving DecidableEq, Repr

namespace Report

/-- Show some lines, or nothing. -/
def found (lines : List String) : Report :=
  ⟨if lines.isEmpty then 1 else 0, String.join (lines.map fun line => line ++ "\n"), none⟩

def refused (text : String) : Report :=
  ⟨2, "", some ("error: " ++ text)⟩

def stopped : Stop → Report
  | .help text => ⟨0, text, none⟩
  | .complaint program c => ⟨2, "", some (program ++ ": error: " ++ c.message)⟩

end Report

def realPath (m : Machine) (t : FileTree) : Option String → Except Fault Path
  | none => .error .notGiven
  | some word => do t.realPath (← Config.expandHome m.home (Path.ofString word))

def Cursor.position (c : Cursor) : Except Fault Position :=
  match c.line, c.column with
  | none, _ => .error (.noPosition .line)
  | some line, none =>
    if Position.admits line then .error (.noPosition .character)
    else .error (.badPosition .line line)
  | some line, some column => Position.ofInts line column

/-- A location for people, whose lines and columns count from one. -/
def showLocation (l : Location) : String :=
  let target :=
    match Path.ofUri l.uri with
    | .ok path => path.toString
    | .error _ => l.uri
  target ++ ":" ++ toString (l.span.start.line + 1) ++ ":" ++ toString (l.span.start.column + 1)

def showReference (r : Reference) : String :=
  "\t".intercalate [String.ofList r.name, r.form.name, toString r.start, toString r.stop]

/-- Complain that something could not be read, if that is the fault. -/
def unread (name : String) (fault : Fault) : Query EngineState Report :=
  if fault.isUnreadable then return .refused ("cannot read " ++ name) else throw fault

/-- Find the locations of a reference with an engine that is stopped afterwards, come what may. -/
def locations (m : Machine) (config : Config) (root : Path) (document : Document)
    (position : Position) : Query EngineState (List Location) := do
  let engine ← Engine.start m config root
  let found ← (engine.definition config document position).observe
  engine.stop
  Query.ofExcept found

/-- Show where the reference under a cursor leads. -/
def resolve (m : Machine) (cursor : Cursor) (rootWord : Option String)
    (backend : Option Backend) : Query EngineState Report := do
  let t := (← get).tree
  let file ← Query.ofExcept (realPath m t cursor.file)
  let root ← match rootWord with
    | none => pure file.parent
    | some word => Query.ofExcept (realPath m t (some word))
  match Config.load t root with
  | .error (.unreadable fault) => unread file.toString fault
  | .error fault => return .refused fault.message
  | .ok config =>
    match t.readText file with
    | .error fault => unread file.toString fault
    | .ok text => do
      let position ← Query.ofExcept cursor.position
      let config := { config with backend := backend.getD config.backend }
      match ← (locations m config root (Document.ofFile file text) position).observe with
      | .ok found => return .found (found.map showLocation)
      | .error fault => if fault.isNoSession then return .refused fault.message else throw fault

def token (m : Machine) (cursor : Cursor) : Query EngineState Report := do
  let t := (← get).tree
  match (do t.readText (← realPath m t cursor.file) : Except Fault (List Char)) with
  | .error fault => unread (cursor.file.getD "") fault
  | .ok text =>
    match cursor.line, cursor.column with
    | some line, some column =>
      let found := Reference.at? ((Document.ofFile ⟨.here, []⟩ text).line line) column
      return .found (found.map showReference).toList
    | _, _ => throw .notGiven

/-- Run a command.  Serving ends when there are no more messages, of which there are none here. -/
def Command.run (m : Machine) : Command → Query EngineState Report
  | .resolve cursor root backend => CommandLine.resolve m cursor root backend
  | .token cursor => CommandLine.token m cursor
  | .serve root => do
    let t := (← get).tree
    if root.isSome then
      let _ ← Query.ofExcept (realPath m t root)
    return ⟨0, "", none⟩

def run (m : Machine) (words : List String) : Query EngineState Report :=
  match Command.read words with
  | .error stop => return .stopped stop
  | .ok command => command.run m

end CommandLine

end LozengeNav
