import LozengeNav.CommandLine.Reading
import LozengeNav.Config

/-!
# Commands

The commands that there are, and how the words of a command line name one of them.
-/

namespace LozengeNav

namespace CommandLine

structure Cursor where
  file : Option String
  line : Option Int
  column : Option Int
  deriving DecidableEq, Repr, Inhabited

/-- What a command line asks for. -/
inductive Command where
  | serve (root : Option String)
  /-- Show where the reference under a cursor leads. -/
  | resolve (cursor : Cursor) (root : Option String) (backend : Option Backend)
  | token (cursor : Cursor)
  deriving DecidableEq, Repr

/-! ## Interfaces -/

def program : String :=
  "dryck-nav"

def cursorSlots : List Slot :=
  [⟨"file", "Dialect document", false⟩,
   ⟨"line", "0-based line", true⟩,
   ⟨"column", "0-based column in code points", true⟩]

def rootFlag (help : String) : Flag :=
  .taking "--root" "ROOT" help

def backendFlag : Flag :=
  .choosing "--backend" (Backend.all.map Backend.name)
    "Foreign tooling backend (default: config backend)"

def logFlag : Flag :=
  .choosing "--log-level" (LogLevel.all.map LogLevel.name)
    "Logging level (default: config log_level)"

def serveInterface : Interface :=
  ⟨program ++ " serve", [.forHelp, rootFlag "Workspace root when the client does not send one"],
    [], []⟩

def resolveInterface : Interface :=
  ⟨program ++ " resolve",
    [.forHelp, rootFlag "Workspace root (default: the document's directory)", backendFlag],
    cursorSlots, []⟩

def tokenInterface : Interface :=
  ⟨program ++ " token", [.forHelp], cursorSlots, []⟩

def mainInterface : Interface :=
  ⟨program, [.forHelp, logFlag], [],
    [("serve", "Run the language server on stdio"),
     ("resolve", "Resolve the reference under a cursor"),
     ("token", "Print the reference token under a cursor")]⟩

/-! ## Reading -/

def Reading.number? (r : Reading) (index : Nat) : Option Int :=
  (r.argument? index).bind fun s => Text.readInt? s.toList

def Reading.cursor (r : Reading) : Cursor :=
  ⟨r.argument? 0, r.number? 1, r.number? 2⟩

/-- The interface of a command, and what the command asks for once its words are read. -/
def commandOf? (name : String) : Option (Interface × (Reading → Command)) :=
  match name with
  | "serve" => some (serveInterface, fun r => .serve (r.value? "--root"))
  | "resolve" =>
    some (resolveInterface, fun r => .resolve r.cursor (r.value? "--root")
      ((r.value? "--backend").bind fun value => Backend.all.find? fun b => b.name = value))
  | "token" => some (tokenInterface, fun r => .token r.cursor)
  | _ => none

/-- What the words of a command line ask for. -/
def Command.read (words : List String) : Except Stop Command := do
  let top ← mainInterface.read words
  let chosen := top.command.getD []
  let name := chosen.headD ""
  match commandOf? name with
  | none =>
    throw (.complaint program
      (.badChoice commandSlot name (mainInterface.commands.map Prod.fst)))
  | some (interface, command) =>
    let r ← interface.read (chosen.drop 1)
    match top.leftOver ++ r.leftOver with
    | [] => return command r
    | words => throw (.complaint program (.leftOver words))

end CommandLine

end LozengeNav
