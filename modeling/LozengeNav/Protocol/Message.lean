import LozengeNav.Path
import LozengeNav.Protocol.Shape

/-!
# Messages

What is said to a language server, and what comes back.
-/

namespace LozengeNav

/-- Something that is done with a language server: it is started and stopped, and told or asked
something in between.  Positions are in units. -/
inductive Message where
  | start (command : List String) (directory : Path)
  | stop
  | introduce (root name : String)
  | introduced
  | shutdown
  | exit
  | didOpen (uri text : String)
  | workspaceSymbol (name : String)
  | documentSymbol (uri : String)
  | prepareTypeHierarchy (uri : String) (position : Position)
  | supertypes (item : Datum)
  | definition (uri : String) (position : Position)
  deriving Inhabited

namespace Message

def method : Message → String
  | start .. => "start"
  | stop => "stop"
  | introduce .. => "initialize"
  | introduced => "initialized"
  | shutdown => "shutdown"
  | exit => "exit"
  | didOpen .. => "textDocument/didOpen"
  | workspaceSymbol _ => "workspace/symbol"
  | documentSymbol _ => "textDocument/documentSymbol"
  | prepareTypeHierarchy .. => "textDocument/prepareTypeHierarchy"
  | supertypes _ => "typeHierarchy/supertypes"
  | definition .. => "textDocument/definition"

def document (uri : String) : String × Datum :=
  ("textDocument", .table [("uri", .text uri)])

/-- What is said with a message. -/
def params : Message → Datum
  | start command directory =>
    .table [("command", .list (command.map .text)), ("cwd", .text directory.toString)]
  | stop => .null
  | introduce root name =>
    .table [("rootUri", .text root),
      ("workspaceFolders", .list [.table [("uri", .text root), ("name", .text name)]])]
  | introduced => .table []
  | shutdown => .null
  | exit => .null
  | didOpen uri text =>
    .table [("textDocument", .table [("uri", .text uri), ("languageId", .text "python"),
      ("version", .int 1), ("text", .text text)])]
  | workspaceSymbol name => .table [("query", .text name)]
  | documentSymbol uri => .table [document uri]
  | prepareTypeHierarchy uri position => .table [document uri, ("position", position.data)]
  | supertypes item => .table [("item", item)]
  | definition uri position => .table [document uri, ("position", position.data)]

/-- The document whose text a server needs for an answer. -/
def subject? : Message → Option String
  | documentSymbol uri => some uri
  | prepareTypeHierarchy uri _ => some uri
  | definition uri _ => some uri
  | _ => none

end Message

/-- What comes back for a message. -/
inductive Reply where
  | result (d : Datum)
  /-- An error and what is said about it. -/
  | failure (reason : String)
  | timeout
  deriving Inhabited

namespace Reply

/-- What a reply says, if it says something. -/
def result? : Reply → Option Datum
  | result .null => none
  | result d => some d
  | _ => none

def size : Reply → Nat
  | result d => d.size
  | _ => 0

end Reply

end LozengeNav
