import LozengeNav.Editor.Change
import LozengeNav.Protocol.Shape

/-!
# Messages of an editor

What an editor asks and tells, and what it is answered.
-/

namespace LozengeNav

namespace Editor

/-- What an editor asks. -/
inductive Request where
  /-- The editor introduces itself: its root directory and the encodings that it knows. -/
  | introduce (rootUri rootPath : Option String) (encodings : Option (List String))
  /-- Where a position in a document leads. -/
  | definition (uri : String) (position : Position)
  | shutdown
  | command
  /-- Something that is not known here. -/
  | unknown
  deriving DecidableEq, Repr

/-- What an editor tells. -/
inductive Notice where
  | introduced
  | didOpen (uri : String) (text : List Char)
  | didChange (uri : String) (changes : List Change)
  | didClose (uri : String)
  | exit
  /-- Something that is not known here. -/
  | unknown
  deriving DecidableEq, Repr

/-- What an editor is answered. -/
inductive Answer where
  /-- An introduction is answered by the encoding agreed on. -/
  | introduced (encoding : Text.Encoding)
  /-- Where a position leads, in units. -/
  | locations (found : List Location)
  | nothing
  /-- The answer could not be found. -/
  | failed
  /-- The question is not known. -/
  | unknown
  deriving DecidableEq, Repr

/-! ## Reading -/

def uriOf (params : Datum) : String :=
  (((params.get? "textDocument").getD .null).textAt? "uri").getD ""

namespace Change

def ofData (d : Datum) : Change :=
  ⟨(d.present? "range").map Span.ofData, ((d.textAt? "text").getD "").toList⟩

end Change

namespace Request

def offered (params : Datum) : Option (List String) := do
  let capabilities ← params.present? "capabilities"
  let general ← capabilities.present? "general"
  let encodings ← general.present? "positionEncodings"
  return (encodings.list?.getD []).filterMap Datum.text?

def ofMethod (method : String) (params : Datum) : Request :=
  match method with
  | "initialize" => introduce (params.textAt? "rootUri") (params.textAt? "rootPath") (offered params)
  | "textDocument/definition" =>
    definition (uriOf params) (Position.ofData ((params.get? "position").getD .null))
  | "shutdown" => shutdown
  | "workspace/executeCommand" => command
  | _ => unknown

end Request

namespace Notice

def ofMethod (method : String) (params : Datum) : Notice :=
  match method with
  | "initialized" => introduced
  | "textDocument/didOpen" =>
    didOpen (uriOf params)
      ((((params.get? "textDocument").getD .null).textAt? "text").getD "").toList
  | "textDocument/didChange" =>
    didChange (uriOf params)
      (((((params.get? "contentChanges").getD .null).list?).getD []).map Change.ofData)
  | "textDocument/didClose" => didClose (uriOf params)
  | "exit" => exit
  | _ => unknown

end Notice

/-! ## Writing -/

namespace Answer

def serverInfo : Datum :=
  .table [("name", .text "dryck-nav"), ("version", .text "v0.1.0")]

def result : Answer → Datum
  | introduced encoding =>
    .table [
      ("capabilities", .table [
        ("positionEncoding", .text encoding.name),
        ("textDocumentSync", .int 2),
        ("definitionProvider", .bool true)]),
      ("serverInfo", serverInfo)]
  | locations (l :: rest) => .list ((l :: rest).map Location.data)
  | _ => .null

/-- The code of an answer that is none. -/
def errorCode? : Answer → Option Int
  | failed => some (-32603)
  | unknown => some (-32601)
  | _ => none

end Answer

end Editor

end LozengeNav
