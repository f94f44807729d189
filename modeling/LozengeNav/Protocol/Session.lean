import LozengeNav.Host
import LozengeNav.Protocol.Message
import LozengeNav.Protocol.Units
import LozengeNav.Workspace

/-!
# Sessions with a language server

An index of the foreign code base that is asked of a language server.  A document is opened before
the server is asked about it, once in a session and only if it can be read.  Positions are turned
into the units that the server counts in and back by the text that the document has at that moment.
A question that the server does not answer, in time or at all, has no answer.
-/

namespace LozengeNav

/-- What a session has to do with: the files, the replies that are to come, by method and in order,
and what has happened so far.  Without replies there is no server at all. -/
structure SessionState where
  tree : FileTree
  replies : Option (List (String × List Reply))
  /-- The messages so far, the latest first. -/
  sent : List Message
  opened : List String

abbrev Talk : Type → Type :=
  Query SessionState

namespace SessionState

def isOpen (s : SessionState) (uri : String) : Bool :=
  s.opened.contains uri

def record (s : SessionState) (m : Message) : SessionState :=
  { s with sent := m :: s.sent }

/-- The next reply to a method; when there is none left, the replies are null. -/
def nextReply (s : SessionState) (method : String) : Reply :=
  match (s.replies.getD []).lookup method with
  | some (reply :: _) => reply
  | _ => .result .null

def dropReply (s : SessionState) (method : String) : SessionState :=
  { s with replies := s.replies.map fun table =>
      table.map fun (key, queue) => (key, if key == method then queue.drop 1 else queue) }

def bound (s : SessionState) : Nat :=
  (((s.replies.getD []).flatMap fun entry => entry.2).map Reply.size).foldr (· + ·) 0

end SessionState

/-- What the two ends of a session agreed on. -/
structure Session where
  encoding : Text.Encoding := .utf16
  hierarchy : Bool := false
  deriving DecidableEq, Repr, Inhabited

namespace Session

/-! ## Messages -/

def tell (m : Message) : Talk Unit :=
  modify fun s => s.record m

def reply (m : Message) : Talk Reply := do
  tell m
  let s ← get
  set (s.dropReply m.method)
  return s.nextReply m.method

def ask (m : Message) : Talk (Option Datum) := do
  return (← reply m).result?

/-! ## Start and end -/

/-- Why a command cannot be run in a directory, when there is no such command. -/
def absent (t : FileTree) (command : List String) (directory : Path) : Except Fault String := do
  if ← t.isDirectory directory then
    return "[Errno 2] No such file or directory: " ++ Text.quoted (command.headD "")
  else if ← t.hasEntry directory then
    return "[Errno 20] Not a directory: " ++ Text.quoted directory.toString
  else return "[Errno 2] No such file or directory: " ++ Text.quoted directory.toString

def launch (command : List String) (directory : Path) : Talk Unit := do
  tell (.start command directory)
  let executable := command.headD ""
  let s ← get
  match s.replies with
  | none =>
    if command.any fun word => word.contains '\x00' then throw .nulInPath
    else throw (.cannotStart executable (← Query.ofExcept (absent s.tree command directory)))
  | some _ =>
    set (s.dropReply "start")
    match s.nextReply "start" with
    | .failure reason => throw (.cannotStart executable reason)
    | _ => return

/-- The agreement in the answer to the first request. -/
def ofAnswer (d : Datum) : Session :=
  let capabilities := (d.get? "capabilities").getD .null
  { encoding := .ofName ((capabilities.textAt? "positionEncoding").getD "")
    hierarchy :=
      match capabilities.get? "typeHierarchyProvider" with
      | some (.bool b) => b
      | some .null => false
      | none => false
      | some _ => true }

def start (command : List String) (root : Path) : Talk Session := do
  modify fun s => { s with opened := [] }
  launch command root
  let uri ← Query.ofExcept root.toUri
  match ← ask (.introduce uri root.name) with
  | none =>
    tell .stop
    throw (.notInitialized (command.headD ""))
  | some answer =>
    tell .introduced
    return ofAnswer answer

def stop : Talk Unit := do
  let _ ← ask .shutdown
  tell .exit
  tell .stop

/-! ## Documents -/

def text? (s : SessionState) (uri : String) : Option String :=
  Workspace.readText s.tree uri

/-- The lines that a document has now, none if it cannot be read. -/
def lines (s : SessionState) (uri : String) : List (List Char) :=
  Text.wholeLines ((text? s uri).getD "").toList

/-- Open a document that is not open yet, if it can be read. -/
def ensureOpen (uri : String) : Talk Unit := do
  let s ← get
  if !s.isOpen uri then
    match text? s uri with
    | none => return
    | some text =>
      tell (.didOpen uri text)
      modify fun s => { s with opened := uri :: s.opened }

def encode (x : Session) (uri : String) (p : Position) : Talk Position := do
  return p.toUnits x.encoding (lines (← get) uri)

def decode (x : Session) (l : Location) : Talk Location := do
  return ⟨l.uri, l.span.ofUnits x.encoding (lines (← get) l.uri)⟩

/-! ## Questions -/

def symbols (x : Session) (name : String) : Talk (Option (List WorkspaceSymbol)) := do
  match ← ask (.workspaceSymbol name) with
  | none => return none
  | some d =>
    let hits ← (WorkspaceSymbol.ofAnswer d).mapM fun s => do
      return { s with location := ← x.decode s.location }
    return some hits

def outline (x : Session) (uri : String) : Talk (Option (List OutlineSymbol)) := do
  ensureOpen uri
  match ← ask (.documentSymbol uri) with
  | none => return none
  | some d =>
    let lines := lines (← get) uri
    return some <| (OutlineSymbol.ofAnswer d).map fun s =>
      { s with
        span := s.span.ofUnits x.encoding lines
        selection := s.selection.ofUnits x.encoding lines }

/-- What is kept of a class in a type hierarchy. -/
def itemKeys : List String :=
  ["name", "kind", "tags", "detail", "uri", "range", "selectionRange", "data"]

def node (d : Datum) : HierarchyNode :=
  ⟨(d.textAt? "uri").getD "", (d.textAt? "name").getD "",
    some (.table (itemKeys.filterMap fun key => (d.present? key).map fun item => (key, item)))⟩

def nodes (d : Datum) : List HierarchyNode :=
  (d.list?.getD []).map node

/-- The classes at a place in a document. -/
def prepare (x : Session) (uri : String) (p : Position) : Talk (Option (List HierarchyNode)) := do
  if !x.hierarchy then return none
  ensureOpen uri
  return (← ask (.prepareTypeHierarchy uri (← x.encode uri p))).map nodes

/-- The classes above a class, which the server has to have named before. -/
def supertypes (n : HierarchyNode) : Talk (Option (List HierarchyNode)) := do
  match n.handle with
  | none => return none
  | some item => return (← ask (.supertypes item)).map nodes

def jump (x : Session) (uri : String) (p : Position) : Talk (Option (List Location)) := do
  ensureOpen uri
  match ← ask (.definition uri (← x.encode uri p)) with
  | none => return none
  | some d => return some (← (Location.ofDefinitions d).mapM x.decode)

def host (x : Session) (w : Workspace) : Host SessionState where
  fileExists path := do Query.ofExcept ((← get).tree.isFile path)
  findFiles pattern limit := do Query.ofExcept (w.findFiles (← get).tree pattern limit)
  readText uri := return text? (← get) uri
  workspaceSymbols := x.symbols
  documentOutline := x.outline
  prepareTypeHierarchy := x.prepare
  supertypes := supertypes
  jumpToDefinition := x.jump
  classBound s := s.bound + 1

end Session

end LozengeNav
