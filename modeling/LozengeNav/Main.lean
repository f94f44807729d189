import LozengeNav.CommandLine.Run
import LozengeNav.Data.Json
import LozengeNav.Server

/-!
# The program

What touches the machine: files are read into a tree before a question is answered, messages of an
editor are framed, and what a command shows is printed.  No language server is run, so that a
configuration that asks for one is treated as if its command did not exist.
-/

namespace LozengeNav

namespace Program

/-! ## Files -/

def modified (data : IO.FS.Metadata) : Int :=
  data.modified.sec * 1000000000 + data.modified.nsec.toNat

/-- Add what is at an entry of a directory; with `deep`, what is below it too.  What cannot be read
is left out. -/
partial def addEntry (deep : Bool) (t : FileTree) (entry : IO.FS.DirEntry) : IO FileTree := do
  let path := Path.ofString (toString entry.path)
  try
    let data ← entry.path.symlinkMetadata
    match data.type with
    | .symlink => return t.addLink path (toString (← IO.FS.realPath entry.path))
    | .file =>
      return t.write path (← IO.FS.readBinFile entry.path).toList (modified data)
    | .dir =>
      let t := t.addDirectory path
      if deep then (← entry.path.readDir).foldlM (addEntry deep) t else return t
    | .other => return t
  catch _ => return t

/-- Add a path, the directories on the way to it and the links among them. -/
def addWay (t : FileTree) (path : Path) : IO FileTree := do
  let here ← IO.currentDir
  let ways := (List.range path.parts.length).map fun n =>
    (⟨path.anchor, path.parts.take (n + 1)⟩ : Path)
  ways.foldlM (fun t way => addEntry false t ⟨here, (here / way.toString).toString⟩) t

/-- Add a directory with what it holds; with `deep`, at any depth. -/
def addDirectory (deep : Bool) (t : FileTree) (path : Path) : IO FileTree := do
  let t ← addWay t path
  try
    let here ← IO.currentDir
    (← (here / path.toString).readDir).foldlM (addEntry deep) t
  catch _ => return t

/-- The tree that holds nothing but the current directory. -/
def start : IO FileTree := do
  let here := Path.ofString (toString (← IO.currentDir))
  return (← addWay .empty here).enter here

/-- The real path of a path, the path itself if there is nothing at it. -/
def realPath (path : Path) : IO Path := do
  let here ← IO.currentDir
  try
    return Path.ofString (toString (← IO.FS.realPath (here / path.toString)))
  catch _ => return Path.ofString (toString (here / path.toString))

def machine : IO Machine := do
  let home := (← IO.getEnv "HOME").getD "/"
  let imports := ((← IO.getEnv "PYTHONPATH").getD "").splitOn ":"
  return ⟨Path.ofString home, (imports.filter (· ≠ "")).map Path.ofString⟩

/-- The files that a question about a document may need: those beside it, those above it, and all
below the root, the search paths and the import path. -/
def survey (m : Machine) (t : FileTree) (document root : Path) : IO FileTree := do
  let t ← addDirectory false t document.parent
  let t ← addDirectory false t document.parent.parent
  let t ← addDirectory true t root
  let config := ((Config.load t root).toOption).getD {}
  let paths := ((config.resolveSearchPaths m.home root).toOption).getD []
  (paths ++ m.importPath).foldlM (addDirectory true) t

/-! ## Commands -/

/-- Run the command that some words ask for, and print what it shows. -/
def runCommand (m : Machine) (t : FileTree) (words : List String) : IO UInt32 := do
  let (result, _) := ((CommandLine.run m words).run).run (.fresh t none)
  match result with
  | .ok report =>
    IO.print report.output
    report.complaint.forM fun line => IO.eprintln line
    return report.code.toUInt32
  | .error fault =>
    IO.eprintln fault.message
    return 1

/-- The path that a word of a command line names, not yet followed through links. -/
def pathOf (m : Machine) (word : String) : IO Path := do
  let path := ((Config.expandHome m.home (Path.ofString word)).toOption).getD (Path.ofString word)
  return Path.ofString (toString ((← IO.currentDir) / path.toString))

/-- The files that a command may need. -/
def surveyFor (m : Machine) (t : FileTree) : CommandLine.Command → IO FileTree
  | .serve _ => return t
  | .token cursor => do addWay t (← pathOf m (cursor.file.getD ""))
  | .resolve cursor root _ => do
    let named ← pathOf m (cursor.file.getD "")
    let file ← realPath named
    let t ← addWay (← addWay t named) file
    match root with
    | none => survey m t file file.parent
    | some word =>
      let named ← pathOf m word
      survey m (← addWay t named) file (← realPath named)

/-! ## Serving -/

/-- The length that a header of a message tells, if it does. -/
def lengthIn? (header : String) : Option Nat :=
  match header.splitOn ":" with
  | [name, value] =>
    if name.toLower = "content-length" then
      (Text.readInt? value.toList).map Int.toNat
    else none
  | _ => none

/-- Read headers up to an empty line: the length that one of them tells. -/
partial def readHeaders (input : IO.FS.Stream) (length : Option Nat) : IO (Option Nat) := do
  let line ← input.getLine
  if line.isEmpty then return none
  else if (Text.trim line.toList).isEmpty then return length
  else
    match lengthIn? line with
    | some n => readHeaders input (some n)
    | none => readHeaders input length

partial def readBytes (input : IO.FS.Stream) (n : Nat) (read : ByteArray) : IO ByteArray := do
  if read.size ≥ n then return read
  else
    let more ← input.read (n - read.size).toUSize
    if more.isEmpty then return read else readBytes input n (read ++ more)

/-- Read one message, if there is another. -/
def readMessage (input : IO.FS.Stream) : IO (Option Datum) := do
  match ← readHeaders input none with
  | none => return none
  | some n =>
    let bytes ← readBytes input n .empty
    return (String.fromUTF8? bytes).bind Json.read?

def writeMessage (output : IO.FS.Stream) (d : Datum) : IO Unit := do
  let body := Json.write d
  output.putStr ("Content-Length: " ++ toString body.utf8ByteSize ++ "\r\n\r\n" ++ body)
  output.flush

def answerMessage (id : Datum) (a : Editor.Answer) : Datum :=
  let outcome :=
    match a.errorCode? with
    | some code => ("error", .table [("code", .int code), ("message", .text "request failed")])
    | none => ("result", a.result)
  .table [("jsonrpc", .text "2.0"), ("id", id), outcome]

/-- The files that a server may need for a message about a document. -/
def surveyServer (m : Machine) (s : Server) (uri : String) : IO FileTree := do
  let t ← start
  let document := ((Path.ofUri uri).toOption).getD ⟨.here, []⟩
  match ((Server.root).run).run s with
  | (.ok root, _) => survey m (← addWay t document) document root
  | (.error _, _) => return t

/-- Answer messages until the editor leaves. -/
partial def serveLoop (m : Machine) (input output : IO.FS.Stream) (s : Server) : IO Unit := do
  match ← readMessage input with
  | none => return
  | some d =>
    let method := (d.textAt? "method").getD ""
    let params := (d.get? "params").getD .null
    let t ← surveyServer m s (Editor.uriOf params)
    let s := s.setInner { s.inner with tree := t }
    match d.get? "id" with
    | some id =>
      let (a, s) := s.answer m (.ofMethod method params)
      writeMessage output (answerMessage id a)
      serveLoop m input output s
    | none =>
      let n := Editor.Notice.ofMethod method params
      if n = .exit then return else serveLoop m input output (s.take m n)

def serve (m : Machine) (root : Option String) : IO UInt32 := do
  let t ← start
  let root ← root.mapM fun word => do realPath (← pathOf m word)
  serveLoop m (← IO.getStdin) (← IO.getStdout) (.fresh root (.fresh t none))
  return 0

def run (words : List String) : IO UInt32 := do
  let m ← machine
  let t ← start
  match CommandLine.Command.read words with
  | .ok (.serve root) => serve m root
  | .ok command => runCommand m (← surveyFor m t command) words
  | .error _ => runCommand m t words

end Program

end LozengeNav

def main (words : List String) : IO UInt32 :=
  LozengeNav.Program.run words
