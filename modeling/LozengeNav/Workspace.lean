import LozengeNav.Files.Glob
import LozengeNav.Files.Ignore
import LozengeNav.Uri

/-!
# Workspaces

The files below a root directory that are looked at: those that are no links, that really lie below
the root, and that neither an ignore file nor an exclude pattern hides.  Found files come in the
order of their paths below the root.
-/

namespace LozengeNav

/-- A root directory and what is hidden below it. -/
structure Workspace where
  root : Path
  exclude : List String
  /-- Whether ignore files below the root count too. -/
  nested : Bool
  deriving DecidableEq, Repr

namespace Workspace

def ignoreName : String :=
  ".gitignore"

def relative? (w : Workspace) (p : Path) : Option Path :=
  p.relativeTo? w.root

/-- The key that found files are ordered by. -/
def key (w : Workspace) (p : Path) : String :=
  ((w.relative? p).getD p).toString

/-! ## Ignore files -/

/-- The ignore files that count, in the order of their paths. -/
def ignoreFiles (w : Workspace) (t : FileTree) : Except Fault (List Path) := do
  let top := w.root.join ignoreName
  if w.nested then
    let found ← Glob.find t w.root ("**/" ++ ignoreName)
    let files ← (top :: found).eraseDups.filterM fun p => do
      return (← t.isFile p) && !t.isLink p
    return files.mergeSort fun a b => w.key a ≤ w.key b
  else if ← t.isFile top then return [top]
  else return []

/-- The rules that count. -/
def matchers (w : Workspace) (t : FileTree) : Except Fault (List Ignore.Matcher) := do
  (← w.ignoreFiles t).mapM (Ignore.Matcher.ofFile t)

/-- Whether one of some matchers hides a path.  With nested ignore files, those of other directories
are passed over. -/
def isIgnored (w : Workspace) (t : FileTree) (p : Path) : List Ignore.Matcher → Except Fault Bool
  | [] => .ok false
  | m :: rest =>
    match m.hides t p with
    | .ok true => .ok true
    | .ok false => w.isIgnored t p rest
    | .error (.outsideDirectory path directory) =>
      if w.nested then w.isIgnored t p rest else .error (.outsideDirectory path directory)
    | .error fault => .error fault

/-! ## Finding -/

def holds (w : Workspace) (t : FileTree) (p : Path) : Except Fault Bool := do
  let root ← t.realPath w.root
  let real ← t.realPath p
  return (real.relativeTo? root).isSome

def admits (w : Workspace) (t : FileTree) (matchers : List Ignore.Matcher) (p : Path) :
    Except Fault Bool := do
  if !(← t.isFile p) || t.isLink p then return false
  else if !(← w.holds t p) then return false
  else
    match w.relative? p with
    | none => return false
    | some relative =>
      if ← w.isIgnored t p matchers then return false
      else return !w.exclude.any fun pattern => Wildcard.fits pattern relative.toString

def glob (w : Workspace) (t : FileTree) (pattern : String) : Except Fault (List Path) := do
  let matchers ← w.matchers t
  let found ← (← Glob.find t w.root pattern).filterM (w.admits t matchers)
  return found.mergeSort fun a b => w.key a ≤ w.key b

/-- As many of some items as a limit asks for; a negative limit leaves out as many at the end. -/
def limited {α : Type} (limit : Int) (items : List α) : List α :=
  if 0 ≤ limit then items.take limit.toNat
  else items.take (items.length - (-limit).toNat)

def findFiles (w : Workspace) (t : FileTree) (pattern : String) (limit : Int) :
    Except Fault (List String) := do
  (limited limit (← w.glob t pattern)).mapM Path.toUri

def pythonFiles (w : Workspace) (t : FileTree) : Except Fault (List Path) :=
  w.glob t "**/*.py"

/-- The text of a document, if it can be read. -/
def readText (t : FileTree) (uri : String) : Option String :=
  match Path.ofUri uri with
  | .error _ => none
  | .ok path =>
    match t.readText path with
    | .ok text => some (String.ofList text)
    | .error _ => none

end Workspace

end LozengeNav
