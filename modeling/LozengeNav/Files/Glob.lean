import LozengeNav.Files.Tree
import LozengeNav.Files.Wildcard

/-!
# Path patterns

Searching a directory by a pattern with a wildcard for each part of a path.  A part `**` stands for
any number of directories, none of them reached by a link; parts without wildcards are looked up and
links are followed.
-/

namespace LozengeNav

namespace Glob

inductive Segment where
  | name (s : String)
  | wildcard (s : String)
  | directories
  deriving DecidableEq, Repr

/-- A pattern, and whether what it finds has to be a directory. -/
structure Pattern where
  segments : List Segment
  directory : Bool
  deriving DecidableEq, Repr

/-- Whether a part needs matching. -/
def isWild (s : String) : Bool :=
  s.toList.any fun c => c = '*' || c = '?' || c = '['

def hasDouble : List Char → Bool
  | '*' :: '*' :: _ => true
  | _ :: rest => hasDouble rest
  | [] => false

namespace Segment

def ofString (s : String) : Except Fault Segment :=
  if s = "**" then .ok .directories
  else if hasDouble s.toList then .error .recursiveInside
  else if isWild s then .ok (.wildcard s)
  else .ok (.name s)

end Segment

namespace Pattern

def ofString (s : String) : Except Fault Pattern := do
  if s.isEmpty then throw .emptyPattern
  let path := Path.ofString s
  if path.isAbsolute then throw .absolutePattern
  let segments ← path.parts.mapM Segment.ofString
  let directory := s.toList.getLast? = some '/'
  if segments.isEmpty then throw (if directory then .loneDirectoryMark else .noSegment)
  return ⟨segments, directory⟩

end Pattern

/-- The entries of a directory.  A path that is too long cannot be listed. -/
def entriesIn (t : FileTree) (p : Path) : Except Fault (List (String × Entry)) :=
  match t.locate true p with
  | .ok (trail, _) => .ok (t.children trail)
  | .error .tooLong => .error .pathTooLong
  | .error _ => .ok []

/-- Whether the entry at a path is a directory.  Only a link has to be followed for that. -/
def leadsInside (t : FileTree) (p : Path) : Entry → Except Fault Bool
  | .directory => .ok true
  | .file .. => .ok false
  | .link _ => t.isDirectory p

/-- Whether a wildcard takes an entry of a directory.  Where it takes directories only (`inner`), an
entry is asked whether it is one even if its name does not fit. -/
def takes (t : FileTree) (inner : Bool) (s : String) (p : Path) :
    String × Entry → Except Fault Bool
  | (name, entry) => do
    if inner then return (← leadsInside t (p.child name) entry) && Wildcard.fits s name
    else return Wildcard.fits s name

/-- The paths of what lies below a directory and is one itself, no link followed. -/
def innerDirectories (t : FileTree) (p : Path) : List Path :=
  match t.locate true p with
  | .ok (trail, _) =>
    t.entries.filterMap fun (key, entry) =>
      if entry = .directory && trail.isPrefixOf key && key.length > trail.length then
        some ⟨p.anchor, p.parts ++ key.drop trail.length⟩
      else none
  | .error _ => []

/-- The directories below a directory, itself first.  All of them are listed, so none may have a
path that is too long. -/
def below (t : FileTree) (p : Path) : Except Fault (List Path) :=
  (p :: innerDirectories t p).filterM t.isDirectory

/-- What the segments find from a directory on.  Only directories are found if `directory` holds. -/
def select (t : FileTree) (directory : Bool) : List Segment → Path → Except Fault (List Path)
  | [], p => .ok [p]
  | segment :: rest, p => do
    let inner := directory || !rest.isEmpty
    match segment with
    | .name s =>
      let next := p.child s
      if ← if inner then t.isDirectory next else t.hasEntry next then select t directory rest next
      else return []
    | .wildcard s =>
      let found ← (← entriesIn t p).filterM (takes t inner s p)
      return (← found.mapM fun e => select t directory rest (p.child e.1)).flatten
    | .directories =>
      return (← (← below t p).mapM (select t directory rest)).flatten.eraseDups

/-- What a pattern finds in a directory. -/
def find (t : FileTree) (root : Path) (pattern : String) : Except Fault (List Path) := do
  let pattern ← Pattern.ofString pattern
  if ← t.isDirectory root then select t pattern.directory pattern.segments root else return []

end Glob

end LozengeNav
