import LozengeNav.Fault
import LozengeNav.Path
import LozengeNav.Text.Line
import LozengeNav.Text.Utf8

/-!
# File trees

Directories, files and symbolic links, each known by the names on the way to it from the root.  A
path is followed link by link, at most a fixed number of them.  The real path of a path exists
whether or not there is anything at it.
-/

namespace LozengeNav

/-- What a name in a directory stands for. -/
inductive Entry where
  | directory
  | file (content : List UInt8) (modified : Int)
  | link (target : String)
  deriving DecidableEq, Repr

/-- The names on the way from the root, none of them a link. -/
abbrev Trail :=
  List String

/-- The entries of a file system, each at most once, and the current directory. -/
structure FileTree where
  entries : List (Trail × Entry)
  here : Trail
  deriving Repr

/-- Why there is nothing at a path. -/
inductive Absence where
  | missing
  | notDirectory
  | tooManyLinks
  | tooLong
  | nul
  deriving DecidableEq, Repr

namespace Absence

/-- The fault of reading or removing what is not there. -/
def fault : Absence → Fault
  | missing => .missingFile
  | notDirectory => .notDirectory
  | tooManyLinks => .tooManyLinks
  | tooLong => .pathTooLong
  | nul => .nulInPath

end Absence

namespace FileTree

/-- No entries, and the root as the current directory. -/
def empty : FileTree :=
  ⟨[], []⟩

/-- The entry at a trail; the root is a directory. -/
def entry? (t : FileTree) (trail : Trail) : Option Entry :=
  if trail.isEmpty then some .directory else t.entries.lookup trail

def children (t : FileTree) (trail : Trail) : List (String × Entry) :=
  t.entries.filterMap fun (key, entry) =>
    match key.getLast? with
    | some name => if key.dropLast = trail then some (name, entry) else none
    | none => none

/-! ## Following paths -/

/-- The longest name, in bytes. -/
def nameLimit : Nat :=
  255

/-- The longest path, in bytes. -/
def pathLimit : Nat :=
  4095

/-- The links that may be followed on one way. -/
def linkLimit : Nat :=
  40

/-- Where a written path starts from. -/
def startOf (base : Trail) (p : Path) : Trail :=
  if p.isAbsolute then [] else base

/-- A target that ends in a slash, or in one and a dot, is that of a directory. -/
def namesDirectory (target : String) : Bool :=
  ['/'].isSuffixOf target.toList || ['/', '.'].isSuffixOf target.toList

/-- What is found, where a file is not what is looked for if `directory` holds. -/
def requiring (directory : Bool) :
    Except Absence (Trail × Entry) → Except Absence (Trail × Entry)
  | .ok (trail, .file content modified) =>
    if directory then .error .notDirectory else .ok (trail, .file content modified)
  | found => found

/-- Follow names from a directory up to the first link that has to be followed; `jump` goes on from
there.  A link at the end has to be followed if `last` holds. -/
def walk (t : FileTree) (last : Bool)
    (jump : Option (Trail → List String → Except Absence (Trail × Entry))) (trail : Trail) :
    List String → Except Absence (Trail × Entry)
  | [] =>
    match t.entry? trail with
    | some entry => .ok (trail, entry)
    | none => .error .missing
  | name :: rest =>
    if name = ".." then walk t last jump trail.dropLast rest
    else if nameLimit < name.utf8ByteSize then .error .tooLong
    else
      let next := trail ++ [name]
      match t.entry? next with
      | none => .error .missing
      | some .directory => walk t last jump next rest
      | some (.file content modified) =>
        if rest.isEmpty then .ok (next, .file content modified) else .error .notDirectory
      | some (.link target) =>
        if rest.isEmpty && !last then .ok (next, .link target)
        else
          match jump with
          | none => .error .tooManyLinks
          | some jump =>
            let path := Path.ofString target
            requiring (rest.isEmpty && namesDirectory target)
              (jump (startOf trail path) (path.parts ++ rest))

/-- Follow names from a directory, with at most `links` links on the way. -/
def follow (t : FileTree) (last : Bool) :
    Nat → Trail → List String → Except Absence (Trail × Entry)
  | 0 => t.walk last none
  | links + 1 => t.walk last (some (follow t last links))

/-- What is at a path. -/
def locate (t : FileTree) (last : Bool) (p : Path) : Except Absence (Trail × Entry) :=
  let text := p.toString
  if text.toList.contains '\x00' then .error .nul
  else if pathLimit < text.utf8ByteSize then .error .tooLong
  else t.follow last linkLimit (startOf t.here p) p.parts

/-- Ask about what is at a path, links followed.  A path that is too long is a fault. -/
def test (t : FileTree) (p : Path) (yes : Entry → Bool) : Except Fault Bool :=
  match t.locate true p with
  | .ok (_, entry) => .ok (yes entry)
  | .error .tooLong => .error .pathTooLong
  | .error _ => .ok false

def isFile (t : FileTree) (p : Path) : Except Fault Bool :=
  t.test p fun
    | .file .. => true
    | _ => false

def isDirectory (t : FileTree) (p : Path) : Except Fault Bool :=
  t.test p fun
    | .directory => true
    | _ => false

def hasEntry (t : FileTree) (p : Path) : Except Fault Bool :=
  t.test p fun _ => true

/-- Whether a path itself names a link. -/
def isLink (t : FileTree) (p : Path) : Bool :=
  match t.locate false p with
  | .ok (_, .link _) => true
  | _ => false

/-- When the file or directory at a path was modified; a directory never is. -/
def modified? (t : FileTree) (p : Path) : Option Int :=
  match t.locate true p with
  | .ok (_, .file _ modified) => some modified
  | .ok _ => some 0
  | .error _ => none

/-! ## Real paths -/

/-- A step on the way to a real path. -/
inductive Step where
  | name (s : String)
  /-- The link at a trail has been followed to its end. -/
  | resolved (link : Trail)
  deriving DecidableEq, Repr

def Step.names (steps : List Step) : List String :=
  steps.filterMap fun
    | .name s => some s
    | .resolved _ => none

/-- Apply names to a trail without looking at links. -/
def lexical (trail : Trail) (names : List String) : Trail :=
  names.foldl (fun kept name => if name = ".." then kept.dropLast else kept ++ [name]) trail

/-- The target of the link at a trail.  A link whose path is too long is not seen to be one. -/
def linkAt? (t : FileTree) (trail : Trail) : Option String :=
  if pathLimit < (Path.toString ⟨.root, trail⟩).utf8ByteSize then none
  else
    match t.entry? trail with
    | some (.link target) => some target
    | _ => none

/-- Take steps from a trail.  What links led to is kept; a link that leads to itself ends the way. -/
def realFrom (t : FileTree) (seen : List (Trail × Option Trail)) :
    Nat → Trail → List Step → Trail
  | 0, trail, steps => lexical trail (Step.names steps)
  | _, trail, [] => trail
  | fuel + 1, trail, .resolved link :: rest =>
    realFrom t ((link, some trail) :: seen) fuel trail rest
  | fuel + 1, trail, .name name :: rest =>
    if name = ".." then realFrom t seen fuel trail.dropLast rest
    else
      let next := trail ++ [name]
      match t.linkAt? next with
      | some target =>
        match seen.lookup next with
        | some (some known) => realFrom t seen fuel known rest
        | some none => lexical next (Step.names rest)
        | none =>
          let path := Path.ofString target
          realFrom t ((next, none) :: seen) fuel (startOf trail path)
            (path.parts.map .name ++ .resolved next :: rest)
      | none => realFrom t seen fuel next rest

/-- The steps that following every link once may add. -/
def linkSteps (t : FileTree) : Nat :=
  (t.entries.map fun (_, entry) =>
    match entry with
    | .link target => target.length + 2
    | _ => 0).foldr (· + ·) 0

/-- The trail of a path with all links followed, as far as there are any. -/
def realTrail (t : FileTree) (p : Path) : Trail :=
  t.realFrom [] (t.linkSteps + p.parts.length + 1) (startOf t.here p) (p.parts.map .name)

/-- The real path of a path.  A loop of links is a fault. -/
def realPath (t : FileTree) (p : Path) : Except Fault Path :=
  if p.toString.toList.contains '\x00' then .error .nulInPath
  else
    let real : Path := ⟨.root, t.realTrail p⟩
    match t.locate true real with
    | .error .tooManyLinks => .error .linkLoop
    | _ => .ok real

/-- A path from the root, with no link followed. -/
def absolute (t : FileTree) (p : Path) : Path :=
  match p.anchor with
  | .here => ⟨.root, lexical [] (t.here ++ p.parts)⟩
  | anchor => ⟨anchor, lexical [] p.parts⟩

/-! ## Reading -/

def read (t : FileTree) (p : Path) : Except Fault (List UInt8) :=
  match t.locate true p with
  | .ok (_, .file content _) => .ok content
  | .ok _ => .error .isDirectory
  | .error absence => .error absence.fault

/-- The text of the file at a path: UTF-8 with its line breaks unified. -/
def readText (t : FileTree) (p : Path) : Except Fault (List Char) := do
  match Text.Utf8.decode? (← t.read p) with
  | some text => return Text.unifyBreaks text
  | none => throw .undecodable

/-! ## Changing -/

def put (t : FileTree) (trail : Trail) (entry : Entry) : FileTree :=
  { t with entries := t.entries.filter (fun e => e.1 ≠ trail) ++ [(trail, entry)] }

/-- Make a directory, and those above it, where there is nothing yet. -/
def ensureDirectory (t : FileTree) (trail : Trail) : FileTree :=
  (List.range trail.length).foldl (fun t n =>
    let above := trail.take (n + 1)
    match t.entry? above with
    | none => t.put above .directory
    | some _ => t) t

def addDirectory (t : FileTree) (p : Path) : FileTree :=
  t.ensureDirectory (t.realTrail p)

/-- Write a file, where a link leads if there is one at the path. -/
def write (t : FileTree) (p : Path) (content : List UInt8) (modified : Int) : FileTree :=
  let trail := t.realTrail p
  (t.ensureDirectory trail.dropLast).put trail (.file content modified)

/-- Make a link. -/
def addLink (t : FileTree) (p : Path) (target : String) : FileTree :=
  let directory := t.realTrail p.parent
  (t.ensureDirectory directory).put (directory ++ [p.name]) (.link target)

/-- Remove the file or link at a path. -/
def remove (t : FileTree) (p : Path) : Except Fault FileTree :=
  match t.locate false p with
  | .ok (_, .directory) => .error .isDirectory
  | .ok (trail, _) => .ok { t with entries := t.entries.filter fun e => e.1 ≠ trail }
  | .error absence => .error absence.fault

def enter (t : FileTree) (p : Path) : FileTree :=
  { t with here := t.realTrail p }

end FileTree

end LozengeNav
