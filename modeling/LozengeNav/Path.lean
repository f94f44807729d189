/-!
# Paths

File paths as a sequence of parts behind zero, one or two slashes.  Empty parts and single dots
are dropped when a path is read; two dots stay, since they depend on symbolic links.
-/

namespace LozengeNav

/-- What a path starts from. -/
inductive Anchor where
  | here
  | root
  /-- The root directory, written with exactly two slashes. -/
  | share
  deriving DecidableEq, Repr, Inhabited

structure Path where
  anchor : Anchor
  parts : List String
  deriving DecidableEq, Repr, Inhabited

namespace Path

/-- What the leading slashes of a path stand for: three and more count as one. -/
def anchorOf : List Char → Anchor
  | '/' :: '/' :: '/' :: _ => .root
  | '/' :: '/' :: _ => .share
  | '/' :: _ => .root
  | _ => .here

def partsOf (s : List Char) : List String :=
  ((s.splitOn '/').filter fun p => p ≠ [] && p ≠ ['.']).map String.ofList

def ofString (s : String) : Path :=
  ⟨anchorOf s.toList, partsOf s.toList⟩

def slashes : Anchor → String
  | .here => ""
  | .root => "/"
  | .share => "//"

/-- Write a path; the empty relative path is a single dot. -/
def toString (p : Path) : String :=
  match p with
  | ⟨.here, []⟩ => "."
  | ⟨anchor, parts⟩ => slashes anchor ++ "/".intercalate parts

def isAbsolute (p : Path) : Bool :=
  p.anchor ≠ .here

/-- One path behind another; an absolute one replaces what stands before it. -/
def append (p q : Path) : Path :=
  if q.isAbsolute then q else ⟨p.anchor, p.parts ++ q.parts⟩

def join (p : Path) (s : String) : Path :=
  p.append (ofString s)

def child (p : Path) (name : String) : Path :=
  ⟨p.anchor, p.parts ++ [name]⟩

/-- The path without its last part. -/
def parent (p : Path) : Path :=
  ⟨p.anchor, p.parts.dropLast⟩

/-- The last part, empty if there is none. -/
def name (p : Path) : String :=
  p.parts.getLastD ""

/-- The path with another last part, where there is one. -/
def withName? (p : Path) (name : String) : Option Path :=
  if p.parts.isEmpty then none else some (p.parent.child name)

def relativeTo? (p directory : Path) : Option Path :=
  if p.anchor = directory.anchor && directory.parts.isPrefixOf p.parts then
    some ⟨.here, p.parts.drop directory.parts.length⟩
  else none

end Path

end LozengeNav
