import LozengeNav.Host
import LozengeNav.Uri

/-!
# Sibling files

The dialect file that a name refers to: `name.ext` or `_name.ext` in the directory of the document,
in the directory above it, or anywhere in the workspace.  Nearer directories come first, and within
one the plain name.
-/

namespace LozengeNav

namespace LocalFile

variable {σ : Type}

/-- The file names for a reference, in order of priority. -/
def candidates (name extension : String) : List String :=
  [name ++ "." ++ extension, "_" ++ name ++ "." ++ extension]

def firstFile? (host : Host σ) : List Path → Query σ (Option Path)
  | [] => return none
  | path :: rest => do
    if ← host.fileExists path then
      return some path
    firstFile? host rest

/-- The first hit of searching the workspace for some file names, one after the other. -/
def firstFound? (host : Host σ) : List String → Query σ (Option String)
  | [] => return none
  | name :: rest => do
    match ← host.findFiles ("**/" ++ name) 1 with
    | uri :: _ => return some uri
    | [] => firstFound? host rest

def nearby (directory : Path) (names : List String) : List Path :=
  [directory, directory.parent].flatMap fun d => names.map d.join

def resolve (host : Host σ) (extension name : String) (directory : Path) :
    Query σ (Option String) := do
  let names := candidates name extension
  match ← firstFile? host (nearby directory names) with
  | some path => return some (← path.toUri)
  | none => firstFound? host names

end LocalFile

end LozengeNav
