import LozengeNav.ForeignSymbols
import LozengeNav.LocalFile
import LozengeNav.Reference

/-!
# Definitions

Where the reference under a cursor leads.  File references come first; a name without dots that is
no file is looked up among the foreign symbols.
-/

namespace LozengeNav

structure Document where
  path : Path
  lines : List (List Char)

namespace Document

/-- A line of the document, empty outside of it. -/
def line (d : Document) (index : Int) : List Char :=
  if index < 0 then [] else d.lines.getD index.toNat []

/-- A file read from disk: line breaks are unified first. -/
def ofFile (path : Path) (text : List Char) : Document :=
  ⟨path, Text.lines (Text.unifyBreaks text)⟩

/-- A document that an editor holds: each line is kept with its ending, of which line feeds and
carriage returns are dropped. -/
def ofEditor (path : Path) (text : List Char) : Document :=
  ⟨path, (Text.wholeLines text).map (Text.dropRightWhile fun c => c == '\r' || c == '\n')⟩

end Document

/-- What navigation is set up with. -/
structure Navigation where
  base : BaseClass
  extension : String
  deriving DecidableEq, Repr

namespace Navigation

variable {σ : Type}

/-- The locations of the reference under a cursor. -/
def definition (nav : Navigation) (host : Host σ) (document : Document) (position : Position) :
    Query σ (List Location) := do
  match Reference.at? (document.line position.line) position.column with
  | none => return []
  | some reference =>
    let name := String.ofList reference.name
    match ← LocalFile.resolve host nav.extension name document.path.parent with
    | some uri => return [.fileStart uri]
    | none =>
      if reference.isDotted then return [] else ForeignSymbols.resolve host nav.base name

end Navigation

end LozengeNav
