import LozengeNav.Proofs.CommandLine.Request
import LozengeNav.Proofs.CommandLine.Resolve

/-! # How requests end

A request for a place in a file shows what it finds, refuses its input or the tooling,
or strands with a fault that nothing reports. Its exit code tells which.
-/

namespace LozengeNav

namespace CommandLine

open Query

/-! ## Endings -/

def rootOf (m : Machine) (t : FileTree) (path : Path) : Option String → Except Fault Path
  | none => .ok path.parent
  | some word => realPath m t (some word)

def textOf (m : Machine) (t : FileTree) (file : String) : Except Fault (List Char) :=
  realPath m t (some file) >>= t.readText

/-- The words of a request name a file and a directory to look at it from. -/
structure Placed (m : Machine) (t : FileTree) (file : String) (root : Option String)
    (path directory : Path) : Prop where
  named : realPath m t (some file) = .ok path
  located : rootOf m t path root = .ok directory

variable {m : Machine} {e : EngineState} {r : Request}

variable {report : Report}

end CommandLine

end LozengeNav
