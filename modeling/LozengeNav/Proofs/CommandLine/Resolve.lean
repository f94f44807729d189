import LozengeNav.CommandLine.Run
import LozengeNav.Proofs.Engine

/-! # The command that resolves a reference

For a file that is read and a position in range, the command shows what a lookup
from the file finds, one line for each location.
-/

namespace LozengeNav

namespace CommandLine

open Query

/-- The report on a lookup: a fault ends the command unless it is one of a language
server. -/
def reportOn : Except Fault (List Location) → Except Fault Report
  | .ok found => .ok (.found (found.map showLocation))
  | .error fault => if fault.isNoSession then .ok (.refused fault.message) else .error fault

variable {m : Machine} {config : Config} {x : SourceIndex} {e : EngineState} {root : Path}

theorem locations_run (h : Engine.SetUp m e.tree root config x) (document : Document)
    (position : Position) :
    ((locations m config root document position).run.run e).1 =
      x.lookUp config e.tree document position := by
  have hrecalls := IndexState.recalls_fresh [e.tree] e.tree
  obtain ⟨e', hlookup, -⟩ := Engine.definition_run x config
    (FileTree.recallable_singleton e.tree) List.mem_cons_self
    (s := { e with kept := [] }) hrecalls document position
  rw [locations, run_bind_of_ok _ (Engine.start_run h e), run_bind_of_ok _ (run_observe _ _),
    hlookup]
  exact congrArg Prod.fst (run_ofExcept _ e')

theorem resolve_run (h : Engine.SetUp m e.tree root config x) {cursor : Cursor} {rootWord : String}
    {file : Path} {text : List Char} {position : Position}
    (hfile : realPath m e.tree cursor.file = .ok file)
    (hroot : realPath m e.tree (some rootWord) = .ok root)
    (htext : e.tree.readText file = .ok text) (hposition : cursor.position = .ok position) :
    ((Command.run m (.resolve cursor (some rootWord) none)).run.run e).1 =
      reportOn (x.lookUp config e.tree (.ofFile file text) position) := by
  have hlookup := locations_run h (Document.ofFile file text) position
  rw [Command.run, CommandLine.resolve, run_get]
  dsimp only
  rw [hfile, run_bind_of_ok _ (run_ofExcept _ e)]
  rw [hroot, run_bind_of_ok _ (run_ofExcept _ e), h.loaded]
  dsimp only
  rw [htext]
  dsimp only
  rw [hposition, run_bind_of_ok _ (run_ofExcept _ e), run_bind_of_ok _ (run_observe _ e)]
  dsimp only [Option.getD_none]
  rw [hlookup]
  cases x.lookUp config e.tree (Document.ofFile file text) position with
  | ok found => rfl
  | error fault =>
      dsimp only [reportOn]
      cases fault.isNoSession <;> rfl

end CommandLine

end LozengeNav
