import LozengeNav.Proofs.CommandLine.Reading

/-! # Command lines for a place in a file

A command line that names a file, a line and a column is read as the command for
them, or reading stops with a complaint or a help text.
-/

namespace LozengeNav

namespace CommandLine

/-! ## Requests -/

/-- A command line for a place in a file. -/
inductive Request where
  | resolve (file : String) (line column : Int) (root : Option String) (static : Bool)
  | token (file : String) (line column : Int)
  deriving DecidableEq, Repr

def rootWords : Option String → List String
  | none => []
  | some directory => ["--root", directory]

def staticWords (static : Bool) : List String :=
  if static then ["--backend", "static"] else []

namespace Request

def words : Request → List String
  | resolve file line column root static =>
      "resolve" :: file :: toString line :: toString column ::
        (rootWords root ++ staticWords static)
  | token file line column => ["token", file, toString line, toString column]

def command : Request → Command
  | resolve file line column root static =>
      .resolve ⟨some file, some line, some column⟩ root (if static then some .static else none)
  | token file line column => .token ⟨some file, some line, some column⟩

end Request

/-- The command that was read, unless words are left over. -/
def settled (make : Reading → Command) (r : Reading) : Except Stop Command :=
  if r.leftOver = [] then .ok (make r) else .error (.complaint program (.leftOver r.leftOver))

end CommandLine

end LozengeNav
