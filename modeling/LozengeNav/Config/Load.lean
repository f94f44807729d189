import LozengeNav.Config.Check
import LozengeNav.Files.Tree

/-!
# Loading configurations

The configuration file of a workspace.  A workspace without one has the default configuration.
-/

namespace LozengeNav

namespace Config

def fileName : String :=
  "dryck-nav.toml"

/-- Why there is no configuration. -/
inductive LoadFault where
  /-- The file is no TOML. -/
  | malformed (file : Path)
  /-- The file says something that is no configuration. -/
  | invalid (file : Path) (issues : List Issue)
  | unreadable (fault : Fault)
  deriving DecidableEq, Repr

namespace LoadFault

/-- The wording of a fault, as far as it does not depend on details. -/
def message : LoadFault → String
  | malformed file => "Invalid TOML in " ++ file.toString
  | invalid file _ => "Invalid config in " ++ file.toString
  | unreadable fault => fault.message

end LoadFault

def ofBytes (file : Path) (bytes : List UInt8) : Except LoadFault Config :=
  match Text.Utf8.decode? bytes with
  | none => .error (.unreadable .undecodable)
  | some text =>
    match Toml.read text with
    | .error .malformed => .error (.malformed file)
    | .error (.longInteger digits) => .error (.unreadable (.longInteger digits))
    | .ok d =>
      match ofData d with
      | .ok config => .ok config
      | .error issues => .error (.invalid file issues)

def load (t : FileTree) (root : Path) : Except LoadFault Config :=
  let file := root.join fileName
  match t.isFile file with
  | .error fault => .error (.unreadable fault)
  | .ok false => .ok {}
  | .ok true =>
    match t.read file with
    | .error fault => .error (.unreadable fault)
    | .ok bytes => ofBytes file bytes

end Config

end LozengeNav
