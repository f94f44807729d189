import LozengeNav.Path
import LozengeNav.Text.Search

/-!
# Module names

The dotted name of the module that a file holds, and the module that a relative import means.
-/

namespace LozengeNav

namespace ModuleName

def spell (parts : List String) : String :=
  ".".intercalate parts

/-- The parts of a dotted name, empty ones included; the empty name has one empty part. -/
def pieces (name : String) : List String :=
  (name.toList.splitOn '.').map String.ofList

/-- The parts of a module name; the empty name has none. -/
def components (name : String) : List String :=
  if name.isEmpty then [] else pieces name

/-- The parts of a path, with backslashes as separators too. -/
def pathParts (path : String) : List String :=
  ((path.toList.map fun c => if c = '\\' then '/' else c).splitOn '/').filterMap fun part =>
    if part.isEmpty then none else some (String.ofList part)

/-- Leave out a leading source directory, unless it is the whole path. -/
def dropSourceRoot : List String → List String
  | "src" :: part :: rest => part :: rest
  | parts => parts

/-- A file name without the suffix of a source file. -/
def dropSuffix (part : String) : String :=
  if Text.endsWith part.toList ['.', 'p', 'y'] then
    String.ofList (part.toList.take (part.length - 3))
  else part

/-- The last part names the module; that of a package's own file is left out. -/
def nameLast (parts : List String) : List String :=
  match parts.getLast? with
  | none => []
  | some last =>
    if dropSuffix last = "__init__" then parts.dropLast else parts.dropLast ++ [dropSuffix last]

def ofPath (path : String) : String :=
  spell (nameLast (dropSourceRoot (pathParts path)))

/-- The module that a relative import means: `level` dots, then `relative`, in module `importing`.
The name of a package's own file already denotes the package, so there one dot drops nothing.  A
level that exceeds the name leaves `relative` alone. -/
def relativeTo (importing relative : String) (level : Nat) (isPackage : Bool) : String :=
  let parts := components importing
  let drop := if isPackage then level - 1 else level
  if drop > parts.length then (if relative.isEmpty then importing else relative)
  else
    let base := parts.take (parts.length - drop)
    if !relative.isEmpty then spell (base ++ [relative])
    else if base.isEmpty then importing
    else spell base

end ModuleName

end LozengeNav
