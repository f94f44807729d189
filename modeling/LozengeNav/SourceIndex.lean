import LozengeNav.Expression
import LozengeNav.Host
import LozengeNav.Imports
import LozengeNav.Outline.Node
import LozengeNav.Workspace

/-!
# Source index

An index of the foreign code base that is read from its sources.  Symbols come from outlines, which
are kept until the file changes.  A jump expands a dotted expression by the name table of its module
and looks the qualified name up among the modules; a member that a module has only imported is
followed to where it comes from, at most a fixed number of times.  There is no type hierarchy.
-/

namespace LozengeNav

structure SourceIndex where
  workspace : Workspace
  /-- Directories that modules are looked up in after the root and its source directory. -/
  searchPaths : List Path
  importPath : List Path
  deriving Repr

structure KeptOutline where
  path : Path
  modified : Int
  outline : List OutlineSymbol
  deriving Repr

structure IndexState where
  tree : FileTree
  kept : List KeptOutline
  deriving Repr

abbrev Lookup : Type → Type :=
  Query IndexState

namespace OutlineSymbol

/-- Where a symbol is defined: the span of its name. -/
def location (s : OutlineSymbol) (uri : String) : Location :=
  ⟨uri, s.nameSpan⟩

end OutlineSymbol

namespace SourceIndex

/-! ## Outlines -/

/-- The outline of the file at a path, empty if it cannot be read. -/
def freshOutline (t : FileTree) (path : Path) : List OutlineSymbol :=
  match t.read path with
  | .ok bytes => outlineOf (Text.Utf8.decodeLossy bytes)
  | .error _ => []

def keptOutline? (s : IndexState) (path : Path) (modified : Int) : Option (List OutlineSymbol) :=
  ((s.kept.find? fun k => k.path = path).filter fun k => k.modified = modified).map
    KeptOutline.outline

def keep (s : IndexState) (k : KeptOutline) : IndexState :=
  { s with kept := k :: s.kept.filter fun other => other.path ≠ k.path }

def outline (path : Path) : Lookup (List OutlineSymbol) := do
  let s ← get
  match s.tree.modified? path with
  | none => return []
  | some modified =>
    match keptOutline? s path modified with
    | some outline => return outline
    | none =>
      let outline := freshOutline s.tree path
      set (keep s ⟨path, modified, outline⟩)
      return outline

def localPath? (uri : String) : Option Path :=
  (Path.ofUri uri).toOption

def documentOutline (uri : String) : Lookup (Option (List OutlineSymbol)) := do
  match localPath? uri with
  | none => return none
  | some path =>
    if ← Query.ofExcept ((← get).tree.isFile path) then return some (← outline path)
    else return none

/-! ## Symbols -/

def hit (uri : String) (s : OutlineSymbol) : WorkspaceSymbol :=
  ⟨s.name, s.kind, s.location uri, s.container⟩

def symbolsIn (name : String) : List Path → Lookup (List WorkspaceSymbol)
  | [] => return []
  | path :: rest => do
    let found := (← outline path).filter fun s => s.name = name
    let hits ← match found with
      | [] => pure []
      | _ => do
        let uri ← Query.ofExcept path.toUri
        pure (found.map (hit uri))
    return hits ++ (← symbolsIn name rest)

def symbols (x : SourceIndex) (name : String) : Lookup (List WorkspaceSymbol) := do
  symbolsIn name (← Query.ofExcept (x.workspace.pythonFiles (← get).tree))

/-! ## Modules -/

def packageFile : String :=
  "__init__.py"

def isPackage (path : Path) : Bool :=
  path.name = packageFile

/-- The directories that modules are looked up in, in order. -/
def roots (x : SourceIndex) (t : FileTree) : Except Fault (List Path) := do
  let installed ← x.importPath.filterM t.isDirectory
  return [x.workspace.root, x.workspace.root.join "src"] ++ x.searchPaths ++ installed

/-- The file of a module below a directory: that of a package, or else that of a plain module. -/
def moduleFileIn? (t : FileTree) (parts : List String) (root : Path) :
    Except Fault (Option Path) := do
  let base := parts.foldl Path.join root
  let package := base.child packageFile
  if ← t.isFile package then return some package
  else
    match base.withName? (base.name ++ ".py") with
    | none => throw (.noFinalPart base.toString)
    | some plain => return if ← t.isFile plain then some plain else none

def firstModuleFile? (t : FileTree) (parts : List String) : List Path →
    Except Fault (Option Path)
  | [] => .ok none
  | root :: rest => do
    match ← moduleFileIn? t parts root with
    | some file => return some file
    | none => firstModuleFile? t parts rest

def moduleFile? (x : SourceIndex) (t : FileTree) (parts : List String) :
    Except Fault (Option Path) := do
  firstModuleFile? t parts (← x.roots t)

/-- The path below the first of some directories that a real path lies in. -/
def firstBelow? (t : FileTree) (real : Path) : List Path → Except Fault (Option Path)
  | [] => .ok none
  | root :: rest =>
    match t.realPath root with
    | .ok directory =>
      match real.relativeTo? directory with
      | some relative => .ok (some relative)
      | none => firstBelow? t real rest
    | .error .linkLoop => .error .linkLoop
    | .error _ => firstBelow? t real rest

def moduleName (x : SourceIndex) (t : FileTree) (path : Path) : Except Fault String := do
  let real ← t.realPath path
  match ← firstBelow? t real (← x.roots t) with
  | some relative => return ModuleName.ofPath relative.toString
  | none => return ModuleName.ofPath path.name

def source? (t : FileTree) (path : Path) : Except Fault (Option (List Char)) :=
  match t.readText path with
  | .ok text => .ok (some text)
  | .error .nulInPath => .error .nulInPath
  | .error _ => .ok none

def nameTable (path : Path) (module : String) (text : List Char) : Lookup NameTable := do
  return NameTable.build module (isPackage path) (← outline path) (importsOf text)

/-! ## Jumps -/

/-- A qualified name that is left to be looked up. -/
abbrev Follow :=
  List String → Lookup (Option Location)

/-- The first symbol of a name outside of all classes. -/
def topLevel? (outline : List OutlineSymbol) (name : String) : Option OutlineSymbol :=
  outline.find? fun s => s.container.isNone && s.name = name

/-- The first member of a name of a class of a name. -/
def member? (outline : List OutlineSymbol) (container name : String) : Option OutlineSymbol :=
  outline.find? fun s => s.container = some container && s.name = name

/-- The symbol that a name within a module stands for: a top-level symbol or a member of one. -/
def symbolOf? (outline : List OutlineSymbol) (top : OutlineSymbol) : List String →
    Option OutlineSymbol
  | [] => some top
  | [name] => member? outline top.name name
  | _ => none

/-- Look a name up within a module.  What the module has imported is followed. -/
def memberIn (file : Path) (module : String) (head : String) (tail : List String)
    (follow : Option Follow) : Lookup (Option Location) := do
  let outline ← outline file
  match topLevel? outline head with
  | some top =>
    match symbolOf? outline top tail with
    | some symbol => return some (symbol.location (← Query.ofExcept file.toUri))
    | none => return none
  | none =>
    match follow with
    | none => return none
    | some follow =>
      match ← Query.ofExcept (source? (← get).tree file) with
      | none => return none
      | some text =>
        match (← nameTable file module text).get? head with
        | none => return none
        | some binding => follow (ModuleName.pieces binding.qualified ++ tail)

/-- Look a qualified name up: `done` parts name the module, `rest` the member, and parts move over
until there is a module. -/
def locateFrom (x : SourceIndex) (follow : Option Follow) (rest : List String) :
    List String → Lookup (Option Location)
  | [] => return none
  | last :: before => do
    let parts := (last :: before).reverse
    match ← Query.ofExcept (x.moduleFile? (← get).tree parts) with
    | some file =>
      match rest with
      | [] => return some (.fileStart (← Query.ofExcept file.toUri))
      | head :: tail => memberIn file (ModuleName.spell parts) head tail follow
    | none => locateFrom x follow (last :: rest) before

/-- Look a qualified name up.  The longest prefix that names a module counts; at most `hops` times a
name is followed to another module. -/
def locate (x : SourceIndex) : Nat → Follow
  | 0, parts => locateFrom x none [] parts.reverse
  | hops + 1, parts => locateFrom x (some (locate x hops)) [] parts.reverse

def hopLimit : Nat :=
  4

def locateExpression (x : SourceIndex) (path : Path) (text : List Char) (expression : String) :
    Lookup (Option Location) := do
  let module ← Query.ofExcept (x.moduleName (← get).tree path)
  let table ← nameTable path module text
  match ModuleName.pieces expression with
  | [] => return none
  | head :: tail =>
    match table.get? head with
    | none => return none
    | some binding =>
      match binding.origin with
      | .definition => memberIn path module head tail none
      | _ => x.locate hopLimit (ModuleName.pieces binding.qualified ++ tail)

def jump (x : SourceIndex) (uri : String) (position : Position) : Lookup (List Location) := do
  match localPath? uri with
  | none => return []
  | some path =>
    match ← Query.ofExcept (source? (← get).tree path) with
    | none => return []
    | some text =>
      match (Text.lines text)[position.line]? with
      | none => return []
      | some line =>
        match expressionAt? line position.column with
        | none => return []
        | some expression => return (← x.locateExpression path text expression).toList

/-! ## The host -/

/-- More than the number of classes that are named in the files. -/
def classBound (s : IndexState) : Nat :=
  let size := (s.tree.entries.map fun (trail, entry) =>
    match entry with
    | .file content _ => content.length + trail.length + 1
    | .link target => target.length + trail.length + 1
    | .directory => trail.length + 1).foldr (· + ·) 0
  (size + 2) * (size + 2)

def host (x : SourceIndex) : Host IndexState where
  fileExists path := do Query.ofExcept ((← get).tree.isFile path)
  findFiles pattern limit := do
    Query.ofExcept (x.workspace.findFiles (← get).tree pattern limit)
  readText uri := return Workspace.readText (← get).tree uri
  workspaceSymbols name := return some (← x.symbols name)
  documentOutline uri := documentOutline uri
  prepareTypeHierarchy _ _ := return none
  supertypes _ := return none
  jumpToDefinition uri position := return some (← x.jump uri position)
  classBound := classBound

end SourceIndex

end LozengeNav
