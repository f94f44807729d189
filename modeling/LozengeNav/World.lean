import LozengeNav.Host

/-!
# Fixed worlds

A host whose answers are written down in tables, and which records every question it is asked.
-/

namespace LozengeNav

inductive Call where
  | fileExists (path : String)
  | findFiles (pattern : String) (limit : Int)
  | readText (uri : String)
  | workspaceSymbols (name : String)
  | documentOutline (uri : String)
  | prepareTypeHierarchy (uri : String) (position : Position)
  | supertypes (uri name : String)
  | jumpToDefinition (uri : String) (position : Position)
  deriving DecidableEq, Repr

/-- The answers of a host.  What a table does not list is not answered. -/
structure World where
  paths : List String := []
  globs : List (String × List String) := []
  texts : List (String × Option String) := []
  symbols : List (String × Option (List WorkspaceSymbol)) := []
  outlines : List (String × Option (List OutlineSymbol)) := []
  hierarchy : List ((String × Position) × Option (List (String × String))) := []
  supertypes : List ((String × String) × Option (List (String × String))) := []
  definitions : List ((String × Position) × Option (List Location)) := []

namespace World

/-- The calls made so far, the latest first. -/
abbrev Log :=
  List Call

def answer {α : Type} (call : Call) (a : α) : Query Log α := do
  modify (call :: ·)
  return a

/-- What a table answers. -/
def look {κ α : Type} [BEq κ] (table : List (κ × Option α)) (key : κ) : Option α :=
  (table.lookup key).join

def nodes (pairs : List (String × String)) : List HierarchyNode :=
  pairs.map fun (uri, name) => ⟨uri, name, none⟩

/-- The number of entries of all answers of a table. -/
def total {κ α : Type} (table : List (κ × Option (List α))) : Nat :=
  (table.flatMap fun e => e.2.getD []).length

def host (w : World) : Host Log where
  fileExists path := answer (.fileExists path.toString) (w.paths.contains path.toString)
  findFiles pattern limit :=
    answer (.findFiles pattern limit) (((w.globs.lookup pattern).getD []).take limit.toNat)
  readText uri := answer (.readText uri) (look w.texts uri)
  workspaceSymbols name := answer (.workspaceSymbols name) (look w.symbols name)
  documentOutline uri := answer (.documentOutline uri) (look w.outlines uri)
  prepareTypeHierarchy uri position :=
    answer (.prepareTypeHierarchy uri position) ((look w.hierarchy (uri, position)).map nodes)
  supertypes node :=
    answer (.supertypes node.uri node.name) ((look w.supertypes node.key).map nodes)
  jumpToDefinition uri position :=
    answer (.jumpToDefinition uri position) (look w.definitions (uri, position))
  classBound _ := total w.hierarchy + total w.supertypes + total w.definitions

/-- Ask a question of a world: the answer and the calls in order. -/
def ask {α : Type} (q : Query Log α) : Except Fault α × List Call :=
  let (result, log) := (q.run).run []
  (result, log.reverse)

end World

end LozengeNav
