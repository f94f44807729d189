import LozengeNav.Data.Datum
import LozengeNav.Fault
import LozengeNav.Path
import LozengeNav.Symbol

/-!
# Hosts

What navigation asks of its surroundings: whether files exist and what they hold, and what an index
knows about the foreign code base.  A host keeps a state of its own, so that a question may change
what later questions are answered: a cache, a session with a server or a record of the questions.
-/

namespace LozengeNav

/-- A class in a type hierarchy, known by the URI of its file and its name.  What the index needs to
ask further is kept beside them. -/
structure HierarchyNode where
  uri : String
  name : String
  handle : Option Datum
  deriving Inhabited

namespace HierarchyNode

/-- What a node is told apart by. -/
def key (n : HierarchyNode) : String × String :=
  (n.uri, n.name)

end HierarchyNode

/-- A question to a host with state `σ`.  The state survives a fault. -/
abbrev Query (σ : Type) : Type → Type :=
  ExceptT Fault (StateM σ)

namespace Query

def ofExcept {σ α : Type} : Except Fault α → Query σ α
  | .ok a => return a
  | .error fault => throw fault

/-- The result of a question, a fault included. -/
def observe {σ α : Type} (q : Query σ α) : Query σ (Except Fault α) :=
  tryCatch (do return .ok (← q)) fun fault => return .error fault

end Query

/-- The surroundings of navigation.  No answer is treated like an empty one, except that a type
hierarchy without an answer is not available at all. -/
structure Host (σ : Type) where
  fileExists : Path → Query σ Bool
  /-- The URIs of files that match a pattern, at most as many as asked for. -/
  findFiles : String → Int → Query σ (List String)
  readText : String → Query σ (Option String)
  workspaceSymbols : String → Query σ (Option (List WorkspaceSymbol))
  documentOutline : String → Query σ (Option (List OutlineSymbol))
  prepareTypeHierarchy : String → Position → Query σ (Option (List HierarchyNode))
  supertypes : HierarchyNode → Query σ (Option (List HierarchyNode))
  jumpToDefinition : String → Position → Query σ (Option (List Location))
  /-- At least the number of classes that the answers of one walk can name. -/
  classBound : σ → Nat

end LozengeNav
