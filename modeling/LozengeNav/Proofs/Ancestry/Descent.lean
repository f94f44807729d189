import LozengeNav.Ancestry
import LozengeNav.World
import Mathlib.Logic.Relation

/-! # What descent from the base class means

A fixed world answers for two graphs on classes: the supertypes of its type
hierarchy, and the definitions that the bases in class headers lead to. A class
descends from the base class if the graph that counts for it leads there. Both
are stated on the tables of the world alone; no search and no order of
questions enters.
-/

namespace LozengeNav

namespace BaseClass

/-- The path marker occurs in a URI. -/
def Marks (b : BaseClass) (uri : String) : Prop :=
  b.pathMarker.toList <:+: uri.toList

theorem definedIn_iff {b : BaseClass} {uri : String} : b.definedIn uri = true ↔ b.Marks uri :=
  Text.occursIn_iff

instance (b : BaseClass) (uri : String) : Decidable (b.Marks uri) :=
  decidable_of_iff _ definedIn_iff

theorem isBase_iff {b : BaseClass} {name uri : String} :
    b.isBase name uri = true ↔ name = b.name ∧ b.Marks uri := by
  rw [isBase, Bool.and_eq_true, beq_iff_eq, definedIn_iff]

end BaseClass

namespace World

/-! ## The type hierarchy -/

/-- `b` is listed as a supertype of `a`; classes are pairs of a URI and a name. -/
def Supertype (w : World) (a b : String × String) : Prop :=
  b ∈ (look w.supertypes a).getD []

/-- The nodes that the hierarchy has for a class: those prepared where its first
outline entry is selected, unless there are none. -/
def roots? (w : World) (c : ClassRef) : Option (List (String × String)) := do
  let outline := (look w.outlines c.uri).getD []
  let symbol ← outline.find? fun s => s.kind = .type ∧ s.name = c.name
  (look w.hierarchy (c.uri, symbol.selection)).filter fun roots => roots ≠ []

/-! ## Definitions of bases -/

/-- Where the definitions of some bases in a document are, in order. -/
def definitionsOf (w : World) (uri : String) (bases : List BaseReference) : List Location :=
  bases.flatMap fun b => (look w.definitions (uri, ⟨b.line, b.column⟩)).getD []

/-- Where the bases in the header of a class are defined, in order; nowhere if
the class has no text or no header. -/
def baseSites (w : World) (base : BaseClass) (c : ClassRef) : List Location :=
  match look w.texts c.uri with
  | none => []
  | some text =>
      match classHeader? text.toList c.name with
      | none => []
      | some (index, line) => w.definitionsOf c.uri (baseList index line c.name base.rootBase)

/-- The name of the class at a place: the one that its line declares, or else the
identifier there. -/
def nameAt? (w : World) (l : Location) : Option String :=
  match look w.texts l.uri with
  | none => none
  | some text =>
      match (Text.lines text.toList)[l.span.start.line]? with
      | none => none
      | some line => classNameAt? line (some l.span.start.column)

def classAt? (w : World) (l : Location) : Option ClassRef :=
  (w.nameAt? l).map fun name => ⟨l.uri, name⟩

/-- A base in the header of `c` is defined where class `d` is named. -/
def LeadsTo (w : World) (base : BaseClass) (c d : ClassRef) : Prop :=
  ∃ l ∈ w.baseSites base c, w.classAt? l = some d

/-- A base in the header of `c` is defined in a file that may define the base
class. -/
def Touches (w : World) (base : BaseClass) (c : ClassRef) : Prop :=
  ∃ l ∈ w.baseSites base c, base.Marks l.uri

/-! ## Descent -/

/-- Some root leads through supertypes to the base class. -/
def HierarchyReaches (w : World) (base : BaseClass) (roots : List (String × String)) : Prop :=
  ∃ root ∈ roots, ∃ k, Relation.ReflTransGen w.Supertype root k ∧ k.2 = base.name ∧ base.Marks k.1

/-- A chain of classes, each named where a base of the one before is defined,
leads to a class with a base in a file that may define the base class. -/
def ChainReaches (w : World) (base : BaseClass) (c : ClassRef) : Prop :=
  ∃ d, Relation.ReflTransGen (w.LeadsTo base) c d ∧ w.Touches base d

/-- The type hierarchy decides for the classes it has nodes for, and chains of
definitions decide for the others. -/
def Descends (w : World) (base : BaseClass) (c : ClassRef) : Prop :=
  match w.roots? c with
  | some roots => w.HierarchyReaches base roots
  | none => w.ChainReaches base c

end World

end LozengeNav
