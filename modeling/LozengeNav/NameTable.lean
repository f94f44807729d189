import LozengeNav.ModuleName
import LozengeNav.Symbol

/-!
# Name tables

What the names at the top level of a module stand for.  Local classes and functions come first and
imports are bound over them, so that a module that re-exports a name it also defines means the
import.
-/

namespace LozengeNav

structure ImportBinding where
  name : String
  /-- The module as written, without the leading dots. -/
  module : String
  /-- The member of the module, none if the module itself is bound. -/
  member : Option String
  level : Nat
  line : Nat
  deriving DecidableEq, Repr, Inhabited

inductive Binding.Origin where
  | definition
  | moduleImport
  | memberImport
  deriving DecidableEq, Repr, Inhabited

/-- What a name stands for. -/
structure Binding where
  name : String
  qualified : String
  origin : Binding.Origin
  deriving DecidableEq, Repr, Inhabited

/-- The bindings of a module, the latest first. -/
abbrev NameTable :=
  List Binding

namespace NameTable

/-- A name behind a module name, if that is not empty. -/
def qualify (module name : String) : String :=
  if module.isEmpty then name else module ++ "." ++ name

/-- The binding of a local class or function. -/
def ofSymbol? (module : String) (s : OutlineSymbol) : Option Binding :=
  if s.container.isNone && s.kind ≠ .method then
    some ⟨s.name, qualify module s.name, .definition⟩
  else none

def ofImport (module : String) (isPackage : Bool) (b : ImportBinding) : Binding :=
  let target :=
    if b.level = 0 then b.module else ModuleName.relativeTo module b.module b.level isPackage
  match b.member with
  | none => ⟨b.name, target, .moduleImport⟩
  | some member => ⟨b.name, qualify target member, .memberImport⟩

def build (module : String) (isPackage : Bool) (outline : List OutlineSymbol)
    (imports : List ImportBinding) : NameTable :=
  (imports.map (ofImport module isPackage)).reverse ++ (outline.filterMap (ofSymbol? module)).reverse

/-- The latest binding of a name. -/
def get? (table : NameTable) (name : String) : Option Binding :=
  table.find? fun b => b.name == name

/-- The latest binding of each name. -/
def current : NameTable → List Binding
  | [] => []
  | b :: rest => b :: (current rest).filter fun c => c.name != b.name

def expand? (table : NameTable) (expression : String) : Option String :=
  let head := expression.toList.takeWhile (· ≠ '.')
  let rest := expression.toList.drop (head.length + 1)
  (table.get? (String.ofList head)).map fun b =>
    if rest.isEmpty then b.qualified else b.qualified ++ "." ++ String.ofList rest

end NameTable

end LozengeNav
