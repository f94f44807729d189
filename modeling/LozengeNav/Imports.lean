import LozengeNav.Grammar.Statement
import LozengeNav.NameTable

/-!
# Imports

The names that a module binds by import statements.  Imports within functions and classes are not
bindings of the module; those within other blocks are.
-/

namespace LozengeNav

namespace ImportBinding

/-- The binding of a module.  Without another name, the first part of a dotted name is bound. -/
def ofModule (line : Nat) (a : Grammar.Alias) : ImportBinding :=
  match a.bound with
  | some name => ⟨name, a.name, none, 0, line⟩
  | none =>
    let head := String.ofList (a.name.toList.takeWhile (· ≠ '.'))
    ⟨head, head, none, 0, line⟩

/-- The binding of a member of a module, none for the star. -/
def ofMember? (line level : Nat) (module : String) (a : Grammar.Alias) :
    Option ImportBinding :=
  if a.name = Grammar.Statement.star then none
  else some ⟨a.bound.getD a.name, module, some a.name, level, line⟩

mutual

/-- The bindings of a statement, in order. -/
def ofStatement : Grammar.Statement → List ImportBinding
  | .importModules line modules => modules.map (ofModule line)
  | .importMembers line level module members => members.filterMap (ofMember? line level module)
  | .definition _ => []
  | .block children => ofStatements children
  | .other => []

/-- The bindings of statements, in order. -/
def ofStatements : List Grammar.Statement → List ImportBinding
  | [] => []
  | s :: rest => ofStatement s ++ ofStatements rest

end

end ImportBinding

/-- The bindings of a source by line; an ill-formed source has none. -/
def importsOf (source : List Char) : List ImportBinding :=
  (ImportBinding.ofStatements ((Grammar.Statement.ofSource? source).getD [])).mergeSort
    fun a b => a.line ≤ b.line

end LozengeNav
