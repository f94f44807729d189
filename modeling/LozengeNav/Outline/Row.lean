import LozengeNav.Outline.Lexeme
import LozengeNav.Symbol

/-!
# Logical rows

The lexemes of a source grouped into logical rows, which end at line breaks outside of brackets.  A
row is a comment that stands alone, or code; code is told apart by what it declares and by whether
it opens a block.
-/

namespace LozengeNav

namespace Outline

structure Declaration where
  kind : SymbolKind
  name : String
  place : Position
  deriving DecidableEq, Repr

/-- A logical row that is not blank. -/
inductive Row where
  | comment (indent : Nat) (stop : Position)
  /-- Code, what it declares, and whether a block may follow it. -/
  | code (indent : Nat) (span : Span) (declaration : Option Declaration) (opens : Bool)
  deriving DecidableEq, Repr

/-! ## Grouping -/

def depthAfter (depth : Nat) : LexemeKind → Nat
  | .opening => depth + 1
  | .closing => depth - 1
  | _ => depth

/-- Put a lexeme in front of the first group. -/
def consFirst (p : Placed) : List (List Placed) → List (List Placed)
  | [] => [[p]]
  | group :: groups => (p :: group) :: groups

/-- Cut lexemes behind each line break that stands outside of brackets. -/
def groups (depth : Nat) : List Placed → List (List Placed)
  | [] => [[]]
  | p :: rest =>
    if p.lexeme.kind = .lineBreak && depth = 0 then [] :: groups 0 rest
    else consFirst p (groups (depthAfter depth p.lexeme.kind) rest)

/-! ## Indentation -/

/-- Measure blanks at the start of a row.  A tab counts eight; a carriage return or form feed starts
again; any other blank ends the measure. -/
def measure (width : Nat) : List Char → Nat
  | [] => width
  | c :: rest =>
    if c = ' ' then measure (width + 1) rest
    else if c = '\t' then measure (width + 8) rest
    else if c = '\r' || c = '\x0C' then measure 0 rest
    else width

/-- The width of the blanks at the start of a row.  A line that is continued counts on. -/
def indentFrom (width : Nat) : List Placed → Nat
  | [] => width
  | p :: rest =>
    if p.lexeme.kind = .blank then
      if p.lexeme.text.head? = some '\\' then indentFrom width rest
      else indentFrom (measure width p.lexeme.text) rest
    else width

/-! ## Rows -/

def leadingWords : List Placed → List Placed
  | [] => []
  | p :: rest => if p.lexeme.kind = .word then p :: leadingWords rest else []

def declared (kind : SymbolKind) (name : Placed) : Declaration :=
  ⟨kind, String.ofList name.lexeme.text, name.start⟩

/-- What the words at the start of a row declare. -/
def declaration? (words : List Placed) : Option Declaration :=
  match words with
  | [] => none
  | first :: rest =>
    match String.ofList first.lexeme.text, rest with
    | "class", name :: _ => some (declared .type name)
    | "def", name :: _ => some (declared .function name)
    | "async", second :: name :: _ =>
      if second.lexeme.text = ['d', 'e', 'f'] then some (declared .function name) else none
    | _, _ => none

def solid (group : List Placed) : List Placed :=
  group.filter fun p => p.lexeme.kind ≠ .blank && p.lexeme.kind ≠ .lineBreak

/-- The row of a group, none if it is blank. -/
def Row.ofGroup? (group : List Placed) : Option Row :=
  let indent := indentFrom 0 group
  match solid group with
  | [] => none
  | first :: rest =>
    let last := rest.getLastD first
    match (first :: rest).filter fun p => p.lexeme.kind ≠ .comment with
    | [] => some (.comment indent last.stop)
    | head :: more =>
      some (.code indent ⟨head.start, last.stop⟩ (declaration? (leadingWords (head :: more)))
        ((more.getLastD head).lexeme.kind = .colon))

def rows (s : List Char) : List Row :=
  (groups 0 (Placed.scan s)).filterMap Row.ofGroup?

end Outline

end LozengeNav
