import LozengeNav.Expression
import LozengeNav.Text.Line

/-!
# Class headers

What a single line says about a class: `classHeader?` finds the first line that declares a class of
a given name, `baseList` reads the bases listed on such a line, and `classNameAt?` names the class
that a line declares or else the identifier under a cursor.  A header that runs over several lines,
or whose list holds parentheses, has no bases here.
-/

namespace LozengeNav

/-- A base as a header writes it, at the place of its last identifier. -/
structure BaseReference where
  expression : String
  line : Nat
  column : Nat
  deriving DecidableEq, Repr, Inhabited

namespace ClassHeader

/-- The blanks in front of the keyword `class`, the blanks behind it and the rest of a line that
begins with the keyword. -/
def keyword? (line : List Char) : Option (List Char × List Char × List Char) :=
  match line.dropWhile Text.isBlank with
  | 'c' :: 'l' :: 'a' :: 's' :: 's' :: rest =>
    some (line.takeWhile Text.isBlank, rest.takeWhile Text.isBlank, rest.dropWhile Text.isBlank)
  | _ => none

/-- The rest of a text behind a name, where a parenthesis or a blank must follow. -/
def dropName? (name s : List Char) : Option (List Char) :=
  if name.isPrefixOf s then
    match s.drop name.length with
    | c :: rest => if c == '(' || Text.isBlank c then some (c :: rest) else none
    | [] => none
  else none

/-- What follows the class name `name` of a header, with the column where it begins.  At least one
blank stands before the name; a name that begins with blanks itself leaves it fewer of them. -/
def afterName? (name line : List Char) : Option (Nat × List Char) := do
  let (indent, gap, rest) ← keyword? line
  (List.range gap.length).findSome? fun back =>
    let kept := gap.length - back
    (dropName? name (gap.drop kept ++ rest)).map fun after =>
      (indent.length + 5 + kept + name.length, after)

end ClassHeader

/-- The first line that declares a class, with its index. -/
def classHeader? (source : List Char) (name : String) : Option (Nat × List Char) :=
  (Text.lines source).zipIdx.findSome? fun (line, index) =>
    if (ClassHeader.afterName? name.toList line).isSome then some (index, line) else none

namespace ClassHeader

/-- The text between the parentheses behind a class name, with the column where it begins. -/
def arguments? (name line : List Char) : Option (Nat × List Char) := do
  let (column, after) ← afterName? name line
  let gap := after.takeWhile (· ≠ '(')
  match after.dropWhile (· ≠ '(') with
  | '(' :: inner =>
    if Text.allBlank gap && inner.contains ')' then
      some (column + gap.length + 1, inner.takeWhile (· ≠ ')'))
    else none
  | _ => none

/-- The pieces of a list, each with the column where it begins; a comma stands between two. -/
def place (column : Nat) : List (List Char) → List (Nat × List Char)
  | [] => []
  | piece :: rest => (column, piece) :: place (column + piece.length + 1) rest

/-- The pieces between the commas of a text that begins at a column. -/
def entries (column : Nat) (s : List Char) : List (Nat × List Char) :=
  place column (s.splitOn ',')

/-- The base that one entry of the list names.  A keyword argument names none; of a subscripted
base only the part before the bracket counts. -/
def base? (root : String) (line : Nat) (entry : Nat × List Char) : Option BaseReference :=
  let (column, text) := entry
  if text.contains '=' then none
  else
    match (Chain.scan (text.takeWhile (· ≠ '['))).head? with
    | none => none
    | some chain =>
      let expression := String.ofList (Chain.spell chain.words)
      if expression = root then none else some ⟨expression, line, column + chain.last.start⟩

end ClassHeader

/-- The bases that a header line lists, in order. -/
def baseList (index : Nat) (line : List Char) (name root : String) : List BaseReference :=
  match ClassHeader.arguments? name.toList line with
  | none => []
  | some (column, text) => (ClassHeader.entries column text).filterMap (ClassHeader.base? root index)

/-- The name of the class that a line declares. -/
def ClassHeader.declared? (line : List Char) : Option (List Char) := do
  let (_, gap, rest) ← keyword? line
  if gap.isEmpty then none else (Text.takeName? Text.isWord rest).map Prod.fst

/-- The class that a line declares, or else the identifier under a cursor. -/
def classNameAt? (line : List Char) (column : Option Int) : Option String :=
  match ClassHeader.declared? line with
  | some name => some (String.ofList name)
  | none => column.bind fun c => (Word.at? line c).map fun w => String.ofList w.text

end LozengeNav
