import LozengeNav.Grammar.Pattern

/-!
# Statements

The grammar of Python statements.  A source is read as a tree of statements in which import
statements, scopes and blocks are told apart; of all else only the presence is kept.
-/

namespace LozengeNav

namespace Grammar

/-- A name that is imported, and the name that it is bound to, if another. -/
structure Alias where
  name : String
  bound : Option String
  deriving DecidableEq, Repr

inductive Statement where
  /-- `import`, with dotted names. -/
  | importModules (line : Nat) (modules : List Alias)
  /-- `from`, with the dots in front of the module, the module, and its members, of which a star is
  one. -/
  | importMembers (line level : Nat) (module : String) (members : List Alias)
  /-- A function or class, whose body is a scope of its own. -/
  | definition (body : List Statement)
  /-- A statement with blocks of statements of the same scope. -/
  | block (children : List Statement)
  | other

namespace Statement

open Parse

/-! ## Simple statements -/

def dottedName : Parse String := do
  let first ← name
  let more ← collect do
    if ← acceptMark "." then return some (← name) else return none
  return ".".intercalate (first :: more)

/-- The name behind `as`, if there is one. -/
def boundName : Parse (Option String) := do
  if ← acceptWord "as" then return some (← name) else return none

def moduleImport : Parse Statement := do
  let line := (← next).line
  let (modules, trailing) ← commas Token.isName do return ⟨← dottedName, ← boundName⟩
  if trailing then failure else return .importModules line modules

def leadingDots : Parse Nat := do
  let runs ← collect do
    if ← acceptMark "." then return some 1
    else if ← acceptMark "..." then return some 3
    else return none
  return runs.foldr (· + ·) 0

def star : String :=
  "*"

/-- The members behind `import`. -/
def members : Parse (List Alias) := do
  if ← acceptMark star then return [⟨star, none⟩]
  else
    let item : Parse Alias := do return ⟨← name, ← boundName⟩
    if ← acceptMark "(" then
      let (items, _) ← commas Token.isName item
      mark ")"
      return items
    else
      let (items, trailing) ← commas Token.isName item
      if trailing then failure else return items

def memberImport : Parse Statement := do
  let line := (← next).line
  let level ← leadingDots
  let module ← (do
    if ← seesWord "import" then (if level = 0 then failure else return "") else dottedName)
  word "import"
  return .importMembers line level module (← members)

/-- The marks that assign to a target what they compute from it. -/
def augmentations : List String :=
  ["+=", "-=", "*=", "@=", "/=", "%=", "&=", "|=", "^=", "<<=", ">>=", "**=", "//="]

variable (r : Rules) (primary : Parse Shape)

/-- What an assignment assigns, and its shape. -/
def assigned : Parse Shape := do
  if ← seesWord "yield" then
    r.yielded primary
    return .other
  else r.starExpressions primary

def assignments (s : Shape) : Parse Unit := do
  let shapes ← collect do
    if ← acceptMark "=" then return some (← assigned r primary) else return none
  if (s :: shapes).dropLast.all Shape.isTarget then return () else failure

/-- An expression, or an assignment to it. -/
def expressionOrAssignment : Parse Unit := do
  let s ← r.starExpressions primary
  if ← seesMark "=" then assignments r primary s
  else if ← acceptMark ":" then
    if !s.isAnnotatable then failure
    let _ ← r.expression
    if ← acceptMark "=" then
      let _ ← assigned r primary
  else if ← Rules.acceptAny augmentations then
    if !s.isSingle then failure
    let _ ← assigned r primary

def keywordStatement (keyword : String) : Parse Unit := do
  match keyword with
  | "pass" => return ()
  | "break" => return ()
  | "continue" => return ()
  | "return" =>
    if ← sees startsExpression then
      let _ ← r.starExpressions primary
  | "raise" =>
    if ← sees startsExpression then
      let _ ← r.expression
      if ← acceptWord "from" then
        let _ ← r.expression
  | "global" | "nonlocal" =>
    let (_, trailing) ← commas Token.isName name
    if trailing then failure
  | "del" =>
    let (items, _) ← commas startsExpression primary
    if !Shape.areDeletable items then failure
  | "assert" =>
    let _ ← r.expression
    if ← acceptMark "," then
      let _ ← r.expression
  | _ => failure

def simpleKeywords : List String :=
  ["pass", "break", "continue", "return", "raise", "global", "nonlocal", "del", "assert"]

def simple : Parse Statement := do
  if ← seesWord "import" then moduleImport
  else if ← seesWord "from" then memberImport
  else if ← seesWord "yield" then
    r.yielded primary
    return .other
  else if ← sees fun t => t.kind = .word && simpleKeywords.contains t.text then
    keywordStatement r primary (← next).text
    return .other
  else
    expressionOrAssignment r primary
    return .other

def simpleRow : Parse (List Statement) := do
  let first ← simple r primary
  let more ← collect do
    if ← seesMark ";" then
      mark ";"
      if ← sees fun t => t.kind = .rowEnd then return none
      else return some (← simple r primary)
    else return none
  kind .rowEnd
  return first :: more

/-! ## Compound statements -/

variable (statements : Parse (List Statement))

/-- A colon and a block: statements on the same row, or on rows of their own. -/
def suite : Parse (List Statement) := do
  mark ":"
  if ← accept fun t => t.kind = .rowEnd then
    kind .indent
    let body ← statements
    kind .dedent
    return body
  else simpleRow r primary

/-- A block behind a keyword, if the keyword is next. -/
def blockAfter (keyword : String) : Parse (Option (List Statement)) := do
  if ← acceptWord keyword then return some (← suite r primary statements) else return none

/-- An `else` block, if there is one. -/
def elseBlock : Parse (List Statement) := do
  return (← blockAfter r primary statements "else").getD []

/-- An `if` or `elif` with its blocks. -/
def conditional : Parse Statement := do
  let _ ← next
  let _ ← r.named
  let first ← suite r primary statements
  let more ← collect do
    if ← acceptWord "elif" then
      let _ ← r.named
      return some (← suite r primary statements)
    else return none
  return .block (first ++ more.flatten ++ (← elseBlock r primary statements))

def whileLoop : Parse Statement := do
  let _ ← next
  let _ ← r.named
  let body ← suite r primary statements
  return .block (body ++ (← elseBlock r primary statements))

def forLoop : Parse Statement := do
  let _ ← next
  Rules.targets primary
  word "in"
  let _ ← r.starExpressions primary
  let body ← suite r primary statements
  return .block (body ++ (← elseBlock r primary statements))

def context : Parse Unit := do
  let _ ← r.expression
  if ← acceptWord "as" then
    let s ← Rules.starOr primary primary
    if !s.isTarget then failure

def groupedContexts : Parse Unit := do
  mark "("
  let _ ← commas startsExpression (context r primary)
  mark ")"
  if ← seesMark ":" then return () else failure

def withBlock : Parse Statement := do
  let _ ← next
  groupedContexts r primary <|> do
    let (_, trailing) ← commas startsExpression (context r primary)
    if trailing then failure
  return .block (← suite r primary statements)

/-- The head of an `except` block, behind the keyword. -/
def handled : Parse Unit := do
  let _ ← r.expression
  if ← acceptWord "as" then
    let _ ← name

/-- The handlers of a `try`, either all with a star or all without. -/
def handlers : Parse (List (List Statement)) := do
  let starred ← seesTwo (Token.isWord "except") (Token.isMark "*")
  collect do
    if ← acceptWord "except" then
      if starred then
        mark "*"
        handled r
      else if !(← seesMark ":") then handled r
      return some (← suite r primary statements)
    else return none

/-- A `try` with its blocks. -/
def tryBlock : Parse Statement := do
  let _ ← next
  let body ← suite r primary statements
  let caught ← handlers r primary statements
  let other ← (do if caught.isEmpty then return [] else elseBlock r primary statements)
  let last ← blockAfter r primary statements "finally"
  if caught.isEmpty && last.isNone then failure
  return .block (body ++ caught.flatten ++ other ++ last.getD [])

/-- A function behind its `def`. -/
def function : Parse Statement := do
  word "def"
  let _ ← name
  mark "("
  r.parameters primary true ")"
  if ← acceptMark "->" then
    let _ ← r.expression
  return .definition (← suite r primary statements)

/-- A class behind its `class`. -/
def classDefinition : Parse Statement := do
  word "class"
  let _ ← name
  if ← acceptMark "(" then r.arguments
  return .definition (← suite r primary statements)

/-- A function or class with decorators. -/
def decorated : Parse Statement := do
  let _ ← repeats do
    if ← acceptMark "@" then
      let _ ← r.named
      kind .rowEnd
      return true
    else return false
  if ← seesWord "class" then classDefinition r primary statements
  else
    let _ ← acceptWord "async"
    function r primary statements

/-- The subject of a `match`. -/
def subject : Parse Unit := do
  let (items, trailing) ← commas startsExpression (r.starNamed primary)
  match items, trailing with
  | [s], false => if s.isStarred then failure else return ()
  | _, _ => return ()

/-- A `case` with its block, if one is next. -/
def caseBlock : Parse (Option (List Statement)) := do
  if ← acceptWord "case" then
    Pattern.row r
    if ← acceptWord "if" then
      let _ ← r.named
    return some (← suite r primary statements)
  else return none

/-- A `match` with its cases. -/
def matchBlock : Parse Statement := do
  word "match"
  subject r primary
  mark ":"
  kind .rowEnd
  kind .indent
  let cases ← collect (caseBlock r primary statements)
  kind .dedent
  if cases.isEmpty then failure else return .block cases.flatten

/-- A compound statement behind `async`. -/
def asynchronous : Parse Statement := do
  word "async"
  if ← seesWord "def" then function r primary statements
  else if ← seesWord "with" then withBlock r primary statements
  else if ← seesWord "for" then forLoop r primary statements
  else failure

/-- The statements of a row, or of a compound statement. -/
def statement : Parse (List Statement) := do
  match (← get).head? with
  | none => failure
  | some t =>
    if t.isMark "@" then return [← decorated r primary statements]
    else if t.kind ≠ .word then simpleRow r primary
    else
      match t.text with
      | "def" => return [← function r primary statements]
      | "class" => return [← classDefinition r primary statements]
      | "async" => return [← asynchronous r primary statements]
      | "if" => return [← conditional r primary statements]
      | "while" => return [← whileLoop r primary statements]
      | "for" => return [← forLoop r primary statements]
      | "with" => return [← withBlock r primary statements]
      | "try" => return [← tryBlock r primary statements]
      | "match" =>
        (do return [← matchBlock r primary statements]) <|> simpleRow r primary
      | _ => simpleRow r primary

/-- Statements up to a dedentation or the end. -/
def sequence : Parse (List Statement) := do
  let parts ← collect do
    if ← sees fun t => t.kind ≠ .dedent then
      return some (← statement r primary statements)
    else return none
  return parts.flatten

def ofDepth : Nat → Parse (List Statement)
  | 0 => failure
  | depth + 1 => sequence r primary (ofDepth depth)

/-- The statements of a source, none if the source is ill-formed. -/
def ofSource? (source : List Char) : Option (List Statement) := do
  let tokens ← tokens? source
  let (r, primary) := rulesFor tokens
  Parse.all? (ofDepth r primary (tokens.length + 1)) tokens

end Statement

end Grammar

end LozengeNav
