import LozengeNav.Grammar.Literal
import LozengeNav.Grammar.Parse

/-!
# Expressions

The grammar of Python expressions, as far as it decides which token sequences are expressions and
which of those may be assigned to.  Expressions within brackets come as a parameter of each rule;
`expression` ties them together, bounded by the number of tokens.
-/

namespace LozengeNav

namespace Grammar

/-- What an expression looks like to an assignment. -/
inductive Shape where
  | name
  | member
  | starred (inner : Shape)
  | tuple (items : List Shape)
  | list (items : List Shape)
  | group (inner : Shape)
  /-- A name bound by `:=` outside of brackets. -/
  | binding
  | other

namespace Shape

mutual

/-- Whether a shape may be assigned to where no star may stand. -/
def isPlainTarget : Shape → Bool
  | name => true
  | member => true
  | group inner => isPlainTarget inner
  | tuple items => areTargets items
  | list items => areTargets items
  | _ => false

def areTargets : List Shape → Bool
  | [] => true
  | starred inner :: rest => isPlainTarget inner && areTargets rest
  | s :: rest => isPlainTarget s && areTargets rest

end

def isTarget (s : Shape) : Bool :=
  areTargets [s]

/-- Whether a shape is a single target, in parentheses or not. -/
def isSingle : Shape → Bool
  | name => true
  | member => true
  | group inner => isSingle inner
  | _ => false

def isAnnotatable : Shape → Bool
  | name => true
  | member => true
  | group inner => isSingle inner
  | _ => false

mutual

def isDeletable : Shape → Bool
  | name => true
  | member => true
  | group inner => isDeletable inner
  | tuple items => areDeletable items
  | list items => areDeletable items
  | _ => false

def areDeletable : List Shape → Bool
  | [] => true
  | s :: rest => isDeletable s && areDeletable rest

end

def isStarred : Shape → Bool
  | starred _ => true
  | _ => false

def isBinding : Shape → Bool
  | binding => true
  | _ => false

def ofItems : List Shape × Bool → Shape
  | ([s], false) => s
  | (items, _) => tuple items

end Shape

open Parse

/-- The words that begin an expression and are no names. -/
def leadingKeywords : List String :=
  ["None", "True", "False", "not", "lambda", "await"]

def leadingMarks : List String :=
  ["(", "[", "\x7b", "-", "+", "~", "...", "*"]

def startsExpression (t : Token) : Bool :=
  match t.kind with
  | .word => !keywords.contains t.text || leadingKeywords.contains t.text
  | .number => true
  | .literal => true
  | .mark => leadingMarks.contains t.text
  | _ => false

/-- What the rules refer to: the rule of expressions, and which texts are expressions. -/
structure Rules where
  expression : Parse Shape
  field : List Char → Bool

namespace Rules

variable (r : Rules)

/-! ## Operators -/

def chain (operand : Parse Shape) (operator : Parse Bool) : Parse Shape := do
  let first ← operand
  let more ← repeats do
    if ← operator then
      let _ ← operand
      return true
    else return false
  return if more = 0 then first else .other

def acceptAny (texts : List String) : Parse Bool :=
  accept fun t => t.kind = .mark && texts.contains t.text

def acceptBinder : Parse Bool := do
  if ← seesTwo Token.isName (Token.isMark ":=") then
    let _ ← next
    let _ ← next
    return true
  else return false

/-- An expression that may bind a name. -/
def named : Parse Shape := do
  if ← acceptBinder then
    let _ ← r.expression
    return .binding
  else r.expression

/-! ## Comprehensions and operands

The operand rules below refer to each other through `primary`, which needs only `r`. -/

def arithmetic : Parse Bool :=
  acceptAny ["+", "-", "*", "/", "//", "%", "@", "<<", ">>", "&", "^", "|"]

def comparator : Parse Bool := do
  if ← acceptAny ["==", "!=", "<=", "<", ">=", ">"] then return true
  else if ← acceptWord "in" then return true
  else if ← seesTwo (Token.isWord "not") (Token.isWord "in") then
    let _ ← next
    let _ ← next
    return true
  else if ← acceptWord "is" then
    let _ ← acceptWord "not"
    return true
  else return false

def factor (primary : Parse Shape) : Parse Shape :=
  chain (do
    let signs ← repeats (acceptAny ["+", "-", "~"])
    let awaited ← acceptWord "await"
    let s ← primary
    return if signs = 0 && !awaited then s else .other) (acceptMark "**")

/-- An expression without comparisons. -/
def sum (primary : Parse Shape) : Parse Shape :=
  chain (factor primary) arithmetic

/-- An expression without conditions. -/
def disjunction (primary : Parse Shape) : Parse Shape :=
  chain (do
    let negations ← repeats (acceptWord "not")
    let s ← chain (sum primary) comparator
    return if negations = 0 then s else .other)
    (do if ← acceptWord "or" then return true else acceptWord "and")

/-- A star and what it spreads, if a star is next. -/
def starOr (primary : Parse Shape) (other : Parse Shape) : Parse Shape := do
  if ← acceptMark "*" then return .starred (← sum primary) else other

def targets (primary : Parse Shape) : Parse Unit := do
  let (items, _) ← commas startsExpression do
    if ← acceptMark "*" then return .starred (← primary) else primary
  if Shape.areTargets items then return () else failure

def seesFor : Parse Bool := do
  if ← seesWord "for" then return true
  else seesTwo (Token.isWord "async") (Token.isWord "for")

/-- The `for` and `if` of a comprehension, one `for` at least. -/
def comprehension (primary : Parse Shape) : Parse Unit := do
  let clauses ← repeats do
    if ← seesFor then
      let _ ← acceptWord "async"
      word "for"
      targets primary
      word "in"
      let _ ← disjunction primary
      let _ ← repeats do
        if ← acceptWord "if" then
          let _ ← disjunction primary
          return true
        else return false
      return true
    else return false
  if clauses = 0 then failure else return ()

/-! ## Arguments and items -/

/-- What arguments may still follow. -/
inductive Stage where
  | positional
  | keyword
  | double
  deriving DecidableEq, Repr

/-- One argument at a stage, and the stage then. -/
def argument (stage : Stage) : Parse Stage := do
  if ← acceptMark "**" then
    let _ ← r.expression
    return .double
  else if ← acceptMark "*" then
    let _ ← r.expression
    if stage = .double then failure else return stage
  else if ← seesTwo Token.isName (Token.isMark "=") then
    let _ ← next
    let _ ← next
    let _ ← r.expression
    return if stage = .double then .double else .keyword
  else
    let _ ← r.named
    if stage = .positional then return .positional else failure

def moreArguments : Nat → Stage → Parse Unit
  | 0, _ => failure
  | fuel + 1, stage => do
    if ← acceptMark ")" then return ()
    else
      mark ","
      if ← acceptMark ")" then return ()
      else moreArguments fuel (← r.argument stage)

def arguments : Parse Unit := do
  if ← acceptMark ")" then return ()
  else
    let stage ← r.argument .positional
    r.moreArguments (← get).length stage

/-- The arguments of a call, which may be one comprehension, and the closing parenthesis. -/
def call (primary : Parse Shape) : Parse Unit := do
  if ← sees fun t => t.isMark ")" || t.isMark "*" || t.isMark "**" then r.arguments
  else if ← seesTwo Token.isName (Token.isMark "=") then r.arguments
  else
    let _ ← r.named
    if ← seesFor then
      comprehension primary
      mark ")"
    else r.moreArguments (← get).length .positional

def sliceBounds : Parse Unit := do
  if ← sees startsExpression then
    let _ ← r.expression
  if ← acceptMark ":" then
    if ← sees startsExpression then
      let _ ← r.expression

def item : Parse Unit := do
  if ← acceptMark ":" then r.sliceBounds
  else if ← acceptMark "*" then
    let _ ← r.expression
  else
    let s ← r.named
    if !s.isBinding then
      if ← acceptMark ":" then r.sliceBounds

def items : Parse Unit := do
  let _ ← commas (fun t => t.isMark ":" || startsExpression t) r.item
  mark "]"

/-! ## Atoms -/

/-- An expression between brackets that may bind a name or have a star. -/
def starNamed (primary : Parse Shape) : Parse Shape :=
  starOr primary r.named

def starExpression (primary : Parse Shape) : Parse Shape :=
  starOr primary r.expression

def starExpressions (primary : Parse Shape) : Parse Shape := do
  return .ofItems (← commas startsExpression (r.starExpression primary))

def yielded (primary : Parse Shape) : Parse Unit := do
  word "yield"
  if ← acceptWord "from" then
    let _ ← r.expression
  else if ← sees startsExpression then
    let _ ← r.starExpressions primary

def parenthesized (primary : Parse Shape) : Parse Shape := do
  if ← acceptMark ")" then return .tuple []
  else if ← seesWord "yield" then
    r.yielded primary
    mark ")"
    return .group .other
  else
    let first ← r.starNamed primary
    if ← seesFor then
      comprehension primary
      mark ")"
      if first.isStarred then failure else return .other
    else if ← acceptMark ")" then
      if first.isStarred then failure else return .group first
    else
      mark ","
      if ← acceptMark ")" then return .tuple [first]
      else
        let (more, _) ← commas startsExpression (r.starNamed primary)
        mark ")"
        return .tuple (first :: more)

def bracketed (primary : Parse Shape) : Parse Shape := do
  if ← acceptMark "]" then return .list []
  else
    let first ← r.starNamed primary
    if ← seesFor then
      comprehension primary
      mark "]"
      if first.isStarred then failure else return .other
    else
      let more ← (do
        if ← acceptMark "," then
          if ← seesMark "]" then return []
          else
            let (more, _) ← commas startsExpression (r.starNamed primary)
            return more
        else return [])
      mark "]"
      return .list (first :: more)

def entry (primary : Parse Shape) : Parse Unit := do
  if ← acceptMark "**" then
    let _ ← sum primary
  else
    let _ ← r.expression
    mark ":"
    let _ ← r.expression

def moreEntries (primary : Parse Shape) : Parse Shape := do
  if ← acceptMark "," then
    if !(← seesMark "\x7d") then
      let _ ← commas (fun t => t.isMark "**" || startsExpression t) (r.entry primary)
  mark "\x7d"
  return .other

def braced (primary : Parse Shape) : Parse Shape := do
  if ← acceptMark "\x7d" then return .other
  else if ← seesMark "**" then
    r.entry primary
    r.moreEntries primary
  else
    let first ← r.starNamed primary
    let plain := !first.isStarred && !first.isBinding
    if plain && (← acceptMark ":") then
      let _ ← r.expression
      if ← seesFor then
        comprehension primary
        mark "\x7d"
        return .other
      else r.moreEntries primary
    else if ← seesFor then
      comprehension primary
      mark "\x7d"
      if first.isStarred then failure else return .other
    else
      if ← acceptMark "," then
        if !(← seesMark "\x7d") then
          let _ ← commas startsExpression (r.starNamed primary)
      mark "\x7d"
      return .other

def isValueWord (t : Token) : Bool :=
  t.isWord "None" || t.isWord "True" || t.isWord "False"

def literals : Parse Unit := do
  let texts ← collect do
    if ← sees fun t => t.kind = .literal then return some (← next).text.toList
    else return none
  if texts.isEmpty || !Literal.areValid r.field texts then failure else return ()

/-- An expression without operators, calls and members. -/
def atom (primary : Parse Shape) : Parse Shape := do
  if ← sees fun t => t.kind = .literal then
    r.literals
    return .other
  else
    let t ← next
    if t.isName then return .name
    else if t.kind = .number || isValueWord t || t.isMark "..." then return .other
    else if t.isMark "(" then r.parenthesized primary
    else if t.isMark "[" then r.bracketed primary
    else if t.isMark "\x7b" then r.braced primary
    else failure

def trailer (primary : Parse Shape) : Parse (Option Shape) := do
  if ← acceptMark "." then
    let _ ← Parse.name
    return some .member
  else if ← acceptMark "(" then
    r.call primary
    return some .other
  else if ← acceptMark "[" then
    r.items
    return some .member
  else return none

def primaryOf (primary : Parse Shape) : Parse Shape := do
  let s ← r.atom primary
  let trailers ← collect (r.trailer primary)
  return trailers.getLastD s

/-! ## Parameters -/

/-- What parameters may still follow. -/
inductive Room where
  /-- Any; whether one with a default came before, and whether `/` may come now or has come. -/
  | ordinary (defaulted : Bool) (slash : Option Bool)
  | starred
  /-- One has to follow a lone star. -/
  | lone
  | done
  deriving DecidableEq, Repr

def annotation (annotated : Bool) (value : Parse Shape) : Parse Unit := do
  if annotated then
    if ← acceptMark ":" then
      let _ ← value

def starParameter (primary : Parse Shape) (annotated : Bool) : Parse Room := do
  if ← seesMark "," then return .lone
  else
    let _ ← Parse.name
    annotation annotated (r.starExpression primary)
    return .starred

def plainParameter (annotated : Bool) : Parse Bool := do
  let _ ← Parse.name
  annotation annotated r.expression
  if ← acceptMark "=" then
    let _ ← r.expression
    return true
  else return false

def parameter (primary : Parse Shape) (annotated : Bool) (room : Room) : Parse Room := do
  match room with
  | .done => failure
  | .ordinary defaulted slash =>
    if ← acceptMark "/" then
      if slash = some false then return .ordinary defaulted (some true) else failure
    else if ← acceptMark "*" then r.starParameter primary annotated
    else if ← acceptMark "**" then
      let _ ← Parse.name
      annotation annotated r.expression
      return .done
    else
      let hasDefault ← r.plainParameter annotated
      if defaulted && !hasDefault then failure
      else return .ordinary hasDefault (some (slash.getD false))
  | _ =>
    if room = .starred then
      if ← acceptMark "**" then
        let _ ← Parse.name
        annotation annotated r.expression
        return .done
    let _ ← r.plainParameter annotated
    return .starred

/-- Parameters up to a mark, which is taken. -/
def parametersFrom (primary : Parse Shape) (annotated : Bool) (close : String) :
    Nat → Room → Parse Unit
  | 0, _ => failure
  | fuel + 1, room => do
    let room ← r.parameter primary annotated room
    if ← acceptMark close then
      if room = .lone then failure else return ()
    else
      mark ","
      if room ≠ .lone && (← acceptMark close) then return ()
      else parametersFrom primary annotated close fuel room

def parameters (primary : Parse Shape) (annotated : Bool) (close : String) : Parse Unit := do
  if ← acceptMark close then return ()
  else r.parametersFrom primary annotated close (← get).length (.ordinary false none)

/-! ## Expressions -/

/-- A lambda, a condition or an expression without. -/
def expressionOf (primary : Parse Shape) : Parse Shape := do
  if ← acceptWord "lambda" then
    r.parameters primary false ":"
    let _ ← r.expression
    return .other
  else
    let s ← disjunction primary
    if ← acceptWord "if" then
      let _ ← disjunction primary
      word "else"
      let _ ← r.expression
      return .other
    else return s

end Rules

/-- The primary expressions and the expressions of a nesting depth. -/
def tower (field : List Char → Bool) : Nat → Parse Shape × Parse Shape
  | 0 => (failure, failure)
  | depth + 1 =>
    let inner := tower field depth
    let r : Rules := ⟨inner.2, field⟩
    let primary := r.primaryOf inner.1
    (primary, r.expressionOf primary)

/-- Whether a text is the expression of a replacement field.  Literals nest at most `fuel` deep. -/
def isField : Nat → List Char → Bool
  | 0, _ => false
  | fuel + 1, text =>
    match tokens? ('(' :: text ++ [')']) with
    | none => false
    | some tokens =>
      let (primary, expression) := tower (isField fuel) (tokens.length + 1)
      let r : Rules := ⟨expression, isField fuel⟩
      (Parse.all? (do
        let _ ← r.starExpressions primary
        Parse.kind .rowEnd) tokens).isSome

/-- The rules for some tokens, and the rule of primary expressions. -/
def rulesFor (tokens : List Token) : Rules × Parse Shape :=
  let fuel := (tokens.map fun t => t.text.length).foldl Nat.max 0
  let (primary, expression) := tower (isField fuel) (tokens.length + 1)
  (⟨expression, isField fuel⟩, primary)

end Grammar

end LozengeNav
