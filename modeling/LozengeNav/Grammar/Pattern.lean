import LozengeNav.Grammar.Expression

/-!
# Patterns

The grammar of the patterns of `case` rows.  Patterns within patterns come as a parameter of each
rule; `pattern` ties them together, bounded by a nesting depth.
-/

namespace LozengeNav

namespace Grammar

namespace Pattern

open Parse

/-- A number with a sign or without, and whether it is imaginary. -/
def signedNumber : Parse Bool := do
  let _ ← acceptMark "-"
  let t ← expect fun t => t.kind = .number
  return Numeral.isImaginary t.text.toList

/-- A number: real and imaginary part, or one of them. -/
def number : Parse Unit := do
  let imaginary ← signedNumber
  if ← sees fun t => t.isMark "+" || t.isMark "-" then
    let _ ← next
    let t ← expect fun t => t.kind = .number
    if imaginary || !Numeral.isImaginary t.text.toList then failure else return ()

def seesLiteral : Parse Bool :=
  sees fun t => t.kind = .number || t.kind = .literal || t.isMark "-" || Rules.isValueWord t

def literal (r : Rules) : Parse Unit := do
  if ← sees fun t => t.kind = .literal then r.literals
  else if ← accept Rules.isValueWord then return ()
  else number

def dots : Parse Nat :=
  repeats do
    if ← acceptMark "." then
      let _ ← name
      return true
    else return false

/-- Whether a name is followed by a mark that makes more of it than a capture. -/
def seesMore : Parse Bool :=
  sees fun t => t.isMark "." || t.isMark "(" || t.isMark "="

/-- A name that is bound, which an underscore is not. -/
def capture : Parse Unit := do
  if (← name) = "_" || (← seesMore) then failure else return ()

def starred : Parse Unit := do
  mark "*"
  if ← acceptWord "_" then return () else capture

def starts (t : Token) : Bool :=
  t.isName || t.kind = .number || t.kind = .literal || Rules.isValueWord t ||
    ["-", "(", "[", "\x7b"].any fun m => t.isMark m

/-- Whether a pattern or a star begins here. -/
def startsStarred (t : Token) : Bool :=
  t.isMark "*" || starts t

variable (r : Rules) (pattern : Parse Unit)

/-- A pattern that may have a star, and whether it has. -/
def maybeStarred : Parse Bool := do
  if ← seesMark "*" then
    starred
    return true
  else
    pattern
    return false

/-- What stands between parentheses: one pattern, or a sequence. -/
def parenthesized : Parse Unit := do
  if ← acceptMark ")" then return ()
  else
    let (items, trailing) ← commas startsStarred (maybeStarred pattern)
    mark ")"
    if items = [true] && !trailing then failure else return ()

/-- What stands between square brackets. -/
def bracketed : Parse Unit := do
  if ← acceptMark "]" then return ()
  else
    let _ ← commas startsStarred (maybeStarred pattern)
    mark "]"

/-- A key and its pattern, or the rest of a mapping; the answer is whether it is the rest. -/
def mappingEntry : Parse Bool := do
  if ← acceptMark "**" then
    capture
    return true
  else
    if ← seesLiteral then literal r
    else
      let _ ← name
      if (← dots) = 0 || (← sees fun t => t.isMark "(" || t.isMark "=") then failure
    mark ":"
    pattern
    return false

/-- What stands between braces.  The rest of a mapping comes last. -/
def braced : Parse Unit := do
  if ← acceptMark "\x7d" then return ()
  else
    let (items, _) ← commas (fun t => t.isMark "**" || starts t) (mappingEntry r pattern)
    mark "\x7d"
    if items.dropLast.contains true then failure else return ()

def argument : Parse Bool := do
  if ← seesTwo Token.isName (Token.isMark "=") then
    let _ ← next
    let _ ← next
    pattern
    return true
  else
    pattern
    return false

/-- The arguments of a class pattern.  Named ones come last. -/
def arguments : Parse Unit := do
  if ← acceptMark ")" then return ()
  else
    let (items, _) ← commas starts (argument pattern)
    mark ")"
    if (items.dropWhile fun named => !named).all id then return () else failure

/-- A pattern without alternatives. -/
def closed : Parse Unit := do
  if ← seesLiteral then literal r
  else if ← acceptMark "(" then parenthesized pattern
  else if ← acceptMark "[" then bracketed pattern
  else if ← acceptMark "\x7b" then braced r pattern
  else if ← acceptWord "_" then return ()
  else
    let _ ← name
    let _ ← dots
    if ← acceptMark "(" then arguments pattern
    else if ← seesMark "=" then failure
    else return ()

/-- Alternatives, and a name for what they match. -/
def full : Parse Unit := do
  closed r pattern
  let _ ← repeats do
    if ← acceptMark "|" then
      closed r pattern
      return true
    else return false
  if ← acceptWord "as" then capture

def ofDepth : Nat → Parse Unit
  | 0 => failure
  | depth + 1 => full r (ofDepth depth)

/-- The patterns of a `case` row: one, or a sequence. -/
def row : Parse Unit := do
  let pattern := ofDepth r (← get).length
  let (items, trailing) ← commas startsStarred (maybeStarred pattern)
  if items = [true] && !trailing then failure else return ()

end Pattern

end Grammar

end LozengeNav
