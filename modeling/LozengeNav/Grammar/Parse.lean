import LozengeNav.Grammar.Token
import LozengeNav.Text.Compatibility

/-!
# Reading tokens

Readers of token sequences.  A reader returns what it read and leaves the rest; without an answer
the sequence is no such phrase.  Repetition is bounded by the number of tokens that are left, so a
phrase that is repeated has to take at least one token each time to be read to its end.
-/

namespace LozengeNav

namespace Grammar

abbrev Parse :=
  StateT (List Token) Option

/-- The words that are no names. -/
def keywords : List String :=
  ["False", "None", "True", "and", "as", "assert", "async", "await", "break", "class", "continue",
   "def", "del", "elif", "else", "except", "finally", "for", "from", "global", "if", "import", "in",
   "is", "lambda", "nonlocal", "not", "or", "pass", "raise", "return", "try", "while", "with",
   "yield"]

namespace Token

def isMark (text : String) (t : Token) : Bool :=
  t.kind = .mark && t.text == text

def isWord (text : String) (t : Token) : Bool :=
  t.kind = .word && t.text == text

def isName (t : Token) : Bool :=
  t.kind = .word && !keywords.contains t.text

end Token

namespace Parse

/-- Whether the next token satisfies `p`. -/
def sees (p : Token → Bool) : Parse Bool := do
  return (← get).head?.any p

/-- Whether the next two tokens satisfy `p` and `q`. -/
def seesTwo (p q : Token → Bool) : Parse Bool := do
  match ← get with
  | a :: b :: _ => return p a && q b
  | _ => return false

def next : Parse Token := do
  match ← get with
  | t :: rest =>
    set rest
    return t
  | [] => failure

/-- Take the next token, which has to satisfy `p`. -/
def expect (p : Token → Bool) : Parse Token := do
  let t ← next
  if p t then return t else failure

/-- Take the next token if it satisfies `p`. -/
def accept (p : Token → Bool) : Parse Bool := do
  if ← sees p then
    let _ ← next
    return true
  else return false

def seesMark (text : String) : Parse Bool :=
  sees (Token.isMark text)

def seesWord (text : String) : Parse Bool :=
  sees (Token.isWord text)

def mark (text : String) : Parse Unit := do
  let _ ← expect (Token.isMark text)

def word (text : String) : Parse Unit := do
  let _ ← expect (Token.isWord text)

/-- Take a certain mark if it is next. -/
def acceptMark (text : String) : Parse Bool :=
  accept (Token.isMark text)

/-- Take a certain word if it is next. -/
def acceptWord (text : String) : Parse Bool :=
  accept (Token.isWord text)

/-- Take a name, in its compatibility form. -/
def name : Parse String := do
  return Text.compatible (← expect Token.isName).text

def kind (k : TokenKind) : Parse Unit := do
  let _ ← expect fun t => t.kind = k

/-- Repeat a reader at most `fuel` times, until it has no answer to add. -/
def collectUpTo {α : Type} (item : Parse (Option α)) : Nat → Parse (List α)
  | 0 => return []
  | fuel + 1 => do
    match ← item with
    | some a => return a :: (← collectUpTo item fuel)
    | none => return []

/-- Repeat a reader until it has no answer to add. -/
def collect {α : Type} (item : Parse (Option α)) : Parse (List α) := do
  collectUpTo item (← get).length

/-- Repeat a reader while its answer is positive, and count. -/
def repeats (item : Parse Bool) : Parse Nat := do
  return (← collect (do return if ← item then some () else none)).length

/-- Items with commas between them, one at least, and whether a comma stands behind the last.  An
item follows a comma where `starts` holds. -/
def commas {α : Type} (starts : Token → Bool) (item : Parse α) : Parse (List α × Bool) := do
  let first ← item
  let more ← collect do
    match ← get with
    | comma :: t :: _ =>
      if comma.isMark "," && starts t then
        mark ","
        return some (← item)
      else return none
    | _ => return none
  return (first :: more, ← acceptMark ",")

/-- What a reader makes of all tokens. -/
def all? {α : Type} (p : Parse α) (tokens : List Token) : Option α :=
  match p.run tokens with
  | some (a, []) => some a
  | _ => none

end Parse

end Grammar

end LozengeNav
