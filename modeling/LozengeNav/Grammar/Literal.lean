import LozengeNav.Grammar.Numeral

/-!
# String literals

Which string literals Python reads: their escapes have to be complete, byte literals are ASCII, and
the replacement fields of a format literal hold expressions.  What an expression is comes as a
parameter, since expressions hold literals in turn.
-/

namespace LozengeNav

namespace Grammar

structure Literal where
  bytes : Bool
  raw : Bool
  format : Bool
  body : List Char
  deriving DecidableEq, Repr

namespace Literal

def isQuote (c : Char) : Bool :=
  c == '"' || c == '\''

def ofText (s : List Char) : Literal :=
  let markers := (s.takeWhile fun c => !isQuote c).map Char.toLower
  let quoted := s.dropWhile fun c => !isQuote c
  let size := match quoted with
    | a :: b :: c :: _ :: _ :: _ => if a = b && b = c then 3 else 1
    | _ => 1
  { bytes := markers.contains 'b'
    raw := markers.contains 'r'
    format := markers.contains 'f'
    body := (quoted.drop size).take (quoted.length - 2 * size) }

/-! ## Escapes -/

def hexValue (s : List Char) : Nat :=
  s.foldl (fun n c => 16 * n +
    (if c.isDigit then c.toNat - 0x30 else c.toLower.toNat - 0x57)) 0

/-- Whether a text begins with `count` hexadecimal digits. -/
def startsHex (count : Nat) (s : List Char) : Bool :=
  (s.take count).length = count && (s.take count).all Numeral.isHexDigit

def inCharacterName (c : Char) : Bool :=
  c.isAlphanum || c == ' ' || c == '-'

/-- What has to follow the first character of an escape in a text. -/
def escapeFits (c : Char) (rest : List Char) : Bool :=
  if c = 'x' then startsHex 2 rest
  else if c = 'u' then startsHex 4 rest
  else if c = 'U' then startsHex 8 rest && hexValue (rest.take 8) ≤ 0x10FFFF
  else if c = 'N' then
    match rest with
    | '{' :: more =>
      let name := more.takeWhile (· ≠ '}')
      !name.isEmpty && name.length < more.length && name.all inCharacterName
    | _ => false
  else true

def escapesFit (fits : Char → List Char → Bool) : List Char → Bool
  | [] => true
  | [_] => true
  | c :: d :: rest =>
    if c = '\\' then fits d rest && escapesFit fits rest else escapesFit fits (d :: rest)

/-- What has to follow the first character of an escape in a byte literal. -/
def byteEscapeFits (c : Char) (rest : List Char) : Bool :=
  c != 'x' || startsHex 2 rest

/-! ## Format literals -/

/-- The plain text at the start of a format literal, what follows it, and whether the text ends with
a doubled brace.  Doubled braces count at level zero only. -/
def plainText (raw : Bool) (level : Nat) : List Char → Option (List Char × List Char × Bool)
  | [] => some ([], [], false)
  | [c] =>
    if c = '{' then some ([], [c], false)
    else if c = '}' then (if level = 0 then none else some ([], [c], false))
    else some ([c], [], false)
  | c :: d :: rest =>
    if !raw && c = '\\' && d = 'N' then
      match rest with
      | '{' :: inner =>
        let name := inner.takeWhile (· ≠ '}')
        if name.length < inner.length then
          (plainText raw level (inner.drop (name.length + 1))).map fun (t, r, b) =>
            (c :: d :: '{' :: name ++ '}' :: t, r, b)
        else none
      | _ => none
    else if !raw && c = '\\' && d ≠ '{' && d ≠ '}' then
      (plainText raw level rest).map fun (t, r, b) => (c :: d :: t, r, b)
    else if c = '{' || c = '}' then
      if level = 0 && c = d then some ([c], rest, true)
      else if level = 0 && c = '}' then none
      else some ([], c :: d :: rest, false)
    else (plainText raw level (d :: rest)).map fun (t, r, b) => (c :: t, r, b)
termination_by s => s.length
decreasing_by all_goals (simp only [List.length_drop, List.length_cons]; omega)

def closing? (c : Char) : Option Char :=
  if c = '(' then some ')' else if c = '[' then some ']' else if c = '{' then some '}' else none

def bracketLimit : Nat :=
  200

/-- The expression at the start of a replacement field and what follows it: `:`, `!`, `=` or `}`
outside of brackets.  The expression holds no backslash and no comment.  A quote that is open comes
with whether it is tripled; the next `skip` characters have been looked at. -/
def fieldText (quote : Option (Char × Bool)) (brackets : List Char) (skip : Nat) :
    List Char → Option (List Char × List Char)
  | [] => none
  | c :: rest =>
    let onward (quote : Option (Char × Bool)) (brackets : List Char) (skip : Nat) :=
      (fieldText quote brackets skip rest).map fun (t, r) => (c :: t, r)
    match skip with
    | skip + 1 => onward quote brackets skip
    | 0 =>
      if c = '\\' then none
      else
        match quote with
        | some (q, triple) =>
          if c ≠ q then onward quote brackets 0
          else if !triple then onward none brackets 0
          else if [q, q].isPrefixOf rest then onward none brackets 2
          else onward quote brackets 0
        | none =>
          if isQuote c then
            if [c, c].isPrefixOf rest then onward (some (c, true)) brackets 2
            else onward (some (c, false)) brackets 0
          else
            match closing? c with
            | some closer =>
              if brackets.length < bracketLimit then onward none (closer :: brackets) 0 else none
            | none =>
              if c = '#' then none
              else if brackets.isEmpty && ['!', ':', '}', '=', '<', '>'].contains c then
                if rest.head? = some '=' && c ≠ ':' && c ≠ '}' then onward none brackets 1
                else if c = '<' || c = '>' then onward none brackets 0
                else some ([], c :: rest)
              else if c = ')' || c = ']' || c = '}' then
                match brackets with
                | b :: outer => if b = c then onward none outer 0 else none
                | [] => none
              else onward none brackets 0

/-- A blank that may stand around an expression. -/
def isFieldBlank (c : Char) : Bool :=
  c == ' ' || c == '\t' || c == '\n' || c == '\x0C'

def dropEcho : List Char → List Char
  | '=' :: rest => rest.dropWhile fun c => isFieldBlank c || c == '\r' || c == '\x0B'
  | s => s

def dropConversion : List Char → Option (List Char)
  | '!' :: c :: rest => if c = 's' || c = 'r' || c = 'a' then some rest else none
  | ['!'] => none
  | s => some s

/-- Read plain text and replacement fields up to the end or a closing brace, and return what follows.
Fields stand at levels zero and one. -/
def pieces (expression : List Char → Bool) (raw : Bool) :
    Nat → Nat → List Char → Option (List Char)
  | 0, _, _ => none
  | fuel + 1, level, s => do
    let (text, rest, doubled) ← plainText raw level s
    if !raw && !escapesFit escapeFits text then none
    else if doubled then pieces expression raw fuel level rest
    else
      match rest with
      | '{' :: inner => do
        let (field, rest) ← fieldText none [] 0 inner
        if 2 ≤ level || field.all isFieldBlank || !expression field then none
        else
          let rest ← dropConversion (dropEcho rest)
          let rest ← match rest with
            | ':' :: specification => pieces expression raw fuel (level + 1) specification
            | _ => some rest
          match rest with
          | '}' :: rest => pieces expression raw fuel level rest
          | _ => none
      | _ => some rest

/-! ## Validity -/

def isValid (expression : List Char → Bool) (l : Literal) : Bool :=
  if l.bytes then
    l.body.all (fun c => c.toNat < 0x80) && (l.raw || escapesFit byteEscapeFits l.body)
  else if l.format then
    pieces expression l.raw (2 * l.body.length + 2) 0 l.body = some []
  else l.raw || escapesFit escapeFits l.body

def areValid (expression : List Char → Bool) (texts : List (List Char)) : Bool :=
  let literals := texts.map ofText
  literals.all (isValid expression) &&
    (literals.all Literal.bytes || literals.all fun l => !l.bytes)

end Literal

end Grammar

end LozengeNav
